import ChainWatch.Proofs.Acceptance
import ChainWatch.Proofs.Positions

/-!
# What is reported about a block

The summary of a block is told by the block and the decoder alone: fees, addresses and outputs that
cannot be decoded are summed up over the transactions with the results at their positions.  Where
every transaction has a result, the order of these pairs does not matter.

* `Totals.Sums` : totals are the sums over a block.
* `Totals.of_sums` : they are, for every block.
* `Totals.of_perm`, `Block.executed_eq_zip` : the order of pairs of transactions and results.
* `Store.ingest_summary` : the summary and the row of a block that is accepted.
-/

namespace ChainWatch

/-- What is summed up over a block, by the positions of transactions and results. -/
structure Totals.Sums (t : Totals) (decoder : Decoder) (b : Block) : Prop where
  transactions : t.transactions = b.transactions.length
  fee : t.fee = min ((b.results.take b.transactions.length).map (·.fee)).sum maxUnsigned
  participants : ∃ names : Finset String, t.participants = names.card ∧ ∀ a, a ∈ names ↔
    a ≠ "" ∧ ∃ position tx, b.transactions[position]? = some tx ∧ (a = tx.sponsor ∨
      b.Names decoder position "actor" a ∨ b.Names decoder position "receiver" a)
  undecodable : t.undecodable = ((b.results.take b.transactions.length).map fun r =>
    if r.success then r.outputs.countP fun raw => !(decoder.output raw).isOk else 0).sum

/-! ### Sums by position -/

/-- What stands at the positions of a list is summed up over as many terms of another. -/
theorem sum_map_zipIdx {α ρ : Type} (f : ρ → Nat) (xs : List α) (rs : List ρ) :
    (xs.zipIdx.map fun x => (rs[x.2]?.map f).getD 0).sum = ((rs.take xs.length).map f).sum := by
  induction xs generalizing rs with
  | nil => simp
  | cons x xs ih =>
    rw [List.zipIdx_cons', List.map_cons, List.sum_cons, List.map_map]
    cases rs with
    | nil => simp [Function.comp_def]
    | cons r rs =>
      have hshift : ((fun x : α × Nat => ((r :: rs)[x.2]?.map f).getD 0) ∘ Prod.map id (· + 1)) =
          fun x => (rs[x.2]?.map f).getD 0 := rfl
      rw [hshift, ih, List.length_cons, List.take_succ_cons, List.map_cons, List.sum_cons]
      rfl

namespace Block

variable (b : Block) (decoder : Decoder)

theorem mem_executed {e : Executed} : e ∈ b.executed decoder ↔ ∃ position tx,
    b.transactions[position]? = some tx ∧ e = .of decoder tx (b.resultAt position) := by
  simp only [executed, List.mem_map, Prod.exists, List.mk_mem_zipIdx_iff_getElem?]
  constructor
  · rintro ⟨tx, position, htx, rfl⟩
    exact ⟨position, tx, htx, rfl⟩
  · rintro ⟨position, tx, htx, rfl⟩
    exact ⟨tx, position, htx, rfl⟩

theorem sum_fee_executed : ((b.executed decoder).map (·.fee)).sum =
    ((b.results.take b.transactions.length).map (·.fee)).sum := by
  rw [← sum_map_zipIdx, executed, List.map_map]
  congr 1
  refine List.map_congr_left fun x _ => ?_
  simp only [Function.comp_apply, resultAt]
  cases b.results[x.2]? <;> rfl

theorem sum_undecodable_executed : ((b.executed decoder).map (·.undecodable)).sum =
    ((b.results.take b.transactions.length).map fun r =>
      if r.success then r.outputs.countP fun raw => !(decoder.output raw).isOk else 0).sum := by
  rw [← sum_map_zipIdx, executed, List.map_map]
  congr 1
  refine List.map_congr_left fun x _ => ?_
  simp only [Function.comp_apply, resultAt]
  cases b.results[x.2]? with
  | none => rfl
  | some r =>
    simp only [Executed.of, Executed.undecodable, Option.map_some, Option.getD_some]
    split
    · rw [List.countP_map]
      rfl
    · rfl

/-- The transactions of a block whose results are all there. -/
theorem executed_eq_zip (h : b.transactions.length ≤ b.results.length) : b.executed decoder =
    (b.transactions.zip b.results).map fun (tx, r) => .of decoder tx (some r) := by
  refine List.ext_getElem? fun i => ?_
  rw [executed, List.zip, List.getElem?_map, List.getElem?_map, List.getElem?_zipIdx,
    List.getElem?_zipWith]
  cases htx : b.transactions[i]? with
  | none => rfl
  | some tx =>
    obtain ⟨hlt, -⟩ := List.getElem?_eq_some_iff.1 htx
    have hr : b.results[i]? = some b.results[i] := List.getElem?_eq_getElem (hlt.trans_le h)
    simp [resultAt, hr]

end Block

/-- A sum of fees, a set of addresses and a number of outputs do not depend on an order. -/
theorem Totals.of_perm {txs txs' : List Executed} (h : txs.Perm txs') : of txs = of txs' := by
  have hparticipants : participantsOf txs = participantsOf txs' := by
    refine Table.ext ((participantsOf txs).ascending.eq_of_mem_iff (participantsOf txs').ascending
      fun a => ?_)
    simp only [mem_participantsOf, h.mem_iff]
  have hundecodable : ∀ txs : List Executed,
      txs.foldl (fun sum e => sum + e.undecodable) 0 = (txs.map (·.undecodable)).sum := by
    intro txs
    rw [List.sum_eq_foldl_nat, List.foldl_map]
  simp only [of, hparticipants, hundecodable, feeOf_eq, h.length_eq, (h.map _).sum_nat]

/-- The totals of a block are the sums over it. -/
theorem Totals.of_sums (decoder : Decoder) (b : Block) :
    (of (b.executed decoder)).Sums decoder b where
  transactions := by
    show (b.executed decoder).length = _
    rw [Block.executed, List.length_map, List.length_zipIdx]
  fee := (feeOf_eq _).trans (by rw [b.sum_fee_executed decoder])
  participants := by
    refine ⟨(participantsOf (b.executed decoder)).rows.toFinset, ?_, fun a => ?_⟩
    · exact (List.toFinset_card_of_nodup (Table.nodup_rows _)).symm
    · rw [List.mem_toFinset, mem_participantsOf]
      simp only [Block.mem_executed]
      constructor
      · rintro ⟨_, ⟨position, tx, htx, rfl⟩, hnamed⟩
        rw [Executed.of_tx, Executed.mem_actors, Executed.mem_receivers] at hnamed
        rcases hnamed with ⟨hsponsor, hne⟩ | hactor | hreceiver
        · exact ⟨hne, position, tx, htx, .inl hsponsor⟩
        · exact ⟨hactor.1, position, tx, htx, .inr (.inl hactor)⟩
        · exact ⟨hreceiver.1, position, tx, htx, .inr (.inr hreceiver)⟩
      · rintro ⟨hne, position, tx, htx, hnamed⟩
        refine ⟨_, ⟨position, tx, htx, rfl⟩, ?_⟩
        rw [Executed.of_tx, Executed.mem_actors, Executed.mem_receivers]
        exact hnamed.imp_left fun hsponsor => ⟨hsponsor, hne⟩
  undecodable := by
    rw [← b.sum_undecodable_executed, List.sum_eq_foldl_nat, List.foldl_map]
    rfl

/-- **The summary and the row of a block are sums over the block.**  Whatever the store is like, the
totals of a block that is accepted are the sums over its transactions with the results at their
positions, every action is counted as written or lost, and the row of the block holds the totals,
cut down to its columns.  Another store comes to the same totals, also for a block with the same
pairs of transactions and results in another order. -/
theorem Store.ingest_summary {s : Store} {registry : Registry} {decoder : Decoder} {b : Block}
    {faults : Faults} {summary : BlockSummary}
    (h : (s.ingest registry decoder b faults).answer = .ok summary) :
    summary.height = b.height ∧ summary.totals.Sums decoder b ∧
      summary.actionsWritten + summary.actionsFailed =
        (b.transactions.map (·.actions.length)).sum ∧
      (∃ row, (s.ingest registry decoder b faults).state.tables.blocks.bind
          (·.find? (min b.height maxSigned : Nat)) = some row ∧
        row.txCount = min summary.totals.transactions maxCount ∧
        row.totalFee = min summary.totals.fee maxSigned ∧
        row.uniqueParticipants = min summary.totals.participants maxCount) ∧
      ∀ (s' : Store) (registry' : Registry) (b' : Block) (faults' : Faults)
        (summary' : BlockSummary),
        (s'.ingest registry' decoder b' faults').answer = .ok summary' →
        (b' = b ∨ (b.transactions.length ≤ b.results.length ∧
          b'.transactions.length ≤ b'.results.length ∧
          (b'.transactions.zip b'.results).Perm (b.transactions.zip b.results))) →
        summary'.totals = summary.totals ∧
          summary'.actionsWritten + summary'.actionsFailed =
            summary.actionsWritten + summary.actionsFailed := by
  have haccepted := ingest_accepted h
  refine ⟨haccepted.height, ?_, ?_, ?_, ?_⟩
  · rw [haccepted.totals]
    exact Totals.of_sums decoder b
  · rw [haccepted.counted, b.length_actionRows]
  · refine ⟨(Totals.of (b.executed decoder)).blockRow b, ?_, ?_⟩
    · rw [haccepted.blocks.find?, Table.lastOf?_singleton, Option.some_or]
      rfl
    · rw [haccepted.totals]
      exact ⟨rfl, rfl, rfl⟩
  · intro s' registry' b' faults' summary' h' hsame
    have haccepted' := ingest_accepted h'
    have hperm : (b'.executed decoder).Perm (b.executed decoder) := by
      rcases hsame with rfl | ⟨hresults, hresults', hpairs⟩
      · exact .refl _
      · rw [b.executed_eq_zip decoder hresults, b'.executed_eq_zip decoder hresults']
        exact hpairs.map _
    have htransactions : b'.transactions.Perm b.transactions := by
      rw [← b.map_tx_executed decoder, ← b'.map_tx_executed decoder]
      exact hperm.map _
    rw [haccepted.totals, haccepted'.totals, haccepted.counted, haccepted'.counted,
      b.length_actionRows, b'.length_actionRows]
    exact ⟨Totals.of_perm hperm, (htransactions.map _).sum_nat⟩

/-- Two transactions and three results.  Of the two outputs the first is no object, and the second
names an actor. -/
def Block.paired : Block :=
  { Block.sample 5 0 [] with
    transactions := [⟨"a", "first", [⟨0, .null⟩], 7⟩, ⟨"b", "second", [], 8⟩]
    results :=
      [⟨true, 2, [[0x5b, 0x5d],
          [0x7b, 0x22, 0x61, 0x63, 0x74, 0x6f, 0x72, 0x22, 0x3a, 0x22, 0x78, 0x22, 0x7d]]⟩,
        ⟨false, 3, []⟩, ⟨true, 100, []⟩] }

/-- The same pairs of transactions and results in the other order, and at another height. -/
def Block.swapped : Block :=
  { Block.paired with
    height := 9
    transactions := Block.paired.transactions.reverse
    results := (Block.paired.results.take 2).reverse }

/-- A store that refuses all rows of actions comes to the same totals for the other order. -/
theorem Store.ingest_summary_swapped :
    let s := Service.sample.store
    let s' := s.refuse fun _ => true
    (Block.swapped.transactions.zip Block.swapped.results).Perm
        (Block.paired.transactions.zip Block.paired.results) ∧
      ∃ summary summary',
        (s.ingest .standard .json .paired).answer = .ok summary ∧
        (s'.ingest .none .json .swapped).answer = .ok summary' ∧
        summary.totals = ⟨2, 5, 3, 1⟩ ∧ summary'.totals = summary.totals ∧
        summary'.actionsWritten + summary'.actionsFailed = 1 := by
  intro s s'
  have hpairs : (Block.swapped.transactions.zip Block.swapped.results).Perm
      (Block.paired.transactions.zip Block.paired.results) :=
    List.reverse_perm (Block.paired.transactions.zip Block.paired.results)
  have hok : (s.ingest .standard .json .paired).answer.isOk = true := by decide +kernel
  have hok' : (s'.ingest .none .json .swapped).answer.isOk = true := by decide +kernel
  obtain ⟨summary, h⟩ := exists_summary hok
  obtain ⟨summary', h'⟩ := exists_summary hok'
  have htotals : Totals.of (Block.paired.executed .json) = ⟨2, 5, 3, 1⟩ := by decide +kernel
  obtain ⟨-, -, hcounted, -, hsame⟩ := ingest_summary h
  obtain ⟨hsums, hcounted'⟩ := hsame s' .none .swapped .none summary' h'
    (.inr ⟨by decide, by decide, hpairs⟩)
  exact ⟨hpairs, summary, summary', h, h', (ingest_accepted h).totals.trans htotals, hsums,
    hcounted'.trans hcounted⟩

end ChainWatch
