import ChainWatch.Proofs.Aggregate

/-!
# Snapshots and rows of actions

The actions of a transaction are stored twice: as a snapshot in the row of the transaction, and as
rows of a table of their own.  The row of a transaction is overwritten as a whole when its hash
occurs again.  A row of an action is overwritten only by an action of the same type at the same
position, so a transaction that comes back with actions of other types leaves rows behind that its
snapshot does not show any more.

* `TransactionRow.actionRows` : the rows that a snapshot shows.
* `Executed.transactionRow_actionRows` : what a transaction writes is what its snapshot shows.
* `Mirrored`, `Covered` : the table of actions has what the snapshots show, and nothing else.
* `Mirrored.record`, `Covered.record` : one more transaction keeps that.
* `Service.run_mirrored` : the two tables after any deliveries.
-/

namespace ChainWatch

/-! ### The rows that a snapshot shows -/

/-- The row of the action that a snapshot shows at a position. -/
def TransactionRow.actionRow (t : TransactionRow) (s : ActionSnapshot) (position : Nat) :
    ActionRow :=
  { txHash := t.txHash, actionType := s.actionType, actionIndex := position
    actionName := s.actionName, input := s.input, output := s.output, timestamp := t.timestamp }

/-- The rows of the actions that a snapshot shows. -/
def TransactionRow.actionRows (t : TransactionRow) : List ActionRow :=
  t.actions.zipIdx.map fun (s, position) => t.actionRow s position

theorem ActionRow.before_of_txHash {r r' : ActionRow}
    (h : compare r.txHash r'.txHash = .lt) : Keyed.Before r r' := by
  show (compare r.txHash r'.txHash).then _ = .lt
  rw [h]
  rfl

theorem ActionRow.before_of_position {r r' : ActionRow} (hhash : r.txHash = r'.txHash)
    (h : r.actionIndex < r'.actionIndex) : Keyed.Before r r' := by
  have hself : compare r'.txHash r'.txHash = .eq := Std.ReflCmp.compare_self
  have hposition : compare r.actionIndex r'.actionIndex = .lt := Int.compare_eq_lt.2 h
  show (compare r.txHash r'.txHash).then ((compare r.actionIndex r'.actionIndex).then _) = .lt
  rw [hhash, hself, hposition]
  rfl

namespace TransactionRow

variable {t t' : TransactionRow} {r : ActionRow}

theorem mem_actionRows :
    r ∈ t.actionRows ↔ ∃ i s, t.actions[i]? = some s ∧ r = t.actionRow s i := by
  constructor
  · intro h
    obtain ⟨⟨s, i⟩, hmem, rfl⟩ := List.mem_map.1 h
    exact ⟨i, s, List.mem_zipIdx_iff_getElem?.1 hmem, rfl⟩
  · rintro ⟨i, s, hs, rfl⟩
    have hmem : (s, i) ∈ t.actions.zipIdx := List.mem_zipIdx_iff_getElem?.2 hs
    exact List.mem_map_of_mem hmem

theorem txHash_of_mem_actionRows (h : r ∈ t.actionRows) : r.txHash = t.txHash := by
  obtain ⟨i, s, -, rfl⟩ := mem_actionRows.1 h
  rfl

/-- The rows of a snapshot stand in the order of their keys. -/
theorem actionRows_ascending : t.actionRows.Pairwise Keyed.Before := by
  have hpositions : t.actions.zipIdx.Pairwise fun a b => a.2 < b.2 := by
    rw [← List.pairwise_map, List.zipIdx_map_snd]
    exact List.pairwise_lt_range' 1
  rw [actionRows, List.pairwise_map]
  refine hpositions.imp ?_
  intro a b hab
  exact ActionRow.before_of_position rfl (Int.ofNat_lt.2 hab)

/-- No two rows of a snapshot have the same key. -/
theorem nodup_keys_actionRows : (t.actionRows.map Keyed.key).Nodup := by
  rw [List.Nodup, List.pairwise_map]
  exact actionRows_ascending.imp Keyed.Before.key_ne

/-- The keys of the rows of a snapshot are told by the hash and the types. -/
theorem map_key_actionRows : t.actionRows.map Keyed.key =
    (t.actions.map (·.actionType)).zipIdx.map fun (code, position) =>
      (t.txHash, (position : Int), code) := by
  rw [actionRows, List.map_map, List.zipIdx_map, List.map_map]
  rfl

/-- The rows of two snapshots of one hash with the same types have the same keys. -/
theorem exists_key_eq (hhash : t'.txHash = t.txHash)
    (htypes : t'.actions.map (·.actionType) = t.actions.map (·.actionType))
    (h : r ∈ t'.actionRows) : ∃ r' ∈ t.actionRows, Keyed.key r' = Keyed.key r := by
  have hkeys : t'.actionRows.map Keyed.key = t.actionRows.map Keyed.key := by
    rw [map_key_actionRows, map_key_actionRows, hhash, htypes]
  have hkey : Keyed.key r ∈ t.actionRows.map Keyed.key := hkeys ▸ List.mem_map_of_mem h
  exact List.mem_map.1 hkey

end TransactionRow

namespace Executed

variable {e : Executed} {b : Block}

theorem map_actionType_transactionRow :
    (e.transactionRow b).actions.map (·.actionType) = e.tx.actions.map (·.typeId) := by
  simp only [transactionRow, actions, List.map_map]
  conv_rhs => rw [← List.zipIdx_map_fst 0 e.tx.actions, List.map_map]
  rfl

/-- A transaction writes the rows of actions that its snapshot shows, if their positions fit into
the column. -/
theorem transactionRow_actionRows (h : e.tx.actions.length ≤ 2 ^ 31) :
    (e.transactionRow b).actionRows = e.actionRows b.timestamp := by
  refine List.ext_getElem ?_ ?_
  · simp [TransactionRow.actionRows, actionRows, transactionRow]
  · intro i hi hi'
    have hlength : i < e.tx.actions.length := by simpa [actionRows, actions] using hi'
    have hindex : wrapIndex i = i := wrapIndex_of_le (by unfold maxCount; omega)
    simp [TransactionRow.actionRows, actionRows, transactionRow, actions, snapshot, actionRow,
      TransactionRow.actionRow, hindex]

end Executed

/-! ### The two tables -/

/-- Whatever the snapshots show is in the table of actions. -/
def Mirrored (transactions : Table TransactionRow) (actions : Table ActionRow) : Prop :=
  ∀ t ∈ transactions.rows, ∀ r ∈ t.actionRows, r ∈ actions.rows

/-- The types of a snapshot are those that are known for its hash, and whatever is in the table of
actions is shown by a snapshot. -/
structure Covered (types : String → List Nat) (transactions : Table TransactionRow)
    (actions : Table ActionRow) : Prop where
  types : ∀ t ∈ transactions.rows, t.actions.map (·.actionType) = types t.txHash
  shown : ∀ r ∈ actions.rows, ∃ t ∈ transactions.rows, r ∈ t.actionRows

variable {transactions : Table TransactionRow} {actions : Table ActionRow}
  {types : String → List Nat}

theorem mirrored_empty : Mirrored .empty .empty := nofun

theorem covered_empty : Covered types .empty .empty := ⟨nofun, nofun⟩

/-- One more transaction, with the rows that its snapshot shows, keeps them mirrored. -/
theorem Mirrored.record (h : Mirrored transactions actions) (t : TransactionRow) :
    Mirrored (transactions.upsert t) (actions.upsertAll t.actionRows) := by
  intro t' ht' r hr
  rw [Table.mem_rows_upsertAll _ TransactionRow.nodup_keys_actionRows]
  rw [Table.mem_upsert] at ht'
  rcases ht' with rfl | ⟨ht', hne⟩
  · exact .inl hr
  · refine .inr ⟨h t' ht' r hr, ?_⟩
    intro r' hr' hkey
    -- the rows of a transaction with another hash have other keys
    have hhash : r'.txHash = r.txHash := congrArg Prod.fst hkey
    rw [TransactionRow.txHash_of_mem_actionRows hr,
      TransactionRow.txHash_of_mem_actionRows hr'] at hhash
    exact hne hhash.symm

/-- One more transaction with the known types keeps the table of actions covered. -/
theorem Covered.record (h : Covered types transactions actions) {t : TransactionRow}
    (ht : t.actions.map (·.actionType) = types t.txHash) :
    Covered types (transactions.upsert t) (actions.upsertAll t.actionRows) := by
  constructor
  · intro t' ht'
    rw [Table.mem_upsert] at ht'
    rcases ht' with rfl | ⟨ht', -⟩
    · exact ht
    · exact h.types t' ht'
  · intro r hr
    rw [Table.mem_rows_upsertAll _ TransactionRow.nodup_keys_actionRows] at hr
    rcases hr with hr | ⟨hr, hfree⟩
    · exact ⟨t, (Table.mem_upsert _).2 (.inl rfl), hr⟩
    · obtain ⟨t', ht', hr'⟩ := h.shown r hr
      refine ⟨t', (Table.mem_upsert _).2 (.inr ⟨ht', ?_⟩), hr'⟩
      intro hhash
      -- a row of the same transaction would have been overwritten
      have htypes : t'.actions.map (·.actionType) = t.actions.map (·.actionType) := by
        rw [h.types t' ht', ht]
        exact congrArg types hhash
      obtain ⟨r', hmem, hkey⟩ := TransactionRow.exists_key_eq hhash htypes hr'
      exact hfree r' hmem hkey

/-- Tables that mirror and cover each other hold the same actions, in the same order. -/
theorem Covered.rows_eq (h : Covered types transactions actions)
    (hmirrored : Mirrored transactions actions) :
    actions.rows = transactions.rows.flatMap TransactionRow.actionRows := by
  have hascending :
      (transactions.rows.flatMap TransactionRow.actionRows).Pairwise Keyed.Before := by
    refine List.pairwise_flatMap.2 ⟨fun t _ => TransactionRow.actionRows_ascending, ?_⟩
    refine transactions.ascending.imp ?_
    intro t t' hbefore r hr r' hr'
    apply ActionRow.before_of_txHash
    rw [TransactionRow.txHash_of_mem_actionRows hr, TransactionRow.txHash_of_mem_actionRows hr']
    exact hbefore
  refine actions.ascending.eq_of_mem_iff hascending ?_
  intro r
  rw [List.mem_flatMap]
  constructor
  · exact h.shown r
  · rintro ⟨t, ht, hr⟩
    exact hmirrored t ht r hr

/-! ### Blocks -/

namespace Block

/-- Whether the positions of all actions of a block fit into their column. -/
def Indexable (b : Block) : Prop := ∀ tx ∈ b.transactions, tx.actions.length ≤ 2 ^ 31

/-- Whether a hash always comes with actions of the same types. -/
def Steady (bs : List Block) : Prop :=
  ∀ b ∈ bs, ∀ b' ∈ bs, ∀ tx ∈ b.transactions, ∀ tx' ∈ b'.transactions,
    tx.txHash = tx'.txHash → tx.actions.map (·.typeId) = tx'.actions.map (·.typeId)

/-- The types that come with a hash. -/
def typesOf (bs : List Block) (txHash : String) : List Nat :=
  (((bs.flatMap (·.transactions)).find? (·.txHash == txHash)).map
    fun tx => tx.actions.map (·.typeId)).getD []

variable {registry : Registry} {decoder : Decoder} {b : Block} {bs : List Block}

theorem Steady.map_typeId (h : Steady bs) (hb : b ∈ bs) {tx : Transaction}
    (htx : tx ∈ b.transactions) : tx.actions.map (·.typeId) = typesOf bs tx.txHash := by
  have hmem : tx ∈ bs.flatMap (·.transactions) := List.mem_flatMap.2 ⟨b, hb, htx⟩
  cases hfirst : (bs.flatMap (·.transactions)).find? (·.txHash == tx.txHash) with
  | none => simpa using List.find?_eq_none.1 hfirst tx hmem
  | some tx' =>
    have hhash : tx'.txHash = tx.txHash := by simpa using List.find?_some hfirst
    obtain ⟨b', hb', htx'⟩ := List.mem_flatMap.1 (List.mem_of_find?_eq_some hfirst)
    rw [Block.typesOf, hfirst]
    exact h b hb b' hb' tx htx tx' htx' hhash.symm

/-- The snapshots of the transactions of a block have the types that come with their hashes. -/
theorem Steady.types_of_mem (h : Steady bs) (hb : b ∈ bs) {t : TransactionRow}
    (ht : t ∈ b.transactionRows decoder) :
    t.actions.map (·.actionType) = Block.typesOf bs t.txHash := by
  obtain ⟨e, he, rfl⟩ := List.mem_map.1 ht
  rw [Executed.map_actionType_transactionRow]
  exact h.map_typeId hb (tx_mem_of_mem_executed he)

/-- A block writes nothing, or the rows of its transactions with what their snapshots show. -/
theorem apply_writes (hb : b.Indexable) (d : Derived) :
    let d' := (b.writes registry decoder).apply (fun _ => false) d
    d' = d ∨ d'.transactions = d.transactions.upsertAll (b.transactionRows decoder) ∧
      d'.actions = d.actions.upsertAll
        ((b.transactionRows decoder).flatMap TransactionRow.actionRows) := by
  intro d'
  have hshown : (b.transactionRows decoder).flatMap TransactionRow.actionRows =
      (b.executed decoder).flatMap (·.actionRows b.timestamp) := by
    rw [transactionRows, List.flatMap_map]
    refine List.flatMap_congr ?_
    intro e he
    exact Executed.transactionRow_actionRows (hb e.tx (tx_mem_of_mem_executed he))
  rcases b.writes_cases registry decoder with hwrites | hwrites
  · left
    simp only [d', hwrites]
    rfl
  · right
    simp only [d', hwrites]
    constructor
    · rw [Script.apply_transactions, Script.transactionRows_ofBlock]
      rfl
    · rw [Script.apply_actions, Script.actionRows_ofBlock, hshown]

end Block

/-! ### Runs -/

/-- Whether a property of the two tables survives a transaction with the rows that its snapshot
shows. -/
def TransactionRow.Keeps (P : Table TransactionRow → Table ActionRow → Prop)
    (t : TransactionRow) : Prop :=
  ∀ transactions actions, P transactions actions →
    P (transactions.upsert t) (actions.upsertAll t.actionRows)

section Keeps

variable {P : Table TransactionRow → Table ActionRow → Prop} {registry : Registry}
  {decoder : Decoder}

theorem upsertAll_keeps {ts : List TransactionRow} (hts : ∀ t ∈ ts, t.Keeps P)
    (h : P transactions actions) :
    P (transactions.upsertAll ts) (actions.upsertAll (ts.flatMap TransactionRow.actionRows)) := by
  induction ts generalizing transactions actions with
  | nil => exact h
  | cons t ts ih =>
    rw [List.forall_mem_cons] at hts
    rw [Table.upsertAll_cons, List.flatMap_cons, Table.upsertAll_append]
    exact ih hts.2 (hts.1 transactions actions h)

/-- What holds of empty tables and survives the transactions of a block, survives the block. -/
theorem Derived.ingest_keeps {b : Block} (hempty : P .empty .empty) (hb : b.Indexable)
    (hts : ∀ t ∈ b.transactionRows decoder, t.Keeps P) {d : Derived}
    (h : P d.transactions d.actions) :
    P (d.ingest registry decoder b).transactions (d.ingest registry decoder b).actions := by
  -- the tables that the work on the block begins with
  have hstart : P (if b.isGenesis then {} else d : Derived).transactions
      (if b.isGenesis then {} else d : Derived).actions := by
    split
    · exact hempty
    · exact h
  rw [ingest]
  rcases Block.apply_writes hb (if b.isGenesis then {} else d) with heq | ⟨htransactions, hactions⟩
  · rw [heq]
    exact hstart
  · rw [htransactions, hactions]
    exact upsertAll_keeps hts hstart

theorem Derived.foldl_ingest_keeps {bs : List Block} (hempty : P .empty .empty)
    (hbs : ∀ b ∈ bs, b.Indexable) (hts : ∀ b ∈ bs, ∀ t ∈ b.transactionRows decoder, t.Keeps P)
    {d : Derived} (h : P d.transactions d.actions) :
    P (bs.foldl (ingest registry decoder) d).transactions
      (bs.foldl (ingest registry decoder) d).actions := by
  induction bs generalizing d with
  | nil => exact h
  | cons b bs ih =>
    rw [List.forall_mem_cons] at hbs hts
    exact ih hbs.2 hts.2 (ingest_keeps hempty hbs.1 hts.1 h)

end Keeps

namespace Service

/-- **The snapshots and the rows of actions agree.**  A service with empty derived tables on a store
that answers and refuses no row takes blocks, of which some may be refused, start the chain over,
come again or repeat the hash of a transaction.  Then every action that the snapshot of a stored
transaction shows has its row, with the same name, input and output, at the same position and with
the time of the transaction.  If a hash always comes with actions of the same types, the table of
actions has no other rows, and it lists the snapshots one after the other. -/
theorem run_mirrored (svc : Service) (ha : svc.store.answering = true)
    (haccepting : svc.store.refuses = fun _ => false)
    (hd : svc.store.tables.derived? = some {}) (bs : List Block) (hbs : ∀ b ∈ bs, b.Indexable) :
    ∃ d, (svc.run (bs.map .ingest)).state.store.tables.derived? = some d ∧
      (∀ t ∈ d.transactions.rows, ∀ i s, t.actions[i]? = some s →
        t.actionRow s i ∈ d.actions.rows) ∧
      (Block.Steady bs →
        (∀ r ∈ d.actions.rows, ∃ t ∈ d.transactions.rows, ∃ i s,
          t.actions[i]? = some s ∧ r = t.actionRow s i) ∧
        d.actions.rows = d.transactions.rows.flatMap TransactionRow.actionRows) := by
  cases hdecoder : svc.indexer.decoder with
  | none =>
    rw [run_ingest_of_unready hdecoder]
    exact ⟨{}, hd, nofun, fun _ => ⟨nofun, rfl⟩⟩
  | some decoder =>
    have hholds := run_holds hdecoder ⟨ha, hd, haccepting⟩ bs
    let d := bs.foldl (Derived.ingest svc.indexer.registry decoder) {}
    have hmirrored : Mirrored d.transactions d.actions :=
      Derived.foldl_ingest_keeps (P := Mirrored) (d := {}) mirrored_empty hbs
        (fun _ _ t _ _ _ h => h.record t) mirrored_empty
    have hcovered : Block.Steady bs →
        Covered (Block.typesOf bs) d.transactions d.actions := by
      intro hsteady
      refine Derived.foldl_ingest_keeps (P := Covered (Block.typesOf bs)) (d := {}) covered_empty
        hbs ?_ covered_empty
      intro b hb t ht transactions actions h
      exact h.record (hsteady.types_of_mem hb ht)
    refine ⟨d, hholds.derived, ?_, fun hsteady => ⟨?_, (hcovered hsteady).rows_eq hmirrored⟩⟩
    · intro t ht i s hs
      exact hmirrored t ht _ (TransactionRow.mem_actionRows.2 ⟨i, s, hs, rfl⟩)
    · intro r hr
      obtain ⟨t, ht, hr⟩ := (hcovered hsteady).shown r hr
      exact ⟨t, ht, TransactionRow.mem_actionRows.1 hr⟩

/-- A block of transactions with actions of given types; only the first action of each has an
output. -/
def bundle (height : Nat) (timestampMs : Int) (txs : List (String × List Nat)) : Block :=
  { Block.sample height timestampMs [] with
    transactions := txs.map fun (txHash, codes) =>
      { txHash, sponsor := "sponsor", maxFee := 1
        actions := codes.map fun code => ⟨code, .obj []⟩ }
    results := txs.map fun _ => ⟨true, 1, [[0x7b, 0x7d]]⟩ }

/-- A block ahead of a start of the chain, a transaction that comes alone, beside itself and at
another time, and a block that is refused. -/
def returning : List Block :=
  [bundle 3 0 [("s", [3])], bundle 1 0 [("t", [0, 3])], bundle 6 0 [("t", [0, 3]), ("t", [0, 3])],
    bundle 8 3000 [("t", [0, 3]), ("v", [4])], bundle 9 5000 [("u", [3, 4, 3]), ("t", [0, 3])]]

theorem run_mirrored_returning :
    sample.store.answering = true ∧ (sample.store.refuses = fun _ => false) ∧
      sample.store.tables.derived? = some {} ∧ (∀ b ∈ returning, b.Indexable) ∧
      Block.Steady returning ∧
      ∃ d, (sample.run (returning.map .ingest)).state.store.tables.derived? = some d ∧
        d.transactions.rows.map (fun t => (t.txHash, t.actions.length)) = [("t", 2), ("u", 3)] ∧
        (∀ t ∈ d.transactions.rows, ∀ i s, t.actions[i]? = some s →
          t.actionRow s i ∈ d.actions.rows) ∧
        (∀ r ∈ d.actions.rows, ∃ t ∈ d.transactions.rows, ∃ i s,
          t.actions[i]? = some s ∧ r = t.actionRow s i) ∧
        d.actions.rows = d.transactions.rows.flatMap TransactionRow.actionRows := by
  have hindexable : ∀ b ∈ returning, b.Indexable := by
    unfold Block.Indexable
    decide +kernel
  have hsteady : Block.Steady returning := by
    unfold Block.Steady
    decide +kernel
  have hsizes : (sample.run (returning.map .ingest)).state.store.tables.derived?.map
      (fun d => d.transactions.rows.map fun t => (t.txHash, t.actions.length)) =
        some [("t", 2), ("u", 3)] := by
    decide +kernel
  obtain ⟨d, hd, hmirrored, hcovered⟩ := run_mirrored sample rfl rfl rfl returning hindexable
  rw [hd] at hsizes
  exact ⟨rfl, rfl, rfl, hindexable, hsteady, d, hd, Option.some.inj hsizes, hmirrored,
    hcovered hsteady⟩

/-- A transaction that comes back with another type leaves a row behind that its snapshot does not
show. -/
example :
    let after := (sample.run
      [.ingest (bundle 3 0 [("t", [0])]), .ingest (bundle 6 0 [("t", [3])])]).state
    after.store.tables.transactions.map (·.rows.map (·.actions.map (·.actionType))) = some [[3]] ∧
      after.store.tables.actions.map (·.rows.map (·.actionType)) = some [0, 3] := by
  decide +kernel

end Service

end ChainWatch
