import ChainWatch.Proofs.Acceptance
import ChainWatch.Proofs.Positions
import ChainWatch.Proofs.Snapshots

/-!
# What is recorded of transactions and actions

A block that is accepted leaves for every hash the row of its last transaction with that hash, made
from the result at the position of that transaction, and for every action the row of the last action
with its key, made from the output at the position of that action.  All other rows stay as they
are.

* `TransactionRow.Records` : what a row tells of the transaction at a position.
* `Block.lastOf?_transactionRows`, `Block.lastOf?_actionRows` : the rows of a block that remain.
* `Store.ingest_recorded` : the tables of transactions and actions after a block.
-/

namespace ChainWatch

/-! ### Transactions -/

/-- What a row tells of the transaction at a position of a block. -/
structure TransactionRow.Records (row : TransactionRow) (decoder : Decoder) (b : Block)
    (position : Nat) (tx : Transaction) : Prop where
  txHash : row.txHash = tx.txHash
  blockHash : row.blockHash = b.blockHash
  timestamp : row.timestamp = b.timestamp
  sponsor : row.sponsor = tx.sponsor
  maxFee : row.maxFee = min tx.maxFee maxSigned
  success : row.success = (b.results[position]?.map (·.success)).getD false
  fee : row.fee = min ((b.results[position]?.map (·.fee)).getD 0) maxSigned
  actors_ascending : row.actors.Pairwise (· < ·)
  mem_actors : ∀ a, a ∈ row.actors ↔ b.Names decoder position "actor" a
  receivers_ascending : row.receivers.Pairwise (· < ·)
  mem_receivers : ∀ a, a ∈ row.receivers ↔ b.Names decoder position "receiver" a
  actions : row.actions = tx.actions.zipIdx.map fun (action, i) =>
    { actionType := action.typeId, actionName := actionName action.typeId, input := action.input
      output := .obj ((b.outputAt decoder position i).getD []) }

/-- The members of a set of addresses ascend. -/
theorem AddressSet.pairwise_toList (s : AddressSet) : s.toList.Pairwise (· < ·) :=
  s.ascending.imp compareOfLessAndEq_eq_lt.1

theorem Executed.records (decoder : Decoder) (b : Block) (position : Nat) (tx : Transaction) :
    ((of decoder tx (b.resultAt position)).transactionRow b).Records decoder b position tx where
  txHash := congrArg (·.txHash) (of_tx decoder tx _)
  blockHash := rfl
  timestamp := rfl
  sponsor := congrArg (·.sponsor) (of_tx decoder tx _)
  maxFee := by
    show clampSigned (of decoder tx _).tx.maxFee = _
    rw [of_tx]
    rfl
  success := by
    rw [Block.resultAt]
    cases b.results[position]? <;> rfl
  fee := by
    rw [Block.resultAt]
    cases b.results[position]? <;> rfl
  actors_ascending := AddressSet.pairwise_toList _
  mem_actors _ := mem_actors
  receivers_ascending := AddressSet.pairwise_toList _
  mem_receivers _ := mem_receivers
  actions := by
    simp only [transactionRow, actions, of_tx, snapshot, outputDocument, outputAt_of]

/-! ### The rows that remain -/

/-- The key of the row of an action. -/
def Placed.key (x : Placed) : String × Int × Nat := (x.tx.txHash, x.position, x.action.typeId)

namespace Placed

variable {b : Block} (hb : b.Indexable) {x : Placed} (hx : x ∈ b.placed)
include hb hx

theorem wrapIndex_position : wrapIndex x.position = x.position := by
  obtain ⟨htx, haction⟩ := Block.mem_placed.1 hx
  have hlength := hb x.tx (List.mem_of_getElem? htx)
  obtain ⟨hposition, -⟩ := List.getElem?_eq_some_iff.1 haction
  refine wrapIndex_of_le ?_
  unfold maxCount
  omega

theorem key_row (decoder : Decoder) : Keyed.key (x.row decoder b) = x.key := by
  simp only [Keyed.key, row, key, wrapIndex_position hb hx]

end Placed

namespace Block

variable {b : Block} (decoder : Decoder)

theorem lastOf?_transactionRows {position : Nat} {tx : Transaction}
    (htx : b.transactions[position]? = some tx)
    (hlast : ∀ later tx', position < later → b.transactions[later]? = some tx' →
      tx'.txHash ≠ tx.txHash) :
    Table.lastOf? (b.transactionRows decoder) tx.txHash =
      some ((Executed.of decoder tx (b.resultAt position)).transactionRow b) := by
  let row : Transaction × Nat → TransactionRow := fun x =>
    (Executed.of decoder x.1 (b.resultAt x.2)).transactionRow b
  have hrows : b.transactionRows decoder = b.transactions.zipIdx.filterMap (some ∘ row) := by
    rw [List.filterMap_eq_map, transactionRows, executed, List.map_map]
    rfl
  have hkey : ∀ x, (row x).txHash = x.1.txHash :=
    fun x => congrArg (·.txHash) (Executed.of_tx decoder x.1 _)
  rw [hrows, ← hkey (tx, position)]
  refine Table.lastOf?_filterMap (pairwise_zipIdx b.transactions)
    (List.mk_mem_zipIdx_iff_getElem?.2 htx) rfl ?_
  rintro x hmem hlt _ ⟨⟩ hsame
  refine hlast x.2 x.1 hlt (List.mk_mem_zipIdx_iff_getElem?.1 hmem) ?_
  exact (hkey x).symm.trans (hsame.trans (hkey (tx, position)))

theorem lastOf?_actionRows (hb : b.Indexable) {x : Placed} (hx : x ∈ b.placed)
    (hlast : ∀ y ∈ b.placed, x.Before y → y.key ≠ x.key) :
    Table.lastOf? (b.placed.map fun x => x.row decoder b) x.key = some (x.row decoder b) := by
  rw [← List.filterMap_eq_map, ← Placed.key_row hb hx decoder]
  refine Table.lastOf?_filterMap b.placed_pairwise hx rfl ?_
  rintro y hy hlt _ ⟨⟩
  rw [Placed.key_row hb hx decoder, Placed.key_row hb hy decoder]
  exact hlast y hy hlt

end Block

/-- **The rows of transactions and actions are aligned by position.**  Whatever the decoder and the
registry are like, a store that refuses no row of an action holds for every hash of an accepted
block the last transaction with that hash, as the result at its position tells it, and for every key
of an action the last action with that key, with the output at its position if that can be decoded.
Every other row is the one from before. -/
theorem Store.ingest_recorded {s : Store} (hrefuses : s.refuses = fun _ => false)
    (registry : Registry) (decoder : Decoder) {b : Block} (hheight : b.height ≠ 1)
    (hb : b.Indexable) {summary : BlockSummary}
    (h : (s.ingest registry decoder b).answer = .ok summary) :
    let t := s.tables
    let t' := (s.ingest registry decoder b).state.tables
    (∀ position tx, b.transactions[position]? = some tx →
      (∀ later tx', position < later → b.transactions[later]? = some tx' →
        tx'.txHash ≠ tx.txHash) →
      ∃ row, t'.transactions.bind (·.find? tx.txHash) = some row ∧
        row.Records decoder b position tx) ∧
    (∀ txHash, (∀ tx ∈ b.transactions, tx.txHash ≠ txHash) →
      t'.transactions.bind (·.find? txHash) = t.transactions.bind (·.find? txHash)) ∧
    (∀ x ∈ b.placed, (∀ y ∈ b.placed, x.Before y → y.key ≠ x.key) →
      t'.actions.bind (·.find? x.key) = some
        { txHash := x.tx.txHash, actionType := x.action.typeId, actionIndex := x.position
          actionName := actionName x.action.typeId, input := x.action.input
          output := .obj ((b.outputAt decoder x.txPosition x.position).getD [])
          timestamp := b.timestamp }) ∧
    ∀ k, (∀ x ∈ b.placed, x.key ≠ k) →
      t'.actions.bind (·.find? k) = t.actions.bind (·.find? k) := by
  intro t t'
  have haccepted := Store.ingest_accepted_of_height hheight h
  have htransactions := haccepted.transactions
  have hactions := haccepted.actions (Store.ingest_failed h hrefuses)
  rw [Block.actionRows_eq] at hactions
  refine ⟨fun position tx htx hlast => ?_, fun txHash hfree => ?_, fun x hx hlast => ?_,
    fun k hfree => ?_⟩
  · refine ⟨_, ?_, Executed.records decoder b position tx⟩
    rw [htransactions.find?, ← Block.transactionRows,
      Block.lastOf?_transactionRows decoder htx hlast]
    rfl
  · rw [htransactions.find?, ← Block.transactionRows, Table.lastOf?_eq_none_iff.2, Option.none_or]
    intro r hr hhash
    obtain ⟨tx, htx, hsame⟩ := Block.exists_tx_of_mem hr
    exact hfree tx htx (hsame.trans hhash)
  · rw [hactions.find?, Block.lastOf?_actionRows decoder hb hx hlast, Option.some_or, Placed.row,
      Placed.wrapIndex_position hb hx, Placed.output?]
  · rw [hactions.find?, Table.lastOf?_eq_none_iff.2, Option.none_or]
    intro r hr hkey
    obtain ⟨x, hx, rfl⟩ := List.mem_map.1 hr
    exact hfree x hx ((Placed.key_row hb hx decoder).symm.trans hkey)

/-- A hash comes with two actions and then, behind the last result, with one.  Of the two outputs
the first is no object, and the second names an actor. -/
def Block.misaligned : Block :=
  { Block.sample 5 0 [] with
    transactions :=
      [⟨"a", "first", [⟨0, .null⟩, ⟨3, .null⟩], 7⟩, ⟨"b", "second", [⟨0, .null⟩], 8⟩,
        ⟨"a", "third", [⟨0, .null⟩], 9⟩]
    results :=
      [⟨true, 2, [[0x5b, 0x5d],
          [0x7b, 0x22, 0x61, 0x63, 0x74, 0x6f, 0x72, 0x22, 0x3a, 0x22, 0x78, 0x22, 0x7d]]⟩,
        ⟨false, 3, [[0x7b, 0x7d]]⟩] }

/-- The row of the hash is that of its last transaction, which has no result; the row of the second
action is still that of the first transaction and shows the second output. -/
theorem Store.ingest_recorded_misaligned :
    let s := Service.sample.store
    let b := Block.misaligned
    let t := (s.ingest .standard .json b).state.tables
    s.refuses = (fun _ => false) ∧ b.height ≠ 1 ∧ b.Indexable ∧
      (s.ingest .standard .json b).answer.isOk = true ∧
      (∃ row, t.transactions.bind (·.find? "a") = some row ∧ row.sponsor = "third" ∧
        row.success = false ∧ row.fee = 0) ∧
      (t.actions.bind (·.find? ("a", 1, 3))).map (·.output) =
        some (.obj [("actor", .str "x")]) := by
  intro s b t
  have hindexable : b.Indexable := by
    unfold Block.Indexable
    decide
  have hok : (s.ingest .standard .json b).answer.isOk = true := by decide +kernel
  obtain ⟨summary, h⟩ := exists_summary hok
  obtain ⟨htransactions, -, hactions, -⟩ :=
    ingest_recorded rfl .standard .json (by decide) hindexable h
  refine ⟨rfl, by decide, hindexable, hok, ?_, ?_⟩
  · obtain ⟨row, hrow, hrecords⟩ := htransactions 2 ⟨"a", "third", [⟨0, .null⟩], 9⟩ rfl
      fun later _ hlt htx => absurd (List.getElem?_eq_some_iff.1 htx).1 (Nat.not_lt.2 hlt)
    exact ⟨row, hrow, hrecords.sponsor, hrecords.success, hrecords.fee⟩
  · have hrow := hactions ⟨0, 1, ⟨"a", "first", [⟨0, .null⟩, ⟨3, .null⟩], 7⟩, ⟨3, .null⟩⟩
      (Block.mem_placed.2 ⟨rfl, rfl⟩) (by decide +kernel)
    have houtput : b.outputAt .json 0 1 = some [("actor", .str "x")] := by decide +kernel
    rw [houtput] at hrow
    exact congrArg (Option.map (·.output)) hrow

end ChainWatch
