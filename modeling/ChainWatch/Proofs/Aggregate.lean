import ChainWatch.Proofs.Contents
import ChainWatch.Proofs.Totals
import ChainWatch.Proofs.Writes

/-!
# Every block row sums up its transaction rows

Blocks that share nothing are delivered in any order, some of them again and again, some of them
refused, and one of them possibly the start of the chain.  Whatever is stored at any time comes from
blocks that are stored as a whole: the row of a block with all rows of its transactions.  As no
block overwrites a row of another, the rows with the hash of a block are the ones that the block has
written, and the row of the block is their sum.

* `Block.Independent` : blocks that share nothing.
* `Derived.Whole` : what is stored comes from blocks that are stored as a whole.
* `Derived.Whole.writes` : one more block keeps that.
* `Derived.Whole.aggregates`, `Derived.Whole.exists_unique` : what follows for the rows.
* `Service.run_aggregates` : the rows after any deliveries.
-/

namespace ChainWatch

/-! ### Blocks and their rows -/

namespace Block

/-- Blocks of which no two share a transaction, a hash or a stored height, and in which every
transaction has a hash of its own. -/
structure Independent (family : Set Block) : Prop where
  nodup : ∀ b ∈ family, (b.transactions.map (·.txHash)).Nodup
  txHash : ∀ b ∈ family, ∀ b' ∈ family, ∀ tx ∈ b.transactions, ∀ tx' ∈ b'.transactions,
    tx.txHash = tx'.txHash → b = b'
  blockHash : ∀ b ∈ family, ∀ b' ∈ family, b.blockHash = b'.blockHash → b = b'
  height : ∀ b ∈ family, ∀ b' ∈ family, clampSigned b.height = clampSigned b'.height → b = b'

/-- The row of a block. -/
def row (decoder : Decoder) (b : Block) : BlockRow := (Totals.of (b.executed decoder)).blockRow b

/-- The rows of the transactions of a block. -/
def transactionRows (decoder : Decoder) (b : Block) : List TransactionRow :=
  (b.executed decoder).map (·.transactionRow b)

variable {decoder : Decoder} {b : Block} {r : TransactionRow}

theorem map_txHash_transactionRows :
    (b.transactionRows decoder).map (·.txHash) = b.transactions.map (·.txHash) := by
  rw [transactionRows, executed, List.map_map, List.map_map]
  conv_rhs => rw [← List.zipIdx_map_fst 0 b.transactions, List.map_map]
  refine List.map_congr_left fun ⟨tx, position⟩ _ => ?_
  simp [Executed.transactionRow, Executed.of_tx]

theorem blockHash_of_mem (h : r ∈ b.transactionRows decoder) : r.blockHash = b.blockHash := by
  obtain ⟨e, -, rfl⟩ := List.mem_map.1 h
  rfl

theorem exists_tx_of_mem (h : r ∈ b.transactionRows decoder) :
    ∃ tx ∈ b.transactions, tx.txHash = r.txHash := by
  have hmem : r.txHash ∈ (b.transactionRows decoder).map (·.txHash) := List.mem_map_of_mem h
  rw [map_txHash_transactionRows] at hmem
  exact List.mem_map.1 hmem

/-- The rows of transactions tell the blocks apart. -/
theorem Independent.eq_of_txHash {family : Set Block} (hfamily : Independent family)
    {b' : Block} {r' : TransactionRow} (hb : b ∈ family) (hb' : b' ∈ family)
    (hr : r ∈ b.transactionRows decoder) (hr' : r' ∈ b'.transactionRows decoder)
    (hhash : r.txHash = r'.txHash) : b = b' := by
  obtain ⟨tx, htx, htxHash⟩ := exists_tx_of_mem hr
  obtain ⟨tx', htx', htxHash'⟩ := exists_tx_of_mem hr'
  exact hfamily.txHash b hb b' hb' tx htx tx' htx' (htxHash.trans (hhash.trans htxHash'.symm))

end Block

/-! ### Blocks that are stored as a whole -/

namespace Derived

variable {decoder : Decoder} {family : Set Block} {d : Derived}

/-- Every row of a block is stored together with the rows of all its transactions, and every row of
a transaction together with the row of its block. -/
structure Whole (decoder : Decoder) (family : Set Block) (d : Derived) : Prop where
  blocks : ∀ row ∈ d.blocks.rows, ∃ b ∈ family, row = b.row decoder ∧
    ∀ r ∈ b.transactionRows decoder, r ∈ d.transactions.rows
  transactions : ∀ r ∈ d.transactions.rows, ∃ b ∈ family, b.row decoder ∈ d.blocks.rows ∧
    r ∈ b.transactionRows decoder

theorem whole_empty (decoder : Decoder) (family : Set Block) : Whole decoder family {} :=
  ⟨nofun, nofun⟩

namespace Whole

variable (hfamily : Block.Independent family) (h : d.Whole decoder family)
include hfamily h

/-- The rows of one more block keep what is stored whole. -/
theorem upsert {b : Block} (hb : b ∈ family) {d' : Derived}
    (hblocks : d'.blocks = d.blocks.upsert (b.row decoder))
    (htransactions : d'.transactions = d.transactions.upsertAll (b.transactionRows decoder)) :
    d'.Whole decoder family := by
  have hnodup : ((b.transactionRows decoder).map Keyed.key).Nodup := by
    show ((b.transactionRows decoder).map (·.txHash)).Nodup
    rw [Block.map_txHash_transactionRows]
    exact hfamily.nodup b hb
  have hstored : ∀ r, r ∈ d'.transactions.rows ↔ r ∈ b.transactionRows decoder ∨
      (r ∈ d.transactions.rows ∧ ∀ r' ∈ b.transactionRows decoder, r'.txHash ≠ r.txHash) := by
    intro r
    rw [htransactions]
    exact Table.mem_rows_upsertAll _ hnodup
  constructor
  · intro row hrow
    rw [hblocks, Table.mem_upsert] at hrow
    rcases hrow with rfl | ⟨hrow, hkey⟩
    · exact ⟨b, hb, rfl, fun r hr => (hstored r).2 (.inl hr)⟩
    · obtain ⟨b', hb', rfl, hall⟩ := h.blocks row hrow
      refine ⟨b', hb', rfl, fun r hr => (hstored r).2 (.inr ⟨hall r hr, fun r' hr' hhash => ?_⟩)⟩
      -- a row of another block has the hash of another transaction
      have heq : b' = b := hfamily.eq_of_txHash hb' hb hr hr' hhash.symm
      exact hkey (by rw [heq])
  · intro r hr
    rw [hblocks]
    rcases (hstored r).1 hr with hr | ⟨hr, hfree⟩
    · exact ⟨b, hb, Table.mem_upsert _ |>.2 (.inl rfl), hr⟩
    · obtain ⟨b', hb', hrow, hr'⟩ := h.transactions r hr
      refine ⟨b', hb', Table.mem_upsert _ |>.2 (.inr ⟨hrow, fun hkey => ?_⟩), hr'⟩
      -- a block of the same stored height would be the same block, and have written the row
      have heq : b' = b := hfamily.height b' hb' b hb (Int.ofNat.inj hkey)
      rw [heq] at hr'
      exact hfree r hr' rfl

/-- One more block, refused or not, keeps what is stored whole. -/
theorem writes {b : Block} (hb : b ∈ family) (registry : Registry) (refuses : ActionRow → Bool) :
    ((b.writes registry decoder).apply refuses d).Whole decoder family := by
  rcases b.writes_cases registry decoder with hwrites | hwrites
  · rw [hwrites]
    exact h
  · rw [hwrites]
    refine h.upsert hfamily hb ?_ ?_
    · rw [Script.apply_blocks, Script.blockRows_ofBlock]
      rfl
    · rw [Script.apply_transactions, Script.transactionRows_ofBlock]
      rfl

/-- A row of a transaction names exactly one stored block. -/
theorem exists_unique {r : TransactionRow} (hr : r ∈ d.transactions.rows) :
    ∃! row, row ∈ d.blocks.rows ∧ row.blockHash = r.blockHash := by
  obtain ⟨b, hb, hrow, hr⟩ := h.transactions r hr
  have hhash := Block.blockHash_of_mem hr
  refine ⟨b.row decoder, ⟨hrow, hhash.symm⟩, ?_⟩
  rintro row ⟨hrow', hhash'⟩
  obtain ⟨b', hb', rfl, -⟩ := h.blocks row hrow'
  have heq : b' = b := hfamily.blockHash b' hb' b hb (hhash'.trans hhash)
  rw [heq]

/-- The row of a block sums up the rows of transactions that name it. -/
theorem aggregates {row : BlockRow} (hrow : row ∈ d.blocks.rows) :
    row.Aggregates (d.transactions.rows.filter (·.blockHash == row.blockHash)) := by
  obtain ⟨b, hb, rfl, hall⟩ := h.blocks row hrow
  refine (Totals.blockRow_aggregates (b.executed decoder) b).perm ?_
  have hnodup : (b.transactionRows decoder).Nodup := by
    refine List.Nodup.of_map (·.txHash) ?_
    rw [Block.map_txHash_transactionRows]
    exact hfamily.nodup b hb
  refine (List.perm_ext_iff_of_nodup hnodup ((Table.nodup_rows _).filter _)).2 fun r => ?_
  rw [List.mem_filter, beq_iff_eq]
  constructor
  · exact fun hr => ⟨hall r hr, Block.blockHash_of_mem hr⟩
  · rintro ⟨hr, hhash⟩
    obtain ⟨b', hb', -, hr'⟩ := h.transactions r hr
    have heq : b' = b :=
      hfamily.blockHash b' hb' b hb ((Block.blockHash_of_mem hr').symm.trans hhash)
    rwa [heq] at hr'

end Whole

end Derived

/-! ### Runs -/

/-- One more block keeps what a store holds whole. -/
theorem Store.Holds.ingest_whole {s : Store} {d : Derived} {refuses : ActionRow → Bool}
    {family : Set Block} {b : Block} (h : s.Holds d refuses) (hfamily : Block.Independent family)
    (hb : b ∈ family) (registry : Registry) {decoder : Decoder} (hd : d.Whole decoder family) :
    ∃ d' refuses', (s.ingest registry decoder b).state.Holds d' refuses' ∧
      d'.Whole decoder family := by
  cases hgenesis : b.isGenesis with
  | true =>
    refine ⟨_, _, holds_ingest_of_genesis registry decoder h.answering hgenesis, ?_⟩
    simp only [Derived.ingest, hgenesis, ↓reduceIte]
    exact (Derived.whole_empty decoder family).writes hfamily hb registry _
  | false => exact ⟨_, _, h.ingest registry decoder hgenesis, hd.writes hfamily hb registry _⟩

namespace Service

/-- Blocks of a family keep what a store holds whole. -/
theorem run_whole {svc : Service} {decoder : Decoder} {d : Derived} {refuses : ActionRow → Bool}
    {family : Set Block} {bs : List Block} (hdecoder : svc.indexer.decoder = some decoder)
    (hfamily : Block.Independent family) (hbs : ∀ b ∈ bs, b ∈ family)
    (h : svc.store.Holds d refuses) (hd : d.Whole decoder family) :
    ∃ d' refuses', (svc.run (bs.map .ingest)).state.store.Holds d' refuses' ∧
      d'.Whole decoder family := by
  induction bs generalizing svc d refuses with
  | nil => exact ⟨d, refuses, h, hd⟩
  | cons b bs ih =>
    rw [List.forall_mem_cons] at hbs
    obtain ⟨d', refuses', hholds, hwhole⟩ :=
      h.ingest_whole hfamily hbs.1 svc.indexer.registry hd
    rw [← step_ingest_store hdecoder] at hholds
    have hkept : (svc.step (.ingest b)).state.indexer.decoder = some decoder := hdecoder
    exact ih hkept hbs.2 hholds hwhole

/-- **Every block row is the aggregate of its transaction rows.**  A service with empty derived
tables on a store that answers takes blocks of a family that share nothing, each any number of times
and in any order; some may be refused, and one may start the chain over.  Then every stored
transaction names exactly one stored block, and every row of a block tells the number, the fees and
the distinct addresses of the stored transactions that name it, each cut down to its column. -/
theorem run_aggregates (svc : Service) (ha : svc.store.answering = true)
    (hd : svc.store.tables.derived? = some {}) {family : Set Block}
    (hfamily : Block.Independent family) {bs : List Block} (hbs : ∀ b ∈ bs, b ∈ family) :
    ∃ d, (svc.run (bs.map .ingest)).state.store.tables.derived? = some d ∧
      (∀ r ∈ d.transactions.rows, ∃! row, row ∈ d.blocks.rows ∧ row.blockHash = r.blockHash) ∧
      ∀ row ∈ d.blocks.rows,
        row.Aggregates (d.transactions.rows.filter (·.blockHash == row.blockHash)) := by
  cases hdecoder : svc.indexer.decoder with
  | none =>
    rw [run_ingest_of_unready hdecoder]
    exact ⟨{}, hd, nofun, nofun⟩
  | some decoder =>
    have hstart : svc.store.Holds {} svc.store.refuses := ⟨ha, hd, rfl⟩
    obtain ⟨d, refuses, hholds, hwhole⟩ :=
      run_whole hdecoder hfamily hbs hstart (Derived.whole_empty decoder family)
    exact ⟨d, hholds.derived, fun r hr => hwhole.exists_unique hfamily hr,
      fun row hrow => hwhole.aggregates hfamily hrow⟩

/-- A start of the chain, a block with two transactions, and a block that is refused. -/
def apart : List Block :=
  [{ Block.sample 1 0 [("t", 0)] with blockHash := "first" },
    { Block.sample 5 0 [("u", 3), ("v", 0)] with blockHash := "second" },
    { Block.sample 6 0 [("w", 4)] with blockHash := "third" }]

theorem independent_apart : Block.Independent { b | b ∈ apart } := by
  constructor <;> simp only [Set.mem_ofPred_eq] <;> decide +kernel

theorem run_aggregates_apart :
    sample.store.answering = true ∧ sample.store.tables.derived? = some {} ∧
      Block.Independent { b | b ∈ apart } ∧
      (∀ b ∈ apart.reverse ++ apart, b ∈ { b | b ∈ apart }) ∧
      TableName.derived.map (sample.run ((apart.reverse ++ apart).map
        .ingest)).state.store.tables.sizeOf = [some 2, some 3, some 3, some 0, some 0, some 2] ∧
      ∃ d, (sample.run ((apart.reverse ++ apart).map .ingest)).state.store.tables.derived? =
          some d ∧
        (∀ r ∈ d.transactions.rows, ∃! row, row ∈ d.blocks.rows ∧ row.blockHash = r.blockHash) ∧
        ∀ row ∈ d.blocks.rows,
          row.Aggregates (d.transactions.rows.filter (·.blockHash == row.blockHash)) := by
  have hmem : ∀ b ∈ apart.reverse ++ apart, b ∈ { b | b ∈ apart } := by
    intro b hb
    simpa using hb
  exact ⟨rfl, rfl, independent_apart, hmem, rfl,
    run_aggregates sample rfl rfl independent_apart hmem⟩

end Service

end ChainWatch
