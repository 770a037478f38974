import ChainWatch.Proofs.Acceptance
import ChainWatch.Proofs.Service
import ChainWatch.Store.Query

/-!
# Blocks by their heights

Heights are unsigned and the column that keeps them is signed.  A height that is too large for the
column is kept as the largest one that fits, so blocks of such heights take each other's place.
Below that, a block is found under its own height, and no other height finds anything new.

* `wrapSigned_eq_clampSigned_iff` : the number that is looked up is the one that was written.
* `BlockRow.Describes` : what a row tells of a block.
* `Store.ingest_findBlock` : what the heights find after a block.
-/

namespace ChainWatch

/-! ### Bounded integers -/

/-- An unsigned number that is too large for a signed column is looked up as a negative one. -/
theorem wrapSigned_neg {n : Nat} (hlarge : maxSigned < n) (h : n ≤ maxUnsigned) :
    wrapSigned n < 0 := by
  unfold maxSigned at hlarge
  unfold maxUnsigned at h
  have hmod : (n : Int) % (0x10000000000000000 : Nat) = n :=
    Int.emod_eq_of_lt (by omega) (by omega)
  unfold wrapSigned
  rw [Int.bmod_def, hmod, if_neg (by omega)]
  omega

/-- A number is looked up as another was written exactly if it is the one that was written. -/
theorem wrapSigned_eq_clampSigned_iff {m n : Nat} (h : m ≤ maxUnsigned) :
    wrapSigned m = clampSigned n ↔ m = min n maxSigned := by
  by_cases hfits : m ≤ maxSigned
  · rw [wrapSigned_of_le hfits]
    exact Int.ofNat_inj
  · have hneg := wrapSigned_neg (Nat.lt_of_not_le hfits) h
    have hle : min n maxSigned ≤ maxSigned := Nat.min_le_right n maxSigned
    constructor
    · intro heq
      omega
    · rintro rfl
      exact absurd hle hfits

/-! ### Rows of blocks -/

/-- What the row of a block tells of it. -/
structure BlockRow.Describes (row : BlockRow) (b : Block) : Prop where
  height : row.height = (min b.height maxSigned : Nat)
  blockHash : row.blockHash = b.blockHash
  parentHash : row.parentHash = b.parentHash
  stateRoot : row.stateRoot = b.stateRoot
  txCount : row.txCount = min b.transactions.length maxCount
  timestamp : row.timestamp = b.timestamp

theorem Totals.blockRow_describes (decoder : Decoder) (b : Block) :
    ((of (b.executed decoder)).blockRow b).Describes b where
  height := rfl
  blockHash := rfl
  parentHash := rfl
  stateRoot := rfl
  txCount := by
    show clampCount (b.executed decoder).length = _
    rw [Block.executed, List.length_map, List.length_zipIdx]
    rfl
  timestamp := rfl

namespace Store

variable {s : Store}

theorem findBlock_eq (ha : s.answering = true) {table : Table BlockRow}
    (h : s.tables.blocks = some table) (height : Nat) :
    s.findBlock height = .ok (table.find? (wrapSigned height)) := by
  simp only [findBlock, blocksFor, bounded_of_answering ha, h, Tables.need, bind, Except.bind,
    Except.map]

/-- **A block is found under the height that it is kept with, and displaces no block that is kept
with another.**  Whatever the store is like, after a block that is accepted its row is found under
its own height, or under the largest signed number if the height exceeds that.  Every other height
finds what it has found before, except that all heights from this number on count as one. -/
theorem ingest_findBlock {registry : Registry} {decoder : Decoder} {b : Block} {faults : Faults}
    {summary : BlockSummary} (hheight : b.height ≠ 1)
    (h : (s.ingest registry decoder b faults).answer = .ok summary) :
    let s' := (s.ingest registry decoder b faults).state
    (∃ row, row.Describes b ∧ s'.findBlock (min b.height maxSigned) = .ok (some row) ∧
      (b.height ≤ maxSigned → s'.findBlock b.height = .ok (some row))) ∧
    ∀ height ≤ maxUnsigned, min height maxSigned ≠ min b.height maxSigned →
      s'.findBlock height = s.findBlock height := by
  intro s'
  have ha := answering_of_ingest_ok h
  have ha' : s'.answering = true := ingest_alike.answering.trans ha
  obtain ⟨table, hblocks, hblocks'⟩ :=
    (ingest_accepted_of_height hheight h).blocks.exists_of_single
  have hfind : ∀ height ≤ maxUnsigned, s'.findBlock height =
      .ok (if height = min b.height maxSigned then
          some ((Totals.of (b.executed decoder)).blockRow b)
        else table.find? (wrapSigned height)) := by
    intro height hle
    have hkey : Keyed.key ((Totals.of (b.executed decoder)).blockRow b) = wrapSigned height ↔
        height = min b.height maxSigned :=
      eq_comm.trans (wrapSigned_eq_clampSigned_iff hle)
    rw [findBlock_eq ha' hblocks', Table.find?_upsert]
    simp only [hkey]
  have hkept : min b.height maxSigned ≤ maxUnsigned := (Nat.min_le_right _ _).trans (by decide)
  have hown := hfind _ hkept
  rw [if_pos rfl] at hown
  refine ⟨⟨_, Totals.blockRow_describes decoder b, hown, fun hle => ?_⟩, ?_⟩
  · rwa [Nat.min_eq_left hle] at hown
  · intro height hle hother
    have hne : height ≠ min b.height maxSigned := by
      rintro rfl
      exact hother (Nat.min_eq_left (Nat.min_le_right _ _))
    rw [hfind height hle, if_neg hne, findBlock_eq ha hblocks]

/-- A store with a block of the largest height that its column can keep. -/
def full : Store :=
  (Service.sample.store.ingest .standard .json
    { Block.sample 0x7FFFFFFFFFFFFFFF 0 [] with blockHash := "last" }).state

/-- A block below the largest height is found, and so is the one at the largest height. -/
theorem ingest_findBlock_full :
    let b := Block.sample 0x7FFFFFFFFFFFFFFE 0 []
    let s' := (full.ingest .standard .json b).state
    b.height ≠ 1 ∧ (full.ingest .standard .json b).answer.isOk = true ∧
      (∃ row, row.Describes b ∧ s'.findBlock b.height = .ok (some row)) ∧
      (s'.findBlock 0x7FFFFFFFFFFFFFFF).map (Option.map BlockRow.blockHash) = .ok (some "last") ∧
      s'.findBlock 0xFFFFFFFFFFFFFFFF = full.findBlock 0xFFFFFFFFFFFFFFFF := by
  intro b s'
  have hheight : b.height ≠ 1 := by decide
  have hok : (full.ingest .standard .json b).answer.isOk = true := by decide +kernel
  have hlast : (full.findBlock 0x7FFFFFFFFFFFFFFF).map (Option.map BlockRow.blockHash) =
      .ok (some "last") := by decide +kernel
  obtain ⟨summary, h⟩ := exists_summary hok
  obtain ⟨⟨row, hrow, -, hown⟩, hothers⟩ := ingest_findBlock hheight h
  refine ⟨hheight, hok, ⟨row, hrow, hown (by decide)⟩, ?_, ?_⟩
  · rwa [hothers 0x7FFFFFFFFFFFFFFF (by decide) (by decide)]
  · exact hothers 0xFFFFFFFFFFFFFFFF (by decide) (by decide)

/-- A block beyond the largest height takes the place of the one at that height. -/
theorem ingest_displaces_last :
    let b := Block.sample 0x8000000000000000 0 []
    let s' := (full.ingest .standard .json b).state
    full.answering = true ∧ (full.ingest .standard .json b).answer.isOk = true ∧
      (full.findBlock 0x7FFFFFFFFFFFFFFF).map (Option.map BlockRow.blockHash) =
        .ok (some "last") ∧
      (s'.findBlock 0x7FFFFFFFFFFFFFFF).map (Option.map BlockRow.blockHash) =
        .ok (some b.blockHash) ∧
      s'.findBlock b.height = .ok none :=
  ⟨rfl, by decide +kernel, by decide +kernel, by decide +kernel, by decide +kernel⟩

end Store

end ChainWatch
