import ChainWatch.Ingest.Executed
import ChainWatch.Proofs.Keyed
import Mathlib.Algebra.GroupWithZero.Nat
import Mathlib.Data.Finset.Card

/-!
# What is summed up over a block

The row of a block is computed from the transactions as they were executed: one sum of fees that
stops at the largest unsigned number, one set of addresses, and each of these is cut down to its
column.  The rows of the transactions hold the fees cut down one by one, and the addresses as lists.
Both views give the same numbers.

* `feeOf_eq`, `clampSigned_feeOf` : the sum of the fees.
* `mem_participantsOf`, `size_participantsOf` : the addresses that take part.
* `BlockRow.Aggregates` : a row of a block sums up rows of transactions.
* `Totals.blockRow_aggregates` : the row of a block sums up the rows of its transactions.
-/

namespace ChainWatch

/-! ### Fees -/

/-- The sum of the fees stops at the largest unsigned number. -/
theorem feeOf_eq (txs : List Executed) : feeOf txs = min (txs.map (·.fee)).sum maxUnsigned := by
  have hfrom : ∀ sum ≤ maxUnsigned, txs.foldl (fun sum e => addClamped sum e.fee) sum =
      min (sum + (txs.map (·.fee)).sum) maxUnsigned := by
    induction txs with
    | nil =>
      intro sum hsum
      simpa using hsum
    | cons e txs ih =>
      intro sum hsum
      have hle : addClamped sum e.fee ≤ maxUnsigned := Nat.min_le_right _ _
      rw [List.foldl_cons, ih _ hle, List.map_cons, List.sum_cons, addClamped]
      omega
  simpa [feeOf] using hfrom 0 (Nat.zero_le _)

/-- Where a sum is cut down in the end, its terms may be cut down before. -/
theorem min_sum_map_clampSigned (fees : List Nat) :
    min (fees.map clampSigned).sum maxSigned = min fees.sum maxSigned := by
  induction fees with
  | nil => rfl
  | cons fee fees ih =>
    rw [List.map_cons, List.sum_cons, List.sum_cons, clampSigned]
    omega

theorem clampSigned_feeOf (txs : List Executed) :
    clampSigned (feeOf txs) = min (txs.map fun e => clampSigned e.fee).sum maxSigned := by
  have hterms : (txs.map fun e => clampSigned e.fee) = (txs.map (·.fee)).map clampSigned := by
    rw [List.map_map]
    rfl
  have hbounds : maxSigned ≤ maxUnsigned := by decide
  rw [hterms, min_sum_map_clampSigned, clampSigned, feeOf_eq]
  omega

/-! ### Addresses -/

theorem Table.nodup_rows {ρ κ : Type} [Keyed ρ κ] [KeyOrder κ] (t : Table ρ) : t.rows.Nodup :=
  t.ascending.nodup

namespace AddressSet

variable {s t : AddressSet} {address a : String}

theorem mem_add : a ∈ (s.add address).rows ↔ a ∈ s.rows ∨ (a = address ∧ a ≠ "") := by
  unfold add
  split
  next h =>
    rw [String.isEmpty_iff] at h
    grind
  next h =>
    rw [String.isEmpty_iff] at h
    rw [Table.mem_upsert]
    have hkey : ∀ k : String, Keyed.key k = k := fun _ => rfl
    simp only [hkey]
    grind

theorem mem_union : a ∈ (s.union t).rows ↔ a ∈ s.rows ∨ a ∈ t.rows :=
  Table.mem_upsertAll (fun _ => rfl) s t.rows a

end AddressSet

/-- The addresses of outputs are not empty. -/
theorem TxParticipants.ne_empty_of_mem {outputs : List Members} {a : String}
    (h : a ∈ (ofOutputs outputs).actors.rows ∨ a ∈ (ofOutputs outputs).receivers.rows) :
    a ≠ "" := by
  have hfrom : ∀ p : TxParticipants, (∀ a, a ∈ p.actors.rows ∨ a ∈ p.receivers.rows → a ≠ "") →
      ∀ a, a ∈ (outputs.foldl record p).actors.rows ∨
        a ∈ (outputs.foldl record p).receivers.rows → a ≠ "" := by
    clear h
    induction outputs with
    | nil => exact fun p hp => hp
    | cons output outputs ih =>
      intro p hp
      refine ih (p.record output) fun a ha => ?_
      simp only [record, AddressSet.mem_add] at ha
      rcases ha with (ha | ⟨-, ha⟩) | (ha | ⟨-, ha⟩)
      · exact hp a (.inl ha)
      · exact ha
      · exact hp a (.inr ha)
      · exact ha
  exact hfrom {} (by simp [Table.empty]) a h

/-- The addresses that take part in a list of transactions. -/
theorem mem_participantsOf {txs : List Executed} {a : String} :
    a ∈ (participantsOf txs).rows ↔ ∃ e ∈ txs, (a = e.tx.sponsor ∧ a ≠ "") ∨
      a ∈ e.participants.actors.rows ∨ a ∈ e.participants.receivers.rows := by
  have hfrom : ∀ s : BlockParticipants,
      a ∈ (txs.foldl (fun s e =>
          (BlockParticipants.addSponsor s e.tx.sponsor).absorb e.participants) s).rows ↔
        a ∈ s.rows ∨ ∃ e ∈ txs, (a = e.tx.sponsor ∧ a ≠ "") ∨
          a ∈ e.participants.actors.rows ∨ a ∈ e.participants.receivers.rows := by
    induction txs with
    | nil => simp
    | cons e txs ih =>
      intro s
      rw [List.foldl_cons, ih, BlockParticipants.absorb, BlockParticipants.addSponsor,
        AddressSet.mem_union, AddressSet.mem_union, AddressSet.mem_add, List.exists_mem_cons_iff]
      simp only [or_assoc]
  rw [participantsOf, hfrom]
  simp [Table.empty]

/-! ### Rows of transactions -/

/-- The addresses in a row of a transaction. -/
def TransactionRow.addresses (r : TransactionRow) : List String :=
  r.sponsor :: (r.actors ++ r.receivers)

/-- The number of distinct addresses in rows of transactions; the empty text is none. -/
def distinctAddresses (rows : List TransactionRow) : Nat :=
  ((rows.flatMap TransactionRow.addresses).toFinset.erase "").card

theorem size_participantsOf (txs : List Executed) (b : Block) :
    (participantsOf txs).size = distinctAddresses (txs.map (·.transactionRow b)) := by
  have hset : (participantsOf txs).rows.toFinset =
      ((txs.map (·.transactionRow b)).flatMap TransactionRow.addresses).toFinset.erase "" := by
    ext a
    rw [List.mem_toFinset, mem_participantsOf, Finset.mem_erase, List.mem_toFinset,
      List.flatMap_map, List.mem_flatMap]
    constructor
    · rintro ⟨e, he, ⟨rfl, hne⟩ | hnamed⟩
      · exact ⟨hne, e, he, List.mem_cons_self⟩
      · refine ⟨TxParticipants.ne_empty_of_mem hnamed, e, he, ?_⟩
        exact List.mem_cons_of_mem _ (List.mem_append.2 hnamed)
    · rintro ⟨hne, e, he, ha⟩
      refine ⟨e, he, ?_⟩
      rcases List.mem_cons.1 ha with rfl | ha
      · exact .inl ⟨rfl, hne⟩
      · exact .inr (List.mem_append.1 ha)
  rw [distinctAddresses, ← hset, List.toFinset_card_of_nodup (Table.nodup_rows _)]
  rfl

/-- A row of a block sums up rows of transactions. -/
structure BlockRow.Aggregates (row : BlockRow) (rows : List TransactionRow) : Prop where
  txCount : row.txCount = min rows.length maxCount
  totalFee : row.totalFee = min (rows.map (·.fee)).sum maxSigned
  uniqueParticipants : row.uniqueParticipants = min (distinctAddresses rows) maxCount

/-- The order of the rows does not matter. -/
theorem BlockRow.Aggregates.perm {row : BlockRow} {rows rows' : List TransactionRow}
    (h : row.Aggregates rows) (hperm : rows.Perm rows') : row.Aggregates rows' where
  txCount := by rw [h.txCount, hperm.length_eq]
  totalFee := by rw [h.totalFee, (hperm.map _).sum_nat]
  uniqueParticipants := by
    rw [h.uniqueParticipants, distinctAddresses, distinctAddresses,
      List.toFinset_eq_of_perm _ _ (hperm.flatMap_right _)]

/-- The row of a block sums up the rows of its transactions. -/
theorem Totals.blockRow_aggregates (txs : List Executed) (b : Block) :
    ((Totals.of txs).blockRow b).Aggregates (txs.map (·.transactionRow b)) where
  txCount := by
    rw [List.length_map]
    rfl
  totalFee := by
    rw [List.map_map]
    exact clampSigned_feeOf txs
  uniqueParticipants := by
    rw [← size_participantsOf]
    rfl

end ChainWatch
