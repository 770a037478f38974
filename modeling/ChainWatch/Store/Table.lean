/-!
# Keyed tables

A table is a list of rows in ascending order of their keys, so two tables with the same rows are
equal.  The order is part of the type; every operation keeps it.

* `Table.upsert` : writes a row in place of one with the same key, or adds it.
* `Table.find?` : the row of a key.
* `Table.filterRows` : the rows with a property.
-/

namespace ChainWatch

open Std

/-- Rows of a type that carry a key. -/
class Keyed (ρ : Type) (κ : outParam Type) where
  /-- The key of a row. -/
  key : ρ → κ

/-- Keys with a decidable linear order. -/
class KeyOrder (κ : Type) extends Ord κ, TransOrd κ, LawfulEqOrd κ

instance : KeyOrder Nat where
instance : KeyOrder Int where
instance : KeyOrder String where

/-- Pairs are ordered by their first components, and by their second ones within these. -/
instance {α β : Type} [KeyOrder α] [KeyOrder β] : KeyOrder (α × β) where
  compare a b := (compare a.1 b.1).then (compare a.2 b.2)
  compare_self {a} := by
    simp [ReflCmp.compare_self]
  eq_swap {a b} := by
    simp only [Ordering.swap_then, ← OrientedCmp.eq_swap]
  isLE_trans {a b c} hab hbc := by
    simp only [Ordering.isLE_then_iff_and] at *
    refine ⟨TransCmp.isLE_trans hab.1 hbc.1, ?_⟩
    rcases hab.2 with h | h
    · exact Or.inl (TransCmp.lt_of_lt_of_isLE h hbc.1)
    · rcases hbc.2 with h' | h'
      · exact Or.inl (TransCmp.lt_of_isLE_of_lt hab.1 h')
      · exact Or.inr (TransCmp.isLE_trans h h')
  eq_of_compare {a b} h := by
    obtain ⟨h₁, h₂⟩ := Ordering.then_eq_eq.1 h
    exact Prod.ext (LawfulEqCmp.eq_of_compare h₁) (LawfulEqCmp.eq_of_compare h₂)

variable {ρ κ : Type} [Keyed ρ κ] [KeyOrder κ]

/-- Whether a row stands before another. -/
def Keyed.Before (a b : ρ) : Prop := compare (Keyed.key a) (Keyed.key b) = .lt

/-- Rows in ascending order of their keys. -/
structure Table (ρ : Type) {κ : Type} [Keyed ρ κ] [KeyOrder κ] where
  rows : List ρ
  ascending : rows.Pairwise Keyed.Before

namespace Table

@[ext]
theorem ext {t u : Table ρ} (h : t.rows = u.rows) : t = u := by
  cases t; cases u; cases h; rfl

/-- The table without rows. -/
def empty : Table ρ := ⟨[], .nil⟩

instance : Inhabited (Table ρ) := ⟨empty⟩

/-- Writes a row into ascending rows. -/
def upsertRow (row : ρ) : List ρ → List ρ
  | [] => [row]
  | other :: rest =>
    match compare (Keyed.key row) (Keyed.key other) with
    | .lt => row :: other :: rest
    | .eq => row :: rest
    | .gt => other :: upsertRow row rest

theorem mem_upsertRow {row r : ρ} {rows : List ρ} (h : r ∈ upsertRow row rows) :
    r = row ∨ r ∈ rows := by
  induction rows with
  | nil => simpa [upsertRow] using h
  | cons other rest ih =>
    unfold upsertRow at h
    split at h <;> grind

theorem pairwise_upsertRow {row : ρ} {rows : List ρ} (h : rows.Pairwise Keyed.Before) :
    (upsertRow row rows).Pairwise Keyed.Before := by
  induction rows with
  | nil => simp [upsertRow]
  | cons other rest ih =>
    obtain ⟨hall, hrest⟩ := List.pairwise_cons.1 h
    unfold upsertRow
    split
    next hlt =>
      refine .cons (fun r hr => ?_) h
      rcases List.mem_cons.1 hr with rfl | hr
      · exact hlt
      · exact TransCmp.lt_trans hlt (hall r hr)
    next heq =>
      refine .cons (fun r hr => ?_) hrest
      have hk : Keyed.key row = Keyed.key other := LawfulEqCmp.eq_of_compare heq
      simpa [Keyed.Before, hk] using hall r hr
    next hgt =>
      refine .cons (fun r hr => ?_) (ih hrest)
      rcases mem_upsertRow hr with rfl | hr
      · exact OrientedCmp.lt_of_gt hgt
      · exact hall r hr

/-- Writes a row in place of the one with the same key, or adds it. -/
def upsert (t : Table ρ) (row : ρ) : Table ρ :=
  ⟨upsertRow row t.rows, pairwise_upsertRow t.ascending⟩

/-- The row of a key. -/
def find? (t : Table ρ) (k : κ) : Option ρ :=
  t.rows.find? fun r => compare (Keyed.key r) k == .eq

/-- The number of rows. -/
def size (t : Table ρ) : Nat := t.rows.length

/-- The rows with a property, as a table. -/
def filterRows (t : Table ρ) (keep : ρ → Bool) : Table ρ :=
  ⟨t.rows.filter keep, t.ascending.filter keep⟩

end Table

end ChainWatch
