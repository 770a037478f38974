import ChainWatch.Store.Table
import Mathlib.Data.List.Sort

/-!
# The theory of keyed tables

A table is determined by the rows that its keys find, so two tables are equal as soon as every key
finds the same in both.  Writing a list of rows, one after the other, leaves at every key the last
row of the list that has it.

* `Table.find?_upsert`, `Table.ext_find?` : a write seen from the keys, and equality from there.
* `Table.upsertAll`, `Table.find?_upsertAll` : a list of writes; the last one of a key counts.
* `Table.lastOf?_of_mem`, `Table.lastOf?_filterMap`, `Table.mem_rows_upsertAll` : what remains of a
  list of writes.
* `Table.upsertAll_upsertAll` : writing the same rows again changes nothing.
* `Table.Disjoint`, `Table.upsertAll_comm` : rows without a common key may be written in either
  order.
* `Table.upsert_rows_of_find?`, `Table.upsert_rows_of_before` : where a written row ends up.
-/

namespace ChainWatch

open Std

variable {ρ κ : Type} [Keyed ρ κ] [KeyOrder κ]

instance : Std.Irrefl (Keyed.Before (ρ := ρ)) := ⟨fun a h => by
  simp [Keyed.Before, ReflCmp.compare_self] at h⟩

instance : Std.Antisymm (Keyed.Before (ρ := ρ)) := ⟨fun a b hab hba => by
  simp [Keyed.Before, OrientedCmp.gt_of_lt hab] at hba⟩

theorem Keyed.Before.key_ne {a b : ρ} (h : Keyed.Before a b) : Keyed.key a ≠ Keyed.key b := by
  intro hkey
  have hself : compare (Keyed.key b) (Keyed.key b) = .eq := ReflCmp.compare_self
  rw [Keyed.Before, hkey, hself] at h
  cases h

namespace Table

variable (t : Table ρ)

/-! ### Looking up -/

theorem find?_rows_eq_some {rows : List ρ} (h : rows.Pairwise Keyed.Before) {k : κ} {r : ρ} :
    (rows.find? fun r => compare (Keyed.key r) k == .eq) = some r ↔
      r ∈ rows ∧ Keyed.key r = k := by
  induction rows with
  | nil => simp
  | cons other rest ih =>
    obtain ⟨hall, hrest⟩ := List.pairwise_cons.1 h
    by_cases hk : Keyed.key other = k
    · have hfirst : (compare (Keyed.key other) k == .eq) = true := by simp [hk]
      simp only [List.find?_cons, hfirst, Option.some.injEq]
      constructor
      · rintro rfl
        exact ⟨List.mem_cons_self, hk⟩
      · rintro ⟨hr, hkr⟩
        rcases List.mem_cons.1 hr with rfl | hr
        · rfl
        · exact absurd (hk.trans hkr.symm) (hall r hr).key_ne
    · have hother : (compare (Keyed.key other) k == .eq) = false := by simpa using hk
      simp only [List.find?_cons, hother, ih hrest, List.mem_cons]
      constructor
      · exact fun ⟨hr, hkr⟩ => ⟨.inr hr, hkr⟩
      · rintro ⟨rfl | hr, hkr⟩
        · exact absurd hkr hk
        · exact ⟨hr, hkr⟩

/-- A key finds the row that has it. -/
theorem find?_eq_some_iff {k : κ} {r : ρ} : t.find? k = some r ↔ r ∈ t.rows ∧ Keyed.key r = k :=
  find?_rows_eq_some t.ascending

theorem mem_rows_iff {r : ρ} : r ∈ t.rows ↔ t.find? (Keyed.key r) = some r := by
  simp [find?_eq_some_iff]

/-- The last row is the one that all others stand before. -/
theorem getLast?_rows_eq_some_iff {r : ρ} :
    t.rows.getLast? = some r ↔ r ∈ t.rows ∧ ∀ r' ∈ t.rows, r' = r ∨ Keyed.Before r' r := by
  have hlast : ∀ {last}, t.rows.getLast? = some last →
      last ∈ t.rows ∧ ∀ r' ∈ t.rows, r' = last ∨ Keyed.Before r' last := by
    intro last h
    obtain ⟨init, hrows⟩ := List.getLast?_eq_some_iff.1 h
    have hascending := t.ascending
    rw [hrows, List.pairwise_append] at hascending
    refine ⟨List.mem_of_getLast? h, fun r' hr' => ?_⟩
    rw [hrows, List.mem_append, List.mem_singleton] at hr'
    rcases hr' with hr' | rfl
    · exact .inr (hascending.2.2 r' hr' last List.mem_cons_self)
    · exact .inl rfl
  refine ⟨hlast, fun ⟨hr, hbefore⟩ => ?_⟩
  cases h : t.rows.getLast? with
  | none =>
    rw [List.getLast?_eq_none_iff.1 h] at hr
    cases hr
  | some last =>
    obtain ⟨hmem, hbefore'⟩ := hlast h
    rcases hbefore last hmem with rfl | hlt
    · rfl
    · rcases hbefore' r hr with rfl | hlt'
      · rfl
      · exact congrArg some (Std.Antisymm.antisymm last r hlt hlt')

/-- Two tables are equal if every key finds the same in both. -/
theorem ext_find? {t u : Table ρ} (h : ∀ k, t.find? k = u.find? k) : t = u := by
  refine Table.ext (t.ascending.eq_of_mem_iff u.ascending fun r => ?_)
  rw [mem_rows_iff, mem_rows_iff, h]

/-! ### Writing -/

theorem mem_upsertRow_iff {row r : ρ} {rows : List ρ} (h : rows.Pairwise Keyed.Before) :
    r ∈ upsertRow row rows ↔ r = row ∨ (r ∈ rows ∧ Keyed.key r ≠ Keyed.key row) := by
  induction rows with
  | nil => simp [upsertRow]
  | cons other rest ih =>
    obtain ⟨hall, hrest⟩ := List.pairwise_cons.1 h
    unfold upsertRow
    split
    next hlt =>
      have hne : ∀ r ∈ other :: rest, Keyed.key r ≠ Keyed.key row := by
        intro r hr hk
        rcases List.mem_cons.1 hr with rfl | hr
        · simp [hk] at hlt
        · have hlt' := TransCmp.lt_trans hlt (hall r hr)
          simp [hk] at hlt'
      simp only [List.mem_cons] at hne ⊢
      grind
    next heq =>
      have hk : Keyed.key row = Keyed.key other := LawfulEqCmp.eq_of_compare heq
      have hne : ∀ r ∈ rest, Keyed.key r ≠ Keyed.key row := by
        intro r hr hkr
        exact (hall r hr).key_ne (hk.symm.trans hkr.symm)
      simp only [List.mem_cons]
      grind
    next hgt =>
      have hne : Keyed.key other ≠ Keyed.key row := fun hk => by simp [hk] at hgt
      rw [List.mem_cons, ih hrest, List.mem_cons]
      grind

theorem mem_upsert {row r : ρ} :
    r ∈ (t.upsert row).rows ↔ r = row ∨ (r ∈ t.rows ∧ Keyed.key r ≠ Keyed.key row) :=
  mem_upsertRow_iff t.ascending

/-- A written row is found by its key, and every other key finds what it has found before. -/
theorem find?_upsert [DecidableEq κ] (row : ρ) (k : κ) :
    (t.upsert row).find? k = if Keyed.key row = k then some row else t.find? k := by
  ext r
  rw [find?_eq_some_iff, mem_upsert]
  split
  next h =>
    subst h
    simp only [Option.some.injEq]
    grind
  next h => grind [find?_eq_some_iff]

/-- A row whose key is there takes the place of the row with that key. -/
theorem upsert_rows_of_find? [DecidableEq κ] {row old : ρ}
    (h : t.find? (Keyed.key row) = some old) :
    (t.upsert row).rows = t.rows.map fun r => if Keyed.key r = Keyed.key row then row else r := by
  have hmapped : (t.rows.map fun r => if Keyed.key r = Keyed.key row then row else r).Pairwise
      Keyed.Before := by
    rw [List.pairwise_map]
    refine t.ascending.imp fun {a b} hab => ?_
    simp only [Keyed.Before] at hab ⊢
    split <;> split <;> simp_all
  refine (t.upsert row).ascending.eq_of_mem_iff hmapped fun r => ?_
  rw [mem_upsert, List.mem_map]
  obtain ⟨hold, hkey⟩ := t.find?_eq_some_iff.1 h
  constructor
  · rintro (rfl | ⟨hr, hne⟩)
    · exact ⟨old, hold, if_pos hkey⟩
    · exact ⟨r, hr, if_neg hne⟩
  · rintro ⟨r', hr', rfl⟩
    split
    next => exact .inl rfl
    next hne => exact .inr ⟨hr', hne⟩

/-- A row behind all others is appended. -/
theorem upsert_rows_of_before {row : ρ} (h : ∀ r ∈ t.rows, Keyed.Before r row) :
    (t.upsert row).rows = t.rows ++ [row] := by
  have happended : (t.rows ++ [row]).Pairwise Keyed.Before :=
    List.pairwise_append.2 ⟨t.ascending, List.pairwise_singleton _ _, by simpa using h⟩
  refine (t.upsert row).ascending.eq_of_mem_iff happended fun r => ?_
  rw [mem_upsert, List.mem_append, List.mem_singleton]
  have hne : r ∈ t.rows → Keyed.key r ≠ Keyed.key row := fun hr => (h r hr).key_ne
  grind

/-! ### Writing a list of rows -/

/-- Writes rows from the first on. -/
def upsertAll (t : Table ρ) (rows : List ρ) : Table ρ := rows.foldl upsert t

@[simp] theorem upsertAll_nil : t.upsertAll [] = t := rfl

@[simp] theorem upsertAll_cons (row : ρ) (rows : List ρ) :
    t.upsertAll (row :: rows) = (t.upsert row).upsertAll rows := rfl

theorem upsertAll_append (rows more : List ρ) :
    t.upsertAll (rows ++ more) = (t.upsertAll rows).upsertAll more :=
  List.foldl_append

/-- Rows that are their own keys are the members of a set. -/
theorem mem_upsertAll {κ : Type} [Keyed κ κ] [KeyOrder κ] (hkey : ∀ k : κ, Keyed.key k = k)
    (t : Table κ) (ks : List κ) (k : κ) : k ∈ (t.upsertAll ks).rows ↔ k ∈ t.rows ∨ k ∈ ks := by
  induction ks generalizing t with
  | nil => simp
  | cons other ks ih =>
    rw [upsertAll_cons, ih, mem_upsert, hkey, hkey, List.mem_cons]
    grind

/-- The last row of a list that has a key. -/
def lastOf? [DecidableEq κ] (rows : List ρ) (k : κ) : Option ρ :=
  rows.reverse.find? fun r => Keyed.key r = k

omit [KeyOrder κ] in
theorem lastOf?_cons [DecidableEq κ] (row : ρ) (rows : List ρ) (k : κ) :
    lastOf? (row :: rows) k =
      (lastOf? rows k).or (if Keyed.key row = k then some row else none) := by
  simp only [lastOf?, List.reverse_cons, List.find?_append, List.find?_singleton, decide_eq_true_eq]

omit [KeyOrder κ] in
theorem lastOf?_singleton [DecidableEq κ] {row : ρ} {k : κ} (h : Keyed.key row = k) :
    lastOf? [row] k = some row := by
  rw [lastOf?_cons]
  exact if_pos h

/-- The last of the written rows with a key is found; where there is none, what was there before. -/
theorem find?_upsertAll [DecidableEq κ] (rows : List ρ) (k : κ) :
    (t.upsertAll rows).find? k = (lastOf? rows k).or (t.find? k) := by
  induction rows generalizing t with
  | nil => rfl
  | cons row rows ih =>
    rw [upsertAll_cons, ih, lastOf?_cons, find?_upsert, Option.or_assoc]
    congr 1
    split <;> rfl

omit [KeyOrder κ] in
theorem lastOf?_eq_none_iff [DecidableEq κ] {rows : List ρ} {k : κ} :
    lastOf? rows k = none ↔ ∀ r ∈ rows, Keyed.key r ≠ k := by
  simp [lastOf?]

omit [KeyOrder κ] in
theorem mem_of_lastOf? [DecidableEq κ] {rows : List ρ} {k : κ} {r : ρ}
    (h : lastOf? rows k = some r) : r ∈ rows ∧ Keyed.key r = k := by
  have hkey := List.find?_some h
  exact ⟨List.mem_reverse.1 (List.mem_of_find?_eq_some h), of_decide_eq_true hkey⟩

omit [KeyOrder κ] in
/-- In a list of rows with different keys, every row is the last one with its key. -/
theorem lastOf?_of_mem [DecidableEq κ] {rows : List ρ} (hnodup : (rows.map Keyed.key).Nodup)
    {r : ρ} (hr : r ∈ rows) : lastOf? rows (Keyed.key r) = some r := by
  cases hlast : lastOf? rows (Keyed.key r) with
  | none => exact absurd rfl (lastOf?_eq_none_iff.1 hlast r hr)
  | some r' =>
    obtain ⟨hmem, hkey⟩ := mem_of_lastOf? hlast
    rw [List.inj_on_of_nodup_map hnodup hmem hr hkey]

omit [KeyOrder κ] in
theorem lastOf?_append [DecidableEq κ] (rows more : List ρ) (k : κ) :
    lastOf? (rows ++ more) k = (lastOf? more k).or (lastOf? rows k) := by
  rw [lastOf?, List.reverse_append, List.find?_append]
  rfl

omit [KeyOrder κ] in
/-- Rows are made of things in an order; the row of one thing is the last of its key if nothing
behind it makes a row of that key. -/
theorem lastOf?_filterMap [DecidableEq κ] {α : Type} {R : α → α → Prop}
    {xs : List α} (hxs : xs.Pairwise R) {f : α → Option ρ} {x : α} {row : ρ} (hx : x ∈ xs)
    (hrow : f x = some row)
    (hlast : ∀ y ∈ xs, R x y → ∀ r, f y = some r → Keyed.key r ≠ Keyed.key row) :
    lastOf? (xs.filterMap f) (Keyed.key row) = some row := by
  obtain ⟨front, back, rfl⟩ := List.append_of_mem hx
  have hback : lastOf? (back.filterMap f) (Keyed.key row) = none := by
    refine lastOf?_eq_none_iff.2 fun r hr => ?_
    obtain ⟨y, hy, hyr⟩ := List.mem_filterMap.1 hr
    have hafter : R x y := (List.pairwise_cons.1 (List.pairwise_append.1 hxs).2.1).1 y hy
    exact hlast y (by simp [hy]) hafter r hyr
  rw [List.filterMap_append, List.filterMap_cons_some hrow, lastOf?_append, lastOf?_cons, hback,
    if_pos rfl]
  rfl

/-- After rows with different keys have been written, a row of the table is one of them, or it was
there before and none of them has its key. -/
theorem mem_rows_upsertAll {rows : List ρ} (hnodup : (rows.map Keyed.key).Nodup) {r : ρ} :
    r ∈ (t.upsertAll rows).rows ↔
      r ∈ rows ∨ (r ∈ t.rows ∧ ∀ r' ∈ rows, Keyed.key r' ≠ Keyed.key r) := by
  classical
  rw [mem_rows_iff, find?_upsertAll, t.mem_rows_iff, ← lastOf?_eq_none_iff]
  constructor
  · intro h
    cases hlast : lastOf? rows (Keyed.key r) with
    | some r' =>
      rw [hlast, Option.some_or, Option.some.injEq] at h
      subst h
      exact .inl (mem_of_lastOf? hlast).1
    | none =>
      rw [hlast, Option.none_or] at h
      exact .inr ⟨h, rfl⟩
  · rintro (hr | ⟨hr, hfree⟩)
    · rw [lastOf?_of_mem hnodup hr, Option.some_or]
    · rw [hfree, Option.none_or, hr]

/-- Writing the same rows again changes nothing. -/
theorem upsertAll_upsertAll (rows : List ρ) :
    (t.upsertAll rows).upsertAll rows = t.upsertAll rows := by
  classical
  refine ext_find? fun k => ?_
  rw [find?_upsertAll, find?_upsertAll, ← Option.or_assoc, Option.or_self]

/-- Lists of rows without a common key. -/
def Disjoint (rows more : List ρ) : Prop :=
  ∀ r ∈ rows, ∀ r' ∈ more, Keyed.key r ≠ Keyed.key r'

/-- Rows without a common key may be written in either order. -/
theorem upsertAll_comm {rows more : List ρ} (h : Disjoint rows more) :
    (t.upsertAll rows).upsertAll more = (t.upsertAll more).upsertAll rows := by
  classical
  refine ext_find? fun k => ?_
  simp only [find?_upsertAll]
  -- at most one of the two lists has a row with the key
  cases hrows : lastOf? rows k with
  | none => simp only [Option.none_or]
  | some r =>
    obtain ⟨hr, hkey⟩ := mem_of_lastOf? hrows
    have hmore : lastOf? more k = none :=
      lastOf?_eq_none_iff.2 fun r' hr' hkey' => h r hr r' hr' (hkey.trans hkey'.symm)
    simp only [hmore, Option.none_or]

/-- A folded state writes into one of its tables what the single steps write into it. -/
theorem foldl_upsertAll {σ ι : Type} {step : σ → ι → σ} {table : σ → Table ρ} {rows : ι → List ρ}
    (h : ∀ s i, table (step s i) = (table s).upsertAll (rows i)) (is : List ι) (s : σ) :
    table (is.foldl step s) = (table s).upsertAll (is.flatMap rows) := by
  induction is generalizing s with
  | nil => rfl
  | cons i is ih => rw [List.foldl_cons, ih, h, List.flatMap_cons, upsertAll_append]

end Table

end ChainWatch
