import ChainWatch.Proofs.Contents
import ChainWatch.Proofs.Monitoring
import ChainWatch.Proofs.Writes

/-!
# Volumes count the stored actions

A block counts only the types of actions that occur in it.  That is enough: a type that does not
occur is neither counted nor stored, so its volume stays right, and a type that occurs is counted
after the last of its actions, however many of them the table has refused.

* `Derived.total` : the volume of a type, none if there is no row.
* `Derived.CountedAt` : the volume of a type is the number of its stored actions.
* `Script.Settles.countedAt` : a block keeps that, for every type.
* `Script.countActions_le_apply` : a block never takes a stored action away.
* `Service.run_counted` : volumes after any run, and after one more delivery.
-/

namespace ChainWatch

/-! ### Counting stored actions -/

theorem Table.countP_upsertRow_le {ρ κ : Type} [Keyed ρ κ] [KeyOrder κ] {p : ρ → Bool} {row : ρ}
    (hrow : p row = true) (rows : List ρ) : rows.countP p ≤ (upsertRow row rows).countP p := by
  induction rows with
  | nil => simp
  | cons other rest ih =>
    unfold upsertRow
    split
    next => exact (List.sublist_cons_self row _).countP_le
    next =>
      -- the written row takes the place of one that is counted at most once
      rw [List.countP_cons, List.countP_cons, if_pos hrow]
      split <;> omega
    next =>
      rw [List.countP_cons, List.countP_cons]
      omega

theorem Tables.countActions_le_upsert (table : Table ActionRow) (row : ActionRow) (code : Nat) :
    countActions table code ≤ countActions (table.upsert row) code := by
  by_cases hcode : row.actionType = code
  · exact Table.countP_upsertRow_le (by simpa using hcode) table.rows
  · exact (countActions_upsert hcode).ge

/-- A list of writes takes no stored action away. -/
theorem Script.countActions_le_apply (refuses : ActionRow → Bool) (script : Script) (d : Derived)
    (code : Nat) :
    Tables.countActions d.actions code ≤
      Tables.countActions (script.apply refuses d).actions code := by
  rw [apply_actions]
  induction script.flatMap (IngestStep.actionRows refuses) generalizing d with
  | nil => exact le_rfl
  | cons row rows ih =>
    exact (Tables.countActions_le_upsert d.actions row code).trans
      (ih { d with actions := d.actions.upsert row })

theorem Script.apply_count {refuses : ActionRow → Bool} {script : Script} {d : Derived} {code : Nat}
    (h : ∀ step ∈ script, step.spares code) :
    Tables.countActions (script.apply refuses d).actions code =
      Tables.countActions d.actions code := by
  induction script generalizing d with
  | nil => rfl
  | cons step rest ih =>
    rw [List.forall_mem_cons] at h
    exact (ih h.2).trans (IngestStep.apply_count h.1)

/-! ### Volumes -/

namespace Derived

variable {d : Derived} {code : Nat}

/-- The volume of a type of actions, none if it has no row. -/
def total (d : Derived) (code : Nat) : Nat := ((d.volumes.find? code).map (·.total)).getD 0

/-- The volume of a type is the number of its stored actions, under the name of the type. -/
structure CountedAt (d : Derived) (code : Nat) : Prop where
  total : d.total code = Tables.countActions d.actions code
  named : ∀ row, d.volumes.find? code = some row → row.actionName = actionName code

theorem Tallied.countedAt (h : d.Tallied code) : d.CountedAt code where
  total := by rw [Derived.total, h, Option.map_some, Option.getD_some]
  named := by
    intro row hrow
    rw [h, Option.some.injEq] at hrow
    rw [← hrow]

theorem countedAt_empty (code : Nat) : ({} : Derived).CountedAt code := ⟨rfl, nofun⟩

end Derived

/-- What settles a type keeps its volume right. -/
theorem Script.Settles.countedAt {refuses : ActionRow → Bool} {script : Script} {d : Derived}
    {code : Nat} (h : script.Settles refuses code) (hd : d.CountedAt code) :
    (script.apply refuses d).CountedAt code := by
  rcases h with htallied | ⟨hspared, huncounted⟩
  · exact (htallied d).countedAt
  · have hvolume : (script.apply refuses d).volumes.find? code = d.volumes.find? code :=
      apply_volume huncounted
    constructor
    · rw [Derived.total, hvolume, apply_count hspared]
      exact hd.total
    · rw [hvolume]
      exact hd.named

/-! ### Runs -/

/-- Creating the tables that are missing leaves the derived ones as they are, if all of them are
there. -/
theorem Tables.derived?_createAll {t : Tables} {d : Derived} (h : t.derived? = some d) :
    t.createAll.derived? = some d := by
  rw [← Tables.withDerived_of_derived? h]
  rfl

namespace Store

variable {s : Store} {d : Derived}

/-- The derived tables are all there, and every volume is right. -/
def Counted (s : Store) (d : Derived) : Prop :=
  s.tables.derived? = some d ∧ ∀ code, d.CountedAt code

/-- A block keeps every volume right, and if it does not start the chain over, no stored action
gets lost. -/
theorem Counted.ingest (h : s.Counted d) (registry : Registry) (decoder : Decoder) (b : Block) :
    ∃ d', (s.ingest registry decoder b).state.Counted d' ∧
      (b.isGenesis = false → ∀ code,
        Tables.countActions d.actions code ≤ Tables.countActions d'.actions code) := by
  obtain ⟨hd, hcounted⟩ := h
  cases ha : s.answering with
  | false =>
    rw [ingest_state_of_outage ha]
    exact ⟨d, ⟨hd, hcounted⟩, fun _ code => le_rfl⟩
  | true =>
    have hsettles := fun refuses code => b.writes_settle registry decoder refuses code
    cases hb : b.isGenesis with
    | true =>
      have hholds := holds_ingest_of_genesis registry decoder ha hb
      refine ⟨_, ⟨hholds.derived, fun code => ?_⟩, nofun⟩
      simp only [Derived.ingest, hb, ↓reduceIte]
      exact (hsettles _ code).countedAt (Derived.countedAt_empty code)
    | false =>
      have hholds : s.Holds d s.refuses := ⟨ha, hd, rfl⟩
      have hnext := hholds.ingest registry decoder hb
      refine ⟨_, ⟨hnext.derived, fun code => (hsettles _ code).countedAt (hcounted code)⟩, ?_⟩
      exact fun _ code => Script.countActions_le_apply _ _ d code

end Store

namespace Service

variable {svc : Service} {d : Derived}

/-- A delivery keeps every volume right, and if it does not start the chain over, no stored action
gets lost. -/
theorem step_delivery_counted {e : Event} (he : e.isDelivery = true) (h : svc.store.Counted d) :
    ∃ d', (svc.step e).state.store.Counted d' ∧
      (e.startsOver svc.indexer = false → ∀ code,
        Tables.countActions d.actions code ≤ Tables.countActions d'.actions code) := by
  rcases step_delivery_cases he with hsame | ⟨decoder, b, hdecoder, hb⟩
  · exact ⟨d, ⟨hsame.trans h.1, h.2⟩, fun _ code => le_rfl⟩
  · obtain ⟨d', hd', hle⟩ := h.ingest svc.indexer.registry decoder b
    rw [step_eq_ingest .none hdecoder hb, Event.startsOver, hb, Option.any_some]
    exact ⟨d', hd', hle⟩

/-- Whatever happens to a service, its volumes stay right. -/
theorem step_counted (e : Event) (h : svc.store.Counted d) :
    ∃ d', (svc.step e).state.store.Counted d' := by
  have hcleared : ∀ s' : Store, s'.tables.derived? = some {} → ∃ d', s'.Counted d' :=
    fun s' hs' => ⟨{}, hs', Derived.countedAt_empty⟩
  have hdelivered : ∀ e : Event, e.isDelivery = true →
      ∃ d', (svc.step e).state.store.Counted d' := by
    intro e he
    obtain ⟨d', hd', -⟩ := step_delivery_counted he h
    exact ⟨d', hd'⟩
  cases e with
  | adopt genesis => exact hdelivered (.adopt genesis) rfl
  | ingest b => exact hdelivered (.ingest b) rfl
  | ingestRaw raw => exact hdelivered (.ingestRaw raw) rfl
  | tick now =>
    have hsame := (Monitor.tick_monitored svc.store now svc.monitor).derived?
    exact ⟨d, hsame.trans h.1, h.2⟩
  | createSchema =>
    refine ⟨d, ?_, h.2⟩
    simp only [step, withStore, Store.createSchema]
    split
    next t ht =>
      obtain rfl := Store.access_tables ht
      exact Tables.derived?_createAll h.1
    next => exact h.1
  | resetDerived =>
    simp only [step, withStore, Store.resetDerived]
    split
    next => exact hcleared _ rfl
    next => exact ⟨d, h⟩
  | resetForStartup =>
    simp only [step, withStore, Store.resetForStartup]
    split
    next => exact hcleared _ rfl
    next => exact ⟨d, h⟩
  | _ => exact ⟨d, h⟩

/-- **Volumes always equal the stored actions.**  A service begins with empty derived tables, and
anything may happen to it.  In every state that it reaches, the volume of every type is the number
of its stored actions, under the name of the type.  No further delivery lowers a volume, unless it
starts the chain over. -/
theorem run_counted (svc : Service) (h : svc.store.tables.derived? = some {}) (es : List Event) :
    ∃ d, (svc.run es).state.store.tables.derived? = some d ∧ (∀ code, d.CountedAt code) ∧
      ∀ e, e.isDelivery = true → e.startsOver (svc.run es).state.indexer = false →
        ∃ d', ((svc.run es).state.step e).state.store.tables.derived? = some d' ∧
          ∀ code, d.total code ≤ d'.total code := by
  have hreached : ∃ d, (svc.run es).state.store.Counted d :=
    run_induction (P := fun svc' => ∃ d, svc'.store.Counted d)
      (fun svc' e _ ⟨d, hd⟩ => step_counted e hd) ⟨{}, h, Derived.countedAt_empty⟩
  obtain ⟨d, hd, hcounted⟩ := hreached
  refine ⟨d, hd, hcounted, fun e he hstarts => ?_⟩
  obtain ⟨d', ⟨hd', hcounted'⟩, hle⟩ := step_delivery_counted he ⟨hd, hcounted⟩
  refine ⟨d', hd', fun code => ?_⟩
  rw [(hcounted code).total, (hcounted' code).total]
  exact hle hstarts code

/-- Rows are stored and refused, and the store stops to answer for a while. -/
def busy : List Event :=
  [.ingest (.sample 2 0 [("t", 0), ("u", 3)]), .refuse fun row => row.actionType == 0,
    .ingest (.sample 3 0 [("t", 0), ("v", 0), ("w", 3)]), .answering false, .resetDerived,
    .ingest (.sample 1 0 []), .answering true, .ingest (.sample 5 0 [("x", 3), ("y", 4)])]

/-- Two of the actions with code 0 have been refused, and the last block as a whole. -/
theorem run_counted_busy :
    sample.store.tables.derived? = some {} ∧
      (sample.run busy).state.store.tables.derived?.map (fun d => (d.total 0, d.total 3)) =
        some (1, 2) ∧
      (Event.ingest (.sample 6 0 [("u", 3), ("z", 3)])).isDelivery = true ∧
      ∃ d, (sample.run busy).state.store.tables.derived? = some d ∧ (∀ code, d.CountedAt code) ∧
        ∃ d', ((sample.run busy).state.step
            (.ingest (.sample 6 0 [("u", 3), ("z", 3)]))).state.store.tables.derived? = some d' ∧
          ∀ code, d.total code ≤ d'.total code := by
  obtain ⟨d, hd, hcounted, hnext⟩ := run_counted sample rfl busy
  exact ⟨rfl, rfl, rfl, d, hd, hcounted, hnext _ rfl rfl⟩

end Service

end ChainWatch
