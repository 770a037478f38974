import ChainWatch.Proofs.Monitoring
import ChainWatch.Tool.Run

/-!
# What is done with a service

Apart from the events of its life a service is asked for incidents and days, and the tool works on
its store.  Tables are created and emptied both by events and by the tool, in four ways altogether;
each is one function of the tables, so what they have in common is seen there.

* `Activity`, `Service.perform`, `Service.performAll` : what is done with a service.
* `SchemaChange`, `Activity.change?` : the ways to change the schema, and who goes them.
* `Service.perform_change`, `Service.perform_of_no_change` : the tables after an activity.
* `Service.perform_rows` : nobody but the monitor touches its rows.
* `Service.perform_create`, `Service.perform_sizeOf` : which tables and rows there are after a
  change of the schema.
-/

namespace ChainWatch

/-! ### Activities -/

/-- What is done with a service. -/
inductive Activity
  /-- Something happens, while accesses of the storage transaction may fail. -/
  | event (e : Event) (faults : Faults)
  /-- The newest incidents are asked for. -/
  | history (limit : Nat)
  /-- The last days are asked for. -/
  | rollup (now : Instant)
  /-- The tool is called. -/
  | tool (arguments : List String)

/-- What an activity reports. -/
inductive Report
  | answer (answer : Answer)
  | incidents (result : Except StoreError (List Incident))
  | days (result : Except StoreError (List DailySummary))
  | printed (result : Tool.Result)

/-- Whether an activity is one of the monitor. -/
def Activity.isMonitoring : Activity → Bool
  | event (.tick _) _ | event .resume _ | event .restart _ | history _ | rollup _ => true
  | _ => false

namespace Service

/-- The service after an activity, with the report on it. -/
def perform (svc : Service) : Activity → Outcome Service Report
  | .event e faults =>
    let out := svc.step e faults
    ⟨out.state, .answer out.answer, out.log⟩
  | .history limit => ⟨svc, .incidents (svc.store.history limit), []⟩
  | .rollup now => ⟨svc, .days (Monitor.rollup svc.store now), []⟩
  | .tool arguments =>
    let out := Tool.run svc.store arguments
    ⟨{ svc with store := out.state }, .printed out.answer, out.log⟩

/-- The service after a list of activities, with the report on each. -/
def performAll (svc : Service) : List Activity → Outcome Service (List (Activity × Report))
  | [] => ⟨svc, [], []⟩
  | a :: rest =>
    let first := svc.perform a
    let others := first.state.performAll rest
    ⟨others.state, (a, first.answer) :: others.answer, first.log ++ others.log⟩

end Service

/-! ### Changes of the schema -/

/-- The rows of a table; one that is missing has none. -/
def rowsOf {ρ κ : Type} [Keyed ρ κ] [KeyOrder κ] (t : Option (Table ρ)) : List ρ :=
  (t.map Table.rows).getD []

@[simp]
theorem rowsOf_created {ρ κ : Type} [Keyed ρ κ] [KeyOrder κ] (t : Option (Table ρ)) :
    rowsOf (some (t.getD .empty)) = rowsOf t := by
  cases t <;> rfl

/-- Whether tables hold the same rows, whichever of them are missing. -/
structure Tables.SameRows (t t' : Tables) : Prop where
  blocks : rowsOf t'.blocks = rowsOf t.blocks
  transactions : rowsOf t'.transactions = rowsOf t.transactions
  actions : rowsOf t'.actions = rowsOf t.actions
  assets : rowsOf t'.assets = rowsOf t.assets
  stakes : rowsOf t'.stakes = rowsOf t.stakes
  volumes : rowsOf t'.volumes = rowsOf t.volumes
  genesis : rowsOf t'.genesis = rowsOf t.genesis
  incidents : rowsOf t'.incidents = rowsOf t.incidents
  daily : rowsOf t'.daily = rowsOf t.daily

theorem Tables.SameRows.refl (t : Tables) : t.SameRows t := by
  constructor <;> rfl

/-- The ways to change the schema. -/
inductive SchemaChange
  /-- Missing tables are created. -/
  | create
  /-- The derived tables are replaced by empty ones. -/
  | emptyDerived
  /-- Missing tables are created, and the derived tables then replaced by empty ones. -/
  | rebuild
  /-- The derived tables and the genesis document are replaced by empty tables, and other missing
  tables are created. -/
  | startAfresh
  deriving DecidableEq, Repr

/-- The tables after a change of the schema. -/
def SchemaChange.apply (t : Tables) : SchemaChange → Tables
  | create => t.createAll
  | emptyDerived => t.dropDerived.createDerived
  | rebuild => t.createAll.dropDerived.createDerived
  | startAfresh => (t.dropDerived.drop .genesis).createAll

namespace SchemaChange

variable (change : SchemaChange) (t : Tables)

theorem create_sameRows : t.SameRows (create.apply t) := by
  constructor <;> exact rowsOf_created _

theorem apply_incidents : rowsOf (change.apply t).incidents = rowsOf t.incidents := by
  cases change with
  | emptyDerived => rfl
  | create | rebuild | startAfresh => exact rowsOf_created _

theorem apply_daily : rowsOf (change.apply t).daily = rowsOf t.daily := by
  cases change with
  | emptyDerived => rfl
  | create | rebuild | startAfresh => exact rowsOf_created _

theorem apply_genesis (h : change ≠ .startAfresh) :
    rowsOf (change.apply t).genesis = rowsOf t.genesis := by
  cases change with
  | emptyDerived => rfl
  | create | rebuild => exact rowsOf_created _
  | startAfresh => cases h rfl

theorem isSome_sizeOf_apply (h : change ≠ .emptyDerived) (name : TableName) :
    ((change.apply t).sizeOf name).isSome = true := by
  cases change with
  | emptyDerived => cases h rfl
  | create | rebuild | startAfresh => cases name <;> rfl

theorem sizeOf_apply_derived (h : change ≠ .create) {name : TableName}
    (hname : name ∈ TableName.derived) : (change.apply t).sizeOf name = some 0 := by
  simp only [TableName.derived, List.mem_cons, List.not_mem_nil, or_false] at hname
  cases change with
  | create => cases h rfl
  | emptyDerived | rebuild | startAfresh =>
    rcases hname with rfl | rfl | rfl | rfl | rfl | rfl <;> rfl

end SchemaChange

/-- How a command of the tool changes the schema, if it does. -/
def Tool.Command.change? : Tool.Command → Option SchemaChange
  | create => some .create
  | reset true => some .startAfresh
  | reset false => some .rebuild
  | status => none

namespace Activity

/-- How an activity changes the schema, if it does. -/
def change? : Activity → Option SchemaChange
  | event .createSchema _ => some .create
  | event .resetDerived _ => some .emptyDerived
  | event .resetForStartup _ => some .startAfresh
  | tool arguments =>
    match Tool.Invocation.ofArguments arguments with
    | .run command => command.change?
    | _ => none
  | _ => none

/-- Whether an activity may replace the genesis document. -/
def replacesGenesis : Activity → Bool
  | event (.adopt _) _ => true
  | a => a.change? == some .startAfresh

theorem replacesGenesis_of_startAfresh {a : Activity} (h : a.change? = some .startAfresh) :
    a.replacesGenesis = true := by
  unfold replacesGenesis
  split
  · rfl
  · rw [h]
    rfl

end Activity

theorem Tool.execute_status (s : Store) : (execute s .status).state = s := by
  simp only [execute]
  split <;> rfl

/-- A command changes the schema, or leaves the store as it is. -/
theorem Tool.execute_state {s : Store} (hs : s.answering = true) (command : Tool.Command) :
    (execute s command).state.tables =
      command.change?.elim s.tables (SchemaChange.apply s.tables) := by
  obtain ⟨t, refuses, _ | _, limit⟩ := s
  · cases hs
  · match command with
    | .create | .reset true | .reset false => rfl
    | .status => rw [execute_status]; rfl

namespace Service

theorem perform_tool (svc : Service) (arguments : List String) :
    (svc.perform (.tool arguments)).state.store.tables =
      (Activity.tool arguments).change?.elim svc.store.tables
        (SchemaChange.apply svc.store.tables) := by
  simp only [perform, Tool.run, Activity.change?]
  cases Tool.Invocation.ofArguments arguments with
  | tell lines => rfl
  | misuse => rfl
  | run command => exact Tool.execute_state rfl command

/-- A change of the schema is carried out, unless the store does not answer. -/
theorem perform_change (svc : Service) {a : Activity} {change : SchemaChange}
    (ha : a.change? = some change) :
    (svc.perform a).state.store.tables = change.apply svc.store.tables ∨
      svc.store.answering = false ∧ (svc.perform a).state.store.tables = svc.store.tables := by
  match a with
  | .event .createSchema _ | .event .resetDerived _ | .event .resetForStartup _ =>
    cases ha
    obtain ⟨⟨t, refuses, _ | _, limit⟩, indexer, monitor⟩ := svc
    · exact .inr ⟨rfl, rfl⟩
    · exact .inl rfl
  | .tool arguments =>
    left
    rw [perform_tool, ha]
    rfl

/-- Without a change of the schema the tables that blocks do not fill stay as they are, but for the
genesis document that new genesis data brings. -/
theorem perform_of_no_change (svc : Service) {a : Activity} (ha : a.change? = none)
    (hmonitoring : a.isMonitoring = false) :
    (svc.perform a).state.store.tables.incidents = svc.store.tables.incidents ∧
      (svc.perform a).state.store.tables.daily = svc.store.tables.daily ∧
      (a.replacesGenesis = false →
        (svc.perform a).state.store.tables.genesis = svc.store.tables.genesis) := by
  have hkept : ∀ s', svc.store.Alike s' → s'.tables.incidents = svc.store.tables.incidents ∧
      s'.tables.daily = svc.store.tables.daily ∧
      (a.replacesGenesis = false → s'.tables.genesis = svc.store.tables.genesis) :=
    fun s' h => ⟨congrArg (·.2.1) h.kept, congrArg (·.2.2) h.kept, fun _ => congrArg (·.1) h.kept⟩
  match a with
  | .event (.adopt genesis) _ =>
    obtain ⟨table, hstate⟩ := svc.indexer.adopt_tables svc.store genesis
    simp only [perform, step, hstate]
    exact ⟨rfl, rfl, fun h => by cases h⟩
  | .event (.ingest b) faults => exact hkept _ (svc.indexer.ingest_alike svc.store faults b)
  | .event (.ingestRaw raw) faults =>
    exact hkept _ (svc.indexer.ingestRaw_alike svc.store faults raw)
  | .event (.answering _) _ | .event (.refuse _) _ => exact ⟨rfl, rfl, fun _ => rfl⟩
  | .tool arguments =>
    rw [perform_tool, ha]
    exact ⟨rfl, rfl, fun _ => rfl⟩

/-- Nobody but the monitor touches its rows, and the genesis document is replaced by those only who
are there for it. -/
theorem perform_rows (svc : Service) {a : Activity} (ha : a.isMonitoring = false) :
    rowsOf (svc.perform a).state.store.tables.incidents = rowsOf svc.store.tables.incidents ∧
      rowsOf (svc.perform a).state.store.tables.daily = rowsOf svc.store.tables.daily ∧
      (a.replacesGenesis = false →
        rowsOf (svc.perform a).state.store.tables.genesis = rowsOf svc.store.tables.genesis) := by
  cases hchange : a.change? with
  | none =>
    obtain ⟨hincidents, hdaily, hgenesis⟩ := svc.perform_of_no_change hchange ha
    exact ⟨congrArg rowsOf hincidents, congrArg rowsOf hdaily,
      fun h => congrArg rowsOf (hgenesis h)⟩
  | some change =>
    rcases svc.perform_change hchange with happly | ⟨-, hsame⟩
    · rw [happly]
      refine ⟨change.apply_incidents _, change.apply_daily _, fun h => change.apply_genesis _ ?_⟩
      rintro rfl
      rw [Activity.replacesGenesis_of_startAfresh hchange] at h
      cases h
    · rw [hsame]
      exact ⟨rfl, rfl, fun _ => rfl⟩

/-- The creation of missing tables adds and removes no row. -/
theorem perform_create (svc : Service) {a : Activity} (ha : a.change? = some .create) :
    svc.store.tables.SameRows (svc.perform a).state.store.tables := by
  rcases svc.perform_change ha with happly | ⟨-, hsame⟩
  · rw [happly]
    exact SchemaChange.create_sameRows _
  · rw [hsame]
    exact .refl _

/-- What tables there are after a change of the schema, and which of them are empty. -/
theorem perform_sizeOf (svc : Service) (hs : svc.store.answering = true) {a : Activity}
    {change : SchemaChange} (ha : a.change? = some change) :
    (change ≠ .emptyDerived →
        ∀ name, ((svc.perform a).state.store.tables.sizeOf name).isSome = true) ∧
      (change ≠ .create → ∀ name ∈ TableName.derived,
        (svc.perform a).state.store.tables.sizeOf name = some 0) := by
  rcases svc.perform_change ha with happly | ⟨hanswering, -⟩
  · rw [happly]
    exact ⟨fun h => change.isSome_sizeOf_apply _ h, fun h _ => change.sizeOf_apply_derived _ h⟩
  · rw [hs] at hanswering
    cases hanswering

end Service

end ChainWatch
