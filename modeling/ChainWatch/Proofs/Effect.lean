import ChainWatch.Proofs.Keyed
import ChainWatch.Proofs.Rollback

/-!
# The effect of a block

On a store that answers and has its derived tables, the work on a block has a closed form: whether
the block is refused, and with which error, is told by its script alone, and so is the answer; an
accepted block folds its steps over the six derived tables.

* `Derived` : the contents of the derived tables.
* `Script.refusal?`, `Script.apply` : the first refusal of a script, and what it writes.
* `Script.run_spec` : the work on a block, in these terms.
* `Block.writes`, `Block.verdict` : what a block writes and what is answered to it.
* `Store.process_spec`, `Store.ingest_spec` : a block on such a store.
* `Service.run_ingest_spec` : blocks on a store that has all its tables and refuses no row.
-/

namespace ChainWatch

/-! ### Derived tables -/

/-- The contents of the six tables that blocks fill. -/
@[ext]
structure Derived where
  blocks : Table BlockRow := .empty
  transactions : Table TransactionRow := .empty
  actions : Table ActionRow := .empty
  assets : Table AssetRow := .empty
  stakes : Table StakeRow := .empty
  volumes : Table VolumeRow := .empty

/-- The tables with given contents of the derived ones. -/
def Tables.withDerived (t : Tables) (d : Derived) : Tables :=
  { t with
    blocks := some d.blocks, transactions := some d.transactions, actions := some d.actions
    assets := some d.assets, stakes := some d.stakes, volumes := some d.volumes }

/-- The contents of the derived tables, if all of them exist. -/
def Tables.derived? (t : Tables) : Option Derived := do
  return {
    blocks := ← t.blocks, transactions := ← t.transactions, actions := ← t.actions
    assets := ← t.assets, stakes := ← t.stakes, volumes := ← t.volumes }

namespace Tables

variable {t : Tables} {d : Derived}

@[simp] theorem derived?_withDerived : (t.withDerived d).derived? = some d := rfl

theorem withDerived_of_derived? (h : t.derived? = some d) : t.withDerived d = t := by
  obtain ⟨b, tx, a, as, st, v, g, i, dy⟩ := t
  cases b <;> cases tx <;> cases a <;> cases as <;> cases st <;> cases v <;> cases h
  rfl

theorem writeAction_withDerived (refuses : ActionRow → Bool) (row : ActionRow) :
    (t.withDerived d).writeAction refuses row = if refuses row then .error .rowRefused
      else .ok (t.withDerived { d with actions := d.actions.upsert row }) := rfl

/-- Tables of which none is missing have their derived ones. -/
theorem exists_derived? (h : ∀ name ∈ TableName.derived, (t.sizeOf name).isSome) :
    ∃ d, t.derived? = some d := by
  simp only [TableName.derived, List.forall_mem_cons, sizeOf, Option.isSome_map] at h
  obtain ⟨hb, ht, ha, has, hs, hv, -⟩ := h
  obtain ⟨b, hb⟩ := Option.isSome_iff_exists.1 hb
  obtain ⟨tx, ht⟩ := Option.isSome_iff_exists.1 ht
  obtain ⟨a, ha⟩ := Option.isSome_iff_exists.1 ha
  obtain ⟨as, has⟩ := Option.isSome_iff_exists.1 has
  obtain ⟨st, hs⟩ := Option.isSome_iff_exists.1 hs
  obtain ⟨v, hv⟩ := Option.isSome_iff_exists.1 hv
  exact ⟨⟨b, tx, a, as, st, v⟩, by simp [derived?, hb, ht, ha, has, hs, hv]⟩

end Tables

theorem Store.clearDerived_tables (s : Store) :
    s.clearDerived.tables = s.tables.withDerived {} := rfl

/-! ### Steps -/

namespace IngestStep

/-- The row of an action that a step writes. -/
def actionRow? : IngestStep → Option ActionRow
  | writeAction row => some row
  | _ => none

/-- The error of a step that refuses the block. -/
def refusal? : IngestStep → Option IngestError
  | refuse place error => some (.handler place.txHash place.position (.field error))
  | _ => none

/-- What a step writes into derived tables; the table of actions may refuse rows. -/
def apply (refuses : ActionRow → Bool) (d : Derived) : IngestStep → Derived
  | report _ | refuse _ _ => d
  | writeAction row => if refuses row then d else { d with actions := d.actions.upsert row }
  | writeSide _ (.asset row) => { d with assets := d.assets.upsert row }
  | writeSide _ (.stake row) => { d with stakes := d.stakes.upsert row }
  | writeTransaction row => { d with transactions := d.transactions.upsert row }
  | refreshVolume code =>
    { d with volumes :=
        d.volumes.upsert ⟨code, actionName code, Tables.countActions d.actions code⟩ }
  | writeBlock row => { d with blocks := d.blocks.upsert row }

end IngestStep

namespace Script

/-- The error of the first step that refuses the block. -/
def refusal? (script : Script) : Option IngestError := script.findSome? IngestStep.refusal?

/-- What the steps write into derived tables. -/
def apply (refuses : ActionRow → Bool) (script : Script) (d : Derived) : Derived :=
  script.foldl (IngestStep.apply refuses) d

/-- The number of rows of actions that are written. -/
def written (refuses : ActionRow → Bool) (script : Script) : Nat :=
  (script.filterMap IngestStep.actionRow?).countP fun row => !refuses row

/-- The number of rows of actions that are refused. -/
def failed (refuses : ActionRow → Bool) (script : Script) : Nat :=
  (script.filterMap IngestStep.actionRow?).countP refuses

theorem apply_append (refuses : ActionRow → Bool) (script rest : Script) (d : Derived) :
    apply refuses (script ++ rest) d = apply refuses rest (apply refuses script d) :=
  List.foldl_append

end Script

/-! ### Accesses that do not fail -/

namespace Workspace

variable {w : Workspace} (write : Tables → Except StoreError Tables) {t : Tables}
  {error : StoreError}

theorem access_none_of_ok (h : write w.tables = .ok t) :
    w.access .none write = ({ w with tables := t, accesses := w.accesses + 1 }, none) := by
  simp [access, Faults.none, h]

theorem setPoint_none :
    w.setPoint .none =
      ({ w with saved := w.tables :: w.saved, accesses := w.accesses + 1 }, none) := by
  simp [setPoint, access_none_of_ok]

theorem release_none :
    w.release .none = ({ w with saved := w.saved.tail, accesses := w.accesses + 1 }, none) := by
  simp [release, access_none_of_ok]

theorem guarded_none_of_ok (h : write w.tables = .ok t) :
    w.guarded .none write = ({ w with tables := t, accesses := w.accesses + 3 }, none) := by
  simp [guarded, setPoint_none, access_none_of_ok, release_none, h]

theorem guarded_none_of_error (h : write w.tables = .error error) :
    w.guarded .none write = ({ w with accesses := w.accesses + 2 }, some error) := by
  simp [guarded, setPoint_none, access, Faults.none, rollBack, h]

end Workspace

/-! ### The work on a block -/

/-- What a step does to work on derived tables that all exist: it ends the work exactly if it is a
refusal. -/
structure IngestStep.Spec (refuses : ActionRow → Bool) (base : Tables) (d : Derived) (p : Progress)
    (step : IngestStep) (out : Progress × Option IngestError) : Prop where
  answer : out.2 = step.refusal?
  tables : out.1.work.tables = base.withDerived (step.apply refuses d)
  written : out.1.written = p.written + step.actionRow?.toList.countP fun row => !refuses row
  failed : out.1.failed = p.failed + step.actionRow?.toList.countP refuses

theorem IngestStep.take_spec (refuses : ActionRow → Bool) {base : Tables} {d : Derived}
    {p : Progress} (h : p.work.tables = base.withDerived d) (step : IngestStep) :
    step.Spec refuses base d p (step.take refuses .none p) := by
  -- an access that writes one of the derived tables, all of which exist
  have hwrite : ∀ (write : Tables → Except StoreError Tables) d',
      write (base.withDerived d) = .ok (base.withDerived d') →
      p.work.access .none write =
        ({ p.work with tables := base.withDerived d', accesses := p.work.accesses + 1 }, none) :=
    fun write d' hw => Workspace.access_none_of_ok write (h ▸ hw)
  cases step with
  | report line => exact ⟨rfl, h, rfl, rfl⟩
  | refuse place error => exact ⟨rfl, h, rfl, rfl⟩
  | writeAction row =>
    have hw := h ▸ Tables.writeAction_withDerived refuses row
    by_cases hr : refuses row = true
    · rw [if_pos hr] at hw
      have hg := Workspace.guarded_none_of_error (·.writeAction refuses row) hw
      simp only [take, hg, Progress.afterAction, Progress.report]
      exact ⟨rfl, by simpa [apply, hr] using h, by simp [actionRow?, hr], by simp [actionRow?, hr]⟩
    · rw [if_neg hr] at hw
      have hg := Workspace.guarded_none_of_ok (·.writeAction refuses row) hw
      simp only [take, hg, Progress.afterAction]
      exact ⟨rfl, by simp [apply, hr], by simp [actionRow?, hr], by simp [actionRow?, hr]⟩
  | writeSide place row =>
    cases row with
    | asset row =>
      have hw := hwrite (·.writeSide (.asset row)) { d with assets := d.assets.upsert row }
      simp only [take, hw rfl]
      exact ⟨rfl, rfl, rfl, rfl⟩
    | stake row =>
      have hw := hwrite (·.writeSide (.stake row)) { d with stakes := d.stakes.upsert row }
      simp only [take, hw rfl]
      exact ⟨rfl, rfl, rfl, rfl⟩
  | writeTransaction row =>
    have hw := hwrite (·.writeTransaction row) { d with transactions := d.transactions.upsert row }
    simp only [take, hw rfl]
    exact ⟨rfl, rfl, rfl, rfl⟩
  | refreshVolume code =>
    have hw := hwrite (·.refreshVolume code) (apply refuses d (.refreshVolume code))
    simp only [take, hw rfl]
    exact ⟨rfl, rfl, rfl, rfl⟩
  | writeBlock row =>
    have hw := hwrite (·.writeBlock row) { d with blocks := d.blocks.upsert row }
    simp only [take, hw rfl]
    exact ⟨rfl, rfl, rfl, rfl⟩

/-- The work on a block that has just begun. -/
def Progress.begun (t : Tables) : Progress :=
  { work := { tables := t, saved := [t], accesses := 1 } }

/-- The work on a block ends with its first refusal; if there is none, every step has been taken. -/
theorem Script.run_spec (refuses : ActionRow → Bool) {base : Tables} (script : Script)
    {d : Derived} {p : Progress} (h : p.work.tables = base.withDerived d) :
    (script.run refuses .none p).2 = script.refusal? ∧
      (script.refusal? = none →
        (script.run refuses .none p).1.work.tables = base.withDerived (script.apply refuses d) ∧
        (script.run refuses .none p).1.written = p.written + script.written refuses ∧
        (script.run refuses .none p).1.failed = p.failed + script.failed refuses) := by
  induction script generalizing d p with
  | nil => exact ⟨rfl, fun _ => ⟨h, rfl, rfl⟩⟩
  | cons step rest ih =>
    obtain ⟨hanswer, htables, hwritten, hfailed⟩ := step.take_spec refuses h
    have hrefusal : refusal? (step :: rest) = step.refusal?.or (refusal? rest) := by
      simp only [refusal?, List.findSome?_cons]
      cases step.refusal? <;> rfl
    have hwrittenCons : written refuses (step :: rest) =
        (step.actionRow?.toList.countP fun row => !refuses row) + written refuses rest := by
      simp only [written, List.filterMap_cons]
      cases step.actionRow? <;> simp [List.countP_cons, Nat.add_comm]
    have hfailedCons : failed refuses (step :: rest) =
        step.actionRow?.toList.countP refuses + failed refuses rest := by
      simp only [failed, List.filterMap_cons]
      cases step.actionRow? <;> simp [List.countP_cons, Nat.add_comm]
    rw [run, hrefusal, hwrittenCons, hfailedCons]
    rcases hp : step.take refuses .none p with ⟨p', _ | error⟩
    · rw [hp] at hanswer htables hwritten hfailed
      rw [← hanswer, Option.none_or]
      obtain ⟨hrest, hdone⟩ := ih htables
      refine ⟨hrest, fun hnone => ?_⟩
      obtain ⟨ht, hw, hf⟩ := hdone hnone
      exact ⟨ht, by rw [hw, hwritten, Nat.add_assoc], by rw [hf, hfailed, Nat.add_assoc]⟩
    · rw [hp] at hanswer
      rw [← hanswer, Option.some_or]
      exact ⟨rfl, nofun⟩

namespace Block

variable (registry : Registry) (decoder : Decoder) (refuses : ActionRow → Bool) (b : Block)

/-- What a block writes: its steps, or nothing if one of them refuses it. -/
def writes : Script :=
  let script := Script.ofBlock registry decoder b
  if script.refusal?.isSome then [] else script

theorem writes_cases : b.writes registry decoder = [] ∨
    b.writes registry decoder = Script.ofBlock registry decoder b := by
  by_cases hrefused : (Script.ofBlock registry decoder b).refusal?.isSome = true
  · exact .inl (if_pos hrefused)
  · exact .inr (if_neg hrefused)

/-- What is answered to a block. -/
def verdict : Except IngestError BlockSummary :=
  let script := Script.ofBlock registry decoder b
  match script.refusal? with
  | some error => .error error
  | none => .ok {
      height := b.height, totals := .of (b.executed decoder)
      actionsWritten := script.written refuses, actionsFailed := script.failed refuses }

end Block

namespace Store

variable {s : Store} {d : Derived} (registry : Registry) (decoder : Decoder) (b : Block)

theorem bounded_of_answering (h : s.answering = true) (operation : Operation) :
    s.bounded operation = .ok s.tables := by
  simp [bounded, h]

theorem access_tables {t : Tables} (h : s.access = .ok t) : t = s.tables := by
  unfold access at h
  split at h
  · exact (Except.ok.inj h).symm
  · cases h

theorem exists_error_of_outage (h : s.answering = false) (operation : Operation) :
    ∃ error, s.bounded operation = .error error := by
  unfold bounded
  rw [h, if_neg Bool.false_ne_true]
  split <;> exact ⟨_, rfl⟩

theorem withTables_withDerived (h : s.tables.derived? = some d) :
    s.withTables (s.tables.withDerived d) = s := by
  rw [Tables.withDerived_of_derived? h]
  rfl

/-- A store that answers and has its derived tables takes what a block writes. -/
theorem process_spec (ha : s.answering = true) (hd : s.tables.derived? = some d) :
    (s.process registry decoder b).answer = b.verdict registry decoder s.refuses ∧
      (s.process registry decoder b).state = s.withTables
        (s.tables.withDerived ((b.writes registry decoder).apply s.refuses d)) := by
  have hbegun : (Progress.begun s.tables).work.tables = s.tables.withDerived d :=
    (Tables.withDerived_of_derived? hd).symm
  obtain ⟨hrefusal, hdone⟩ :=
    (Script.ofBlock registry decoder b).run_spec s.refuses hbegun
  have hsaved :=
    (Script.ofBlock registry decoder b).run_saved s.refuses .none (Progress.begun s.tables)
  simp only [process, bounded_of_answering ha, Workspace.setPoint_none, Block.verdict, Block.writes]
  rcases hrun : (Script.ofBlock registry decoder b).run s.refuses .none (Progress.begun s.tables)
    with ⟨p, _ | error⟩
  · rw [hrun] at hrefusal hdone
    obtain ⟨htables, hwritten, hfailed⟩ := hdone hrefusal.symm
    simp only [Progress.begun, Nat.zero_add] at hrun hwritten hfailed
    simp only [hrun, ← hrefusal, Workspace.release_none, ← hwritten, ← hfailed]
    exact ⟨trivial, congrArg s.withTables htables⟩
  · rw [hrun] at hrefusal hsaved
    simp only [Progress.begun] at hrun hsaved
    simp only [hrun, ← hrefusal, (Workspace.rollBack_of_saved hsaved).1]
    exact ⟨trivial, (withTables_withDerived hd).symm⟩

/-- The store that the work on a block begins with. -/
def ahead (s : Store) (b : Block) : Store := if b.isGenesis then s.clearDerived else s

theorem ingest_eq_process (ha : s.answering = true) (faults : Faults := .none) :
    (s.ingest registry decoder b faults).answer =
        ((s.ahead b).process registry decoder b faults).answer ∧
      (s.ingest registry decoder b faults).state =
        ((s.ahead b).process registry decoder b faults).state := by
  unfold ingest ahead
  by_cases hb : b.isGenesis = true
  · simp [hb, startOver, bounded_of_answering ha]
  · simp [hb]

theorem ingest_spec (ha : s.answering = true) (hd : (s.ahead b).tables.derived? = some d) :
    (s.ingest registry decoder b).answer = b.verdict registry decoder (s.ahead b).refuses ∧
      (s.ingest registry decoder b).state = (s.ahead b).withTables ((s.ahead b).tables.withDerived
        ((b.writes registry decoder).apply (s.ahead b).refuses d)) := by
  have hahead : (s.ahead b).answering = true := by
    unfold ahead
    split
    · exact ha
    · exact ha
  rw [(ingest_eq_process registry decoder b ha).1, (ingest_eq_process registry decoder b ha).2]
  exact process_spec registry decoder b hahead hd

/-- A store that answers, has all its tables and refuses no row. -/
structure Sound (s : Store) : Prop where
  answering : s.answering = true
  accepting : s.refuses = fun _ => false
  complete : ∀ name, (s.tables.sizeOf name).isSome

end Store

/-! ### Deliveries -/

/-- The derived tables after a block, if no row is refused. -/
def Derived.ingest (registry : Registry) (decoder : Decoder) (d : Derived) (b : Block) : Derived :=
  (b.writes registry decoder).apply (fun _ => false) (if b.isGenesis then {} else d)

namespace Service

variable {svc : Service} {decoder : Decoder} {d : Derived}

/-- The service with given contents of the derived tables. -/
def withDerived (svc : Service) (d : Derived) : Service :=
  { svc with store := svc.store.withTables (svc.store.tables.withDerived d) }

theorem withDerived_of_derived? (h : svc.store.tables.derived? = some d) :
    svc.withDerived d = svc := by
  rw [withDerived, Store.withTables_withDerived h]

/-- A block arrives at a sound store. -/
theorem step_ingest_spec (hs : svc.store.Sound) (hd : svc.store.tables.derived? = some d)
    (hdecoder : svc.indexer.decoder = some decoder) (b : Block) :
    (svc.step (.ingest b)).answer =
        .ingested (b.verdict svc.indexer.registry decoder fun _ => false) ∧
      (svc.step (.ingest b)).state =
        svc.withDerived (d.ingest svc.indexer.registry decoder b) := by
  have hrefuses : (svc.store.ahead b).refuses = fun _ => false := by
    unfold Store.ahead
    split
    · rfl
    · exact hs.accepting
  have hahead : svc.store.ahead b = svc.store.withTables
      (svc.store.tables.withDerived (if b.isGenesis then {} else d)) := by
    unfold Store.ahead
    split
    · rw [Store.clearDerived, ← hs.accepting]
      rfl
    · exact (Store.withTables_withDerived hd).symm
  have hderived : (svc.store.ahead b).tables.derived? =
      some (if b.isGenesis then {} else d) := by
    rw [hahead]
    exact Tables.derived?_withDerived
  obtain ⟨hanswer, hstate⟩ :=
    Store.ingest_spec svc.indexer.registry decoder b hs.answering hderived
  rw [hrefuses] at hanswer hstate
  rw [step_eq_ingest .none hdecoder (e := .ingest b) rfl, withStore, hanswer, hstate, hahead]
  exact ⟨rfl, rfl⟩

theorem sound_withDerived (h : svc.store.Sound) : (svc.withDerived d).store.Sound where
  answering := h.answering
  accepting := h.accepting
  complete name := by
    have hname := h.complete name
    cases name with
    | genesis | incidents | daily => exact hname
    | _ => rfl

/-- Blocks arrive at a sound store, one after the other. -/
theorem run_ingest_spec (hs : svc.store.Sound) (hd : svc.store.tables.derived? = some d)
    (hdecoder : svc.indexer.decoder = some decoder) (bs : List Block) :
    (svc.run (bs.map .ingest)).answer =
        bs.map (fun b => .ingested (b.verdict svc.indexer.registry decoder fun _ => false)) ∧
      (svc.run (bs.map .ingest)).state =
        svc.withDerived (bs.foldl (Derived.ingest svc.indexer.registry decoder) d) := by
  induction bs generalizing svc d with
  | nil => exact ⟨rfl, (withDerived_of_derived? hd).symm⟩
  | cons b bs ih =>
    obtain ⟨hanswer, hstate⟩ := step_ingest_spec hs hd hdecoder b
    have hnext : (svc.withDerived (d.ingest svc.indexer.registry decoder b)).store.Sound :=
      sound_withDerived hs
    obtain ⟨hanswers, hstates⟩ := ih hnext Tables.derived?_withDerived hdecoder
    rw [List.map_cons, run_cons_answer, run_cons_state, hanswer, hstate, hanswers, hstates]
    exact ⟨rfl, rfl⟩

end Service

end ChainWatch
