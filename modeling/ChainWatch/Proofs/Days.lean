import ChainWatch.Proofs.Keyed
import ChainWatch.Proofs.Orphans
import Mathlib.Data.List.Induction

/-!
# The days as a record of the looks

A look at the chain is taken down in the summary of its day if the store answers, and is lost
otherwise.  A summary has three parts that go by three rules: the state is the worst one of the day,
the incident is the last one that a look has shown, and the time is that of the last look.  Days do
not mix, however the looks at them interleave.

* `Entry`, `Service.entries` : the looks of a run that are taken down.
* `HealthState.IsWorst`, `DailySummary.SumsUp` : what a summary says about the looks of its day.
* `Store.Daybook` : the summaries that a store holds.
* `Service.run_daybook` : the summaries after a run.
* `Service.entries_looks` : what looks show does not depend on each other.
* `Service.run_days` : the row of every day after any run.
-/

namespace ChainWatch

/-! ### Summing up -/

namespace HealthState

variable {a b : HealthState} {states : List HealthState}

/-- A state is one of some states, and none of them is worse. -/
def IsWorst (a : HealthState) (states : List HealthState) : Prop :=
  a ∈ states ∧ ∀ b ∈ states, b.severity ≤ a.severity

theorem severity_injective (h : a.severity = b.severity) : a = b := by
  cases a <;> cases b <;> first | rfl | cases h

theorem isWorst_singleton (a : HealthState) : a.IsWorst [a] := by
  simp [IsWorst]

/-- One more state makes the worst one the worse of the two. -/
theorem IsWorst.worst (h : a.IsWorst states) (b : HealthState) :
    (a.worst b).IsWorst (states ++ [b]) := by
  obtain ⟨hmem, hle⟩ := h
  by_cases hab : a.severity < b.severity
  · rw [HealthState.worst, if_pos hab]
    refine ⟨by simp, fun c hc => ?_⟩
    rcases List.mem_append.1 hc with hc | hc
    · exact (hle c hc).trans hab.le
    · rw [List.mem_singleton.1 hc]
  · rw [HealthState.worst, if_neg hab]
    refine ⟨List.mem_append_left _ hmem, fun c hc => ?_⟩
    rcases List.mem_append.1 hc with hc | hc
    · exact hle c hc
    · rw [List.mem_singleton.1 hc]
      omega

theorem IsWorst.unique (h : a.IsWorst states) {states' : List HealthState}
    (h' : b.IsWorst states') (hperm : states.Perm states') : a = b := by
  refine severity_injective (le_antisymm ?_ ?_)
  · exact h'.2 a (hperm.mem_iff.1 h.1)
  · exact h.2 b (hperm.mem_iff.2 h'.1)

end HealthState

/-- A look at the chain that is taken down: when it happens and what it answers. -/
structure Entry where
  now : Instant
  status : HealthStatus

namespace DailySummary

variable {d : DailySummary} {former : Option DailySummary} {xs : List Entry}

/-- The summary of a day after one more look. -/
def enter (former : Option DailySummary) (x : Entry) : DailySummary :=
  merge former x.now.date x.status.state (x.status.currentIncident.map (·.description)) x.now

/-- What the summary of a day says about the former one and the looks since then. -/
structure SumsUp (d : DailySummary) (former : Option DailySummary) (xs : List Entry) : Prop where
  /-- The worst of the states. -/
  state : d.state.IsWorst ((former.map (·.state)).toList ++ xs.map (·.status.state))
  /-- The last incident that a look has shown. -/
  incidents : d.incidents =
    match (xs.filterMap (·.status.currentIncident)).getLast? with
    | some incident => [incident.description]
    | none => (former.map (·.incidents)).getD []
  /-- The time of the last look. -/
  lastUpdated : xs.getLast?.map (·.now) = some d.lastUpdated

/-- The incidents of a day change if a look shows one. -/
theorem enter_incidents (former : Option DailySummary) (x : Entry) :
    (enter former x).incidents = match x.status.currentIncident with
      | some incident => [incident.description]
      | none => (former.map (·.incidents)).getD [] := by
  obtain ⟨now, state, details, services, stats, current⟩ := x
  cases current <;> cases former <;> rfl

theorem sumsUp_enter (former : Option DailySummary) (x : Entry) :
    (enter former x).SumsUp former [x] where
  state := by
    cases former with
    | none => exact HealthState.isWorst_singleton _
    | some d => exact (HealthState.isWorst_singleton d.state).worst x.status.state
  incidents := by
    rw [enter_incidents]
    cases hincident : x.status.currentIncident <;> simp [hincident]
  lastUpdated := rfl

/-- One more look at a day that has been looked at. -/
theorem SumsUp.enter (h : d.SumsUp former xs) (x : Entry) :
    (enter (some d) x).SumsUp former (xs ++ [x]) where
  state := by
    rw [List.map_append, ← List.append_assoc]
    exact h.state.worst x.status.state
  incidents := by
    rw [enter_incidents, List.filterMap_append]
    cases hincident : x.status.currentIncident with
    | none => simpa [hincident] using h.incidents
    | some incident => simp [hincident]
  lastUpdated := by
    rw [List.getLast?_concat]
    rfl

/-- The summary of a day after a list of looks at it. -/
def enterAll (former : Option DailySummary) (xs : List Entry) : Option DailySummary :=
  xs.foldl (fun d x => some (enter d x)) former

/-- The looks at a day, if there are any, are summed up. -/
theorem exists_sumsUp (former : Option DailySummary) (hxs : xs ≠ []) :
    ∃ d, enterAll former xs = some d ∧ d.SumsUp former xs := by
  induction xs using List.reverseRecOn with
  | nil => exact absurd rfl hxs
  | append_singleton xs x ih =>
    simp only [enterAll, List.foldl_concat]
    refine ⟨_, rfl, ?_⟩
    by_cases hnil : xs = []
    · subst hnil
      exact sumsUp_enter former x
    · obtain ⟨d, hd, hsum⟩ := ih hnil
      simp only [enterAll] at hd
      rw [hd]
      exact hsum.enter x

end DailySummary

/-! ### The daybook -/

/-- The row of a summary is read back as the summary. -/
@[simp] theorem DailySummary.toSummary_toRow (d : DailySummary) : d.toRow.toSummary = .ok d := by
  simp only [DailyRow.toSummary, DailyRow.incidentList, toRow, HealthState.ofText_text,
    Json.toStrings_reread_strings]
  rfl

namespace Store

variable {s : Store} {book : Date → Option DailySummary}

/-- The row of a day. -/
def day? (s : Store) (date : Date) : Option DailyRow :=
  s.tables.daily.bind fun table => table.find? date.days

/-- The summary of a day, as far as it can be read. -/
def summary? (s : Store) (date : Date) : Option DailySummary :=
  (s.day? date).bind fun row => row.toSummary.toOption

/-- The summaries that a store holds. -/
def Daybook (s : Store) (book : Date → Option DailySummary) : Prop :=
  ∃ table, s.tables.daily = some table ∧
    ∀ date, table.find? date.days = (book date).map DailySummary.toRow

/-- A table of summaries is a daybook. -/
theorem daybook_of_legible {table : Table DailyRow} (h : s.tables.daily = some table)
    (hlegible : ∀ row ∈ table.rows, ∃ d : DailySummary, row = d.toRow) :
    s.Daybook s.summary? := by
  refine ⟨table, h, fun date => ?_⟩
  simp only [summary?, day?, h, Option.bind_some]
  cases hfind : table.find? date.days with
  | none => rfl
  | some row =>
    obtain ⟨d, rfl⟩ := hlegible row (table.find?_eq_some_iff.1 hfind).1
    simp [Except.toOption]

/-- On a store that answers, a look is taken down in the summary of its day. -/
theorem Daybook.recordDay (h : s.Daybook book) (ha : s.answering = true) (x : Entry) :
    (Monitor.recordDay s x.status x.now).1.Daybook
      (Function.update book x.now.date (some (.enter (book x.now.date) x))) := by
  obtain ⟨table, htable, hfind⟩ := h
  let merged := DailySummary.enter (book x.now.date) x
  have hformer : (table.find? x.now.date.days).mapM DailyRow.toSummary = .ok (book x.now.date) := by
    rw [hfind]
    cases book x.now.date with
    | none => rfl
    | some d => simp [Except.map, Functor.map]
  have hrecord : s.recordDaily x.now.date x.status.state
      (x.status.currentIncident.map (·.description)) x.now =
        .ok (s.withTables { s.tables with daily := some (table.upsert merged.toRow) }, merged) := by
    simp only [recordDaily, bounded, ha, ↓reduceIte, htable, Tables.need, bind, Except.bind,
      hformer]
    rfl
  simp only [Monitor.recordDay, hrecord]
  refine ⟨_, rfl, fun date => ?_⟩
  rw [Table.find?_upsert]
  show (if x.now.date.days = date.days then _ else _) = _
  by_cases hdate : date = x.now.date
  · rw [hdate, if_pos rfl, Function.update_self]
    rfl
  · have hdays : x.now.date.days ≠ date.days := by
      intro hdays
      exact hdate (Date.mk.injEq .. ▸ hdays.symm : (⟨date.days⟩ : Date) = ⟨x.now.date.days⟩)
    rw [if_neg hdays, Function.update_of_ne hdate, hfind]

theorem Daybook.of_daily {s' : Store} (h : s.Daybook book)
    (hdaily : ∀ table, s.tables.daily = some table → s'.tables.daily = some table) :
    s'.Daybook book := by
  obtain ⟨table, htable, hfind⟩ := h
  exact ⟨table, hdaily table htable, hfind⟩

theorem Daybook.day? (h : s.Daybook book) (date : Date) :
    s.day? date = (book date).map DailySummary.toRow := by
  obtain ⟨table, htable, hfind⟩ := h
  simp only [Store.day?, htable, Option.bind_some, hfind]

theorem Daybook.summary? (h : s.Daybook book) (date : Date) : s.summary? date = book date := by
  rw [Store.summary?, h.day?]
  cases book date with
  | none => rfl
  | some d => simp [Except.toOption]

end Store

theorem Monitor.recordDay_of_outage {s : Store} (status : HealthStatus) (now : Instant)
    (ha : s.answering = false) : (recordDay s status now).1 = s := by
  obtain ⟨error, herror⟩ := Store.exists_error_of_outage ha .recordDaily
  simp only [recordDay, Store.recordDaily, herror, bind, Except.bind]

/-! ### Runs -/

/-- The look that an event makes and that is taken down, for which the store has to answer. -/
def Event.recorded? (svc : Service) : Event → Option Entry
  | tick now =>
    if svc.store.answering then some ⟨now, (svc.monitor.tick svc.store now).answer⟩ else none
  | _ => none

/-- Looks at the chain, each with the store answering or not. -/
def Event.looks (xs : List (Bool × Instant)) : List Event :=
  xs.flatMap fun x => [answering x.1, tick x.2]

namespace Service

variable {svc : Service} {book : Date → Option DailySummary}

/-- The looks of a run that are taken down. -/
def entries (svc : Service) : List Event → List Entry
  | [] => []
  | e :: rest => (e.recorded? svc).toList ++ (svc.step e).state.entries rest

/-- The looks at a day that are taken down. -/
def entriesOn (svc : Service) (es : List Event) (date : Date) : List Entry :=
  (svc.entries es).filter fun x => x.now.date = date

/-- The summaries after one more look. -/
def enterBook (book : Date → Option DailySummary) (x : Entry) : Date → Option DailySummary :=
  Function.update book x.now.date (some (.enter (book x.now.date) x))

/-- The summary of a day has only to do with the looks at that day. -/
theorem foldl_enterBook (xs : List Entry) (date : Date) :
    xs.foldl enterBook book date =
      DailySummary.enterAll (book date) (xs.filter fun x => x.now.date = date) := by
  induction xs generalizing book with
  | nil => rfl
  | cons x xs ih =>
    rw [List.foldl_cons, ih]
    by_cases hdate : x.now.date = date
    · rw [List.filter_cons_of_pos (by simpa using hdate), enterBook, ← hdate, Function.update_self]
      rfl
    · rw [List.filter_cons_of_neg (by simpa using hdate), enterBook,
        Function.update_of_ne (Ne.symm hdate)]

theorem step_tick_daybook (now : Instant) (h : svc.store.Daybook book) :
    (svc.step (.tick now)).state.store.Daybook
      (((Event.tick now).recorded? svc).toList.foldl enterBook book) := by
  have hsettled : (svc.settle now).state.Daybook book ∧
      (svc.settle now).state.answering = svc.store.answering := by
    obtain ⟨incidents, hincidents⟩ : svc.store.Booked (svc.settle now).state :=
      Monitor.settle_booked ..
    rw [hincidents]
    exact ⟨h, rfl⟩
  let x : Entry := ⟨now, (svc.monitor.tick svc.store now).answer⟩
  cases ha : svc.store.answering with
  | true =>
    simp only [Event.recorded?, ha, ↓reduceIte]
    exact hsettled.1.recordDay (hsettled.2.trans ha) x
  | false =>
    simp only [Event.recorded?, ha, Bool.false_eq_true, ↓reduceIte]
    show (Monitor.recordDay (svc.settle now).state x.status x.now).1.Daybook book
    rw [Monitor.recordDay_of_outage x.status x.now (hsettled.2.trans ha)]
    exact hsettled.1

/-- The summaries of the days change with the looks that are taken down, and with nothing else. -/
theorem step_daybook (e : Event) (h : svc.store.Daybook book) :
    (svc.step e).state.store.Daybook ((e.recorded? svc).toList.foldl enterBook book) := by
  have hothers : e.isTick = false → (svc.step e).state.store.Daybook book :=
    fun he => h.of_daily fun table htable => step_daily he htable
  cases e with
  | tick now => exact step_tick_daybook now h
  | _ => exact hothers rfl

theorem run_daybook (es : List Event) (h : svc.store.Daybook book) :
    (svc.run es).state.store.Daybook ((svc.entries es).foldl enterBook book) := by
  induction es generalizing svc book with
  | nil => exact h
  | cons e rest ih =>
    rw [entries, List.foldl_append]
    exact ih (step_daybook e h)

/-- The row of a day after a run: that of before, or the sum of the looks at the day. -/
theorem run_day (es : List Event) (h : svc.store.Daybook book) (date : Date) :
    (svc.entriesOn es date = [] → (svc.run es).state.store.day? date = svc.store.day? date) ∧
      (svc.entriesOn es date ≠ [] → ∃ d : DailySummary,
        (svc.run es).state.store.day? date = some d.toRow ∧
          d.SumsUp (svc.store.summary? date) (svc.entriesOn es date)) := by
  have hday := (run_daybook es h).day? date
  rw [foldl_enterBook] at hday
  constructor
  · intro hnone
    rw [entriesOn] at hnone
    rw [hday, hnone, h.day?]
    rfl
  · intro hsome
    obtain ⟨d, hd, hsum⟩ := DailySummary.exists_sumsUp (book date) hsome
    rw [entriesOn] at hd
    refine ⟨d, by rw [hday, hd, Option.map_some], ?_⟩
    rwa [h.summary?]

/-- The state of a day only gets worse. -/
theorem run_append_severity (es more : List Event) (h : svc.store.Daybook book) {date : Date}
    {d : DailySummary} (hd : (svc.run es).state.store.summary? date = some d) :
    ∃ d', (svc.run (es ++ more)).state.store.summary? date = some d' ∧
      d.state.severity ≤ d'.state.severity := by
  have hbook := run_daybook es h
  obtain ⟨hsame, hsum⟩ := run_day more hbook date
  rw [← run_append_state] at hsame hsum
  by_cases hnone : (svc.run es).state.entriesOn more date = []
  · refine ⟨d, ?_, le_rfl⟩
    rw [Store.summary?, hsame hnone]
    exact hd
  · obtain ⟨d', hd', hsums⟩ := hsum hnone
    refine ⟨d', by simp [Store.summary?, hd', Except.toOption], hsums.state.2 d.state ?_⟩
    rw [hd]
    exact List.mem_append_left _ (List.mem_singleton_self _)

/-! ### The order of looks -/

/-- The state that a look at the chain shows if the store answers. -/
def stateAt (svc : Service) (now : Instant) : HealthState :=
  Monitor.stateOf ((svc.store.setAnswering true).probe svc.monitor.settings now).1

theorem stateAt_of_monitored (svc svc' : Service) (h : svc.store.Monitored svc'.store)
    (hsettings : svc'.monitor.settings = svc.monitor.settings) (now : Instant) :
    svc'.stateAt now = svc.stateAt now := by
  obtain ⟨incidents, daily, hstore⟩ := h
  rw [stateAt, hstore, hsettings]
  rfl

/-- What a look shows does not depend on the looks before it. -/
theorem entries_looks (xs : List (Bool × Instant)) :
    (svc.entries (Event.looks xs)).map (fun x => (x.now, x.status.state)) =
      (xs.filter (·.1)).map fun x => (x.2, svc.stateAt x.2) := by
  induction xs generalizing svc with
  | nil => rfl
  | cons x xs ih =>
    obtain ⟨answering, now⟩ := x
    let during := (svc.step (.answering answering)).state
    have hafter : ∀ t, (during.step (.tick now)).state.stateAt t = svc.stateAt t := fun t =>
      stateAt_of_monitored during (during.step (.tick now)).state
        (Monitor.tick_monitored during.store now during.monitor) rfl t
    have hrest : (svc.entries (Event.looks (⟨answering, now⟩ :: xs))) =
        ((Event.tick now).recorded? during).toList ++
          (during.step (.tick now)).state.entries (Event.looks xs) := rfl
    rw [hrest, List.map_append, ih]
    simp only [hafter]
    cases answering <;> rfl

theorem states_entriesOn (es : List Event) (date : Date) :
    (svc.entriesOn es date).map (·.status.state) =
      (((svc.entries es).map fun x => (x.now, x.status.state)).filter
        fun x => x.1.date = date).map (·.2) := by
  rw [List.filter_map, List.map_map]
  rfl

/-- Looks in another order show the same states on a day. -/
theorem states_looks_perm {xs ys : List (Bool × Instant)} (hperm : xs.Perm ys) (date : Date) :
    ((svc.entriesOn (Event.looks xs) date).map (·.status.state)).Perm
      ((svc.entriesOn (Event.looks ys) date).map (·.status.state)) := by
  rw [states_entriesOn, states_entriesOn, entries_looks, entries_looks]
  exact (((hperm.filter _).map _).filter _).map _

/-- Looks in another order leave every day in the same state. -/
theorem run_looks_perm (h : svc.store.Daybook book) {xs ys : List (Bool × Instant)}
    (hperm : xs.Perm ys) (date : Date) :
    ((svc.run (Event.looks xs)).state.store.summary? date).map (·.state) =
      ((svc.run (Event.looks ys)).state.store.summary? date).map (·.state) := by
  have hstates := svc.states_looks_perm hperm date
  obtain ⟨hsame, hsum⟩ := run_day (Event.looks xs) h date
  obtain ⟨hsame', hsum'⟩ := run_day (Event.looks ys) h date
  by_cases hnone : svc.entriesOn (Event.looks xs) date = []
  · have hnone' : svc.entriesOn (Event.looks ys) date = [] := by
      rw [hnone] at hstates
      exact List.map_eq_nil_iff.1 hstates.nil_eq.symm
    simp only [Store.summary?, hsame hnone, hsame' hnone']
  · have hsome' : svc.entriesOn (Event.looks ys) date ≠ [] := by
      intro hnone'
      rw [hnone'] at hstates
      exact hnone (List.map_eq_nil_iff.1 hstates.eq_nil)
    obtain ⟨d, hd, hsums⟩ := hsum hnone
    obtain ⟨d', hd', hsums'⟩ := hsum' hsome'
    have hworst : d.state = d'.state := hsums.state.unique hsums'.state (hstates.append_left _)
    simp [Store.summary?, hd, hd', Except.toOption, hworst]

/-- **The row of a day records the looks of the day.**  The rows of the days are summaries, and
anything may happen to the service.  Taken down are the looks at which the store answers; the others
are lost.  Then the row of a day without such a look is what it was.  The row of any other day tells
the worst of its former state and of the states that its looks have shown, the last incident that a
look has shown, or else its former ones, and the time of the last look.  So the state of a day only
gets worse, and does not depend on the order in which a monitor looks at the chain. -/
theorem run_days (svc : Service) {table : Table DailyRow}
    (htable : svc.store.tables.daily = some table)
    (hlegible : ∀ row ∈ table.rows, ∃ d : DailySummary, row = d.toRow) :
    (∀ es date,
      (svc.entriesOn es date = [] → (svc.run es).state.store.day? date = svc.store.day? date) ∧
      (svc.entriesOn es date ≠ [] → ∃ d : DailySummary,
        (svc.run es).state.store.day? date = some d.toRow ∧
          d.SumsUp (svc.store.summary? date) (svc.entriesOn es date))) ∧
    (∀ es more date d, (svc.run es).state.store.summary? date = some d →
      ∃ d', (svc.run (es ++ more)).state.store.summary? date = some d' ∧
        d.state.severity ≤ d'.state.severity) ∧
    ∀ xs ys, xs.Perm ys → ∀ date,
      ((svc.run (Event.looks xs)).state.store.summary? date).map (·.state) =
        ((svc.run (Event.looks ys)).state.store.summary? date).map (·.state) := by
  have hbook := Store.daybook_of_legible htable hlegible
  refine ⟨fun es date => run_day es hbook date, fun es more date d hd => ?_, ?_⟩
  · exact run_append_severity es more hbook hd
  · exact fun xs ys hperm date => run_looks_perm hbook hperm date

/-- What is left over from an earlier run on the day of the epoch. -/
def leftOver : DailySummary := ⟨⟨0⟩, .yellow, ["left over"], ⟨5, false⟩⟩

/-- A service that has a summary of one day. -/
def begun : Service :=
  { sample with
    store := sample.store.withTables
      { sample.store.tables with daily := some (Table.empty.upsert leftOver.toRow) } }

/-- The chain is lost on the day before the epoch and, while the store does not answer, on the next
day.  On that day it is found, and then on the day before by a clock that goes back. -/
def eve : List Event :=
  [.tick ⟨-30000000000, false⟩, .answering false, .tick ⟨1000000000, false⟩, .answering true,
    .ingest (.sample 6 2000 []), .tick ⟨3000000000, false⟩, .tick ⟨-20000000000, false⟩]

/-- The look during the outage is lost, and the incident of the first look stays in its day. -/
theorem run_days_eve :
    begun.store.tables.daily = some (Table.empty.upsert leftOver.toRow) ∧
      (∀ row ∈ (Table.empty.upsert leftOver.toRow).rows, ∃ d : DailySummary, row = d.toRow) ∧
      [-1, 0, 1].map (fun day => ((begun.run eve).state.store.summary? ⟨day⟩).map fun d =>
        (d.state, d.incidents.length, d.lastUpdated.nanos)) =
          [some (.red, 1, -20000000000), some (.yellow, 1, 3000000000), none] ∧
      (begun.entriesOn eve ⟨-1⟩).length = 2 ∧
      ∃ d : DailySummary, (begun.run eve).state.store.day? ⟨-1⟩ = some d.toRow ∧
        d.SumsUp (begun.store.summary? ⟨-1⟩) (begun.entriesOn eve ⟨-1⟩) := by
  have hlegible : ∀ row ∈ (Table.empty.upsert leftOver.toRow).rows,
      ∃ d : DailySummary, row = d.toRow :=
    fun row hrow => ⟨leftOver, List.mem_singleton.1 hrow⟩
  have hlooks : (begun.entriesOn eve ⟨-1⟩).length = 2 := by decide +kernel
  obtain ⟨hday, -, -⟩ := run_days begun rfl hlegible
  refine ⟨rfl, hlegible, by decide +kernel, hlooks, (hday eve ⟨-1⟩).2 fun hnil => ?_⟩
  rw [hnil] at hlooks
  cases hlooks

end Service

end ChainWatch
