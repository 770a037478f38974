import ChainWatch.Proofs.Activity

/-!
# The indexer and the monitor side by side

One store serves the indexer, the monitor and the tool that creates and empties tables.  The monitor
is a mere onlooker: take everything that it does out of a run, and the other tables and all the
other answers are the same, but for the two counts of its own rows.  The other way round nobody else
touches a row of the monitor, whichever tables come and go.

* `Store.Beside`, `Service.Beside` : whether nothing but the rows of the monitor differs.
* `Report.Agrees` : whether reports are the same but for the number of these rows.
* `Store.ingest_beside`, `Tool.run_beside`, … : single operations on such stores.
* `Service.perform_beside`, `Service.perform_of_monitoring` : the activities of others, and those of
  the monitor.
* `Service.performAll_apart` : a run with the monitor and without it.
-/

namespace ChainWatch

/-! ### Stores that differ in the rows of the monitor -/

namespace Store

variable {s s' : Store}

/-- Whether nothing but the rows of the monitor differs. -/
structure Beside (s s' : Store) : Prop where
  monitored : s.Monitored s'
  incidents : s'.tables.incidents.isSome = s.tables.incidents.isSome
  daily : s'.tables.daily.isSome = s.tables.daily.isSome

theorem Beside.refl (s : Store) : s.Beside s := ⟨⟨_, _, rfl⟩, rfl, rfl⟩

theorem Beside.trans {s'' : Store} (h : s.Beside s') (h' : s'.Beside s'') : s.Beside s'' := by
  obtain ⟨⟨incidents, daily, rfl⟩, hi, hd⟩ := h
  obtain ⟨⟨incidents', daily', rfl⟩, hi', hd'⟩ := h'
  exact ⟨⟨incidents', daily', rfl⟩, hi'.trans hi, hd'.trans hd⟩

theorem tick_beside (m : Monitor) (s : Store) (now : Instant) : s.Beside (m.tick s now).state.2 :=
  ⟨Monitor.tick_monitored s now m, (Monitor.tick_present s now m).1,
    (Monitor.tick_present s now m).2⟩

end Store

/-- Whether two reports are the same but for the rows of the monitor that have been counted. -/
def Report.Agrees (r r' : Report) : Prop :=
  r' = r ∨ ∃ lines incidents days incidents' days',
    r = .printed ⟨0, lines ++ [Tool.countLine .incidents incidents, Tool.countLine .daily days]⟩ ∧
    r' = .printed
      ⟨0, lines ++ [Tool.countLine .incidents incidents', Tool.countLine .daily days']⟩

/-- Outcomes with stores that differ in the rows of the monitor only, and with the same answer. -/
structure Outcome.Beside {α : Type} (out out' : Outcome Store α) : Prop where
  state : out.state.Beside out'.state
  answer : out'.answer = out.answer

namespace Store

variable {s s' : Store} (h : s.Beside s')
include h

theorem createSchema_beside : s.createSchema.Beside s'.createSchema := by
  obtain ⟨⟨incidents, daily, rfl⟩, hi, hd⟩ := h
  obtain ⟨t, refuses, _ | _, limit⟩ := s
  · exact ⟨⟨⟨_, _, rfl⟩, hi, hd⟩, rfl⟩
  · exact ⟨⟨⟨_, _, rfl⟩, rfl, rfl⟩, rfl⟩

theorem resetDerived_beside : s.resetDerived.Beside s'.resetDerived := by
  obtain ⟨⟨incidents, daily, rfl⟩, hi, hd⟩ := h
  obtain ⟨t, refuses, _ | _, limit⟩ := s <;> exact ⟨⟨⟨_, _, rfl⟩, hi, hd⟩, rfl⟩

theorem resetForStartup_beside : s.resetForStartup.Beside s'.resetForStartup := by
  obtain ⟨⟨incidents, daily, rfl⟩, hi, hd⟩ := h
  obtain ⟨t, refuses, _ | _, limit⟩ := s
  · exact ⟨⟨⟨_, _, rfl⟩, hi, hd⟩, rfl⟩
  · exact ⟨⟨⟨_, _, rfl⟩, rfl, rfl⟩, rfl⟩

theorem setAnswering_beside (answering : Bool) :
    (s.setAnswering answering).Beside (s'.setAnswering answering) := by
  obtain ⟨⟨incidents, daily, rfl⟩, hi, hd⟩ := h
  exact ⟨⟨incidents, daily, rfl⟩, hi, hd⟩

theorem refuse_beside (rows : ActionRow → Bool) : (s.refuse rows).Beside (s'.refuse rows) := by
  obtain ⟨⟨incidents, daily, rfl⟩, hi, hd⟩ := h
  exact ⟨⟨incidents, daily, rfl⟩, hi, hd⟩

theorem ingest_beside (registry : Registry) (decoder : Decoder) (b : Block) (faults : Faults) :
    (s.ingest registry decoder b faults).Beside (s'.ingest registry decoder b faults) := by
  obtain ⟨⟨incidents, daily, rfl⟩, hi, hd⟩ := h
  let u : Tables := { genesis := s.tables.genesis, incidents, daily }
  have hs : s.withTables { s.tables with incidents, daily } = s.withKept u := rfl
  rw [hs, ingest_withKept]
  have hkept : (s.ingest registry decoder b faults).state.tables.kept = s.tables.kept :=
    ingest_alike.kept
  have hgenesis : (s.ingest registry decoder b faults).state.tables.genesis = s.tables.genesis :=
    congrArg (·.1) hkept
  refine ⟨⟨⟨incidents, daily, ?_⟩, hi.trans ?_, hd.trans ?_⟩, rfl⟩
  · simp only [withKept, Tables.withKept, u, ← hgenesis]
  · exact congrArg (·.2.1.isSome) hkept.symm
  · exact congrArg (·.2.2.isSome) hkept.symm

end Store

/-- The count of one table. -/
def Tables.count (t : Tables) (name : TableName) : Except StoreError (TableName × Nat) :=
  match t.sizeOf name with
  | some n => .ok (name, n)
  | none => .error (.noTable name)

/-- The tables of the monitor are counted last, and their rows do not matter to the others. -/
theorem Tables.counts_beside (t : Tables) {incidents incidents' : Option (Table IncidentRow)}
    {daily daily' : Option (Table DailyRow)} (hi : incidents'.isSome = incidents.isSome)
    (hd : daily'.isSome = daily.isSome) :
    let u : Tables := { t with incidents, daily }
    let u' : Tables := { t with incidents := incidents', daily := daily' }
    u'.counts = u.counts ∨ ∃ counts m n m' n',
      u.counts = .ok (counts ++ [(.incidents, m), (.daily, n)]) ∧
      u'.counts = .ok (counts ++ [(.incidents, m'), (.daily, n')]) := by
  intro u u'
  let others : List TableName := TableName.derived ++ [.genesis]
  let last : List TableName := [.incidents, .daily]
  have hsplit : ∀ v : Tables,
      v.counts = do return (← others.mapM v.count) ++ (← last.mapM v.count) := by
    intro v
    have hall : v.counts = (others ++ last).mapM v.count := rfl
    rw [hall, List.mapM_append]
  have hothers : others.mapM u'.count = others.mapM u.count := rfl
  rw [hsplit, hsplit, hothers]
  cases others.mapM u.count with
  | error error => exact .inl rfl
  | ok counts =>
    cases incidents <;> cases incidents' <;> cases hi
    · exact .inl rfl
    · cases daily <;> cases daily' <;> cases hd
      · exact .inl rfl
      · exact .inr ⟨counts, _, _, _, _, rfl, rfl⟩

theorem Store.counts_beside {s s' : Store} (h : s.Beside s') :
    s'.counts = s.counts ∨ ∃ counts m n m' n',
      s.counts = .ok (counts ++ [(.incidents, m), (.daily, n)]) ∧
      s'.counts = .ok (counts ++ [(.incidents, m'), (.daily, n')]) := by
  obtain ⟨⟨incidents, daily, rfl⟩, hi, hd⟩ := h
  obtain ⟨t, refuses, _ | _, limit⟩ := s
  · exact .inl rfl
  · exact t.counts_beside hi hd

/-! ### The tool -/

namespace Tool

variable {s s' : Store}

theorem Result.ofOutcome_beside {out out' : Outcome Store (Except StoreError Unit)}
    (h : out.Beside out') : (ofOutcome out).Beside (ofOutcome out') := by
  obtain ⟨state, answer, log⟩ := out
  obtain ⟨state', answer', log'⟩ := out'
  obtain ⟨hstate, rfl⟩ := h
  cases answer' <;> exact ⟨hstate, rfl⟩

theorem resetDerived_beside (h : s.Beside s') : (resetDerived s).Beside (resetDerived s') := by
  obtain ⟨hcreated, hanswer⟩ := Store.createSchema_beside h
  simp only [resetDerived, hanswer]
  cases s.createSchema.answer with
  | error error => exact ⟨hcreated, hanswer⟩
  | ok _ =>
    obtain ⟨hreset, hanswer'⟩ := Store.resetDerived_beside hcreated
    exact ⟨hreset, hanswer'⟩

theorem status_agrees (h : s.Beside s') :
    Report.Agrees (.printed (execute s .status).answer) (.printed (execute s' .status).answer) := by
  simp only [execute]
  rcases Store.counts_beside h with heq | ⟨counts, m, n, m', n', heq, heq'⟩
  · rw [heq]
    cases s.counts <;> exact .inl rfl
  · rw [heq, heq']
    refine .inr ⟨_, m, n, m', n', congrArg (Report.printed ⟨0, ·⟩) List.map_append,
      congrArg (Report.printed ⟨0, ·⟩) List.map_append⟩

/-- The tool does and prints the same whatever the rows of the monitor are, but for their number. -/
theorem run_beside (h : s.Beside s') (arguments : List String) :
    (run s arguments).state.Beside (run s' arguments).state ∧
      Report.Agrees (.printed (run s arguments).answer) (.printed (run s' arguments).answer) := by
  have hanswering : s'.answering = s.answering := by
    obtain ⟨⟨_, _, rfl⟩, -, -⟩ := h
    rfl
  have hopen : (s.setAnswering true).Beside (s'.setAnswering true) :=
    Store.setAnswering_beside h true
  have hsame : ∀ out out' : Outcome Store Result, out.Beside out' →
      (out.state.setAnswering s.answering).Beside (out'.state.setAnswering s'.answering) ∧
        Report.Agrees (.printed out.answer) (.printed out'.answer) := by
    rintro out out' ⟨hstate, hanswer⟩
    rw [hanswering, hanswer]
    exact ⟨Store.setAnswering_beside hstate _, .inl rfl⟩
  unfold run
  cases Invocation.ofArguments arguments with
  | tell lines => exact ⟨h, .inl rfl⟩
  | misuse => exact ⟨h, .inl rfl⟩
  | run command =>
    match command with
    | .create => exact hsame _ _ (Result.ofOutcome_beside (Store.createSchema_beside hopen))
    | .reset true => exact hsame _ _ (Result.ofOutcome_beside (Store.resetForStartup_beside hopen))
    | .reset false => exact hsame _ _ (Result.ofOutcome_beside (resetDerived_beside hopen))
    | .status =>
      simp only [execute_status, hanswering]
      exact ⟨Store.setAnswering_beside hopen _, status_agrees hopen⟩

end Tool

/-! ### The indexer -/

namespace Indexer

variable (ix : Indexer) {s s' : Store} (h : s.Beside s') (faults : Faults)
include h

theorem adopt_beside (genesis : Bytes) :
    (ix.adopt s' genesis).state.1 = (ix.adopt s genesis).state.1 ∧
      (ix.adopt s genesis).state.2.Beside (ix.adopt s' genesis).state.2 ∧
      (ix.adopt s' genesis).answer = (ix.adopt s genesis).answer := by
  unfold adopt
  cases ix.factory genesis with
  | error error => exact ⟨rfl, h, rfl⟩
  | ok decoder =>
    obtain ⟨⟨incidents, daily, rfl⟩, hi, hd⟩ := h
    obtain ⟨⟨bs, txs, as, assets, stakes, vs, documents, is, ds⟩, refuses, answering, limit⟩ := s
    cases answering with
    | false =>
      -- a store that does not answer fails in the same way whatever it holds
      let outage (t : Tables) : Store := ⟨t, refuses, false, limit⟩
      obtain ⟨error, herror⟩ := (outage {}).exists_error_of_outage rfl .storeGenesis
      have hlost : ∀ t, (outage t).storeGenesis genesis = .error error := by
        intro t
        have ht : (outage t).bounded .storeGenesis = .error error := herror
        simp only [Store.storeGenesis, ht, bind, Except.bind]
      dsimp only [Store.withTables]
      rw [hlost, hlost]
      exact ⟨rfl, ⟨⟨_, _, rfl⟩, hi, hd⟩, rfl⟩
    | true => cases documents <;> exact ⟨rfl, ⟨⟨_, _, rfl⟩, hi, hd⟩, rfl⟩

theorem ingest_beside (b : Block) : (ix.ingest s b faults).Beside (ix.ingest s' b faults) := by
  unfold ingest
  cases ix.decoder with
  | none => exact ⟨h, rfl⟩
  | some decoder => exact Store.ingest_beside h ix.registry decoder b faults

theorem ingestRaw_beside (raw : Bytes) :
    (ix.ingestRaw s raw faults).Beside (ix.ingestRaw s' raw faults) := by
  unfold ingestRaw
  cases ix.decoder with
  | none => exact ⟨h, rfl⟩
  | some decoder =>
    dsimp only
    cases decoder.block raw with
    | error error => exact ⟨h, rfl⟩
    | ok b => exact Store.ingest_beside h ix.registry decoder b faults

end Indexer

/-! ### Services that differ in the monitor -/

namespace Service

/-- Whether nothing but the monitor and its rows differs. -/
structure Beside (svc svc' : Service) : Prop where
  indexer : svc'.indexer = svc.indexer
  store : svc.store.Beside svc'.store

variable {svc svc' svc'' : Service}

theorem Beside.refl (svc : Service) : svc.Beside svc := ⟨rfl, .refl svc.store⟩

theorem Beside.trans (h : svc.Beside svc') (h' : svc'.Beside svc'') : svc.Beside svc'' :=
  ⟨h'.indexer.trans h.indexer, h.store.trans h'.store⟩

/-- What the monitor does is to be seen in the monitor and its rows alone. -/
theorem perform_of_monitoring (svc : Service) {a : Activity} (ha : a.isMonitoring = true) :
    svc.Beside (svc.perform a).state := by
  match a with
  | .event (.tick now) _ => exact ⟨rfl, Store.tick_beside svc.monitor svc.store now⟩
  | .event .resume _ | .event .restart _ | .history _ | .rollup _ =>
    exact ⟨rfl, .refl svc.store⟩

theorem withStore_beside {α : Type} {out out' : Outcome Store α} (h : svc.Beside svc')
    (hout : out.Beside out') (answer : α → Answer) :
    (svc.withStore answer out).state.Beside (svc'.withStore answer out').state ∧
      Report.Agrees (.answer (svc.withStore answer out).answer)
        (.answer (svc'.withStore answer out').answer) :=
  ⟨⟨h.indexer, hout.state⟩, .inl (congrArg (Report.answer ∘ answer) hout.answer)⟩

/-- Whatever the monitor has done, nobody else's activities come out differently. -/
theorem perform_beside (h : svc.Beside svc') {a : Activity} (ha : a.isMonitoring = false) :
    (svc.perform a).state.Beside (svc'.perform a).state ∧
      (svc.perform a).answer.Agrees (svc'.perform a).answer := by
  match a with
  | .event (.adopt genesis) _ =>
    obtain ⟨hindexer, hstore, hanswer⟩ := svc.indexer.adopt_beside h.store genesis
    simp only [perform, step, h.indexer, hanswer]
    exact ⟨⟨hindexer, hstore⟩, .inl rfl⟩
  | .event (.ingest b) faults =>
    simp only [perform, step, h.indexer]
    exact withStore_beside h (svc.indexer.ingest_beside h.store faults b) .ingested
  | .event (.ingestRaw raw) faults =>
    simp only [perform, step, h.indexer]
    exact withStore_beside h (svc.indexer.ingestRaw_beside h.store faults raw) .ingested
  | .event .createSchema _ => exact withStore_beside h (Store.createSchema_beside h.store) .schema
  | .event .resetDerived _ => exact withStore_beside h (Store.resetDerived_beside h.store) .schema
  | .event .resetForStartup _ =>
    exact withStore_beside h (Store.resetForStartup_beside h.store) .schema
  | .event (.answering answering) _ =>
    exact ⟨⟨h.indexer, Store.setAnswering_beside h.store answering⟩, .inl rfl⟩
  | .event (.refuse rows) _ =>
    exact ⟨⟨h.indexer, Store.refuse_beside h.store rows⟩, .inl rfl⟩
  | .tool arguments =>
    obtain ⟨hstore, hagrees⟩ := Tool.run_beside h.store arguments
    exact ⟨⟨h.indexer, hstore⟩, hagrees⟩

/-- Two services that differ in the monitor go on to do so when only one of them is watched, and
what the others are told agrees. -/
theorem performAll_beside (h : svc.Beside svc') (acts : List Activity) :
    (svc.performAll (acts.filter (!·.isMonitoring))).state.Beside (svc'.performAll acts).state ∧
      List.Forall₂ (fun told told' => told'.1 = told.1 ∧ told.2.Agrees told'.2)
        (svc.performAll (acts.filter (!·.isMonitoring))).answer
        ((svc'.performAll acts).answer.filter (!·.1.isMonitoring)) := by
  induction acts generalizing svc svc' with
  | nil => exact ⟨h, .nil⟩
  | cons a acts ih =>
    cases ha : a.isMonitoring with
    | true =>
      have hwatched : svc.Beside (svc'.perform a).state := h.trans (svc'.perform_of_monitoring ha)
      simpa [performAll, ha] using ih hwatched
    | false =>
      obtain ⟨hstate, hagrees⟩ := perform_beside h ha
      obtain ⟨hrest, hreports⟩ := ih hstate
      simp only [performAll, List.filter_cons, ha, Bool.not_false, if_true]
      exact ⟨hrest, .cons ⟨rfl, hagrees⟩ hreports⟩

/-- **The indexer and the monitor do not disturb each other's tables.**  A run without the monitor
leaves the other tables and the indexer as the whole run does, and everybody else is told the same.
After any run, activities of others touch no row of the monitor; the genesis document is replaced by
new genesis data and a reset at startup alone; creation touches no row; and all tables are there
after a change of the schema, the derived ones empty after a reset. -/
theorem performAll_apart (svc : Service) (acts : List Activity) :
    let own := svc.performAll (acts.filter (!·.isMonitoring))
    let whole := svc.performAll acts
    own.state.Beside whole.state ∧
      List.Forall₂ (fun told told' => told'.1 = told.1 ∧ told.2.Agrees told'.2) own.answer
        (whole.answer.filter (!·.1.isMonitoring)) ∧
      ∀ a : Activity, a.isMonitoring = false →
        let t := whole.state.store.tables
        let t' := (whole.state.perform a).state.store.tables
        rowsOf t'.incidents = rowsOf t.incidents ∧ rowsOf t'.daily = rowsOf t.daily ∧
          (a.replacesGenesis = false → rowsOf t'.genesis = rowsOf t.genesis) ∧
          (a.change? = some .create → t.SameRows t') ∧
          (whole.state.store.answering = true → ∀ change, a.change? = some change →
            (change ≠ .emptyDerived → ∀ name, (t'.sizeOf name).isSome = true) ∧
            (change ≠ .create → ∀ name ∈ TableName.derived, t'.sizeOf name = some 0)) := by
  intro own whole
  obtain ⟨hbeside, hreports⟩ := performAll_beside (.refl svc) acts
  refine ⟨hbeside, hreports, fun a ha => ?_⟩
  obtain ⟨hincidents, hdaily, hgenesis⟩ := whole.state.perform_rows ha
  exact ⟨hincidents, hdaily, hgenesis, whole.state.perform_create,
    fun hs change => whole.state.perform_sizeOf hs⟩

/-- A service without blocks and without summaries of the days. -/
def halfBuilt : Service :=
  { sample with store := { tables := { sample.store.tables with blocks := none, daily := none } } }

/-- The monitor finds the chain lost before the first block arrives; then the tables are reset. -/
def watchedReset : List Activity :=
  [.tool ["create"], .event (.tick ⟨0, false⟩) .none, .history 5,
    .event (.ingest (.sample 2 0 [("a", 4)])) .none, .event .restart .none, .tool ["reset"],
    .tool ["status"], .event (.tick ⟨1, false⟩) .none]

/-- With the monitor there is an incident at the end and without it there is none, which the status
counts; a further reset at startup leaves the incident where it is. -/
theorem performAll_apart_reset :
    let own := halfBuilt.performAll (watchedReset.filter (!·.isMonitoring))
    let whole := halfBuilt.performAll watchedReset
    own.state.store.tables.sizeOf .incidents = some 0 ∧
      whole.state.store.tables.sizeOf .incidents = some 1 ∧
      whole.state.store.tables.blocks = own.state.store.tables.blocks ∧
      rowsOf (whole.state.perform (.event .resetForStartup .none)).state.store.tables.incidents =
        rowsOf whole.state.store.tables.incidents ∧
      ∀ name,
        ((whole.state.perform (.tool ["reset"])).state.store.tables.sizeOf name).isSome = true := by
  intro own whole
  have hown : own.state.store.tables.sizeOf .incidents = some 0 := by decide +kernel
  have hwhole : whole.state.store.tables.sizeOf .incidents = some 1 := by decide +kernel
  have hanswering : whole.state.store.answering = true := by decide +kernel
  obtain ⟨hbeside, -, hothers⟩ := performAll_apart halfBuilt watchedReset
  refine ⟨hown, hwhole, ?_, (hothers (.event .resetForStartup .none) rfl).1, ?_⟩
  · obtain ⟨_, _, hstore⟩ := hbeside.store.monitored
    exact congrArg (·.tables.blocks) hstore
  · obtain ⟨-, -, -, -, hchange⟩ := hothers (.tool ["reset"]) rfl
    exact (hchange hanswering .rebuild (by decide +kernel)).1 (by decide)

end Service

end ChainWatch
