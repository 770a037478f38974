import ChainWatch.Proofs.Segmentation

/-!
# A monitor that takes over

As long as the store answers, a monitor can be replaced at any time by a new one that resumes, and
nobody notices.  All that a look at the chain takes from the looks before it is the current
incident, and that is the open row of the ledger, so a new monitor that resumes reads back exactly
what the former one had in memory.

* `Event.Relieved` : a list of events into which takeovers have been inserted.
* `Service.moments` : what is answered to every event of a run, and the tables after it.
* `Service.Twin` : two services whose monitors have the same settings and the same current incident.
* `Service.step_twin`, `Service.relieve_twin` : an event at both, and a takeover at one of them.
* `Service.moments_of_relieved` : a run with takeovers and the run without them.
-/

namespace ChainWatch

/-- The second list has takeovers between the events of the first: a new monitor, which then
resumes. -/
inductive Event.Relieved : List Event → List Event → Prop
  | nil : Relieved [] []
  | event {es es' : List Event} (e : Event) : Relieved es es' → Relieved (e :: es) (e :: es')
  | relieve {es es' : List Event} : Relieved es es' → Relieved es (.restart :: .resume :: es')

namespace Service

variable {svc svc' : Service} {ledger : Table IncidentRow}

/-! ### Moments -/

/-- An event with its answer and the tables after it. -/
structure Moment where
  event : Event
  answer : Answer
  tables : Tables

/-- Whether a moment belongs to a look at the chain or to a delivery. -/
def Moment.isOwn (x : Moment) : Bool := x.event.isTick || x.event.isDelivery

/-- The moments of a run. -/
def moments (svc : Service) : List Event → List Moment
  | [] => []
  | e :: rest =>
    let out := svc.step e
    ⟨e, out.answer, out.state.store.tables⟩ :: out.state.moments rest

/-! ### Twins -/

/-- Two services that differ at most in what their monitors tell about the last look. -/
structure Twin (svc svc' : Service) : Prop where
  store : svc'.store = svc.store
  indexer : svc'.indexer = svc.indexer
  settings : svc'.monitor.settings = svc.monitor.settings
  current : svc'.monitor.status.currentIncident = svc.monitor.status.currentIncident

theorem Twin.refl (svc : Service) : svc.Twin svc := ⟨rfl, rfl, rfl, rfl⟩

/-- Twins look at the chain alike, and after that there is no difference any more. -/
theorem step_tick_eq (h : svc.Twin svc') (now : Instant) :
    svc'.step (.tick now) = svc.step (.tick now) := by
  obtain ⟨store, indexer, ⟨settings, status⟩⟩ := svc
  obtain ⟨store', indexer', ⟨settings', status'⟩⟩ := svc'
  obtain ⟨rfl, rfl, rfl, hcurrent⟩ := h
  simp only at hcurrent
  simp only [step, Monitor.tick, hcurrent]

/-- Twins take deliveries alike, and their monitors have no part in it. -/
theorem step_delivery_twin {e : Event} (he : e.isDelivery = true) (h : svc.Twin svc') :
    (svc'.step e).answer = (svc.step e).answer ∧ (svc.step e).state.Twin (svc'.step e).state := by
  obtain ⟨store, indexer, monitor⟩ := svc
  obtain ⟨store', indexer', monitor'⟩ := svc'
  obtain ⟨rfl, rfl, hsettings, hcurrent⟩ := h
  cases e with
  | adopt genesis => exact ⟨rfl, rfl, rfl, hsettings, hcurrent⟩
  | ingest b => exact ⟨rfl, rfl, rfl, hsettings, hcurrent⟩
  | ingestRaw raw => exact ⟨rfl, rfl, rfl, hsettings, hcurrent⟩
  | _ => cases he

/-- A look at the chain or a delivery is answered alike by twins, and leaves them twins. -/
theorem step_twin {e : Event} (he : e.isTick = true ∨ e.isDelivery = true) (h : svc.Twin svc') :
    (svc'.step e).answer = (svc.step e).answer ∧ (svc.step e).state.Twin (svc'.step e).state := by
  rcases he with htick | hdelivery
  · cases e with
    | tick now =>
      rw [step_tick_eq h now]
      exact ⟨rfl, Twin.refl _⟩
    | _ => cases htick
  · exact step_delivery_twin hdelivery h

/-- The service after a new monitor has taken over. -/
def relieve (svc : Service) : Service := ((svc.step .restart).state.step .resume).state

@[simp] theorem relieve_store : svc.relieve.store = svc.store := rfl

/-- A monitor that takes over has in memory what the former one had, as far as a look at the chain
goes back to it. -/
theorem relieve_twin (hw : svc.Watched ledger) (h : svc.Twin svc') : svc.Twin svc'.relieve := by
  have hopened := hw.opened
  rw [← h.current] at hopened
  have hledger : svc'.store.HasLedger ledger := by
    rw [h.store]
    exact hw.hasLedger
  have hfind := Store.findAnyOpenIncident_eq hledger hopened
  have hcurrent : svc'.relieve.monitor.status.currentIncident =
      svc'.monitor.status.currentIncident := by
    cases hc : svc'.monitor.status.currentIncident with
    | none =>
      rw [hc] at hfind
      simp only [relieve, step, Monitor.resume, hfind]
    | some incident =>
      rw [hc] at hfind
      simp only [relieve, step, Monitor.resume, hfind]
  have hsettings : svc'.relieve.monitor.settings = svc'.monitor.settings := by
    simp only [relieve, step, Monitor.resume, hfind]
    cases svc'.monitor.status.currentIncident <;> rfl
  exact ⟨h.store, h.indexer, hsettings.trans h.settings, hcurrent.trans h.current⟩

/-! ### Runs -/

theorem moments_twin {es es' : List Event} (hes : ∀ e ∈ es, e.isTick = true ∨ e.isDelivery = true)
    (hrelieved : Event.Relieved es es') (hw : svc.Watched ledger) (h : svc.Twin svc') :
    (svc'.moments es').filter Moment.isOwn = svc.moments es ∧
      (svc'.run es').state.store = (svc.run es).state.store := by
  induction hrelieved generalizing svc svc' ledger with
  | nil => exact ⟨rfl, h.store⟩
  | event e _ ih =>
    rw [List.forall_mem_cons] at hes
    obtain ⟨hanswer, hnext⟩ := step_twin hes.1 h
    obtain ⟨ledger', hw', -⟩ := step_watched hes.1 hw
    obtain ⟨hmoments, hstore⟩ := ih hes.2 hw' hnext
    have hown : Moment.isOwn ⟨e, (svc.step e).answer, (svc.step e).state.store.tables⟩ = true := by
      simpa [Moment.isOwn] using hes.1
    refine ⟨?_, hstore⟩
    simp only [moments, hanswer, hnext.store]
    rw [List.filter_cons_of_pos hown, hmoments]
  | relieve _ ih => exact ih hes hw (relieve_twin hw h)

/-- **Restarts do not show.**  A monitor that knows of no incident begins with an empty ledger on a
store that answers, and looks at the chain at any times while genesis data and blocks arrive.
However often it is replaced on the way by a new monitor that resumes, every look and every delivery
is answered as if it had not been replaced, and leaves the same tables; and the replacements
themselves leave all tables as they are. -/
theorem moments_of_relieved (svc : Service) (hanswering : svc.store.answering = true)
    (hempty : svc.store.tables.incidents = some .empty)
    (hfresh : svc.monitor.status.currentIncident = none) {es es' : List Event}
    (hes : ∀ e ∈ es, e.isTick = true ∨ e.isDelivery = true) (hrelieved : Event.Relieved es es') :
    (svc.moments es').filter Moment.isOwn = svc.moments es ∧
      (svc.run es').state.store = (svc.run es).state.store := by
  have hstart : svc.Watched .empty := by
    rw [Watched, hfresh]
    exact .of_empty ⟨hanswering, hempty⟩
  exact moments_twin hes hrelieved hstart (Twin.refl svc)

/-- The chain is lost and looked at again, a block arrives, the incident has become too old, and the
chain is found. -/
def shifts : List Event :=
  [.tick ⟨100000000000, false⟩, .tick ⟨200000000000, false⟩, .ingest (.sample 6 3700000 []),
    .tick ⟨3800000000000, false⟩, .tick ⟨3701000000000, false⟩]

/-- New monitors take over while nothing is open, between two losses of the chain, and twice after
the block. -/
def relievedShifts : List Event :=
  [.restart, .resume, .tick ⟨100000000000, false⟩, .restart, .resume,
    .tick ⟨200000000000, false⟩, .ingest (.sample 6 3700000 []), .restart, .resume, .restart,
    .resume, .tick ⟨3800000000000, false⟩, .restart, .resume, .tick ⟨3701000000000, false⟩]

theorem relieved_shifts : Event.Relieved shifts relievedShifts :=
  .relieve (.event _ (.relieve (.event _ (.event _ (.relieve (.relieve (.event _
    (.relieve (.event _ .nil)))))))))

theorem moments_of_relieved_shifts :
    sample.store.answering = true ∧ sample.store.tables.incidents = some .empty ∧
      sample.monitor.status.currentIncident = none ∧
      (∀ e ∈ shifts, e.isTick = true ∨ e.isDelivery = true) ∧
      Event.Relieved shifts relievedShifts ∧
      (sample.run relievedShifts).state.store.tables.incidents.map
        (fun ledger => ledger.rows.map (·.duration)) = some [some 3700, some 0] ∧
      (sample.moments relievedShifts).filter Moment.isOwn = sample.moments shifts ∧
      (sample.run relievedShifts).state.store = (sample.run shifts).state.store := by
  have hevents : ∀ e ∈ shifts, e.isTick = true ∨ e.isDelivery = true := by decide
  exact ⟨rfl, rfl, rfl, hevents, relieved_shifts, rfl,
    moments_of_relieved sample rfl rfl rfl hevents relieved_shifts⟩

end Service

end ChainWatch
