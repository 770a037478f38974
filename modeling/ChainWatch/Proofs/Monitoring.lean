import ChainWatch.Proofs.Effect
import ChainWatch.Proofs.Frame

/-!
# What the monitor leaves alone

The monitor writes the ledger and the summaries of the days, and nothing else, whatever it finds and
whether or not the store answers.  Nothing but the monitor writes them.

* `Store.Logged` : what a single write of the ledger does to the store.
* `Store.KeptByLedger`, `Monitor.settle_keeps` : what the writes of the ledger keep, a look at the
  chain keeps until the day is summed up.
* `Monitor.settle_booked` : the ledger is all that has changed until then.
* `Monitor.tick_monitored`, `Monitor.tick_present` : the tables of the monitor are all that has
  changed after a look at the chain, and none of them has come or gone.
* `Service.step_incidents`, `Service.step_daily` : these tables after any other event.
-/

namespace ChainWatch

namespace Store

variable {s s' : Store}

/-- Nothing but the ledger has changed. -/
def Booked (s s' : Store) : Prop := ∃ incidents, s' = s.withTables { s.tables with incidents }

theorem Booked.refl (s : Store) : s.Booked s := ⟨s.tables.incidents, rfl⟩

/-- Nothing but the tables of the monitor has changed. -/
def Monitored (s s' : Store) : Prop :=
  ∃ incidents daily, s' = s.withTables { s.tables with incidents, daily }

theorem Monitored.answering (h : s.Monitored s') : s'.answering = s.answering := by
  obtain ⟨_, _, rfl⟩ := h
  rfl

theorem Monitored.blocks (h : s.Monitored s') : s'.tables.blocks = s.tables.blocks := by
  obtain ⟨_, _, rfl⟩ := h
  rfl

theorem Monitored.derived? (h : s.Monitored s') : s'.tables.derived? = s.tables.derived? := by
  obtain ⟨_, _, rfl⟩ := h
  rfl

/-- Nothing has changed, or the ledger is there and has been written. -/
def Logged (s s' : Store) : Prop :=
  s' = s ∨ ∃ ledger ledger', s.tables.incidents = some ledger ∧
    s' = s.withTables { s.tables with incidents := some ledger' }

theorem ledgerFor_eq_ok {operation : Operation} {t : Tables} {ledger : Table IncidentRow}
    (h : s.ledgerFor operation = .ok (t, ledger)) :
    t = s.tables ∧ s.tables.incidents = some ledger := by
  obtain ⟨t', ht, h⟩ := bind_eq_ok.1 h
  obtain ⟨ledger', hneed, ⟨⟩⟩ := bind_eq_ok.1 h
  exact ⟨bounded_tables ht, (bounded_tables ht) ▸ Tables.need_eq_ok hneed⟩

theorem insertIncident_logged {state : HealthState} {description : String}
    {services : List String} {start : Instant} {incident : Incident}
    (h : s.insertIncident state description services start = .ok (s', incident)) :
    s.Logged s' := by
  obtain ⟨⟨t, ledger⟩, ht, h⟩ := bind_eq_ok.1 h
  obtain ⟨incident', -, ⟨⟩⟩ := bind_eq_ok.1 h
  obtain ⟨rfl, hledger⟩ := ledgerFor_eq_ok ht
  exact .inr ⟨ledger, _, hledger, rfl⟩

theorem closeIncident_logged {incident : Incident} {finish : Instant} {closed : Bool}
    (h : s.closeIncident incident finish = .ok (s', closed)) : s.Logged s' := by
  obtain ⟨⟨t, ledger⟩, ht, h⟩ := bind_eq_ok.1 h
  obtain ⟨rfl, hledger⟩ := ledgerFor_eq_ok ht
  dsimp only at h
  split at h
  next row _ =>
    by_cases hopen : row.isOpen = true
    · rw [if_pos hopen] at h
      cases h
      exact .inr ⟨ledger, _, hledger, rfl⟩
    · rw [if_neg hopen] at h
      cases h
      exact .inl rfl
  next =>
    cases h
    exact .inl rfl

/-- A summary of a day is all that is recorded with it, and for that the table has to be there. -/
theorem recordDaily_store {date : Date} {state : HealthState} {incident : Option String}
    {now : Instant} {merged : DailySummary}
    (h : s.recordDaily date state incident now = .ok (s', merged)) :
    ∃ daily, s' = s.withTables { s.tables with daily } ∧
      daily.isSome = s.tables.daily.isSome := by
  obtain ⟨t, ht, h⟩ := bind_eq_ok.1 h
  obtain ⟨table, hneed, h⟩ := bind_eq_ok.1 h
  obtain ⟨former, -, ⟨⟩⟩ := bind_eq_ok.1 h
  obtain rfl := bounded_tables ht
  exact ⟨_, rfl, by rw [Tables.need_eq_ok hneed]; rfl⟩

/-- Whether a property of stores survives what the monitor writes into the ledger. -/
def KeptByLedger (P : Store → Prop) : Prop := ∀ s s', s.Logged s' → P s → P s'

theorem keptByLedger_booked (s : Store) : KeptByLedger s.Booked := by
  rintro _ _ (rfl | ⟨ledger, ledger', -, rfl⟩) ⟨incidents, rfl⟩
  · exact ⟨incidents, rfl⟩
  · exact ⟨some ledger', rfl⟩

/-- The ledger is there after a write exactly if it was there before. -/
theorem keptByLedger_present (present : Bool) :
    KeptByLedger fun s => s.tables.incidents.isSome = present := by
  rintro s _ (rfl | ⟨ledger, ledger', hledger, rfl⟩) hpresent
  · exact hpresent
  · rwa [hledger] at hpresent

end Store

namespace Monitor

variable (settings : HealthSettings) (s : Store) (current : Option Incident) (state : HealthState)
  (report : LivenessReport) (now : Instant)

section Keeps

variable {P : Store → Prop} (hP : Store.KeptByLedger P) {s} (h : P s)
include hP h

theorem supersede_keeps (incident : Incident) : P (supersede s incident now).1 := by
  unfold supersede
  split
  next hclose => exact hP _ _ (Store.closeIncident_logged hclose) h
  next hclose => exact hP _ _ (Store.closeIncident_logged hclose) h
  next => exact h

theorem openIncident_keeps : P (openIncident s state report now).state := by
  unfold openIncident
  split
  next hinsert => exact hP _ _ (Store.insertIncident_logged hinsert) h
  next => exact h

theorem adoptOrOpen_keeps : P (adoptOrOpen settings s state report now).state := by
  unfold adoptOrOpen
  split
  next found _ =>
    split
    · exact h
    · exact openIncident_keeps state report now hP (supersede_keeps now hP h found)
  next => exact openIncident_keeps state report now hP h
  next => exact openIncident_keeps state report now hP h

theorem raise_keeps : P (raise settings s current state report now).state := by
  unfold raise
  split
  next => exact adoptOrOpen_keeps settings state report now hP h
  next incident =>
    split
    · exact h
    · exact adoptOrOpen_keeps settings state report now hP (supersede_keeps now hP h incident)

theorem resolve_keeps : P (resolve s current now).state := by
  unfold resolve
  split
  next => exact h
  next incident =>
    split
    next hclose => exact hP _ _ (Store.closeIncident_logged hclose) h
    next => exact h

/-- What the writes of the ledger keep, a look at the chain keeps until the day is summed up. -/
theorem settle_keeps : P (settle settings s current report now).state := by
  unfold settle
  split
  · exact resolve_keeps current now hP h
  · exact raise_keeps settings current .red report now hP h

end Keeps

theorem settle_booked : s.Booked (settle settings s current report now).state :=
  settle_keeps settings current report now s.keptByLedger_booked (Store.Booked.refl s)

theorem recordDay_written (status : HealthStatus) :
    ∃ daily, (recordDay s status now).1 = s.withTables { s.tables with daily } ∧
      daily.isSome = s.tables.daily.isSome := by
  unfold recordDay
  split
  next hrecord => exact Store.recordDaily_store hrecord
  next => exact ⟨s.tables.daily, rfl, rfl⟩

theorem recordDay_store (status : HealthStatus) :
    ∃ daily, (recordDay s status now).1 = s.withTables { s.tables with daily } :=
  (recordDay_written s now status).imp fun _ => And.left

/-- A look at the chain writes the tables of the monitor and nothing else. -/
theorem tick_monitored (m : Monitor) : s.Monitored (m.tick s now).state.2 := by
  let out := settle m.settings s m.status.currentIncident (s.probe m.settings now).1 now
  obtain ⟨incidents, hincidents⟩ : s.Booked out.state := settle_booked m.settings s _ _ now
  obtain ⟨daily, hdaily⟩ := recordDay_store out.state now (m.tick s now).answer
  refine ⟨incidents, daily, hdaily.trans ?_⟩
  rw [hincidents]
  rfl

/-- After a look at the chain, the tables of the monitor are there exactly if they were before. -/
theorem tick_present (m : Monitor) :
    (m.tick s now).state.2.tables.incidents.isSome = s.tables.incidents.isSome ∧
      (m.tick s now).state.2.tables.daily.isSome = s.tables.daily.isSome := by
  let out := settle m.settings s m.status.currentIncident (s.probe m.settings now).1 now
  have hincidents : out.state.tables.incidents.isSome = s.tables.incidents.isSome :=
    settle_keeps m.settings _ _ now (Store.keptByLedger_present _) rfl
  obtain ⟨incidents, hbooked⟩ : s.Booked out.state := settle_booked m.settings s _ _ now
  obtain ⟨daily, hstore, hdaily⟩ := recordDay_written out.state now (m.tick s now).answer
  have hafter : (m.tick s now).state.2 = out.state.withTables { out.state.tables with daily } :=
    hstore
  rw [hafter]
  refine ⟨hincidents, hdaily.trans ?_⟩
  rw [hbooked]
  rfl

end Monitor

/-! ### What leaves the tables of the monitor alone -/

namespace Service

variable {svc : Service}

/-- An event that is no look at the chain creates the tables of the monitor if they are missing, or
leaves them as they are. -/
theorem step_created {e : Event} (he : e.isTick = false) :
    ∃ t, (t = svc.store.tables ∨ t = svc.store.tables.createAll) ∧
      (svc.step e).state.store.tables.incidents = t.incidents ∧
      (svc.step e).state.store.tables.daily = t.daily := by
  have hdelivered : ∀ e : Event, e.isDelivery = true →
      ∃ t, (t = svc.store.tables ∨ t = svc.store.tables.createAll) ∧
        (svc.step e).state.store.tables.incidents = t.incidents ∧
        (svc.step e).state.store.tables.daily = t.daily := by
    intro e he
    obtain ⟨-, -, hincidents, hdaily⟩ := svc.step_of_delivery he .none
    exact ⟨_, .inl rfl, hincidents, hdaily⟩
  cases e with
  | adopt genesis => exact hdelivered (.adopt genesis) rfl
  | ingest b => exact hdelivered (.ingest b) rfl
  | ingestRaw raw => exact hdelivered (.ingestRaw raw) rfl
  | tick now => cases he
  | createSchema =>
    simp only [step, withStore, Store.createSchema]
    split
    next t ht =>
      obtain rfl := Store.access_tables ht
      exact ⟨_, .inr rfl, rfl, rfl⟩
    next => exact ⟨_, .inl rfl, rfl, rfl⟩
  | resetDerived =>
    simp only [step, withStore, Store.resetDerived]
    split <;> exact ⟨_, .inl rfl, rfl, rfl⟩
  | resetForStartup =>
    simp only [step, withStore, Store.resetForStartup]
    split
    next t ht =>
      obtain rfl := Store.access_tables ht
      exact ⟨_, .inr rfl, rfl, rfl⟩
    next => exact ⟨_, .inl rfl, rfl, rfl⟩
  | _ => exact ⟨_, .inl rfl, rfl, rfl⟩

/-- The ledger stays as it is in every event but a look at the chain. -/
theorem step_incidents {e : Event} (he : e.isTick = false) {ledger : Table IncidentRow}
    (h : svc.store.tables.incidents = some ledger) :
    (svc.step e).state.store.tables.incidents = some ledger := by
  obtain ⟨t, rfl | rfl, hincidents, -⟩ := svc.step_created he
  · exact hincidents.trans h
  · rw [hincidents, Tables.createAll, h, Option.getD_some]

/-- So do the summaries of the days. -/
theorem step_daily {e : Event} (he : e.isTick = false) {daily : Table DailyRow}
    (h : svc.store.tables.daily = some daily) :
    (svc.step e).state.store.tables.daily = some daily := by
  obtain ⟨t, rfl | rfl, -, hdaily⟩ := svc.step_created he
  · exact hdaily.trans h
  · rw [hdaily, Tables.createAll, h, Option.getD_some]

end Service

end ChainWatch
