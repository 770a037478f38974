import ChainWatch.Proofs.Service

/-!
# A failed block leaves no trace

Whatever accesses fail, and wherever the work on a block stops, the savepoints of the storage
transaction stay as they were when it began: the one of an action's row is gone again after the row,
however it ended.  So the rollback at the end finds the tables that the work has started from.

* `Workspace.guarded_saved`, `Workspace.guarded_tables_of_error` : a write under a savepoint of its
  own leaves the outer savepoints alone, and leaves nothing at all if it fails.
* `Script.run_saved` : the savepoints after any part of the work.
* `Store.process_cases` : a block gives the store back as it was, or all its steps have succeeded.
* `Service.step_state_of_failed_delivery` : so does every failed delivery that does not start the
  chain over.
-/

namespace ChainWatch

/-! ### Savepoints -/

namespace Workspace

variable (w : Workspace) (faults : Faults) (write : Tables → Except StoreError Tables)

@[simp] theorem access_saved : (w.access faults write).1.saved = w.saved := by
  unfold access
  split
  · rfl
  · split <;> rfl

theorem access_tables_of_idle : (w.access faults .ok).1.tables = w.tables := by
  unfold access
  split <;> rfl

@[simp] theorem setPoint_tables : (w.setPoint faults).1.tables = w.tables := by
  have hidle := w.access_tables_of_idle faults
  unfold setPoint
  split
  next h => rw [h] at hidle; exact hidle
  next => exact hidle

variable {w faults} {error : StoreError}

theorem setPoint_saved (h : (w.setPoint faults).2 = none) :
    (w.setPoint faults).1.saved = w.tables :: w.saved := by
  have htables := w.access_tables_of_idle faults
  have hsaved := w.access_saved faults .ok
  rcases hc : w.access faults .ok with ⟨w', _ | e⟩
  · rw [hc] at htables hsaved
    simp only [setPoint, hc]
    rw [← htables, ← hsaved]
  · simp [setPoint, hc] at h

theorem setPoint_saved_of_error (h : (w.setPoint faults).2 = some error) :
    (w.setPoint faults).1.saved = w.saved := by
  unfold setPoint at h ⊢
  split
  next hc => rw [hc] at h; cases h
  next => exact w.access_saved faults .ok

theorem release_saved (h : (w.release faults).2 = none) :
    (w.release faults).1.saved = w.saved.tail := by
  have hsaved := w.access_saved faults .ok
  rcases hc : w.access faults .ok with ⟨w', _ | e⟩
  · rw [hc] at hsaved
    simp only [release, hc]
    rw [← hsaved]
  · simp [release, hc] at h

/-- A savepoint that cannot be released is still there. -/
theorem release_saved_of_error (h : (w.release faults).2 = some error) :
    (w.release faults).1.saved = w.saved := by
  unfold release at h ⊢
  split
  next hc => rw [hc] at h; cases h
  next => exact w.access_saved faults .ok

theorem rollBack_of_saved {t : Tables} {saved : List Tables} (h : w.saved = t :: saved) :
    w.rollBack.tables = t ∧ w.rollBack.saved = saved := by
  unfold rollBack
  rw [h]
  exact ⟨rfl, rfl⟩

variable (w faults)

/-- A write under a savepoint of its own leaves the savepoints around it as they were, and if it
fails, the tables too. -/
theorem guarded_spec : (w.guarded faults write).1.saved = w.saved ∧
    ∀ error, (w.guarded faults write).2 = some error →
      (w.guarded faults write).1.tables = w.tables := by
  unfold guarded
  split
  next w₁ e h =>
    have hs := setPoint_saved_of_error (congrArg Prod.snd h)
    have ht := w.setPoint_tables faults
    rw [h] at hs ht
    exact ⟨hs, fun _ _ => ht⟩
  next w₁ h =>
    have hset := setPoint_saved (congrArg Prod.snd h)
    rw [h] at hset
    have hwrite := w₁.access_saved faults write
    split
    next w₂ e h₂ =>
      rw [h₂] at hwrite
      obtain ⟨ht, hs⟩ := rollBack_of_saved (hwrite.trans hset)
      exact ⟨hs, fun _ _ => ht⟩
    next w₂ h₂ =>
      rw [h₂] at hwrite
      split
      next w₃ e h₃ =>
        have hkept := release_saved_of_error (congrArg Prod.snd h₃)
        rw [h₃] at hkept
        obtain ⟨ht, hs⟩ := rollBack_of_saved (hkept.trans (hwrite.trans hset))
        exact ⟨hs, fun _ _ => ht⟩
      next w₃ h₃ =>
        have hdone := release_saved (congrArg Prod.snd h₃)
        rw [h₃, hwrite, hset] at hdone
        exact ⟨hdone, nofun⟩

@[simp] theorem guarded_saved : (w.guarded faults write).1.saved = w.saved :=
  (w.guarded_spec faults write).1

variable {w faults write}

theorem guarded_tables_of_error (h : (w.guarded faults write).2 = some error) :
    (w.guarded faults write).1.tables = w.tables :=
  (w.guarded_spec faults write).2 error h

end Workspace

/-! ### The work on a block -/

namespace Progress

variable {p : Progress}

@[simp] theorem afterAction_work (row : ActionRow) (out : Workspace × Option StoreError) :
    (p.afterAction row out).work = out.1 := by
  obtain ⟨w, _ | _⟩ := out <;> rfl

@[simp] theorem afterWrite_work (out : Workspace × Option StoreError) :
    (p.afterWrite out).1.work = out.1 := by
  obtain ⟨w, _ | _⟩ := out <;> rfl

end Progress

variable (refuses : ActionRow → Bool) (faults : Faults) (p : Progress)

/-- A step leaves the savepoints as they are, whether or not it succeeds. -/
theorem IngestStep.take_saved (step : IngestStep) :
    (step.take refuses faults p).1.work.saved = p.work.saved := by
  cases step with
  | report line => rfl
  | writeAction row => simp [take]
  | writeSide place row =>
    have hs := p.work.access_saved faults (·.writeSide row)
    simp only [take]
    split
    next h => rw [h] at hs; exact hs
    next h => rw [h] at hs; exact hs
  | refuse place error => rfl
  | writeTransaction row => simp [take]
  | refreshVolume code => simp [take]
  | writeBlock row => simp [take]

/-- The work on a block leaves the savepoints as they are, however far it comes. -/
theorem Script.run_saved (script : Script) :
    (script.run refuses faults p).1.work.saved = p.work.saved := by
  induction script generalizing p with
  | nil => rfl
  | cons step rest ih =>
    have hs := step.take_saved refuses faults p
    unfold run
    split
    next h => rw [ih, ← hs, h]
    next => exact hs

variable {faults} {s : Store} {registry : Registry} {decoder : Decoder} {b : Block}
  {error : IngestError}

theorem Store.bounded_tables {operation : Operation} {t : Tables}
    (h : s.bounded operation = .ok t) : t = s.tables := by
  unfold bounded at h
  split at h
  · exact (Except.ok.inj h).symm
  · split at h <;> cases h

/-- A block that does not get to the end of its storage transaction gives the store back as it was.
Any other has begun the transaction, taken all its steps and completed the transaction. -/
theorem Store.process_cases :
    ((∃ error, (s.process registry decoder b faults).answer = .error error) ∧
        (s.process registry decoder b faults).state = s) ∨
      ∃ w p w', Workspace.setPoint { tables := s.tables } faults = (w, none) ∧
        (Script.ofBlock registry decoder b).run s.refuses faults { work := w } = (p, none) ∧
        p.work.release faults = (w', none) ∧
        (s.process registry decoder b faults).state = s.withTables w'.tables ∧
        (s.process registry decoder b faults).answer = .ok {
          height := b.height, totals := .of (b.executed decoder)
          actionsWritten := p.written, actionsFailed := p.failed } := by
  have hback : s.withTables s.tables = s := rfl
  cases hbegin : s.bounded .beginBlock with
  | error e =>
    left
    simp only [process, hbegin]
    exact ⟨⟨_, rfl⟩, trivial⟩
  | ok t =>
    obtain rfl := bounded_tables hbegin
    rcases hset : Workspace.setPoint { tables := s.tables } faults with ⟨w, _ | e⟩
    · -- the one savepoint that is open while the steps are taken
      have hw : w.saved = [s.tables] := by
        have hsaved := Workspace.setPoint_saved (congrArg Prod.snd hset)
        rwa [hset] at hsaved
      have hkept := (Script.ofBlock registry decoder b).run_saved s.refuses faults { work := w }
      rcases hrun : (Script.ofBlock registry decoder b).run s.refuses faults { work := w }
        with ⟨p, _ | e⟩
      · rw [hrun] at hkept
        rcases hcommit : p.work.release faults with ⟨w', _ | e⟩
        · right
          refine ⟨w, p, w', rfl, hrun, hcommit, ?_⟩
          simp only [process, hbegin, hset, hrun, hcommit]
          exact ⟨trivial, trivial⟩
        · left
          have hstill := Workspace.release_saved_of_error (congrArg Prod.snd hcommit)
          rw [hcommit] at hstill
          have hrollBack := Workspace.rollBack_of_saved (hstill.trans (hkept.trans hw))
          simp only [process, hbegin, hset, hrun, hcommit, hrollBack.1, hback]
          exact ⟨⟨_, rfl⟩, trivial⟩
      · left
        rw [hrun] at hkept
        have hrollBack := Workspace.rollBack_of_saved (hkept.trans hw)
        simp only [process, hbegin, hset, hrun, hrollBack.1, hback]
        exact ⟨⟨_, rfl⟩, trivial⟩
    · left
      have htables := Workspace.setPoint_tables { tables := s.tables } faults
      rw [hset] at htables
      simp only [process, hbegin, hset]
      exact ⟨⟨_, rfl⟩, (congrArg s.withTables htables).trans hback⟩

/-- A block that fails gives the store back as it was. -/
theorem Store.process_state_of_error
    (h : (s.process registry decoder b faults).answer = .error error) :
    (s.process registry decoder b faults).state = s := by
  rcases process_cases (s := s) with ⟨-, hstate⟩ | ⟨w, p, w', -, -, -, -, hanswer⟩
  · exact hstate
  · rw [hanswer] at h
    cases h

@[simp] theorem Store.processReported_state :
    (s.processReported registry decoder b faults).state =
      (s.process registry decoder b faults).state := by
  unfold processReported
  dsimp only
  split <;> rfl

@[simp] theorem Store.processReported_answer :
    (s.processReported registry decoder b faults).answer =
      (s.process registry decoder b faults).answer := by
  unfold processReported
  dsimp only
  split <;> rfl

theorem Store.ingest_state_of_error (hb : b.isGenesis = false)
    (h : (s.ingest registry decoder b faults).answer = .error error) :
    (s.ingest registry decoder b faults).state = s := by
  simp only [ingest, hb, Bool.false_eq_true, ↓reduceIte, processReported_answer,
    processReported_state] at h ⊢
  exact process_state_of_error h

/-! ### Deliveries -/

namespace Service

variable {svc : Service}

/-- **A failed delivery leaves no trace.**  Whatever the store is like, and whichever accesses fail,
a block or the bytes of a block that are refused with any error leave the service as it was: all
nine tables and the decoder. -/
theorem step_state_of_failed_delivery {e : Event} {faults : Faults} {error : IngestError}
    (hgenesis : e.startsOver svc.indexer = false)
    (h : (svc.step e faults).answer = .ingested (.error error)) :
    (svc.step e faults).state = svc := by
  rcases step_cases h with hstate | ⟨decoder, b, hdecoder, hb⟩
  · exact hstate
  · have hnot : b.isGenesis = false := by
      rwa [Event.startsOver, hb, Option.any_some] at hgenesis
    have hstep := step_eq_ingest faults hdecoder hb
    rw [hstep, withStore, Answer.ingested.injEq] at h
    rw [hstep, withStore, Store.ingest_state_of_error hnot h]

/-- The row of the first action is lost, and the handler of the second refuses the block. -/
theorem step_state_of_refused_asset :
    let e : Event := .ingest (.sample 6 0 [("fine", 0), ("broken", 4)])
    let faults : Faults := fun n => if n = 2 then some .noConnection else none
    let error : IngestError :=
      .handler "broken" 0 (.field (.missing "CreateAsset" "asset_address"))
    e.startsOver sample.indexer = false ∧
      (sample.step e faults).answer = .ingested (.error error) ∧
      (sample.step e faults).state = sample :=
  ⟨rfl, rfl, step_state_of_failed_delivery rfl rfl⟩

end Service

end ChainWatch
