import ChainWatch.Proofs.Rollback

/-!
# What blocks leave alone

Blocks fill the derived tables and have nothing to do with the others, whatever the store is like
and whichever accesses fail: they neither read nor write them.  So the work on a block is the same
whatever the other tables hold, and they hold the same after it.  The tables of the monitor are
among the others, so a delivery does not disturb it.

* `Tables.kept`, `Tables.withKept` : the tables that blocks do not fill, and others in their place.
* `Workspace.access_withKept`, … : the single operations, with other contents of these tables.
* `Script.run_withKept`, `Store.ingest_withKept` : the work on a block, with other contents.
* `Store.process_alike` : the work on a block leaves these tables as they are.
* `Service.step_of_delivery` : a delivery leaves the monitor and its tables as they are.
-/

namespace ChainWatch

/-- The tables that blocks do not fill. -/
def Tables.kept (t : Tables) :
    Option (Table GenesisRow) × Option (Table IncidentRow) × Option (Table DailyRow) :=
  (t.genesis, t.incidents, t.daily)

/-- The tables with those that blocks do not fill taken over from other tables. -/
def Tables.withKept (t u : Tables) : Tables :=
  { t with genesis := u.genesis, incidents := u.incidents, daily := u.daily }

/-- Whether a write neither reads nor changes the tables that blocks do not fill. -/
def SparesOthers (write : Tables → Except StoreError Tables) : Prop :=
  ∀ t u, write (t.withKept u) = (write t).map (·.withKept u)

/-! ### Single writes -/

theorem bind_eq_ok {ε α β : Type} {x : Except ε α} {f : α → Except ε β} {b : β} :
    (x >>= f) = .ok b ↔ ∃ a, x = .ok a ∧ f a = .ok b := by
  cases x with
  | error e => simp [bind, Except.bind]
  | ok a => simp [bind, Except.bind]

theorem bind_eq_error {ε α β : Type} {x : Except ε α} {f : α → Except ε β} {e : ε} :
    (x >>= f) = .error e ↔ x = .error e ∨ ∃ a, x = .ok a ∧ f a = .error e := by
  cases x with
  | error e' => simp [bind, Except.bind]
  | ok a => simp [bind, Except.bind]

namespace Tables

theorem need_eq_ok {ρ κ : Type} [Keyed ρ κ] [KeyOrder κ] {name : TableName}
    {t : Option (Table ρ)} {table : Table ρ} (h : need name t = .ok table) : t = some table := by
  cases t with
  | none => cases h
  | some other =>
    cases h
    rfl

theorem writeAction_sparesOthers (refuses : ActionRow → Bool) (row : ActionRow) :
    SparesOthers (·.writeAction refuses row) := by
  rintro ⟨b, tx, _ | a, as, st, v, g, i, d⟩ u
  · rfl
  · by_cases hr : refuses row = true <;>
      simp only [writeAction, withKept, need, hr, bind, Except.bind, pure, Except.pure,
        Except.map, Bool.false_eq_true, ↓reduceIte]

theorem writeSide_sparesOthers (row : SideRow) : SparesOthers (·.writeSide row) := by
  rintro ⟨b, tx, a, as, st, v, g, i, d⟩ u
  cases row with
  | asset row => cases as <;> rfl
  | stake row => cases st <;> rfl

theorem writeTransaction_sparesOthers (row : TransactionRow) :
    SparesOthers (·.writeTransaction row) := by
  rintro ⟨b, _ | tx, a, as, st, v, g, i, d⟩ u <;> rfl

theorem refreshVolume_sparesOthers (code : Nat) : SparesOthers (·.refreshVolume code) := by
  rintro ⟨b, tx, a, as, st, v, g, i, d⟩ u
  cases a <;> cases v <;> rfl

theorem writeBlock_sparesOthers (row : BlockRow) : SparesOthers (·.writeBlock row) := by
  rintro ⟨_ | b, tx, a, as, st, v, g, i, d⟩ u <;> rfl

end Tables

/-! ### Workspaces -/

namespace Workspace

/-- A workspace with the tables that blocks do not fill taken over from other tables, now and at
every savepoint. -/
def withKept (w : Workspace) (u : Tables) : Workspace :=
  { w with tables := w.tables.withKept u, saved := w.saved.map (·.withKept u) }

variable (w : Workspace) (faults : Faults) (u : Tables)
  {write : Tables → Except StoreError Tables}

theorem access_withKept (hwrite : SparesOthers write) :
    (w.withKept u).access faults write =
      ((w.access faults write).1.withKept u, (w.access faults write).2) := by
  have htables : (w.withKept u).tables = w.tables.withKept u := rfl
  have haccesses : (w.withKept u).accesses = w.accesses := rfl
  simp only [access, htables, haccesses, hwrite w.tables u]
  cases faults w.accesses with
  | some error => rfl
  | none => cases write w.tables <;> rfl

theorem sparesOthers_ok : SparesOthers .ok := fun _ _ => rfl

theorem setPoint_withKept : (w.withKept u).setPoint faults =
    ((w.setPoint faults).1.withKept u, (w.setPoint faults).2) := by
  simp only [setPoint, w.access_withKept faults u sparesOthers_ok]
  rcases w.access faults .ok with ⟨w', _ | error⟩ <;> rfl

theorem release_withKept : (w.withKept u).release faults =
    ((w.release faults).1.withKept u, (w.release faults).2) := by
  simp only [release, w.access_withKept faults u sparesOthers_ok]
  rcases w.access faults .ok with ⟨⟨t, _ | ⟨t', saved⟩, n⟩, _ | error⟩ <;> rfl

theorem rollBack_withKept : (w.withKept u).rollBack = w.rollBack.withKept u := by
  obtain ⟨t, _ | ⟨t', saved⟩, n⟩ := w <;> rfl

theorem guarded_withKept (hwrite : SparesOthers write) :
    (w.withKept u).guarded faults write =
      ((w.guarded faults write).1.withKept u, (w.guarded faults write).2) := by
  simp only [guarded, setPoint_withKept]
  rcases w.setPoint faults with ⟨w₁, _ | error⟩
  · simp only [access_withKept w₁ faults u hwrite]
    rcases w₁.access faults write with ⟨w₂, _ | error⟩
    · simp only [release_withKept]
      rcases w₂.release faults with ⟨w₃, _ | error⟩
      · rfl
      · simp only [rollBack_withKept]
    · simp only [rollBack_withKept]
  · rfl

end Workspace

/-! ### The work on a block -/

/-- Work with the tables that blocks do not fill taken over from other tables. -/
def Progress.withKept (p : Progress) (u : Tables) : Progress :=
  { p with work := p.work.withKept u }

section Work

variable (refuses : ActionRow → Bool) (faults : Faults) (p : Progress) (u : Tables)

theorem Progress.afterWrite_withKept (out : Workspace × Option StoreError) :
    (p.withKept u).afterWrite (out.1.withKept u, out.2) =
      ((p.afterWrite out).1.withKept u, (p.afterWrite out).2) := by
  obtain ⟨w, _ | error⟩ := out <;> rfl

theorem Progress.afterAction_withKept (row : ActionRow) (out : Workspace × Option StoreError) :
    (p.withKept u).afterAction row (out.1.withKept u, out.2) =
      (p.afterAction row out).withKept u := by
  obtain ⟨w, _ | error⟩ := out <;> rfl

theorem IngestStep.take_withKept (step : IngestStep) :
    step.take refuses faults (p.withKept u) =
      ((step.take refuses faults p).1.withKept u, (step.take refuses faults p).2) := by
  have hwork : (p.withKept u).work = p.work.withKept u := rfl
  cases step with
  | report line => rfl
  | refuse place error => rfl
  | writeAction row =>
    simp only [take, hwork, Progress.afterAction_withKept,
      p.work.guarded_withKept faults u (Tables.writeAction_sparesOthers refuses row)]
  | writeSide place row =>
    simp only [take, hwork, p.work.access_withKept faults u (Tables.writeSide_sparesOthers row)]
    rcases p.work.access faults (·.writeSide row) with ⟨w, _ | error⟩ <;> rfl
  | writeTransaction row =>
    simp only [take, hwork, Progress.afterWrite_withKept,
      p.work.access_withKept faults u (Tables.writeTransaction_sparesOthers row)]
  | refreshVolume code =>
    simp only [take, hwork, Progress.afterWrite_withKept,
      p.work.access_withKept faults u (Tables.refreshVolume_sparesOthers code)]
  | writeBlock row =>
    simp only [take, hwork, Progress.afterWrite_withKept,
      p.work.access_withKept faults u (Tables.writeBlock_sparesOthers row)]

/-- However far the work on a block comes, it does not depend on the tables that blocks do not
fill. -/
theorem Script.run_withKept (script : Script) :
    script.run refuses faults (p.withKept u) =
      ((script.run refuses faults p).1.withKept u, (script.run refuses faults p).2) := by
  induction script generalizing p with
  | nil => rfl
  | cons step rest ih =>
    simp only [run, IngestStep.take_withKept]
    rcases step.take refuses faults p with ⟨p', _ | error⟩
    · exact ih p'
    · rfl

end Work

namespace Store

variable {s : Store} {registry : Registry} {decoder : Decoder} {b : Block} {faults : Faults}

/-- The state of a store as far as blocks have nothing to do with it. -/
structure Alike (s s' : Store) : Prop where
  kept : s'.tables.kept = s.tables.kept
  answering : s'.answering = s.answering
  limit : s'.limit = s.limit

theorem Alike.refl (s : Store) : s.Alike s := ⟨rfl, rfl, rfl⟩

/-- A store with the tables that blocks do not fill taken over from other tables. -/
def withKept (s : Store) (u : Tables) : Store := s.withTables (s.tables.withKept u)

theorem bounded_withKept (u : Tables) (operation : Operation) :
    (s.withKept u).bounded operation = (s.bounded operation).map (·.withKept u) := by
  obtain ⟨t, refuses, _ | _, limit⟩ := s
  · by_cases hlimit : connectionWait.nanos ≤ limit.nanos <;>
      simp [bounded, withKept, withTables, hlimit, Except.map]
  · rfl

/-- The work on a block does not depend on the tables that blocks do not fill. -/
theorem process_withKept (u : Tables) :
    (s.withKept u).process registry decoder b faults =
      { s.process registry decoder b faults with
        state := (s.process registry decoder b faults).state.withKept u } := by
  have hstart : ∀ t : Tables, ({ tables := t.withKept u } : Workspace) =
      Workspace.withKept { tables := t } u := fun _ => rfl
  have hbegun : ∀ w : Workspace, ({ work := w.withKept u } : Progress) =
      Progress.withKept { work := w } u := fun _ => rfl
  have hrefuses : (s.withKept u).refuses = s.refuses := rfl
  simp only [process, bounded_withKept, hrefuses]
  cases s.bounded .beginBlock with
  | error error => rfl
  | ok t =>
    simp only [Except.map, hstart, Workspace.setPoint_withKept]
    rcases Workspace.setPoint { tables := t } faults with ⟨w, _ | error⟩
    · simp only [hbegun, Script.run_withKept]
      rcases (Script.ofBlock registry decoder b).run s.refuses faults { work := w }
        with ⟨p, _ | error⟩
      · simp only [Progress.withKept, Workspace.release_withKept]
        rcases p.work.release faults with ⟨w', _ | error⟩
        · rfl
        · simp only [Workspace.rollBack_withKept]
          rfl
      · simp only [Progress.withKept, Workspace.rollBack_withKept]
        rfl
    · rfl

theorem processReported_withKept (u : Tables) :
    (s.withKept u).processReported registry decoder b faults =
      { s.processReported registry decoder b faults with
        state := (s.processReported registry decoder b faults).state.withKept u } := by
  simp only [processReported, process_withKept]
  split <;> rfl

theorem startOver_withKept (u : Tables) :
    (s.withKept u).startOver = { s.startOver with state := s.startOver.state.withKept u } := by
  simp only [startOver, bounded_withKept]
  cases s.bounded .genesisReset <;> rfl

/-- A block is taken in the same way whatever the tables hold that blocks do not fill. -/
theorem ingest_withKept (u : Tables) :
    (s.withKept u).ingest registry decoder b faults =
      { s.ingest registry decoder b faults with
        state := (s.ingest registry decoder b faults).state.withKept u } := by
  simp only [ingest, startOver_withKept, processReported_withKept]
  split
  · rcases s.startOver with ⟨s', _ | error, log⟩
    · rfl
    · simp only [processReported_withKept]
  · rfl

/-- The work on a block leaves the tables alone that blocks do not fill. -/
theorem process_alike : s.Alike (s.process registry decoder b faults).state := by
  -- these tables may be taken over from the store itself
  have hkept : (s.process registry decoder b faults).state.tables.kept = s.tables.kept :=
    congrArg (fun out => out.state.tables.kept) (process_withKept s.tables)
  rcases process_cases (s := s) with ⟨-, hstate⟩ | ⟨w, p, w', -, -, -, hstate, -⟩
  · rw [hstate]
    exact Alike.refl s
  · exact ⟨hkept, by rw [hstate]; rfl, by rw [hstate]; rfl⟩

theorem processReported_alike : s.Alike (s.processReported registry decoder b faults).state := by
  rw [processReported_state]
  exact process_alike

theorem clearDerived_alike : s.Alike s.clearDerived := ⟨rfl, rfl, rfl⟩

theorem Alike.trans {s s' s'' : Store} (h : s.Alike s') (h' : s'.Alike s'') : s.Alike s'' :=
  ⟨h'.kept.trans h.kept, h'.answering.trans h.answering, h'.limit.trans h.limit⟩

theorem startOver_alike : s.Alike s.startOver.state := by
  unfold startOver
  dsimp only
  split
  · exact Alike.refl s
  · exact clearDerived_alike

theorem ingest_alike : s.Alike (s.ingest registry decoder b faults).state := by
  unfold ingest
  dsimp only
  split
  · have hstart := s.startOver_alike
    split
    next hc =>
      rw [hc] at hstart
      exact hstart
    next hc =>
      rw [hc] at hstart
      exact hstart.trans processReported_alike
  · exact processReported_alike

/-- A document that is stored takes the place of all others. -/
theorem storeGenesis_eq_ok {s' : Store} {genesis : Bytes} (h : s.storeGenesis genesis = .ok s') :
    ∃ table, s.tables.genesis = some table ∧ s' = s.withTables { s.tables with
      genesis := some (Table.empty.upsert ⟨table.nextGenesisId, genesisDocument genesis⟩) } := by
  obtain ⟨t, ht, h⟩ := bind_eq_ok.1 h
  obtain rfl := bounded_tables ht
  obtain ⟨t', hreplace, ⟨⟩⟩ := bind_eq_ok.1 h
  obtain ⟨table, htable, ⟨⟩⟩ := bind_eq_ok.1 hreplace
  exact ⟨table, Tables.need_eq_ok htable, rfl⟩

end Store

namespace Indexer

variable (ix : Indexer) (s : Store) (faults : Faults)

theorem ingest_alike (b : Block) : s.Alike (ix.ingest s b faults).state := by
  unfold ingest
  split
  · exact Store.Alike.refl s
  · exact Store.ingest_alike

theorem ingestRaw_alike (raw : Bytes) : s.Alike (ix.ingestRaw s raw faults).state := by
  unfold ingestRaw
  split
  · exact Store.Alike.refl s
  · split
    · exact Store.Alike.refl s
    · exact Store.ingest_alike

/-- Genesis data changes the stored genesis document only. -/
theorem adopt_tables (genesis : Bytes) :
    ∃ table, (ix.adopt s genesis).state.2 =
      s.withTables { s.tables with genesis := table } := by
  unfold adopt
  split
  next => exact ⟨s.tables.genesis, rfl⟩
  next decoder _ =>
    split
    next => exact ⟨s.tables.genesis, rfl⟩
    next s' hs' =>
      obtain ⟨table, -, rfl⟩ := Store.storeGenesis_eq_ok hs'
      exact ⟨_, rfl⟩

end Indexer

/-- A delivery leaves the monitor and its tables as they are. -/
theorem Service.step_of_delivery (svc : Service) {e : Event} (h : e.isDelivery = true)
    (faults : Faults) :
    (svc.step e faults).state.monitor = svc.monitor ∧
      (svc.step e faults).state.store.answering = svc.store.answering ∧
      (svc.step e faults).state.store.tables.incidents = svc.store.tables.incidents ∧
      (svc.step e faults).state.store.tables.daily = svc.store.tables.daily := by
  have halike : ∀ s', svc.store.Alike s' → s'.answering = svc.store.answering ∧
      s'.tables.incidents = svc.store.tables.incidents ∧
      s'.tables.daily = svc.store.tables.daily := by
    intro s' hs
    exact ⟨hs.answering, congrArg (·.2.1) hs.kept, congrArg (·.2.2) hs.kept⟩
  cases e with
  | adopt genesis =>
    obtain ⟨table, hs⟩ := svc.indexer.adopt_tables svc.store genesis
    simp only [step, hs, Store.withTables, and_self]
  | ingest b => exact ⟨rfl, halike _ (svc.indexer.ingest_alike svc.store faults b)⟩
  | ingestRaw raw => exact ⟨rfl, halike _ (svc.indexer.ingestRaw_alike svc.store faults raw)⟩
  | _ => cases h

end ChainWatch
