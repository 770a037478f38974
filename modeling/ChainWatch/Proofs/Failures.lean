import ChainWatch.Proofs.Acceptance
import ChainWatch.Proofs.Refusals

/-!
# Why a block is not ingested

Whatever the store is like and whichever accesses fail, the work on a block ends early for one of
three causes: an access fails, the handler of an action cannot build its row, or the row that a
handler has built cannot be stored.  An access fails only if the store does not answer, if a table
is missing, or if it is one of the accesses that fail whatever the tables are like.

* `Tables.Fails`, `Store.Fails` : the errors of accesses, and where they come from.
* `Tables.Plain` : the writes of a block fail for a missing table only.
* `IngestStep.take_error`, `Script.run_error` : why a step fails, and why the work ends.
* `Store.Stops`, `Store.ingest_error` : why a block is not ingested, and what is left then.
* `Store.storeGenesis_error` : why a genesis document is not stored.
-/

namespace ChainWatch

/-! ### Accesses that fail -/

namespace Tables

/-- Whether the same tables are there. -/
def Same (t t' : Tables) : Prop := ∀ name, (t'.sizeOf name).isSome = (t.sizeOf name).isSome

/-- An access to tables fails with an error: a table is not there, or it is one of the accesses that
fail. -/
def Fails (t : Tables) (faults : Faults) (error : StoreError) : Prop :=
  (∃ name, t.sizeOf name = none ∧ error = .noTable name) ∨ ∃ n, faults n = some error

/-- A write leaves the same tables there, and fails only if one is missing. -/
structure Plain (write : Tables → Except StoreError Tables) : Prop where
  same : ∀ {t t'}, write t = .ok t' → t.Same t'
  missing : ∀ {t error}, write t = .error error →
    ∃ name, t.sizeOf name = none ∧ error = .noTable name

variable {t t' t'' : Tables} {faults : Faults} {error : StoreError}

theorem Same.refl (t : Tables) : t.Same t := fun _ => rfl

theorem Same.trans (h : t.Same t') (h' : t'.Same t'') : t.Same t'' :=
  fun name => (h' name).trans (h name)

theorem Fails.of_same (hsame : t.Same t') (h : t'.Fails faults error) : t.Fails faults error := by
  rcases h with ⟨name, hname, rfl⟩ | hfault
  · left
    refine ⟨name, ?_, rfl⟩
    have hpresent := hsame name
    rw [hname] at hpresent
    exact Option.isNone_iff_eq_none.1 (Option.isSome_eq_false_iff.1 hpresent.symm)
  · exact .inr hfault

theorem plain_ok : Plain .ok where
  same h := by
    cases h
    exact Same.refl _
  missing h := by cases h

theorem writeAction_same {refuses : ActionRow → Bool} {row : ActionRow}
    (h : t.writeAction refuses row = .ok t') : t.Same t' := by
  obtain ⟨table, htable, rfl⟩ := writeAction_eq_ok h
  intro name
  cases name <;> simp [sizeOf, htable]

theorem plain_writeSide (row : SideRow) : Plain (·.writeSide row) where
  same {t t'} h := by
    cases row with
    | asset row =>
      obtain ⟨table, htable, rfl⟩ := writeAsset_eq_ok h
      intro name
      cases name <;> simp [sizeOf, htable]
    | stake row =>
      obtain ⟨table, htable, rfl⟩ := writeStake_eq_ok h
      intro name
      cases name <;> simp [sizeOf, htable]
  missing {t error} h := by
    obtain ⟨b, tx, a, as, st, v, g, i, d⟩ := t
    cases row with
    | asset row =>
      cases as <;> cases h
      exact ⟨.assets, rfl, rfl⟩
    | stake row =>
      cases st <;> cases h
      exact ⟨.stakes, rfl, rfl⟩

theorem plain_writeTransaction (row : TransactionRow) : Plain (·.writeTransaction row) where
  same {t t'} h := by
    obtain ⟨table, htable, rfl⟩ := writeTransaction_eq_ok h
    intro name
    cases name <;> simp [sizeOf, htable]
  missing {t error} h := by
    obtain ⟨b, tx, a, as, st, v, g, i, d⟩ := t
    cases tx <;> cases h
    exact ⟨.transactions, rfl, rfl⟩

theorem plain_refreshVolume (code : Nat) : Plain (·.refreshVolume code) where
  same {t t'} h := by
    obtain ⟨-, table, row, htable, rfl⟩ := refreshVolume_eq_ok h
    intro name
    cases name <;> simp [sizeOf, htable]
  missing {t error} h := by
    obtain ⟨b, tx, a, as, st, v, g, i, d⟩ := t
    cases a with
    | none =>
      cases h
      exact ⟨.actions, rfl, rfl⟩
    | some actions =>
      cases v <;> cases h
      exact ⟨.volumes, rfl, rfl⟩

theorem plain_writeBlock (row : BlockRow) : Plain (·.writeBlock row) where
  same {t t'} h := by
    obtain ⟨table, htable, rfl⟩ := writeBlock_eq_ok h
    intro name
    cases name <;> simp [sizeOf, htable]
  missing {t error} h := by
    obtain ⟨b, tx, a, as, st, v, g, i, d⟩ := t
    cases b <;> cases h
    exact ⟨.blocks, rfl, rfl⟩

end Tables

namespace Workspace

variable {w w' : Workspace} {faults : Faults} {error : StoreError}

theorem access_error {write : Tables → Except StoreError Tables} (hwrite : Tables.Plain write)
    (h : w.access faults write = (w', some error)) : w.tables.Fails faults error := by
  unfold access at h
  split at h
  next hfault =>
    cases h
    exact .inr ⟨_, hfault⟩
  next =>
    split at h
    next => cases h
    next hfailed =>
      cases h
      exact .inl (hwrite.missing hfailed)

theorem setPoint_error (h : w.setPoint faults = (w', some error)) :
    w.tables.Fails faults error := by
  unfold setPoint at h
  split at h
  next => cases h
  next => exact access_error Tables.plain_ok h

theorem release_error (h : w.release faults = (w', some error)) : w.tables.Fails faults error := by
  unfold release at h
  split at h
  next => cases h
  next => exact access_error Tables.plain_ok h

end Workspace

/-! ### The work on a block -/

theorem Progress.afterWrite_eq_error {p p' : Progress} {out : Workspace × Option StoreError}
    {error : IngestError} (h : p.afterWrite out = (p', some error)) :
    ∃ w failure, out = (w, some failure) ∧ error = .store failure := by
  obtain ⟨w, _ | failure⟩ := out
  · cases h
  · cases h
    exact ⟨w, failure, rfl, rfl⟩

section Work

variable {refuses : ActionRow → Bool} {faults : Faults} {p p' : Progress} {step : IngestStep}
  {error : IngestError}

/-- A step that does not fail leaves the same tables there. -/
theorem IngestStep.take_same (h : step.take refuses faults p = (p', none)) :
    p.work.tables.Same p'.work.tables := by
  cases step with
  | report line =>
    cases h
    exact .refl _
  | refuse place error => cases h
  | writeAction row =>
    simp only [take] at h
    rcases hwrite : p.work.guarded faults (·.writeAction refuses row) with ⟨w, _ | failure⟩
    · rw [hwrite] at h
      cases h
      exact Tables.writeAction_same (Workspace.guarded_eq_ok hwrite)
    · have hkept := Workspace.guarded_tables_of_error (congrArg Prod.snd hwrite)
      rw [hwrite] at h hkept
      cases h
      show p.work.tables.Same w.tables
      rw [hkept]
      exact .refl _
  | writeSide place row =>
    simp only [take] at h
    split at h
    next hwrite =>
      cases h
      exact (Tables.plain_writeSide row).same (Workspace.access_eq_ok hwrite)
    next => cases h
  | writeTransaction row =>
    obtain ⟨w, hwrite, rfl⟩ := Progress.afterWrite_eq_ok h
    exact (Tables.plain_writeTransaction row).same (Workspace.access_eq_ok hwrite)
  | refreshVolume code =>
    obtain ⟨w, hwrite, rfl⟩ := Progress.afterWrite_eq_ok h
    exact (Tables.plain_refreshVolume code).same (Workspace.access_eq_ok hwrite)
  | writeBlock row =>
    obtain ⟨w, hwrite, rfl⟩ := Progress.afterWrite_eq_ok h
    exact (Tables.plain_writeBlock row).same (Workspace.access_eq_ok hwrite)

theorem Script.run_same {script : Script} (h : script.run refuses faults p = (p', none)) :
    p.work.tables.Same p'.work.tables := by
  induction script generalizing p with
  | nil =>
    cases h
    exact .refl _
  | cons step rest ih =>
    obtain ⟨p₁, htake, hrest⟩ := run_cons_eq_ok h
    exact (IngestStep.take_same htake).trans (ih hrest)

/-- A step fails because it is a refusal, or because an access has failed. -/
theorem IngestStep.take_error (h : step.take refuses faults p = (p', some error)) :
    step.refusal? = some error ∨ ∃ failure, p.work.tables.Fails faults failure ∧
      (error = .store failure ∨ ∃ place row, step = .writeSide place row ∧
        error = .handler place.txHash place.position (.store failure)) := by
  cases step with
  | report line => cases h
  | refuse place field =>
    cases h
    exact .inl rfl
  | writeAction row => cases h
  | writeSide place row =>
    right
    simp only [take] at h
    split at h
    next => cases h
    next failure hwrite =>
      cases h
      exact ⟨failure, Workspace.access_error (Tables.plain_writeSide row) hwrite,
        .inr ⟨place, row, rfl, rfl⟩⟩
  | writeTransaction row =>
    obtain ⟨w, failure, hwrite, rfl⟩ := Progress.afterWrite_eq_error h
    exact .inr ⟨failure, Workspace.access_error (Tables.plain_writeTransaction row) hwrite,
      .inl rfl⟩
  | refreshVolume code =>
    obtain ⟨w, failure, hwrite, rfl⟩ := Progress.afterWrite_eq_error h
    exact .inr ⟨failure, Workspace.access_error (Tables.plain_refreshVolume code) hwrite, .inl rfl⟩
  | writeBlock row =>
    obtain ⟨w, failure, hwrite, rfl⟩ := Progress.afterWrite_eq_error h
    exact .inr ⟨failure, Workspace.access_error (Tables.plain_writeBlock row) hwrite, .inl rfl⟩

/-- The work on a block ends with its first refusal, or because an access has failed. -/
theorem Script.run_error {script : Script} (h : script.run refuses faults p = (p', some error)) :
    script.refusal? = some error ∨ ∃ failure, p.work.tables.Fails faults failure ∧
      (error = .store failure ∨ ∃ place row, .writeSide place row ∈ script ∧
        error = .handler place.txHash place.position (.store failure)) := by
  induction script generalizing p with
  | nil => cases h
  | cons step rest ih =>
    rw [run] at h
    split at h
    next p₁ htake =>
      have hnone : step.refusal? = none := by
        cases step with
        | refuse place field => cases htake
        | _ => rfl
      rcases ih h with hrefusal | ⟨failure, hfails, hcause⟩
      · left
        rw [refusal?, List.findSome?_cons, hnone]
        exact hrefusal
      · right
        refine ⟨failure, hfails.of_same (IngestStep.take_same htake), ?_⟩
        refine hcause.imp_right ?_
        rintro ⟨place, row, hmem, rfl⟩
        exact ⟨place, row, List.mem_cons_of_mem step hmem, rfl⟩
    next =>
      rcases IngestStep.take_error h with hrefusal | ⟨failure, hfails, hcause⟩
      · left
        rw [refusal?, List.findSome?_cons, hrefusal]
      · right
        refine ⟨failure, hfails, hcause.imp_right ?_⟩
        rintro ⟨place, row, rfl, rfl⟩
        exact ⟨place, row, List.mem_cons_self, rfl⟩

end Work

/-! ### Rows beside those of actions -/

/-- The row beside that of an action which a step writes, with the place of the action. -/
def IngestStep.sideWrite? : IngestStep → Option (ActionPlace × SideRow)
  | writeSide place row => some (place, row)
  | _ => none

theorem IngestStep.ofHandlers_sideWrite? : OfHandlers sideWrite? :=
  ⟨fun _ => rfl, fun _ => rfl, fun _ => rfl, fun _ => rfl, fun _ => rfl⟩

/-- A row beside those of actions comes from a handled action, and its place is that of the
action. -/
theorem Script.exists_placed_of_writeSide {registry : Registry} {decoder : Decoder} {b : Block}
    {place : ActionPlace} {row : SideRow} (h : .writeSide place row ∈ ofBlock registry decoder b) :
    ∃ x ∈ b.placed, x.sideRow? registry decoder b = some row ∧
      place.txHash = x.tx.txHash ∧ place.position = x.position := by
  have hmem : (place, row) ∈ (ofBlock registry decoder b).filterMap IngestStep.sideWrite? :=
    List.mem_filterMap.2 ⟨_, h, rfl⟩
  rw [filterMap_ofBlock registry decoder b IngestStep.ofHandlers_sideWrite?] at hmem
  obtain ⟨x, hx, hmem⟩ := List.mem_flatMap.1 hmem
  obtain ⟨step, hstep, hwrite⟩ := List.mem_filterMap.1 hmem
  have hrow : row ∈ (afterAction registry b (x.executed decoder b) x.action x.position).filterMap
      IngestStep.sideRow? := by
    refine List.mem_filterMap.2 ⟨step, hstep, ?_⟩
    cases step with
    | writeSide place' row' =>
      cases hwrite
      rfl
    | _ => cases hwrite
  rw [sideRows_afterAction, Option.mem_toList] at hrow
  refine ⟨x, hx, hrow, ?_⟩
  unfold afterAction at hstep
  dsimp only at hstep
  split at hstep
  next handler ctx _ =>
    obtain rfl := List.mem_singleton.1 hstep
    rw [ofHandler] at hwrite
    split at hwrite
    next =>
      cases hwrite
      exact ⟨congrArg Transaction.txHash (Executed.of_tx decoder x.tx _), rfl⟩
    next => cases hwrite
  next =>
    split at hstep
    · cases List.mem_singleton.1 hstep
      cases hwrite
    · cases hstep

/-! ### Stores -/

namespace Store

variable {s : Store} {registry : Registry} {decoder : Decoder} {b : Block} {faults : Faults}

/-- An access to a store fails with an error: the store does not answer, a table is not there, or it
is one of the accesses that fail. -/
def Fails (s : Store) (faults : Faults) (error : StoreError) : Prop :=
  (∃ operation, s.bounded operation = .error error) ∨ s.tables.Fails faults error

/-- The row of a handler cannot be stored. -/
def LacksRow (s : Store) (registry : Registry) (decoder : Decoder) (b : Block) (faults : Faults)
    (error : IngestError) : Prop :=
  ∃ x ∈ b.placed, ∃ row failure, x.sideRow? registry decoder b = some row ∧
    s.Fails faults failure ∧ error = .handler x.tx.txHash x.position (.store failure)

/-- Why a block is not ingested. -/
def Stops (s : Store) (registry : Registry) (decoder : Decoder) (b : Block) (faults : Faults)
    (error : IngestError) : Prop :=
  (∃ failure, s.Fails faults failure ∧ error = .store failure) ∨
    (Script.ofBlock registry decoder b).refusal? = some error ∨
    s.LacksRow registry decoder b faults error

theorem process_error {error : IngestError}
    (h : (s.process registry decoder b faults).answer = .error error) :
    s.Stops registry decoder b faults error := by
  have hstore : ∀ failure, s.Fails faults failure → .error (.store failure) =
      (.error error : Except IngestError BlockSummary) →
      s.Stops registry decoder b faults error := by
    rintro failure hfails ⟨⟩
    exact .inl ⟨failure, hfails, rfl⟩
  unfold process at h
  split at h
  next failure hbegin => exact hstore failure (.inl ⟨_, hbegin⟩) h
  next t hbegin =>
    obtain rfl := bounded_tables hbegin
    have hbegun := Workspace.setPoint_tables { tables := s.tables } faults
    split at h
    next w failure hset =>
      exact hstore failure (.inr (Workspace.setPoint_error hset)) h
    next w hset =>
      rw [hset] at hbegun
      split at h
      next p refusal hrun =>
        cases h
        rcases Script.run_error hrun with hrefusal | ⟨failure, hfails, hcause⟩
        · exact .inr (.inl hrefusal)
        · rw [hbegun] at hfails
          rcases hcause with rfl | ⟨place, row, hmem, rfl⟩
          · exact .inl ⟨failure, .inr hfails, rfl⟩
          · obtain ⟨x, hx, hrow, htxHash, hposition⟩ := Script.exists_placed_of_writeSide hmem
            rw [htxHash, hposition]
            exact .inr (.inr ⟨x, hx, row, failure, hrow, .inr hfails, rfl⟩)
      next p hrun =>
        have hsame := Script.run_same hrun
        rw [hbegun] at hsame
        split at h
        next w' failure hcommit =>
          exact hstore failure (.inr ((Workspace.release_error hcommit).of_same hsame)) h
        next => cases h

/-- Emptying the derived tables gives no access a further reason to fail. -/
theorem Fails.of_clearDerived {error : StoreError} (h : s.clearDerived.Fails faults error) :
    s.Fails faults error := by
  rcases h with ⟨operation, hbounded⟩ | ⟨name, hname, rfl⟩ | hfault
  · left
    refine ⟨operation, ?_⟩
    cases ha : s.answering with
    | true =>
      have hanswers := bounded_of_answering (s := s.clearDerived) ha operation
      rw [hanswers] at hbounded
      cases hbounded
    | false => simpa [bounded, clearDerived, ha] using hbounded
  · by_cases hderived : name ∈ TableName.derived
    · rw [sizeOf_clearDerived hderived] at hname
      cases hname
    · right
      left
      refine ⟨name, ?_, rfl⟩
      cases name with
      | genesis | incidents | daily => exact hname
      | _ => exact absurd (by decide) hderived
  · exact .inr (.inr hfault)

theorem Stops.of_clearDerived {error : IngestError}
    (h : s.clearDerived.Stops registry decoder b faults error) :
    s.Stops registry decoder b faults error := by
  refine h.imp ?_ (Or.imp_right ?_)
  · rintro ⟨failure, hfails, rfl⟩
    exact ⟨failure, hfails.of_clearDerived, rfl⟩
  · rintro ⟨x, hx, row, failure, hrow, hfails, rfl⟩
    exact ⟨x, hx, row, failure, hrow, hfails.of_clearDerived, rfl⟩

/-- A block is not ingested because the handler of an action cannot build its row, or because an
access fails.  Nothing of it is left then, but the derived tables may have been emptied for it. -/
theorem ingest_error {error : IngestError}
    (h : (s.ingest registry decoder b faults).answer = .error error) :
    s.Stops registry decoder b faults error ∧
      ((s.ingest registry decoder b faults).state = s ∨
        (b.isGenesis = true ∧ (s.ingest registry decoder b faults).state = s.clearDerived)) := by
  by_cases hb : b.isGenesis = true
  · cases hreset : s.bounded .genesisReset with
    | error failure =>
      simp only [ingest, hb, startOver, hreset, ↓reduceIte, Except.error.injEq] at h ⊢
      exact ⟨.inl ⟨failure, .inl ⟨_, hreset⟩, h.symm⟩, .inl trivial⟩
    | ok t =>
      simp only [ingest, hb, startOver, hreset, ↓reduceIte, processReported_answer,
        processReported_state] at h ⊢
      exact ⟨(process_error h).of_clearDerived, .inr ⟨trivial, process_state_of_error h⟩⟩
  · have hstate := ingest_state_of_error (Bool.eq_false_iff.2 hb) h
    simp only [ingest, hb, processReported_answer] at h
    exact ⟨process_error h, .inl hstate⟩

theorem storeGenesis_error {genesis : Bytes} {error : StoreError}
    (h : s.storeGenesis genesis = .error error) : s.Fails faults error := by
  rcases bind_eq_error.1 h with hbounded | ⟨t, hbounded, hstore⟩
  · exact .inl ⟨_, hbounded⟩
  · obtain rfl := bounded_tables hbounded
    rcases bind_eq_error.1 hstore with hreplace | ⟨t', -, ⟨⟩⟩
    rcases bind_eq_error.1 hreplace with hneed | ⟨table, -, ⟨⟩⟩
    refine .inr (.inl ⟨.genesis, ?_⟩)
    cases htable : s.tables.genesis with
    | none =>
      rw [htable] at hneed
      cases hneed
      exact ⟨by simp [Tables.sizeOf, htable], rfl⟩
    | some table =>
      rw [htable] at hneed
      cases hneed

end Store

end ChainWatch
