import ChainWatch.Proofs.Effect

/-!
# A failed block that starts the chain over

The derived tables are emptied ahead of a block that starts the chain over, and not inside the
storage transaction of its own rows.  If the block is refused, that transaction is given up, and the
tables stay empty.

* `Store.clearDerived_tables_eq_iff` : emptying changes nothing exactly if there was nothing.
* `Store.ingest_of_failed_start` : what a refused block of this kind leaves of the store.
* `Service.step_state_of_failed_start` : the same for a delivery.
* `Service.failed_start_loses_rows` : a delivery by which a stored block is lost.
-/

namespace ChainWatch

/-- The error about a script names an action that one of its steps has refused. -/
theorem Script.exists_refuse_of_refusal? {script : Script} {error : IngestError}
    (h : script.refusal? = some error) :
    ∃ place source, .refuse place source ∈ script ∧
      error = .handler place.txHash place.position (.field source) := by
  obtain ⟨step, hmem, hstep⟩ := List.exists_of_findSome?_eq_some h
  cases step with
  | refuse place source => exact ⟨place, source, hmem, (Option.some.inj hstep).symm⟩
  | _ => cases hstep

namespace Store

variable {s : Store} {registry : Registry} {decoder : Decoder} {b : Block} {error : IngestError}

theorem sizeOf_clearDerived {name : TableName} (h : name ∈ TableName.derived) :
    s.clearDerived.tables.sizeOf name = some 0 := by
  simp only [TableName.derived, List.mem_cons, List.not_mem_nil, or_false] at h
  rcases h with rfl | rfl | rfl | rfl | rfl | rfl <;> rfl

/-- Emptying the derived tables changes nothing exactly if they are there and empty. -/
theorem clearDerived_tables_eq_iff :
    s.clearDerived.tables = s.tables ↔ s.tables.derived? = some {} := by
  rw [clearDerived_tables]
  constructor
  · intro h
    rw [← h]
    exact Tables.derived?_withDerived
  · exact Tables.withDerived_of_derived?

/-- A refused block that starts the chain over leaves empty derived tables and nothing else. -/
theorem ingest_of_failed_start (ha : s.answering = true) (hb : b.isGenesis = true)
    (h : (s.ingest registry decoder b).answer = .error error) :
    (s.ingest registry decoder b).state = s.clearDerived ∧
      (Script.ofBlock registry decoder b).refusal? = some error := by
  have hahead : s.ahead b = s.clearDerived := if_pos hb
  have hderived : (s.ahead b).tables.derived? = some {} := by
    rw [hahead, clearDerived_tables]
    exact Tables.derived?_withDerived
  obtain ⟨hanswer, hstate⟩ := ingest_spec registry decoder b ha hderived
  rw [hanswer, Block.verdict] at h
  have hrefusal : (Script.ofBlock registry decoder b).refusal? = some error := by
    rcases hr : (Script.ofBlock registry decoder b).refusal? with _ | refusal
    · rw [hr] at h
      cases h
    · rw [hr] at h
      exact congrArg some (Except.error.inj h)
  refine ⟨?_, hrefusal⟩
  have hnothing : b.writes registry decoder = [] := by
    simp [Block.writes, hrefusal]
  rw [hstate, hnothing, hahead]
  exact withTables_withDerived (hahead ▸ hderived)

end Store

namespace Service

variable {svc : Service}

/-- **A failed block that starts the chain over leaves the derived tables empty.**  On a store that
answers it fails only because the handler of an action refuses it.  The derived tables are then
there and empty, whatever they held; everything else is as it was, so the delivery has lost nothing
exactly if there was nothing to lose. -/
theorem step_state_of_failed_start {e : Event} {error : IngestError}
    (hready : svc.indexer.isReady = true) (ha : svc.store.answering = true)
    (hgenesis : e.startsOver svc.indexer = true)
    (h : (svc.step e).answer = .ingested (.error error)) :
    (svc.step e).state = { svc with store := svc.store.clearDerived } ∧
      (∀ name ∈ TableName.derived, (svc.step e).state.store.tables.sizeOf name = some 0) ∧
      ((svc.step e).state.store.tables = svc.store.tables ↔ svc.store.tables.derived? = some {}) ∧
      ∃ txHash position source, error = .handler txHash position (.field source) := by
  obtain ⟨decoder, hdecoder⟩ := Option.isSome_iff_exists.1 hready
  obtain ⟨b, hb, hstarts⟩ := (Option.any_eq_true _ _).1 hgenesis
  have hstep := step_eq_ingest .none hdecoder hb
  rw [hstep, withStore, Answer.ingested.injEq] at h
  obtain ⟨hstate, hrefusal⟩ := Store.ingest_of_failed_start ha hstarts h
  rw [hstep, withStore, hstate]
  obtain ⟨place, source, -, herror⟩ := Script.exists_refuse_of_refusal? hrefusal
  exact ⟨rfl, fun name hname => Store.sizeOf_clearDerived hname, Store.clearDerived_tables_eq_iff,
    place.txHash, place.position, source, herror⟩

/-- A service that has stored a block. -/
def indexed : Service := (sample.step (.ingest (.sample 2 0 [("t", 0)]))).state

/-- A block that starts the chain over and is refused. -/
def failedStart : Event := .ingest (.sample 1 0 [("u", 4)])

/-- The stored block and its rows are lost by a block that is refused itself. -/
theorem failed_start_loses_rows :
    indexed.indexer.isReady = true ∧ indexed.store.answering = true ∧
      failedStart.startsOver indexed.indexer = true ∧
      (indexed.step failedStart).answer =
        .ingested (.error (.handler "u" 0 (.field (.missing "CreateAsset" "asset_address")))) ∧
      TableName.derived.map indexed.store.tables.sizeOf =
        [some 1, some 1, some 1, some 0, some 0, some 1] ∧
      TableName.derived.map (indexed.step failedStart).state.store.tables.sizeOf =
        [some 0, some 0, some 0, some 0, some 0, some 0] :=
  ⟨rfl, rfl, rfl, rfl, rfl, rfl⟩

theorem step_failedStart_state :
    indexed.indexer.isReady = true ∧ indexed.store.answering = true ∧
      failedStart.startsOver indexed.indexer = true ∧
      (indexed.step failedStart).answer =
        .ingested (.error (.handler "u" 0 (.field (.missing "CreateAsset" "asset_address")))) ∧
      (indexed.step failedStart).state =
        { indexed with store := indexed.store.clearDerived } :=
  ⟨rfl, rfl, rfl, rfl, (step_state_of_failed_start rfl rfl rfl rfl).1⟩

end Service

end ChainWatch
