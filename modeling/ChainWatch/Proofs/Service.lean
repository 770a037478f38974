import ChainWatch.Api.Route
import ChainWatch.Store.Intervention
import ChainWatch.Store.Schema

/-!
# Runs of a service

A service lives through events: genesis data and blocks arrive, the monitor looks at the chain or is
replaced by a new one, the schema is created or reset, and the store stops or starts to answer.
The session lock of the indexer and the lock of the monitor let one event happen at a time, so a run
is a list of events.

* `Event`, `Answer` : what happens, and what is answered to it.
* `Service.step` : the service after an event, with the answer and the log.
* `Service.step_eq_ingest`, `Service.step_cases` : the step of a delivery, by the block that it is.
* `Service.run` : the service after a list of events, with all the answers.
-/

namespace ChainWatch

/-- What happens to a service. -/
inductive Event
  /-- Genesis data arrives. -/
  | adopt (genesis : Bytes)
  /-- A block arrives as it is. -/
  | ingest (b : Block)
  /-- A block arrives by its bytes. -/
  | ingestRaw (raw : Bytes)
  /-- The monitor looks at the chain. -/
  | tick (now : Instant)
  /-- The monitor takes up what the ledger has left open. -/
  | resume
  /-- A new monitor takes over. -/
  | restart
  | createSchema
  | resetDerived
  | resetForStartup
  /-- The store stops to answer, or starts again. -/
  | answering (answering : Bool)
  /-- The store refuses further rows of the table of actions. -/
  | refuse (rows : ActionRow → Bool)

/-- What is answered to an event. -/
inductive Answer
  | adopted (result : Except IngestError Unit)
  | ingested (result : Except IngestError BlockSummary)
  | status (status : HealthStatus)
  | resumed (result : Except StoreError (Option Incident))
  | schema (result : Except StoreError Unit)
  /-- There is nothing to be answered. -/
  | done

namespace Event

/-- Whether an event brings the indexer something. -/
def isDelivery : Event → Bool
  | adopt _ | ingest _ | ingestRaw _ => true
  | _ => false

/-- Whether an event is a look at the chain. -/
def isTick : Event → Bool
  | tick _ => true
  | _ => false

/-- The block that an indexer takes an event for. -/
def block? (ix : Indexer) : Event → Option Block
  | ingest b => some b
  | ingestRaw raw => ix.decoder.bind fun decoder => (decoder.block raw).toOption
  | _ => none

/-- Whether an event starts the chain over. -/
def startsOver (ix : Indexer) (e : Event) : Bool := (e.block? ix).any Block.isGenesis

end Event

namespace Service

/-- The outcome of an operation on the store alone. -/
def withStore {α : Type} (svc : Service) (answer : α → Answer) (out : Outcome Store α) :
    Outcome Service Answer :=
  ⟨{ svc with store := out.state }, answer out.answer, out.log⟩

/-- The service after an event; `faults` are accesses of a block's storage transaction that fail. -/
def step (svc : Service) (e : Event) (faults : Faults := .none) : Outcome Service Answer :=
  match e with
  | .adopt genesis =>
    let out := svc.indexer.adopt svc.store genesis
    ⟨{ svc with indexer := out.state.1, store := out.state.2 }, .adopted out.answer, out.log⟩
  | .ingest b => svc.withStore .ingested (svc.indexer.ingest svc.store b faults)
  | .ingestRaw raw => svc.withStore .ingested (svc.indexer.ingestRaw svc.store raw faults)
  | .tick now =>
    let out := svc.monitor.tick svc.store now
    ⟨{ svc with monitor := out.state.1, store := out.state.2 }, .status out.answer, out.log⟩
  | .resume =>
    let out := svc.monitor.resume svc.store
    ⟨{ svc with monitor := out.state }, .resumed out.answer, out.log⟩
  | .restart => ⟨{ svc with monitor := { settings := svc.monitor.settings } }, .done, []⟩
  | .createSchema => svc.withStore .schema svc.store.createSchema
  | .resetDerived => svc.withStore .schema svc.store.resetDerived
  | .resetForStartup => svc.withStore .schema svc.store.resetForStartup
  | .answering answering => ⟨{ svc with store := svc.store.setAnswering answering }, .done, []⟩
  | .refuse rows => ⟨{ svc with store := svc.store.refuse rows }, .done, []⟩

variable {svc : Service}

/-! ### Deliveries -/

/-- An event that is taken for a block is the ingestion of that block. -/
theorem step_eq_ingest {e : Event} {b : Block} {decoder : Decoder} (faults : Faults)
    (hdecoder : svc.indexer.decoder = some decoder) (hb : e.block? svc.indexer = some b) :
    svc.step e faults =
      svc.withStore .ingested (svc.store.ingest svc.indexer.registry decoder b faults) := by
  cases e with
  | ingest b' =>
    cases hb
    simp only [step, Indexer.ingest, hdecoder]
  | ingestRaw raw =>
    simp only [Event.block?, hdecoder, Option.bind_some] at hb
    cases hraw : decoder.block raw with
    | error fault =>
      rw [hraw] at hb
      cases hb
    | ok b' =>
      rw [hraw] at hb
      cases hb
      simp only [step, Indexer.ingestRaw, hdecoder, hraw]
  | _ => cases hb

/-- A delivery that is answered as one leaves everything as it is, or it is taken for a block. -/
theorem step_cases {e : Event} {faults : Faults} {result : Except IngestError BlockSummary}
    (h : (svc.step e faults).answer = .ingested result) :
    (svc.step e faults).state = svc ∨
      ∃ decoder b, svc.indexer.decoder = some decoder ∧ e.block? svc.indexer = some b := by
  cases hdecoder : svc.indexer.decoder with
  | none =>
    left
    cases e with
    | ingest b => simp only [step, withStore, Indexer.ingest, hdecoder]
    | ingestRaw raw => simp only [step, withStore, Indexer.ingestRaw, hdecoder]
    | _ => cases h
  | some decoder =>
    cases e with
    | ingest b => exact .inr ⟨decoder, b, rfl, rfl⟩
    | ingestRaw raw =>
      cases hraw : decoder.block raw with
      | error fault =>
        left
        simp only [step, withStore, Indexer.ingestRaw, hdecoder, hraw]
      | ok b =>
        right
        exact ⟨decoder, b, rfl, by simp [Event.block?, hdecoder, hraw, Except.toOption]⟩
    | _ => cases h

/-! ### Runs -/

/-- The service after a list of events, with what was answered to each. -/
def run (svc : Service) : List Event → Outcome Service (List Answer)
  | [] => ⟨svc, [], []⟩
  | e :: rest =>
    let first := svc.step e
    let others := first.state.run rest
    ⟨others.state, first.answer :: others.answer, first.log ++ others.log⟩

@[simp] theorem run_cons_state (e : Event) (rest : List Event) :
    (svc.run (e :: rest)).state = ((svc.step e).state.run rest).state := rfl

@[simp] theorem run_cons_answer (e : Event) (rest : List Event) :
    (svc.run (e :: rest)).answer =
      (svc.step e).answer :: ((svc.step e).state.run rest).answer := rfl

theorem run_append_state (es rest : List Event) :
    (svc.run (es ++ rest)).state = ((svc.run es).state.run rest).state := by
  induction es generalizing svc with
  | nil => rfl
  | cons e es ih => exact ih

/-- What a step keeps, a run keeps. -/
theorem run_induction {P : Service → Prop} {es : List Event}
    (hstep : ∀ svc, ∀ e ∈ es, P svc → P (svc.step e).state) (h : P svc) :
    P (svc.run es).state := by
  induction es generalizing svc with
  | nil => exact h
  | cons e es ih =>
    refine ih (fun svc e' he' => hstep svc e' (List.mem_cons_of_mem e he')) ?_
    exact hstep svc e List.mem_cons_self h

/-- Nothing is ingested before genesis data has arrived. -/
theorem run_ingest_of_unready (hready : svc.indexer.decoder = none) (bs : List Block) :
    (svc.run (bs.map .ingest)).state = svc := by
  refine run_induction (P := (· = svc)) (fun svc' e he hsvc => ?_) rfl
  obtain ⟨b, -, rfl⟩ := List.mem_map.1 he
  subst hsvc
  simp only [step, withStore, Indexer.ingest, hready]

end Service

/-! ### A small service -/

/-- A service whose tables are all there and empty, and which has taken up genesis data. -/
def Service.sample : Service :=
  { store := { tables := Tables.createAll {} }
    indexer := { factory := .json, registry := .standard, decoder := some .json }
    monitor := { settings := {} } }

/-- A block of a height and with a time in milliseconds; every transaction has one action, of a
given type, and all outputs are empty objects.  A created asset is therefore refused. -/
def Block.sample (height : Nat) (timestampMs : Int) (txs : List (String × Nat)) : Block :=
  { height, blockHash := "block", parentHash := "parent", stateRoot := "root", timestampMs
    size := 10
    transactions := txs.map fun (txHash, code) =>
      { txHash, sponsor := "sponsor", maxFee := 1
        actions := [⟨code, .obj [("asset_type", .int 0)]⟩] }
    results := txs.map fun _ => ⟨true, 1, [[0x7b, 0x7d]]⟩ }

end ChainWatch
