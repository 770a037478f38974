import ChainWatch.Proofs.BlockText
import ChainWatch.Proofs.Failures

/-!
# Who is at fault

Genesis data and blocks come in over the HTTP interface.  A delivery that does not succeed has one
of three causes: an access to the store has failed; the request is at fault, or comes too early; or
the row that a handler has built cannot be stored.  The status of the response tells the first two
apart, but it counts the third, which is the store's, as a fault of the request.

* `Service.StoreFault`, `Service.RequestFault`, `Service.SideFault` : the three causes.
* `Service.TakesEffect` : what a delivery has done that has succeeded.
* `Service.step_adopt_fault`, `Service.step_ingestRaw_fault` : a delivery fails for one of them.
* `Response.Tells`, `Service.respond_tells` : what a status tells.
* `Service.respond_blames_sender` : the sender of a good block is blamed for a missing table.
-/

namespace ChainWatch

/-! ### Deliveries -/

/-- The error of an answer to a delivery. -/
def Answer.error? : Answer → Option IngestError
  | adopted (.error error) | ingested (.error error) => some error
  | _ => none

theorem Answer.error?_ingested_eq_some_iff {result : Except IngestError BlockSummary}
    {error : IngestError} : (ingested result).error? = some error ↔ result = .error error := by
  cases result <;> simp [error?]

theorem Answer.error?_ingested_eq_none_iff {result : Except IngestError BlockSummary} :
    (ingested result).error? = none ↔ ∃ summary, result = .ok summary := by
  cases result <;> simp [error?]

/-- What a request delivers that takes something up. -/
def Route.delivery (route : Route) (body : Bytes) : Event :=
  match route with
  | .adopt => .adopt body
  | _ => .ingestRaw body

/-- Whether a body is turned down before anything is done with it. -/
def Route.turnsDown (route : Route) (body : Bytes) : Prop :=
  bodyLimit < body.length ∨ (route = .adopt ∧ body = [])

namespace Service

/-- The request is at fault, or comes too early: no genesis data has been taken up yet, genesis
data or a block cannot be decoded, or a field of a handled action is missing or malformed. -/
inductive RequestFault (svc : Service) : Event → IngestError → Prop
  | unready {raw : Bytes} (h : svc.indexer.decoder = none) :
    RequestFault svc (.ingestRaw raw) .notReady
  | genesis {genesis : Bytes} {error : DecodeError}
    (h : svc.indexer.factory genesis = .error error) :
    RequestFault svc (.adopt genesis) (.undecodable error)
  | block {raw : Bytes} {decoder : Decoder} {error : DecodeError}
    (hdecoder : svc.indexer.decoder = some decoder) (h : decoder.block raw = .error error) :
    RequestFault svc (.ingestRaw raw) (.undecodable error)
  | action {raw : Bytes} {decoder : Decoder} {b : Block} {x : Placed} {handler : Handler}
    {output : Members} {error : FieldError} (hdecoder : svc.indexer.decoder = some decoder)
    (hb : decoder.block raw = .ok b) (hx : x ∈ b.placed)
    (hcalls : x.CallsFor svc.indexer.registry decoder b handler output)
    (hbuild : handler.build (x.context b output) = .error error) :
    RequestFault svc (.ingestRaw raw) (.handler x.tx.txHash x.position (.field error))

/-- An access to the store has failed. -/
def StoreFault (svc : Service) (faults : Faults) (error : IngestError) : Prop :=
  ∃ failure, svc.store.Fails faults failure ∧ error = .store failure

/-- An access to the store has failed that was to store the row of a handler. -/
def SideFault (svc : Service) (faults : Faults) (e : Event) (error : IngestError) : Prop :=
  ∃ decoder b, svc.indexer.decoder = some decoder ∧ e.block? svc.indexer = some b ∧
    svc.store.LacksRow svc.indexer.registry decoder b faults error

/-- What a delivery has done that has succeeded. -/
inductive TakesEffect (svc svc' : Service) : Event → Prop
  | adopt {genesis : Bytes} {decoder : Decoder} {table : Table GenesisRow}
    (hfactory : svc.indexer.factory genesis = .ok decoder)
    (htable : svc.store.tables.genesis = some table)
    (hdecoder : svc'.indexer = { svc.indexer with decoder := some decoder })
    (hstore : svc'.store = svc.store.withTables { svc.store.tables with
      genesis := some (Table.empty.upsert ⟨table.nextGenesisId, genesisDocument genesis⟩) }) :
    TakesEffect svc svc' (.adopt genesis)
  | block {raw : Bytes} {decoder : Decoder} {b : Block} {summary : BlockSummary}
    (hdecoder : svc.indexer.decoder = some decoder) (hb : decoder.block raw = .ok b)
    (h : b.Accepted svc.indexer.registry decoder (svc.store.ahead b) svc'.store summary) :
    TakesEffect svc svc' (.ingestRaw raw)

variable {svc : Service} {faults : Faults}

theorem step_adopt_fault {genesis : Bytes} {error : IngestError}
    (h : (svc.step (.adopt genesis) faults).answer.error? = some error) :
    (svc.StoreFault faults error ∨ svc.RequestFault (.adopt genesis) error) ∧
      (svc.step (.adopt genesis) faults).state = svc := by
  simp only [step, Indexer.adopt] at h ⊢
  split at h
  next fault hfactory =>
    cases h
    exact ⟨.inr (.genesis hfactory), rfl⟩
  next decoder hfactory =>
    split at h
    next failure hstore =>
      cases h
      exact ⟨.inl ⟨failure, Store.storeGenesis_error hstore, rfl⟩, rfl⟩
    next => cases h

theorem step_adopt_effect {genesis : Bytes}
    (h : (svc.step (.adopt genesis) faults).answer.error? = none) :
    svc.TakesEffect (svc.step (.adopt genesis) faults).state (.adopt genesis) := by
  simp only [step, Indexer.adopt] at h ⊢
  split at h
  next => cases h
  next decoder hfactory =>
    split at h
    next => cases h
    next s' hstore =>
      obtain ⟨table, htable, rfl⟩ := Store.storeGenesis_eq_ok hstore
      exact .adopt hfactory htable rfl rfl

theorem step_ingestRaw_fault {raw : Bytes} {error : IngestError}
    (h : (svc.step (.ingestRaw raw) faults).answer.error? = some error) :
    (svc.StoreFault faults error ∨ svc.RequestFault (.ingestRaw raw) error ∨
        svc.SideFault faults (.ingestRaw raw) error) ∧
      ((svc.step (.ingestRaw raw) faults).state = svc ∨
        ((Event.ingestRaw raw).startsOver svc.indexer = true ∧
          (svc.step (.ingestRaw raw) faults).state =
            { svc with store := svc.store.clearDerived })) := by
  simp only [step, withStore, Indexer.ingestRaw] at h ⊢
  split at h
  next hdecoder =>
    cases h
    exact ⟨.inr (.inl (.unready hdecoder)), .inl rfl⟩
  next decoder hdecoder =>
    split at h
    next fault hraw =>
      cases h
      exact ⟨.inr (.inl (.block hdecoder hraw)), .inl rfl⟩
    next b hraw =>
      have hb : (Event.ingestRaw raw).block? svc.indexer = some b := by
        simp [Event.block?, hdecoder, hraw, Except.toOption]
      obtain ⟨hstops, hstate⟩ := Store.ingest_error (Answer.error?_ingested_eq_some_iff.1 h)
      constructor
      · refine hstops.imp_right (Or.imp ?_ fun hlacks => ⟨decoder, b, hdecoder, hb, hlacks⟩)
        intro hrefusal
        rw [Script.refusal?_ofBlock] at hrefusal
        obtain ⟨x, hx, hrefusal, -⟩ := Block.findSome?_placed_eq_some_iff.1 hrefusal
        obtain ⟨handler, output, source, hcalls, hbuild, rfl⟩ :=
          Placed.refusal?_eq_some_iff.1 hrefusal
        exact .action hdecoder hraw hx hcalls hbuild
      · rcases hstate with hstate | ⟨hgenesis, hstate⟩
        · exact .inl (by rw [hstate])
        · refine .inr ⟨?_, by rw [hstate]⟩
          rw [Event.startsOver, hb]
          exact hgenesis

theorem step_ingestRaw_effect {raw : Bytes}
    (h : (svc.step (.ingestRaw raw) faults).answer.error? = none) :
    svc.TakesEffect (svc.step (.ingestRaw raw) faults).state (.ingestRaw raw) := by
  simp only [step, withStore, Indexer.ingestRaw] at h ⊢
  split at h
  next => cases h
  next decoder hdecoder =>
    split at h
    next => cases h
    next b hraw =>
      obtain ⟨summary, hanswer⟩ := Answer.error?_ingested_eq_none_iff.1 h
      exact .block hdecoder hraw (Store.ingest_accepted hanswer)

end Service

/-! ### Responses -/

/-- What the status of a response tells about a delivery with or without an error. -/
structure Response.Tells (r : Response) (svc svc' : Service) (faults : Faults) (e : Event)
    (error? : Option IngestError) : Prop where
  success : r.status = 200 ↔ error? = none
  /-- What succeeds has taken effect. -/
  effect : error? = none → svc.TakesEffect svc' e
  /-- Nothing is left of what fails; the derived tables may have been emptied for a block that
  starts the chain over. -/
  nothing : error? ≠ none → svc' = svc ∨
    (e.startsOver svc.indexer = true ∧ svc' = { svc with store := svc.store.clearDerived })
  server : 500 ≤ r.status ↔ ∃ error, error? = some error ∧ svc.StoreFault faults error
  client : (400 ≤ r.status ∧ r.status < 500) ↔ ∃ error, error? = some error ∧
    (svc.RequestFault e error ∨ svc.SideFault faults e error)
  /-- A handler answers for its row also if it is the store that cannot take it. -/
  unprocessable : ∀ error, error? = some error → svc.SideFault faults e error → r.status = 422

/-- The status of the response to a delivery with or without an error. -/
def deliveryStatus : Option IngestError → Nat
  | none => 200
  | some error => (ApiError.ofIngest error).status

namespace Service

variable {svc : Service} {faults : Faults} {e : Event} {error : IngestError}

theorem StoreFault.status (h : svc.StoreFault faults error) :
    500 ≤ deliveryStatus (some error) := by
  obtain ⟨failure, -, rfl⟩ := h
  cases failure <;> simp [deliveryStatus, ApiError.ofIngest, ApiError.ofStore, ApiError.status]

theorem RequestFault.status (h : svc.RequestFault e error) :
    400 ≤ deliveryStatus (some error) ∧ deliveryStatus (some error) < 500 := by
  cases h <;> simp [deliveryStatus, ApiError.ofIngest, ApiError.status]

theorem SideFault.status (h : svc.SideFault faults e error) :
    deliveryStatus (some error) = 422 := by
  obtain ⟨decoder, b, -, -, x, -, row, failure, -, -, rfl⟩ := h
  rfl

end Service

/-- A status that goes by the cause of an error tells about the delivery. -/
theorem Response.Tells.of_status {r : Response} {svc svc' : Service} {faults : Faults} {e : Event}
    {error? : Option IngestError} (hstatus : r.status = deliveryStatus error?)
    (heffect : error? = none → svc.TakesEffect svc' e)
    (hfault : ∀ error, error? = some error →
      (svc.StoreFault faults error ∨ svc.RequestFault e error ∨ svc.SideFault faults e error) ∧
        (svc' = svc ∨
          (e.startsOver svc.indexer = true ∧
            svc' = { svc with store := svc.store.clearDerived }))) :
    r.Tells svc svc' faults e error? := by
  cases error? with
  | none =>
    have hok : r.status = 200 := hstatus
    constructor
    case success => exact ⟨fun _ => rfl, fun _ => hok⟩
    case effect => exact heffect
    case nothing => exact fun h => absurd rfl h
    case server => exact ⟨fun h => by omega, nofun⟩
    case client => exact ⟨fun h => by omega, nofun⟩
    case unprocessable => exact nofun
  | some error =>
    obtain ⟨hcause, hnothing⟩ := hfault error rfl
    have hserver : svc.StoreFault faults error → 500 ≤ r.status := fun h => hstatus ▸ h.status
    have hside : svc.SideFault faults e error → r.status = 422 := fun h => hstatus.trans h.status
    have hclient : svc.RequestFault e error ∨ svc.SideFault faults e error →
        400 ≤ r.status ∧ r.status < 500 := by
      rintro (hrequest | hrow)
      · rw [hstatus]
        exact hrequest.status
      · rw [hside hrow]
        exact ⟨by decide, by decide⟩
    constructor
    case success =>
      refine ⟨fun hok => ?_, nofun⟩
      rcases hcause with h | h
      · have hstatus' := hserver h
        omega
      · have hstatus' := hclient h
        omega
    case effect => exact nofun
    case nothing => exact fun _ => hnothing
    case server =>
      refine ⟨fun hstatus' => ⟨error, rfl, hcause.resolve_right fun h => ?_⟩, ?_⟩
      · have hlt := (hclient h).2
        omega
      · rintro ⟨_, ⟨⟩, h⟩
        exact hserver h
    case client =>
      refine ⟨fun hstatus' => ⟨error, rfl, hcause.resolve_left fun h => ?_⟩, ?_⟩
      · have hle := hserver h
        omega
      · rintro ⟨_, ⟨⟩, h⟩
        exact hclient h
    case unprocessable =>
      rintro _ ⟨⟩ h
      exact hside h

namespace Service

variable (svc : Service) (now : Instant) (faults : Faults) {route : Route} (target : String)
  {body : Bytes}

theorem respond_post (hroute : Route.ofPath? (targetPath target) = some route)
    (hpost : route.isPost = true) :
    svc.respond now ⟨"POST", target, body⟩ faults =
      svc.serve now ⟨"POST", target, body⟩ faults route := by
  have hallowed : route.allows "POST" = true := by simp [Route.allows, hpost]
  have hbody : ("POST" == "HEAD") = false := by decide
  simp only [respond, hroute, hallowed, hbody, ↓reduceIte, Bool.false_eq_true]

theorem status_ofResult {α : Type} (result : Except IngestError α) (f : α → Json) :
    (Response.ofResult ((result.mapError .ofIngest).map f)).status =
      match result with
      | .ok _ => 200
      | .error error => (ApiError.ofIngest error).status := by
  cases result <;> rfl

theorem serve_turnsDown (hpost : route.isPost = true) (h : route.turnsDown body) :
    let out := svc.serve now ⟨"POST", target, body⟩ faults route
    out.state = svc ∧ 400 ≤ out.answer.status ∧ out.answer.status < 500 := by
  by_cases hlong : bodyLimit < body.length
  · cases route with
    | adopt | blocks => simp [serve, receive, hlong]
    | _ => cases hpost
  · obtain ⟨rfl, rfl⟩ := h.resolve_left hlong
    simp [serve, receive, adopt, Response.refusal, Response.ofJson, ApiError.status, bodyLimit]

theorem serve_delivery (hpost : route.isPost = true) (h : ¬ route.turnsDown body) :
    let out := svc.serve now ⟨"POST", target, body⟩ faults route
    let delivered := svc.step (route.delivery body) faults
    out.state = delivered.state ∧
      out.answer.status = deliveryStatus delivered.answer.error? := by
  intro out delivered
  obtain ⟨hshort, hempty⟩ := not_or.1 h
  cases route with
  | adopt =>
    have hbody : body.isEmpty = false := by simpa using hempty
    simp only [out, delivered, serve, receive, adopt, Route.delivery, step, hshort, hbody,
      ↓reduceIte, Bool.false_eq_true]
    refine ⟨trivial, (status_ofResult _ _).trans ?_⟩
    cases (svc.indexer.adopt svc.store body).answer <;> rfl
  | blocks =>
    simp only [out, delivered, serve, receive, takeBlock, Route.delivery, step, withStore, hshort,
      ↓reduceIte]
    refine ⟨trivial, (status_ofResult _ _).trans ?_⟩
    cases (svc.indexer.ingestRaw svc.store body faults).answer <;> rfl
  | _ => cases hpost

/-- **The status of a response tells who is at fault, unless a handler's row is in question.**
Genesis data or a block is posted, whatever the service and its store are like and whichever
accesses of the block's own storage transaction fail.  (Replacing the genesis document, and emptying
the tables when the chain starts over, are one access each, which fails only if the store does not
answer or the document has no table.)  A body that is too long, and genesis data that is empty, are
turned down.  Any other request is answered with 200 exactly if it succeeds, and it has then taken
effect; with 500 or more exactly if an access to the store has failed, but for one that was to store
the row of a handler; and with 400 or more, but less than 500, exactly if the request is at fault,
or comes too early, or the row of a handler could not be stored. -/
theorem respond_tells (hroute : Route.ofPath? (targetPath target) = some route)
    (hpost : route.isPost = true) :
    let out := svc.respond now ⟨"POST", target, body⟩ faults
    let e := route.delivery body
    (route.turnsDown body → out.state = svc ∧ 400 ≤ out.answer.status ∧ out.answer.status < 500) ∧
      (¬ route.turnsDown body →
        out.answer.Tells svc out.state faults e (svc.step e faults).answer.error?) := by
  intro out e
  have hout : out = svc.serve now ⟨"POST", target, body⟩ faults route :=
    svc.respond_post now faults target hroute hpost
  refine ⟨fun hdown => hout ▸ svc.serve_turnsDown now faults target hpost hdown, fun hread => ?_⟩
  obtain ⟨hstate, hstatus⟩ := svc.serve_delivery now faults target hpost hread
  rw [← hout] at hstate hstatus
  rw [hstate]
  refine Response.Tells.of_status hstatus (fun hnone => ?_) fun error herror => ?_
  · cases route with
    | adopt => exact step_adopt_effect hnone
    | blocks => exact step_ingestRaw_effect hnone
    | _ => cases hpost
  · cases route with
    | adopt =>
      obtain ⟨hcause, hkept⟩ := step_adopt_fault herror
      exact ⟨hcause.imp_right .inl, .inl hkept⟩
    | blocks => exact step_ingestRaw_fault herror
    | _ => cases hpost

/-- A block that creates an asset. -/
def minting : Block :=
  { Block.sample 5 0 [("t", 4)] with
    results := [⟨true, 1, [Utf8.encode (Json.obj [("asset_address", .str "coin")]).text]⟩] }

theorem ofBytes_minting : Block.ofBytes minting.encode = .ok minting := by
  have haction : Action.Fits ⟨4, .obj [("asset_type", .int 0)]⟩ := by
    have hordered : Json.Proper (.obj [("asset_type", .int 0)]) := by
      simp only [Json.Proper]
      decide
    exact ⟨by decide, hordered, ⟨by decide, by decide⟩, trivial⟩
  have hfits : minting.Fits := by
    refine ⟨by decide, by decide, by decide, ?_, by decide⟩
    intro t ht
    obtain rfl := List.mem_singleton.1 ht
    refine ⟨by decide, fun a ha => ?_⟩
    obtain rfl := List.mem_singleton.1 ha
    exact haction
  have hfloat : minting.Floatless := by
    intro t ht a ha
    obtain rfl := List.mem_singleton.1 ht
    obtain rfl := List.mem_singleton.1 ha
    exact ⟨rfl, rfl, trivial⟩
  exact Block.ofBytes_encode hfits hfloat (by decide) (by decide +kernel)

theorem not_turnsDown_minting : ¬ Route.blocks.turnsDown minting.encode := by
  have hchars : minting.encode = Utf8.encodeChars minting.toJson.chars := by
    rw [Block.encode, Utf8.encode, Json.text, String.toList_ofList]
  unfold Route.turnsDown
  rw [hchars]
  decide +kernel

/-- Bytes of the block are posted to a service that reads blocks from JSON. -/
theorem respond_minting (svc : Service) {body : Bytes}
    (hdecoder : svc.indexer.decoder = some .json) (hbody : Block.ofBytes body = .ok minting)
    (hread : ¬ Route.blocks.turnsDown body) :
    (svc.respond (.ofMillis 0) ⟨"POST", "/blocks", body⟩).answer.status =
        deliveryStatus (svc.step (.ingest minting)).answer.error? ∧
      svc.step (.ingestRaw body) = svc.step (.ingest minting) := by
  have hsame : svc.step (.ingestRaw body) = svc.step (.ingest minting) := by
    refine step_ingestRaw_of_read .none hbody fun decoder h => ?_
    rw [hdecoder] at h
    cases h
    rfl
  have hroute : Route.ofPath? (targetPath "/blocks") = some .blocks := by decide
  have hstatus := (svc.serve_delivery (.ofMillis 0) .none "/blocks" rfl hread).2
  refine ⟨?_, hsame⟩
  rw [respond_post _ _ _ _ hroute rfl, hstatus, ← hsame]
  rfl

/-- A store that does not answer is blamed for the block that it does not take. -/
theorem respond_tells_outage :
    let svc := { sample with store := sample.store.setAnswering false }
    Route.ofPath? (targetPath "/blocks") = some .blocks ∧ Route.blocks.isPost = true ∧
      (svc.respond (.ofMillis 0) ⟨"POST", "/blocks", minting.encode⟩).answer.status = 503 ∧
      ∃ error, (svc.step (.ingestRaw minting.encode)).answer.error? = some error ∧
        svc.StoreFault .none error := by
  intro svc
  have hbody := ofBytes_minting
  have hread := not_turnsDown_minting
  -- the bytes are not looked into
  generalize minting.encode = body at hbody hread ⊢
  have hstatus : (svc.respond (.ofMillis 0) ⟨"POST", "/blocks", body⟩).answer.status = 503 := by
    rw [(respond_minting svc rfl hbody hread).1]
    decide +kernel
  have hroute : Route.ofPath? (targetPath "/blocks") = some .blocks := by decide
  have htells := (respond_tells svc (.ofMillis 0) .none "/blocks" hroute rfl).2 hread
  have hserver := htells.server
  rw [hstatus] at hserver
  exact ⟨hroute, rfl, hstatus, hserver.1 (by decide)⟩

/-- A block that is taken where all tables are there is answered with a status for faults of the
sender where the table of assets is missing. -/
theorem respond_blames_sender :
    let svc := { sample with store := sample.store.dropTable .assets }
    let request : Request := ⟨"POST", "/blocks", minting.encode⟩
    (sample.respond (.ofMillis 0) request).answer.status = 200 ∧
      (svc.respond (.ofMillis 0) request).answer.status = 422 ∧
      svc.store.Fails .none (.noTable .assets) ∧
      (svc.step (.ingestRaw minting.encode)).answer.error? =
        some (.handler "t" 0 (.store (.noTable .assets))) := by
  intro svc request
  have hbody := ofBytes_minting
  have hread := not_turnsDown_minting
  simp only [request]
  generalize minting.encode = body at hbody hread ⊢
  have hanswered := (respond_minting sample rfl hbody hread).1
  obtain ⟨hblamed, hsame⟩ := respond_minting svc rfl hbody hread
  have herror : (svc.step (.ingest minting)).answer.error? =
      some (.handler "t" 0 (.store (.noTable .assets))) := by
    decide +kernel
  rw [hanswered, hblamed, hsame, herror]
  exact ⟨by decide +kernel, rfl, .inr (.inl ⟨.assets, rfl, rfl⟩), rfl⟩

end Service

end ChainWatch
