import ChainWatch.Api.Error
import ChainWatch.Health.Monitor
import ChainWatch.Ingest.Indexer
import ChainWatch.Url.Form
import ChainWatch.Version

/-!
# The HTTP interface

* `Service` : the store, the indexer and the monitor together.
* `Request`, `Response` : what comes in and what goes out.
* `Route.ofPath?`, `Route.allows` : what can be asked for, and how.
* `Service.respond` : the answer to a request.
-/

namespace ChainWatch

/-- The store with the indexer that fills it and the monitor that watches it. -/
structure Service where
  store : Store
  indexer : Indexer
  monitor : Monitor

/-- A request: a method, a target with path and query, and a body. -/
structure Request where
  method : String
  target : String
  body : Bytes := []

/-- A response; the body is the text of a JSON document, or empty. -/
structure Response where
  status : Nat
  body : String := ""
  deriving DecidableEq, Repr

namespace Response

/-- A response that is a document. -/
def ofJson (status : Nat) (doc : Json) : Response := ⟨status, doc.text⟩

/-- A response that is a refusal. -/
def refusal (error : ApiError) : Response :=
  ofJson error.status (.obj [("error", .str error.message)])

/-- A document, or the refusal of a request. -/
def ofResult (result : Except ApiError Json) : Response :=
  match result with
  | .ok doc => ofJson 200 doc
  | .error error => refusal error

end Response

/-- What can be asked for. -/
inductive Route
  | root
  | health
  | incidents
  | daily
  | genesis
  | adopt
  | blocks
  deriving DecidableEq, Repr

namespace Route

/-- Every route. -/
def all : List Route := [root, health, incidents, daily, genesis, adopt, blocks]

/-- The path of a route. -/
def path : Route → String
  | root => "/"
  | health => "/health"
  | incidents => "/health/incidents"
  | daily => "/health/daily"
  | genesis => "/genesis"
  | adopt => "/initialize"
  | blocks => "/blocks"

/-- The route of a path. -/
def ofPath? (path : String) : Option Route := all.find? (·.path == path)

/-- Whether a route takes something up rather than telling something. -/
def isPost : Route → Bool
  | adopt | blocks => true
  | _ => false

/-- Whether a route can be used with a method. -/
def allows (route : Route) (method : String) : Bool :=
  if route.isPost then method == "POST" else method == "GET" || method == "HEAD"

end Route

/-- What a target asks for: its path and its query, behind scheme and authority if it names them.
A target that does neither so nor starts with a slash is left as it is, and leads nowhere. -/
def targetResource (target : List Char) : List Char :=
  let endsPart (c : Char) : Bool := c == '/' || c == '?' || c == '#'
  match target.dropWhile fun c => c != ':' && !endsPart c with
  | ':' :: '/' :: '/' :: rest =>
    match rest.dropWhile fun c => !endsPart c with
    | '/' :: rest => '/' :: rest
    | rest => '/' :: rest
  | _ => target

/-- The path of a target. -/
def targetPath (target : String) : String :=
  String.ofList ((targetResource target.toList).takeWhile fun c => c != '?' && c != '#')

/-- The query of a target, without the mark in front and without what follows a hash mark. -/
def targetQuery (target : String) : List Char :=
  (((targetResource target.toList).takeWhile (· != '#')).dropWhile (· != '?')).drop 1

/-- The number of incidents that are listed if none is asked for. -/
def standardIncidents : Nat := 50

/-- The greatest number of incidents that are listed. -/
def mostIncidents : Nat := 500

/-- The greatest length of a body that is read, in bytes. -/
def bodyLimit : Nat := 0x200000

/-- The number of incidents that a query asks for, if it can be read. -/
def incidentLimit (query : List Char) : Option Nat :=
  match (Form.parameters query).filter (·.1 == "limit") with
  | [] => some standardIncidents
  | [(_, value)] =>
    match readUnsigned maxUnsigned value with
    | .ok n => some (max 1 (min n mostIncidents))
    | .error _ => none
  | _ => none

/-- What the service says about itself. -/
def selfDescription : Json :=
  .obj [("name", .str "VM Subscriber"), ("version", .str programVersion),
    ("endpoints", .strings ((Route.all.filter (· ≠ .root)).map Route.path))]

namespace Service

/-- The listed incidents. -/
def listIncidents (svc : Service) (query : List Char) : Response :=
  match incidentLimit query with
  | none => ⟨400, ""⟩
  | some limit =>
    .ofResult (((svc.store.history limit).mapError .ofStore).map fun incidents =>
      .arr (incidents.map Incident.toJson))

/-- The stored genesis document. -/
def showGenesis (svc : Service) : Response :=
  .ofResult <|
    match svc.store.latestGenesis with
    | .ok (some doc) => .ok doc
    | .ok none => .error (.notFound "no genesis data stored")
    | .error error => .error (.ofStore error)

/-- Takes up the genesis data of a body. -/
def adopt (svc : Service) (body : Bytes) : Outcome Service Response :=
  if body.isEmpty then ⟨svc, .refusal (.invalidRequest "empty genesis body"), []⟩
  else
    let out := svc.indexer.adopt svc.store body
    ⟨{ svc with indexer := out.state.1, store := out.state.2 },
      .ofResult ((out.answer.mapError .ofIngest).map fun _ =>
        .obj [("status", .str "initialized")]),
      out.log⟩

/-- Writes the block of a body. -/
def takeBlock (svc : Service) (body : Bytes) (faults : Faults := .none) :
    Outcome Service Response :=
  let out := svc.indexer.ingestRaw svc.store body faults
  ⟨{ svc with store := out.state },
    .ofResult ((out.answer.mapError .ofIngest).map BlockSummary.toJson), out.log⟩

/-- Does something with a body, unless it is too long to be read. -/
def receive (svc : Service) (body : Bytes) (use : Bytes → Outcome Service Response) :
    Outcome Service Response :=
  if bodyLimit < body.length then ⟨svc, ⟨413, ""⟩, []⟩ else use body

/-- The answer to a request with a method that its route allows; `faults` are accesses of a block's
storage transaction that fail. -/
def serve (svc : Service) (now : Instant) (request : Request) (faults : Faults := .none) :
    Route → Outcome Service Response
  | .root => ⟨svc, .ofJson 200 selfDescription, []⟩
  | .health => ⟨svc, .ofJson 200 svc.monitor.status.toJson, []⟩
  | .incidents => ⟨svc, svc.listIncidents (targetQuery request.target), []⟩
  | .daily =>
    ⟨svc, .ofResult (((Monitor.rollup svc.store now).mapError .ofStore).map fun days =>
      .arr (days.map DailySummary.toJson)), []⟩
  | .genesis => ⟨svc, svc.showGenesis, []⟩
  | .adopt => svc.receive request.body svc.adopt
  | .blocks => svc.receive request.body (svc.takeBlock · faults)

/-- The answer to a request; one that asks for the head alone gets no body. -/
def respond (svc : Service) (now : Instant) (request : Request) (faults : Faults := .none) :
    Outcome Service Response :=
  match Route.ofPath? (targetPath request.target) with
  | none => ⟨svc, ⟨404, ""⟩, []⟩
  | some route =>
    if route.allows request.method then
      let out := svc.serve now request faults route
      if request.method == "HEAD" then { out with answer := { out.answer with body := "" } }
      else out
    else ⟨svc, ⟨405, ""⟩, []⟩

end Service

end ChainWatch
