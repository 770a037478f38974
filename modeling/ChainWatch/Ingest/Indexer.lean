import ChainWatch.Ingest.Run
import ChainWatch.Store.Genesis
import ChainWatch.Store.Schema

/-!
# The indexer

The indexer holds the decoder, which genesis data brings, and writes blocks into the store one
after the other.

* `Indexer.adopt` : takes up genesis data.
* `Indexer.ingest`, `Indexer.ingestRaw` : write a block, given as it is or by its bytes.
* `BlockSummary` : what is reported about a block that has been written.
-/

namespace ChainWatch

/-- What is reported about a block that has been written. -/
structure BlockSummary where
  height : Nat
  totals : Totals
  actionsWritten : Nat
  actionsFailed : Nat
  deriving DecidableEq, Repr

/-- A summary as an object. -/
def BlockSummary.toJson (s : BlockSummary) : Json :=
  .obj [("height", .nat s.height), ("tx_count", .nat s.totals.transactions),
    ("total_fee", .nat s.totals.fee), ("unique_participants", .nat s.totals.participants),
    ("actions_written", .nat s.actionsWritten), ("actions_failed", .nat s.actionsFailed),
    ("undecodable_outputs", .nat s.totals.undecodable)]

/-- The lines about a block that has been written. -/
def BlockSummary.log (s : BlockSummary) : Log :=
  let counted := s!"Tx {s.totals.transactions} | Actions {s.actionsWritten}"
  let summed := s!"Fee {s.totals.fee} | Participants {s.totals.participants}"
  let lost := s!"{s.actionsFailed} action rows dropped"
  let unread := s!"{s.totals.undecodable} outputs undecodable"
  ⟨.info, s!"Block {s.height}: {counted} | {summed}"⟩
  :: if 0 < s.actionsFailed ∨ 0 < s.totals.undecodable then
      [⟨.warn, s!"Block {s.height}: {lost}, {unread}"⟩]
    else []

/-- The decoder in use, and what blocks are read and handled with. -/
structure Indexer where
  factory : DecoderFactory
  registry : Registry
  decoder : Option Decoder := none

/-- Works through a block inside a storage transaction, which is completed only if every step
succeeds and given up otherwise. -/
def Store.process (s : Store) (registry : Registry) (decoder : Decoder) (b : Block)
    (faults : Faults := .none) : Outcome Store (Except IngestError BlockSummary) :=
  match s.bounded .beginBlock with
  | .error error => ⟨s, .error (.store error), []⟩
  | .ok t =>
    match Workspace.setPoint { tables := t } faults with
    | (w, some error) => ⟨s.withTables w.tables, .error (.store error), []⟩
    | (w, none) =>
      match (Script.ofBlock registry decoder b).run s.refuses faults { work := w } with
      | (p, some error) => ⟨s.withTables p.work.rollBack.tables, .error error, p.log⟩
      | (p, none) =>
        match p.work.release faults with
        | (w, some error) => ⟨s.withTables w.rollBack.tables, .error (.store error), p.log⟩
        | (w, none) =>
          let summary : BlockSummary := {
            height := b.height, totals := .of (b.executed decoder)
            actionsWritten := p.written, actionsFailed := p.failed }
          ⟨s.withTables w.tables, .ok summary, p.log ++ summary.log⟩

/-- Empties the derived tables ahead of a block that starts the chain over.  Dropping and creating
them all is one access: it fails as a whole, if the store does not answer. -/
def Store.startOver (s : Store) : Outcome Store (Except StoreError Unit) :=
  let warning : LogLine := ⟨.warn, "Genesis block received, resetting derived tables"⟩
  match s.bounded .genesisReset with
  | .error error => ⟨s, .error error, [warning]⟩
  | .ok _ => ⟨s.clearDerived, .ok (), [warning, derivedReset]⟩

/-- Works through a block and reports if it fails. -/
def Store.processReported (s : Store) (registry : Registry) (decoder : Decoder) (b : Block)
    (faults : Faults := .none) : Outcome Store (Except IngestError BlockSummary) :=
  let out := s.process registry decoder b faults
  match out.answer with
  | .ok _ => out
  | .error error =>
    { out with log := out.log ++ [⟨.error, s!"Block {b.height} failed: {error.message}"⟩] }

/-- Writes a block with a given decoder; one that starts the chain over empties the derived tables
first. -/
def Store.ingest (s : Store) (registry : Registry) (decoder : Decoder) (b : Block)
    (faults : Faults := .none) : Outcome Store (Except IngestError BlockSummary) :=
  let start : LogLine :=
    ⟨.debug, s!"Ingesting block {b.height} ({b.transactions.length} txs)"⟩
  if b.isGenesis then
    match s.startOver with
    | ⟨s, .error error, log⟩ => ⟨s, .error (.store error), start :: log⟩
    | ⟨s, .ok _, log⟩ =>
      -- the tables stay empty even if the block fails
      let out := s.processReported registry decoder b faults
      { out with log := start :: log ++ out.log }
  else
    let out := s.processReported registry decoder b faults
    { out with log := start :: out.log }

namespace Indexer

/-- Whether genesis data has been adopted. -/
def isReady (ix : Indexer) : Bool := ix.decoder.isSome

/-- Takes up genesis data: makes a decoder of it and stores its document.  If either fails,
nothing changes. -/
def adopt (ix : Indexer) (s : Store) (genesis : Bytes) :
    Outcome (Indexer × Store) (Except IngestError Unit) :=
  match ix.factory genesis with
  | .error error =>
    ⟨(ix, s), .error (.undecodable error), [⟨.error, s!"Rejected genesis data: {error.message}"⟩]⟩
  | .ok decoder =>
    match s.storeGenesis genesis with
    | .error error => ⟨(ix, s), .error (.store error), []⟩
    | .ok s =>
      let line := if ix.isReady then "Decoder re-initialized from new genesis data"
        else "Decoder initialized from genesis data"
      ⟨({ ix with decoder := some decoder }, s), .ok (), [⟨.info, line⟩]⟩

/-- Writes a block. -/
def ingest (ix : Indexer) (s : Store) (b : Block) (faults : Faults := .none) :
    Outcome Store (Except IngestError BlockSummary) :=
  match ix.decoder with
  | none => ⟨s, .error .notReady, []⟩
  | some decoder => s.ingest ix.registry decoder b faults

/-- Decodes a block and writes it. -/
def ingestRaw (ix : Indexer) (s : Store) (raw : Bytes) (faults : Faults := .none) :
    Outcome Store (Except IngestError BlockSummary) :=
  match ix.decoder with
  | none => ⟨s, .error .notReady, []⟩
  | some decoder =>
    match decoder.block raw with
    | .error error =>
      ⟨s, .error (.undecodable error), [⟨.error, s!"Failed to decode block: {error.message}"⟩]⟩
    | .ok b => s.ingest ix.registry decoder b faults

end Indexer

end ChainWatch
