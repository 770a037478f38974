import ChainWatch.Ingest.Script
import ChainWatch.Store.Workspace

/-!
# Working through a block

The steps of a block are taken in a workspace, and the store keeps what they have written only if
every step has succeeded.  The row of an action is the exception: it is written under a savepoint of
its own, and if it cannot be written, that costs the row alone.

* `Tables.writeAction`, `Tables.writeTransaction`, `Tables.refreshVolume`, … : single writes.
* `IngestStep.take`, `Script.run` : a step, and steps until one fails.
-/

namespace ChainWatch

namespace Tables

/-- Writes the row of an action, unless the table refuses it. -/
def writeAction (t : Tables) (refuses : ActionRow → Bool) (row : ActionRow) :
    Except StoreError Tables := do
  let table ← need .actions t.actions
  if refuses row then .error .rowRefused
  else return { t with actions := some (table.upsert row) }

/-- Writes the row that an action gives rise to. -/
def writeSide (t : Tables) : SideRow → Except StoreError Tables
  | .asset row => do
    return { t with assets := some ((← need .assets t.assets).upsert row) }
  | .stake row => do
    return { t with stakes := some ((← need .stakes t.stakes).upsert row) }

/-- Writes the row of a transaction. -/
def writeTransaction (t : Tables) (row : TransactionRow) : Except StoreError Tables := do
  return { t with transactions := some ((← need .transactions t.transactions).upsert row) }

/-- The number of stored actions of a type. -/
def countActions (table : Table ActionRow) (code : Nat) : Nat :=
  table.rows.countP (·.actionType == code)

/-- Writes the number of stored actions of a type. -/
def refreshVolume (t : Tables) (code : Nat) : Except StoreError Tables := do
  let total := countActions (← need .actions t.actions) code
  let table ← need .volumes t.volumes
  return { t with volumes := some (table.upsert ⟨code, actionName code, total⟩) }

/-- Writes the row of a block. -/
def writeBlock (t : Tables) (row : BlockRow) : Except StoreError Tables := do
  return { t with blocks := some ((← need .blocks t.blocks).upsert row) }

end Tables

/-- How far the work on a block has come. -/
structure Progress where
  /-- The tables as the work sees them. -/
  work : Workspace
  /-- The number of actions whose rows have been written. -/
  written : Nat := 0
  /-- The number of actions whose rows could not be written. -/
  failed : Nat := 0
  log : Log := []

namespace Progress

/-- Reports something. -/
def report (p : Progress) (level : LogLevel) (text : String) : Progress :=
  { p with log := p.log ++ [⟨level, text⟩] }

/-- Goes on after a write on which the block depends. -/
def afterWrite (p : Progress) : Workspace × Option StoreError → Progress × Option IngestError
  | (w, none) => ({ p with work := w }, none)
  | (w, some error) => ({ p with work := w }, some (.store error))

/-- Goes on after the write of an action's row, whether or not it has succeeded. -/
def afterAction (p : Progress) (row : ActionRow) : Workspace × Option StoreError → Progress
  | (w, none) => { p with work := w, written := p.written + 1 }
  | (w, some error) =>
    { p with work := w, failed := p.failed + 1 }.report .error
      s!"Failed to store action {row.actionIndex} of tx {row.txHash}: {error.message}"

/-- Gives up because the handler of an action has failed. -/
def abandon (p : Progress) (place : ActionPlace) (source : HandlerError) :
    Progress × Option IngestError :=
  let action := s!"tx {place.txHash} action {place.position}"
  (p.report .error
    s!"Block {place.height}: {place.actionName} handler failed for {action}: {source.message}",
   some (.handler place.txHash place.position source))

end Progress

/-- Takes a step; an error ends the work. -/
def IngestStep.take (refuses : ActionRow → Bool) (faults : Faults) (p : Progress) :
    IngestStep → Progress × Option IngestError
  | .report line => ({ p with log := p.log ++ [line] }, none)
  | .writeAction row =>
    (p.afterAction row (p.work.guarded faults (·.writeAction refuses row)), none)
  | .writeSide place row =>
    match p.work.access faults (·.writeSide row) with
    | (w, none) => ({ p with work := w }, none)
    -- the row belongs to a handler, which answers for it
    | (w, some error) => { p with work := w }.abandon place (.store error)
  | .refuse place error => p.abandon place (.field error)
  | .writeTransaction row => p.afterWrite (p.work.access faults (·.writeTransaction row))
  | .refreshVolume code => p.afterWrite (p.work.access faults (·.refreshVolume code))
  | .writeBlock row => p.afterWrite (p.work.access faults (·.writeBlock row))

/-- Takes steps until one fails. -/
def Script.run (refuses : ActionRow → Bool) (faults : Faults) :
    Script → Progress → Progress × Option IngestError
  | [], p => (p, none)
  | step :: rest, p =>
    match step.take refuses faults p with
    | (p, none) => Script.run refuses faults rest p
    | failure => failure

end ChainWatch
