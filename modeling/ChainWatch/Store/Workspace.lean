import ChainWatch.Store.Basic

/-!
# Savepoints

A connection that writes sees the tables through a workspace.  It can set a savepoint, go on
writing, and then either release the savepoint, which leaves the writes to the savepoint around it,
or roll back to it, which brings the tables back as they were.  The outermost savepoint is the
storage transaction as a whole.  Every access but the rollback can fail, and what has failed has
written nothing.

* `Workspace` : the tables, and what they were at every open savepoint.
* `Faults` : the accesses of a transaction that fail.
* `Workspace.access`, `Workspace.setPoint`, `Workspace.release`, `Workspace.rollBack` : the single
  operations.
* `Workspace.guarded` : a write under a savepoint of its own.
-/

namespace ChainWatch

/-- The accesses that fail although the tables would allow them, by their number within the storage
transaction of a block: the store rejects a row, the connection breaks, or the answer comes too
late.  Outside such a transaction every operation is a single access that no fault reaches: whether
it fails depends on the store alone, and then it fails as a whole. -/
abbrev Faults := Nat → Option StoreError

/-- Nothing fails. -/
def Faults.none : Faults := fun _ => Option.none

/-- The tables as a writing connection sees them. -/
structure Workspace where
  tables : Tables
  /-- The tables at every open savepoint, the innermost first. -/
  saved : List Tables := []
  /-- The number of accesses so far. -/
  accesses : Nat := 0

namespace Workspace

/-- Makes an access that changes the tables, or fails. -/
def access (w : Workspace) (faults : Faults) (write : Tables → Except StoreError Tables) :
    Workspace × Option StoreError :=
  let counted := { w with accesses := w.accesses + 1 }
  match faults w.accesses with
  | some error => (counted, some error)
  | none =>
    match write w.tables with
    | .ok t => ({ counted with tables := t }, none)
    | .error error => (counted, some error)

/-- Sets a savepoint. -/
def setPoint (w : Workspace) (faults : Faults) : Workspace × Option StoreError :=
  match w.access faults .ok with
  | (w, none) => ({ w with saved := w.tables :: w.saved }, none)
  | failure => failure

/-- Releases the innermost savepoint. -/
def release (w : Workspace) (faults : Faults) : Workspace × Option StoreError :=
  match w.access faults .ok with
  | (w, none) => ({ w with saved := w.saved.tail }, none)
  | failure => failure

/-- Goes back to the innermost savepoint. -/
def rollBack (w : Workspace) : Workspace :=
  match w.saved with
  | [] => w
  | t :: saved => { w with tables := t, saved }

/-- Makes an access under a savepoint of its own; if any part of that fails, nothing is left of
it. -/
def guarded (w : Workspace) (faults : Faults) (write : Tables → Except StoreError Tables) :
    Workspace × Option StoreError :=
  match w.setPoint faults with
  | (w, some error) => (w, some error)
  | (w, none) =>
    match w.access faults write with
    | (w, some error) => (w.rollBack, some error)
    | (w, none) =>
      match w.release faults with
      | (w, some error) => (w.rollBack, some error)
      | (w, none) => (w, none)

end Workspace

end ChainWatch
