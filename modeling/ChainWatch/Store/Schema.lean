import ChainWatch.Outcome
import ChainWatch.Store.Basic

/-!
# The tables come and go

The derived tables can be filled again from the blocks, so they may be emptied; the tables of the
monitor stay.

* `Store.clearDerived` : empty derived tables.
* `Store.createSchema`, `Store.resetDerived`, `Store.resetForStartup` : the same as operations that
  report what they have done.
-/

namespace ChainWatch

/-- The line about tables that are all there. -/
def schemaReady : LogLine := ⟨.info, "Database schema created or already exists"⟩

/-- The line about derived tables that have been emptied. -/
def derivedReset : LogLine :=
  let names := ", ".intercalate (TableName.derived.map TableName.text)
  ⟨.info, s!"Derived tables reset: {names}"⟩

namespace Store

/-- Replaces the derived tables by empty ones; with the table of actions its rule goes. -/
def clearDerived (s : Store) : Store :=
  { s with tables := s.tables.dropDerived.createDerived, refuses := fun _ => false }

/-- Creates the tables that are missing. -/
def createSchema (s : Store) : Outcome Store (Except StoreError Unit) :=
  match s.access with
  | .ok t => ⟨s.withTables t.createAll, .ok (), [schemaReady]⟩
  | .error error => ⟨s, .error error, []⟩

/-- Replaces the derived tables by empty ones. -/
def resetDerived (s : Store) : Outcome Store (Except StoreError Unit) :=
  match s.access with
  | .ok _ => ⟨s.clearDerived, .ok (), [derivedReset]⟩
  | .error error => ⟨s, .error error, []⟩

/-- Replaces the derived tables and the genesis document by empty tables, and creates whatever else
is missing. -/
def resetForStartup (s : Store) : Outcome Store (Except StoreError Unit) :=
  match s.access with
  | .ok t =>
    ⟨{ s with tables := (t.dropDerived.drop .genesis).createAll, refuses := fun _ => false },
      .ok (), [schemaReady]⟩
  | .error error => ⟨s, .error error, []⟩

end Store

end ChainWatch
