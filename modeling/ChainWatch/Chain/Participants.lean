import ChainWatch.Json.Basic
import ChainWatch.Store.Table

/-!
# Participants

The addresses that take part in a transaction stand in the outputs of its actions, in the text
fields `actor` and `receiver`.  The participants of a block are these and the sponsors of its
transactions.

* `AddressSet` : distinct addresses, ascending.
* `TxParticipants.record` : collects the addresses of an output.
* `BlockParticipants.addSponsor`, `BlockParticipants.absorb` : collect those of a block.
-/

namespace ChainWatch

instance : Keyed String String := ⟨id⟩

/-- A set of addresses, as the ascending list of its members. -/
abbrev AddressSet := Table String

namespace AddressSet

/-- Adds an address; the empty text is none. -/
def add (s : AddressSet) (address : String) : AddressSet :=
  if address.isEmpty then s else s.upsert address

/-- The members, ascending. -/
def toList (s : AddressSet) : List String := s.rows

/-- Whether an address is a member. -/
def contains (s : AddressSet) (address : String) : Bool := (s.find? address).isSome

/-- The members of two sets. -/
def union (s t : AddressSet) : AddressSet := t.rows.foldl Table.upsert s

end AddressSet

/-- The text in a field of an output. -/
def addressField (output : Members) (field : String) : Option String :=
  match output.get? field with
  | some (.str address) => some address
  | _ => none

/-- The addresses that the outputs of a transaction name. -/
structure TxParticipants where
  actors : AddressSet := Table.empty
  receivers : AddressSet := Table.empty

namespace TxParticipants

/-- Collects the actor and the receiver of an output. -/
def record (p : TxParticipants) (output : Members) : TxParticipants :=
  { actors := p.actors.add ((addressField output "actor").getD "")
    receivers := p.receivers.add ((addressField output "receiver").getD "") }

/-- The addresses of a list of outputs. -/
def ofOutputs (outputs : List Members) : TxParticipants := outputs.foldl record {}

end TxParticipants

/-- The addresses that take part in a block. -/
abbrev BlockParticipants := AddressSet

namespace BlockParticipants

/-- Adds the sponsor of a transaction. -/
def addSponsor (s : BlockParticipants) (sponsor : String) : BlockParticipants :=
  AddressSet.add s sponsor

/-- Adds the addresses of a transaction's outputs. -/
def absorb (s : BlockParticipants) (tx : TxParticipants) : BlockParticipants :=
  AddressSet.union (AddressSet.union s tx.actors) tx.receivers

end BlockParticipants

end ChainWatch
