import ChainWatch.Store.Basic

/-!
# The genesis document

A payload that is JSON is stored as the value it is; any other is stored by its bytes in
hexadecimal, so that they can be recovered.

* `genesisDocument` : the document of a payload.
* `Tables.replaceGenesis` : stores a document in place of all others.
-/

namespace ChainWatch

/-- The document that is stored for a payload. -/
def genesisDocument (payload : Bytes) : Json :=
  match Json.parse payload with
  | .ok value => value
  | .error _ => .obj [("raw_hex", .str (Hex.encode payload))]

/-- The number that follows the ids of a table of genesis documents. -/
def Table.nextGenesisId (t : Table GenesisRow) : Nat :=
  match t.rows.getLast? with
  | some row => row.id + 1
  | none => 1

/-- Stores a document in place of all others. -/
def Tables.replaceGenesis (t : Tables) (document : Json) : Except StoreError Tables := do
  let table ← need .genesis t.genesis
  return { t with genesis := some (Table.empty.upsert ⟨table.nextGenesisId, document⟩) }

/-- Stores the document of a payload.  That the others are deleted and that it is inserted is one
access: it fails as a whole, if the store does not answer or the table is missing. -/
def Store.storeGenesis (s : Store) (payload : Bytes) : Except StoreError Store := do
  let t ← s.bounded .storeGenesis
  return s.withTables (← t.replaceGenesis (genesisDocument payload))

end ChainWatch
