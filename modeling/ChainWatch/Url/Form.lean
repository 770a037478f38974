import ChainWatch.Text.Percent

/-!
# Form-encoded queries

A query is a list of parameters separated by ampersands, each a name and a value separated by the
first equals sign.  A plus sign stands for a blank, and groups of a percent sign and two digits for
bytes.

* `Form.parameters` : the names and values of a query.
-/

namespace ChainWatch

namespace Form

/-- The text of one side of a parameter; ill-formed bytes become the replacement character. -/
def decodeSide (side : List Char) : String :=
  let bytes := (Utf8.encodeChars side).map fun b => if b = 0x2B then 0x20 else b
  String.ofList ((Utf8.decode (Percent.decode bytes)).map fun c => c.getD (Char.ofNat 0xFFFD))

/-- The name and the value of a parameter; without an equals sign the value is empty. -/
def parameter (piece : List Char) : String × String :=
  (decodeSide (piece.takeWhile (· != '=')), decodeSide ((piece.dropWhile (· != '=')).drop 1))

/-- The parameters of a query in their order. -/
def parameters (query : List Char) : List (String × String) :=
  ((query.splitOn '&').filter fun piece => !piece.isEmpty).map parameter

end Form

end ChainWatch
