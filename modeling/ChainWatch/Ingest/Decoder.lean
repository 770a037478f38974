import ChainWatch.Chain.BlockReader

/-!
# Decoders

The codec of a chain stands behind a boundary: a factory turns genesis data into a decoder, and a
decoder turns bytes into blocks and into the outputs of actions.  Two factories are given here, and
nothing else depends on which one is in use.

* `DecodeError` : what a decoder refuses, with the reason.
* `Decoder`, `DecoderFactory` : the boundary.
* `DecoderFactory.json` : blocks and outputs are JSON, and so is the genesis data.
* `DecoderFactory.permissive` : the same, with any genesis data.
* `Block.encode` : the bytes of a block.
-/

namespace ChainWatch

/-- What cannot be decoded. -/
inductive DecodeError
  | genesis (reason : String)
  | block (reason : String)
  | output (reason : String)
  deriving DecidableEq, Repr

/-- The wording of a refusal. -/
def DecodeError.message : DecodeError → String
  | .genesis reason => s!"Invalid genesis data: {reason}"
  | .block reason => s!"Failed to decode block: {reason}"
  | .output reason => s!"Failed to decode action output: {reason}"

/-- Turns bytes into blocks and into outputs of actions. -/
structure Decoder where
  block : Bytes → Except DecodeError Block
  output : Bytes → Except DecodeError Members

/-- Makes a decoder of genesis data. -/
abbrev DecoderFactory := Bytes → Except DecodeError Decoder

/-- Reads a block from JSON; its height is at least one. -/
def Block.ofBytes (raw : Bytes) : Except DecodeError Block := do
  let b ← (Block.reader.run maxDepth raw).mapError fun fault => .block fault.message
  if b.height = 0 then .error (.block "block height must be at least 1") else .ok b

/-- The bytes of a block's JSON form. -/
def Block.encode (b : Block) : Bytes := Utf8.encode b.toJson.text

/-- Reads an output of an action, which has to be an object. -/
def outputOfBytes (raw : Bytes) : Except DecodeError Members :=
  match Json.parse raw with
  | .ok (.obj members) => .ok members
  | .ok other => .error (.output s!"expected an object, got {other.text}")
  | .error fault => .error (.output fault.message)

/-- Reads blocks and outputs from JSON. -/
def Decoder.json : Decoder := ⟨Block.ofBytes, outputOfBytes⟩

namespace DecoderFactory

/-- Genesis data has to be a JSON object. -/
def json : DecoderFactory := fun genesis =>
  match Json.parse genesis with
  | .ok (.obj _) => .ok .json
  | .ok _ => .error (.genesis "genesis must be a JSON object")
  | .error fault => .error (.genesis fault.message)

/-- Any genesis data will do. -/
def permissive : DecoderFactory := fun _ => .ok .json

end DecoderFactory

end ChainWatch
