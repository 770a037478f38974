import ChainWatch.Proofs.Printing
import ChainWatch.Proofs.Service
import Mathlib.Data.List.Forall2

/-!
# Blocks that are written and read

A block is read back from the bytes that it is written as: all its transactions, actions, inputs,
results and outputs.  The numbers of a block have to be such as its fields can hold, and its inputs
have to be free of doubles, whose text need not be read back.  A service that reads blocks from JSON
therefore makes no difference between a block and its bytes.

* `Json.Proper`, `Block.Fits` : what values and blocks can be.
* `Reader.list_toRaw` : a list is read back if its items are.
* `Action.Fits.reader_toJson`, `Transaction.Fits.reader_toJson`, `ExecutionResult.reader_toJson`,
  `Block.Fits.reader_toJson` : records are read back.
* `Block.ofBytes_encode` : blocks are read back from their bytes.
* `Block.decode_encode` : the same as seen by a service, with the outputs that can be read.
-/

namespace ChainWatch

/-! ### Readers -/

namespace Json

theorem itemsToRaw_eq_map (items : List Json) : itemsToRaw items = items.map toRaw := by
  induction items with
  | nil => rfl
  | cons item items ih => rw [itemsToRaw, ih, List.map_cons]

theorem toRaw_obj (members : Members) : (obj members).toRaw = .record (membersToRaw members) := by
  rw [toRaw]

theorem depth_obj (members : Members) : (obj members).depth = depthOfMembers members + 1 := by
  rw [depth]

theorem depthOfItems_le_iff {items : List Json} {d : Nat} :
    depthOfItems items ≤ d ↔ ∀ item ∈ items, item.depth ≤ d := by
  induction items with
  | nil => simp [depthOfItems]
  | cons item items ih => simp [depthOfItems, ih]

end Json

theorem mapM_eq_ok {α β ε : Type} {f : α → Except ε β} {xs : List α} {ys : List β}
    (h : List.Forall₂ (fun x y => f x = .ok y) xs ys) : xs.mapM f = .ok ys := by
  induction h with
  | nil => rfl
  | cons hx _ ih =>
    rw [List.mapM_cons, hx, ih]
    rfl

namespace Reader

theorem natural_toRaw {limit n : Nat} (h : n ≤ limit) (wanted : String) (depth : Nat) :
    natural limit wanted depth (Json.nat n).toRaw = .ok n := by
  simp [natural, Json.nat, Json.toRaw, h]

theorem text_toRaw (text : String) (depth : Nat) :
    Reader.text depth (Json.str text).toRaw = .ok text := rfl

/-- A list that does not nest too deeply is read back if its items are. -/
theorem list_toRaw {α : Type} {read : Reader α} {write : α → Json} {xs : List α} {depth : Nat}
    (hdepth : (Json.arr (xs.map write)).depth ≤ depth)
    (h : ∀ x ∈ xs, ∀ depth, (write x).depth ≤ depth → read depth (write x).toRaw = .ok x) :
    list read depth (Json.arr (xs.map write)).toRaw = .ok xs := by
  rw [Json.depth] at hdepth
  obtain ⟨depth, rfl⟩ : ∃ d, depth = d + 1 := ⟨depth - 1, by omega⟩
  have hitems : ∀ x ∈ xs, (write x).depth ≤ depth := by
    simpa using Json.depthOfItems_le_iff.1 (Nat.le_of_succ_le_succ hdepth)
  rw [Json.toRaw, list, Json.itemsToRaw_eq_map, List.map_map]
  refine mapM_eq_ok ?_
  rw [List.forall₂_map_left_iff, List.forall₂_same]
  exact fun x hx => h x hx depth (hitems x hx)

end Reader

/-! ### What there can be -/

namespace Json

/-- What a value can be: an integer has 64 bits, and the members of an object are in the order of
their names. -/
def Proper : Json → Prop
  | .int n => InRange n
  | .obj members => members.Pairwise fun m m' => compare m.1 m'.1 = .lt
  | _ => True

/-- Whether a value is a double. -/
def isFloat : Json → Bool
  | .float _ => true
  | _ => false

theorem Proper.ordered {j : Json} (h : j.Proper) : j.Ordered := by
  cases j with
  | obj members => exact h
  | _ => trivial

theorem Proper.exact {j : Json} (h : j.Proper) (hfloat : j.isFloat = false) : j.Exact := by
  cases j with
  | int n => exact h
  | float x => cases hfloat
  | _ => trivial

end Json

/-- What the fields of an action can hold: a byte and a value. -/
structure Action.Fits (a : Action) : Prop where
  typeId : a.typeId ≤ 255
  input : a.input.All Json.Proper

/-- What the fields of a transaction can hold. -/
structure Transaction.Fits (t : Transaction) : Prop where
  maxFee : t.maxFee ≤ maxUnsigned
  actions : ∀ a ∈ t.actions, a.Fits

/-- What the fields of a block can hold: numbers of 64 bits, of which the time alone is signed. -/
structure Block.Fits (b : Block) : Prop where
  height : b.height ≤ maxUnsigned
  timestampMs : -0x8000000000000000 ≤ b.timestampMs ∧ b.timestampMs ≤ maxSigned
  size : b.size ≤ maxUnsigned
  transactions : ∀ t ∈ b.transactions, t.Fits
  fees : ∀ r ∈ b.results, r.fee ≤ maxUnsigned

/-- Whether no input of a block holds a double. -/
def Block.Floatless (b : Block) : Prop :=
  ∀ t ∈ b.transactions, ∀ a ∈ t.actions, a.input.All fun j => j.isFloat = false

/-! ### Records -/

open RecordReader (once need)

theorem Action.Fits.reader_toJson {a : Action} (h : a.Fits) {depth : Nat}
    (hdepth : a.toJson.depth ≤ depth) : Action.record.reader depth a.toJson.toRaw = .ok a := by
  rw [Action.toJson, Json.depth_obj] at hdepth
  obtain ⟨depth, rfl⟩ : ∃ d, depth = d + 1 := ⟨depth - 1, by omega⟩
  simp only [Json.depthOfMembers] at hdepth
  have hordered : a.input.All Json.Ordered :=
    Json.All.zip (fun j hj _ => hj.ordered) a.input h.input h.input
  have hinput : Reader.any depth a.input.toRaw = .ok a.input :=
    Json.toJson_toRaw a.input hordered depth (by omega)
  have htype : Reader.byte depth (Json.nat a.typeId).toRaw = .ok a.typeId :=
    Reader.natural_toRaw h.typeId _ _
  simp only [Action.toJson, Json.toRaw_obj, Json.membersToRaw, RecordReader.reader]
  simp [RecordReader.readMembers, Action.record, once, need, htype, hinput, bind, Except.bind,
    Except.map, pure, Except.pure]

theorem Transaction.Fits.reader_toJson {t : Transaction} (h : t.Fits) {depth : Nat}
    (hdepth : t.toJson.depth ≤ depth) :
    Transaction.record.reader depth t.toJson.toRaw = .ok t := by
  rw [Transaction.toJson, Json.depth_obj] at hdepth
  obtain ⟨depth, rfl⟩ : ∃ d, depth = d + 1 := ⟨depth - 1, by omega⟩
  simp only [Json.depthOfMembers] at hdepth
  have hactions : Reader.list Action.record.reader depth
      (Json.arr (t.actions.map Action.toJson)).toRaw = .ok t.actions :=
    Reader.list_toRaw (by omega) fun a ha _ => (h.actions a ha).reader_toJson
  have hfee : Reader.unsigned depth (Json.nat t.maxFee).toRaw = .ok t.maxFee :=
    Reader.natural_toRaw h.maxFee _ _
  simp only [Transaction.toJson, Json.toRaw_obj, Json.membersToRaw, RecordReader.reader]
  simp [RecordReader.readMembers, Transaction.record, once, need, Reader.text_toRaw, hactions,
    hfee, bind, Except.bind, Except.map, pure, Except.pure]

/-- Outputs are read back from their hexadecimal texts. -/
theorem ExecutionResult.outputsReader_toRaw {outputs : List Bytes} {depth : Nat}
    (hdepth : (Json.strings (outputs.map Hex.encode)).depth ≤ depth) :
    outputsReader depth (Json.strings (outputs.map Hex.encode)).toRaw = .ok outputs := by
  have htexts : Reader.list .text depth (Json.strings (outputs.map Hex.encode)).toRaw =
      .ok (outputs.map Hex.encode) :=
    Reader.list_toRaw hdepth fun text _ depth _ => Reader.text_toRaw text depth
  simp only [outputsReader, htexts, bind, Except.bind]
  refine mapM_eq_ok ?_
  rw [List.forall₂_map_left_iff, List.forall₂_same]
  intro bytes _
  rw [Hex.decodeText_encode]
  rfl

theorem ExecutionResult.reader_toJson {r : ExecutionResult} (h : r.fee ≤ maxUnsigned) {depth : Nat}
    (hdepth : r.toJson.depth ≤ depth) :
    ExecutionResult.record.reader depth r.toJson.toRaw = .ok r := by
  rw [ExecutionResult.toJson, Json.depth_obj] at hdepth
  obtain ⟨depth, rfl⟩ : ∃ d, depth = d + 1 := ⟨depth - 1, by omega⟩
  simp only [Json.depthOfMembers] at hdepth
  have hsuccess : Reader.boolean depth (Json.bool r.success).toRaw = .ok r.success := rfl
  have hfee : Reader.unsigned depth (Json.nat r.fee).toRaw = .ok r.fee :=
    Reader.natural_toRaw h _ _
  have houtputs : outputsReader depth (Json.strings (r.outputs.map Hex.encode)).toRaw =
      .ok r.outputs := outputsReader_toRaw (by omega)
  simp only [toJson, Json.toRaw_obj, Json.membersToRaw, RecordReader.reader]
  simp [RecordReader.readMembers, ExecutionResult.record, once, need, hsuccess, hfee, houtputs,
    bind, Except.bind, Except.map, pure, Except.pure]

theorem Block.Fits.reader_toJson {b : Block} (h : b.Fits) {depth : Nat}
    (hdepth : b.toJson.depth ≤ depth) : Block.reader depth b.toJson.toRaw = .ok b := by
  rw [Block.toJson, Json.depth_obj] at hdepth
  obtain ⟨depth, rfl⟩ : ∃ d, depth = d + 1 := ⟨depth - 1, by omega⟩
  simp only [Json.depthOfMembers] at hdepth
  have hheight : Reader.unsigned depth (Json.nat b.height).toRaw = .ok b.height :=
    Reader.natural_toRaw h.height _ _
  have htime : Reader.signed depth (Json.int b.timestampMs).toRaw = .ok b.timestampMs :=
    if_pos h.timestampMs.2
  have hsize : Reader.unsigned depth (Json.nat b.size).toRaw = .ok b.size :=
    Reader.natural_toRaw h.size _ _
  have htransactions : Reader.list Transaction.record.reader depth
      (Json.arr (b.transactions.map Transaction.toJson)).toRaw = .ok b.transactions :=
    Reader.list_toRaw (by omega) fun t ht _ => (h.transactions t ht).reader_toJson
  have hresults : Reader.list ExecutionResult.record.reader depth
      (Json.arr (b.results.map ExecutionResult.toJson)).toRaw = .ok b.results :=
    Reader.list_toRaw (by omega) fun r hr _ => ExecutionResult.reader_toJson (h.fees r hr)
  simp only [Block.reader, Block.toJson, Json.toRaw_obj, Json.membersToRaw, RecordReader.reader]
  simp [RecordReader.readMembers, Block.record, once, need, Reader.text_toRaw, hheight, htime,
    hsize, htransactions, hresults, bind, Except.bind, Except.map, pure, Except.pure]

/-! ### Bytes -/

theorem Action.Fits.toJson_exact {a : Action} (h : a.Fits)
    (hfloat : a.input.All fun j => j.isFloat = false) : a.toJson.All Json.Exact := by
  have htype : Json.InRange a.typeId := Json.inRange_nat (h.typeId.trans (by decide))
  have hinput : a.input.All Json.Exact :=
    Json.All.zip (fun j hj hj' => hj.exact hj') a.input h.input hfloat
  exact ⟨trivial, htype, hinput, trivial⟩

theorem Transaction.Fits.toJson_exact {t : Transaction} (h : t.Fits)
    (hfloat : ∀ a ∈ t.actions, a.input.All fun j => j.isFloat = false) :
    t.toJson.All Json.Exact := by
  have hactions : (Json.arr (t.actions.map Action.toJson)).All Json.Exact := by
    refine ⟨trivial, Json.allItems_iff.2 fun j hj => ?_⟩
    obtain ⟨a, ha, rfl⟩ := List.mem_map.1 hj
    exact (h.actions a ha).toJson_exact (hfloat a ha)
  exact ⟨trivial, trivial, trivial, hactions, Json.inRange_nat h.maxFee, trivial⟩

theorem ExecutionResult.toJson_exact {r : ExecutionResult} (h : r.fee ≤ maxUnsigned) :
    r.toJson.All Json.Exact := by
  have houtputs : (Json.strings (r.outputs.map Hex.encode)).All Json.Exact := by
    refine ⟨trivial, Json.allItems_iff.2 fun j hj => ?_⟩
    obtain ⟨text, -, rfl⟩ := List.mem_map.1 hj
    trivial
  exact ⟨trivial, trivial, Json.inRange_nat h, houtputs, trivial⟩

theorem Block.Fits.toJson_exact {b : Block} (h : b.Fits) (hfloat : b.Floatless) :
    b.toJson.All Json.Exact := by
  have htransactions : (Json.arr (b.transactions.map Transaction.toJson)).All Json.Exact := by
    refine ⟨trivial, Json.allItems_iff.2 fun j hj => ?_⟩
    obtain ⟨t, ht, rfl⟩ := List.mem_map.1 hj
    exact (h.transactions t ht).toJson_exact (hfloat t ht)
  have hresults : (Json.arr (b.results.map ExecutionResult.toJson)).All Json.Exact := by
    refine ⟨trivial, Json.allItems_iff.2 fun j hj => ?_⟩
    obtain ⟨r, hr, rfl⟩ := List.mem_map.1 hj
    exact ExecutionResult.toJson_exact (h.fees r hr)
  have htime : Json.InRange b.timestampMs :=
    ⟨h.timestampMs.1, h.timestampMs.2.trans (by decide)⟩
  exact ⟨trivial, Json.inRange_nat h.height, trivial, trivial, trivial, htime,
    Json.inRange_nat h.size, htransactions, hresults, trivial⟩

/-- A block is read back from its bytes. -/
theorem Block.ofBytes_encode {b : Block} (h : b.Fits) (hfloat : b.Floatless)
    (hheight : 1 ≤ b.height) (hdepth : b.toJson.depth ≤ maxDepth) :
    Block.ofBytes b.encode = .ok b := by
  have hread : Block.reader.run maxDepth b.encode = .ok b := by
    rw [Reader.run, encode, Raw.document_text (h.toJson_exact hfloat)]
    simp only [h.reader_toJson hdepth, bind, Except.bind, ↓reduceIte]
  have hnonzero : b.height ≠ 0 := by omega
  simp only [ofBytes, hread, Except.mapError, bind, Except.bind, if_neg hnonzero]

/-- A service that reads blocks from JSON does the same with a block and with bytes of it. -/
theorem Service.step_ingestRaw_of_read {svc : Service} {raw : Bytes} {b : Block} (faults : Faults)
    (hread : Block.ofBytes raw = .ok b)
    (hdecoder : ∀ decoder, svc.indexer.decoder = some decoder → decoder.block = Block.ofBytes) :
    svc.step (.ingestRaw raw) faults = svc.step (.ingest b) faults := by
  cases h : svc.indexer.decoder with
  | none => simp only [step, Indexer.ingestRaw, Indexer.ingest, h]
  | some decoder =>
    have hblock : decoder.block raw = .ok b := by rw [hdecoder decoder h, hread]
    simp only [step, Indexer.ingestRaw, Indexer.ingest, h, hblock]

/-- **Reading undoes writing.**  Take any block whose numbers and inputs are such as there can be.
If its height is at least one, its inputs hold no doubles, and its JSON form nests no deeper than
documents may, then the block is read back from its bytes as it was.  Every service that reads
blocks from JSON, or has no decoder at all, does the same with these bytes and with the block: the
answer, the tables and the log are the same, whatever state it is in and whatever accesses fail.

A text is read as an output exactly if it has an even number of hexadecimal digits and nothing else
behind the marks at its start, and what is read of it is written as these digits in lower case. -/
theorem Block.decode_encode :
    (∀ b : Block, b.Fits → b.Floatless → 1 ≤ b.height → b.toJson.depth ≤ maxDepth →
      Decoder.json.block b.encode = .ok b ∧
        ∀ (svc : Service) (faults : Faults),
          (∀ decoder, svc.indexer.decoder = some decoder →
            decoder.block = Decoder.json.block) →
          svc.step (.ingestRaw b.encode) faults = svc.step (.ingest b) faults) ∧
    ∀ (s : String) (marks : Nat) (digits : List Char),
      s.toList = (List.replicate marks ['0', 'x']).flatten ++ digits → ¬['0', 'x'] <+: digits →
      ((∃ bytes, Hex.decodeText s = .ok bytes) ↔
          Even digits.length ∧ ∀ c ∈ digits, Hex.isDigit c = true) ∧
        ∀ bytes, Hex.decodeText s = .ok bytes →
          Hex.encode bytes = String.ofList (digits.map Char.toLower) := by
  constructor
  · intro b h hfloat hheight hdepth
    have hread := ofBytes_encode h hfloat hheight hdepth
    exact ⟨hread, fun svc faults => Service.step_ingestRaw_of_read faults hread⟩
  · intro s marks digits hs hunmarked
    exact ⟨Hex.exists_decodeText_iff hs hunmarked,
      fun bytes => Hex.encode_of_decodeText hs hunmarked⟩

/-- An action whose input has characters that are escaped, and the least and the greatest
integer. -/
def Action.written : Action :=
  { typeId := 255
    input := .obj [("memo", .str "\"a\\\n\x01é"),
      ("values", .arr [.int (-0x8000000000000000), .int maxUnsigned, .null, .arr []])] }

/-- A block with this action, and with an empty output. -/
def Block.written : Block :=
  { height := 1, blockHash := "block", parentHash := "parent", stateRoot := "root"
    timestampMs := -1, size := 0
    transactions := [⟨"tx", "sponsor", [Action.written], maxUnsigned⟩]
    results := [⟨false, 0, [[0xde, 0xad], []]⟩] }

theorem Action.fits_written : Action.written.Fits := by
  have hordered : Json.Proper Action.written.input := by
    simp only [Json.Proper, written]
    decide
  have hleast : Json.InRange (-0x8000000000000000) := ⟨by decide, by decide⟩
  have hgreatest : Json.InRange maxUnsigned := Json.inRange_nat le_rfl
  exact ⟨by decide, hordered, trivial,
    ⟨trivial, hleast, hgreatest, trivial, ⟨trivial, trivial⟩, trivial⟩, trivial⟩

theorem Block.decode_encode_written :
    let b := Block.written
    b.Fits ∧ b.Floatless ∧ 1 ≤ b.height ∧ b.toJson.depth ≤ maxDepth ∧
      Decoder.json.block b.encode = .ok b ∧
      Service.sample.step (.ingestRaw b.encode) = Service.sample.step (.ingest b) ∧
      "0x0xDEad".toList = (List.replicate 2 ['0', 'x']).flatten ++ ['D', 'E', 'a', 'd'] ∧
      ¬['0', 'x'] <+: ['D', 'E', 'a', 'd'] ∧
      ∃ bytes, Hex.decodeText "0x0xDEad" = .ok bytes ∧ Hex.encode bytes = "dead" := by
  intro b
  have hfits : b.Fits := by
    refine ⟨by decide, by decide, by decide, ?_, by decide⟩
    intro t ht
    obtain rfl := List.mem_singleton.1 ht
    refine ⟨le_rfl, fun a ha => ?_⟩
    obtain rfl := List.mem_singleton.1 ha
    exact Action.fits_written
  have hfloat : b.Floatless := by
    intro t ht a ha
    obtain rfl := List.mem_singleton.1 ht
    obtain rfl := List.mem_singleton.1 ha
    exact ⟨rfl, rfl, ⟨rfl, rfl, rfl, rfl, ⟨rfl, trivial⟩, trivial⟩, trivial⟩
  have hdepth : b.toJson.depth ≤ maxDepth := by decide
  have hmarks : "0x0xDEad".toList = (List.replicate 2 ['0', 'x']).flatten ++ ['D', 'E', 'a', 'd'] :=
    rfl
  have hunmarked : ¬['0', 'x'] <+: ['D', 'E', 'a', 'd'] := by decide
  obtain ⟨hblocks, htexts⟩ := decode_encode
  obtain ⟨hread, hservice⟩ := hblocks b hfits hfloat le_rfl hdepth
  obtain ⟨haccepted, hwritten⟩ := htexts "0x0xDEad" 2 _ hmarks hunmarked
  obtain ⟨bytes, hbytes⟩ := haccepted.2 ⟨by decide, List.all_eq_true.1 (by decide)⟩
  have hsame := hservice Service.sample .none (by rintro decoder ⟨⟩; rfl)
  exact ⟨hfits, hfloat, le_rfl, hdepth, hread, hsame, hmarks, hunmarked, bytes, hbytes,
    hwritten bytes hbytes⟩

end ChainWatch
