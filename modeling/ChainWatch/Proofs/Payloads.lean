import ChainWatch.Proofs.Adoption
import ChainWatch.Proofs.Printing

/-!
# Genesis documents and their payloads

A payload that is no JSON is wrapped: its document is an object that holds the bytes in hexadecimal.
The bytes come back from the document, so two such payloads have different documents.  But the
object is a JSON document like any other, and a payload that is this document in JSON has it as
well.  Whether a document is a wrapper cannot be told from the document.

* `Json.wrapper`, `Json.unwrap?` : the document of bytes, and the bytes of a document.
* `Json.parse_text` : a document is read back from its text.
* `genesisDocument_eq_iff_of_binary` : which payloads have the document of one that is no JSON.
-/

namespace ChainWatch

namespace Json

/-- The object that holds bytes in hexadecimal. -/
def wrapper (payload : Bytes) : Json := .obj [("raw_hex", .str (Hex.encode payload))]

/-- The bytes that an object holds in hexadecimal. -/
def unwrap? : Json → Option Bytes
  | .obj [("raw_hex", .str digits)] => (Hex.decodeText digits).toOption
  | _ => none

theorem unwrap?_wrapper (payload : Bytes) : (wrapper payload).unwrap? = some payload := by
  simp only [wrapper, unwrap?, Hex.decodeText_encode, Except.toOption]

theorem wrapper_injective {payload other : Bytes} (h : wrapper payload = wrapper other) :
    payload = other := by
  have hbytes := unwrap?_wrapper payload
  rw [h, unwrap?_wrapper] at hbytes
  exact (Option.some.inj hbytes).symm

/-- A document is read back from its text. -/
theorem parse_text {j : Json} (hexact : j.All Exact) (hordered : j.All Ordered)
    (hdepth : j.depth ≤ maxDepth) : Json.parse (Utf8.encode j.text) = .ok j := by
  rw [parse, Reader.run, Raw.document_text hexact]
  simp only [Reader.any, toJson_toRaw j hordered maxDepth hdepth, bind, Except.bind, ↓reduceIte]

theorem parse_text_wrapper (payload : Bytes) :
    Json.parse (Utf8.encode (wrapper payload).text) = .ok (wrapper payload) := by
  have hexact : (wrapper payload).All Exact := ⟨trivial, trivial, trivial⟩
  have hordered : (wrapper payload).All Ordered := ⟨List.pairwise_singleton _ _, trivial, trivial⟩
  exact parse_text hexact hordered (by simp [wrapper, depth, depthOfMembers, maxDepth])

end Json

/-! ### Documents of payloads -/

theorem genesisDocument_of_json {payload : Bytes} {value : Json}
    (h : Json.parse payload = .ok value) : genesisDocument payload = value := by
  simp only [genesisDocument, h]

theorem genesisDocument_of_binary {payload : Bytes} (h : ∀ value, Json.parse payload ≠ .ok value) :
    genesisDocument payload = .wrapper payload := by
  unfold genesisDocument
  split
  next value hvalue => exact absurd hvalue (h value)
  next => rfl

/-- A document that has been stored is found. -/
theorem Store.latestGenesis_of_stored {s s' : Store} {payload : Bytes}
    (h : s.storeGenesis payload = .ok s') :
    s'.latestGenesis = .ok (some (genesisDocument payload).reread) := by
  have ha : s.answering = true := by
    by_contra houtage
    obtain ⟨error, herror⟩ := storeGenesis_of_outage (Bool.eq_false_of_not_eq_true houtage) payload
    rw [herror] at h
    cases h
  obtain ⟨table, -, rfl⟩ := storeGenesis_eq_ok h
  simp only [latestGenesis, withTables, bounded, ha, ↓reduceIte, Tables.need, bind, Except.bind]
  rfl

/-- **A payload that is no JSON can be recovered from its document, but the document does not tell
that it was such a payload.**  The document holds the bytes, also when it has been stored and is
read from the store.  Another payload has the same document exactly if it is this document in JSON,
and there always is one. -/
theorem genesisDocument_eq_iff_of_binary {payload : Bytes}
    (h : ∀ value, Json.parse payload ≠ .ok value) :
    (genesisDocument payload).unwrap? = some payload ∧
      (∀ s s' : Store, s.storeGenesis payload = .ok s' →
        ∃ document, s'.latestGenesis = .ok (some document) ∧ document.unwrap? = some payload) ∧
      (∀ other, genesisDocument payload = genesisDocument other ↔
        other = payload ∨ Json.parse other = .ok (.wrapper payload)) ∧
      ∃ other, other ≠ payload ∧ genesisDocument payload = genesisDocument other := by
  have hdocument := genesisDocument_of_binary h
  rw [hdocument]
  refine ⟨Json.unwrap?_wrapper payload, ?_, ?_, ?_⟩
  · intro s s' hs
    refine ⟨_, Store.latestGenesis_of_stored hs, ?_⟩
    rw [hdocument]
    exact Json.unwrap?_wrapper payload
  · intro other
    by_cases hother : ∀ value, Json.parse other ≠ .ok value
    · rw [genesisDocument_of_binary hother]
      constructor
      · exact fun heq => .inl (Json.wrapper_injective heq).symm
      · rintro (rfl | hjson)
        · rfl
        · exact absurd hjson (hother _)
    · simp only [not_forall, ne_eq, not_not] at hother
      obtain ⟨value, hvalue⟩ := hother
      rw [genesisDocument_of_json hvalue, hvalue, Except.ok.injEq]
      constructor
      · exact fun heq => .inr heq.symm
      · rintro (rfl | heq)
        · exact absurd hvalue (h value)
        · exact heq.symm
  · refine ⟨Utf8.encode (Json.wrapper payload).text, ?_, ?_⟩
    · intro heq
      exact h _ (heq ▸ Json.parse_text_wrapper payload)
    · exact (genesisDocument_of_json (Json.parse_text_wrapper payload)).symm

/-- Two single bytes that begin no character have different documents. -/
theorem genesisDocument_eq_iff_of_byte :
    (∀ value, Json.parse [0xff] ≠ .ok value) ∧
      (genesisDocument [0xff]).unwrap? = some [0xff] ∧
      genesisDocument [0xff] ≠ genesisDocument [0xfe] := by
  have hfault : Json.parse [0xff] = .error .notJson := by decide +kernel
  have hfault' : Json.parse [0xfe] = .error .notJson := by decide +kernel
  have h : ∀ value, Json.parse [0xff] ≠ .ok value := by
    intro value hvalue
    rw [hfault] at hvalue
    cases hvalue
  obtain ⟨hbytes, -, hiff, -⟩ := genesisDocument_eq_iff_of_binary h
  refine ⟨h, hbytes, fun heq => ?_⟩
  rcases (hiff [0xfe]).1 heq with hsame | hjson
  · cases hsame
  · rw [hfault'] at hjson
    cases hjson

/-- A payload of JSON text has the document of a single byte. -/
theorem genesisDocument_of_byte_eq_of_text :
    let text := "\x7b\"raw_hex\":\"ff\"\x7d"
    Json.parse [0xff] = .error .notJson ∧ Utf8.encode text ≠ [0xff] ∧
      genesisDocument [0xff] = genesisDocument (Utf8.encode text) := by
  intro text
  refine ⟨by decide +kernel, by decide +kernel, by decide +kernel⟩

end ChainWatch
