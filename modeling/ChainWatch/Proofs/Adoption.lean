import ChainWatch.Proofs.Monitoring
import ChainWatch.Proofs.Relief
import Mathlib.Data.List.DropRight

/-!
# Genesis data and its document

The decoder in use and the stored genesis document come from the same genesis data, which is taken
up as a whole or not at all.  A reset at startup drops the document and leaves the decoder in place,
so the decoder is that of the last adoption of the run, and the document that of the last adoption
since such a reset.

* `Moment.adopted?`, `Moment.clears`, `Service.lastAdopted?`, `Service.sinceCleared` : the adoptions
  of a run, seen from its answers.
* `Indexer.adopt_cases` : genesis data is taken up, or nothing changes.
* `Service.step_genesis_cases` : decoder and document after any event.
* `Service.run_adopted` : decoder and document after any run.
-/

namespace ChainWatch

/-! ### Adoption -/

namespace Store

variable {s : Store} {table : Table GenesisRow}

/-- On a store that answers, the document takes the place of all others. -/
theorem storeGenesis_eq (ha : s.answering = true) (h : s.tables.genesis = some table)
    (genesis : Bytes) :
    s.storeGenesis genesis = .ok (s.withTables { s.tables with
      genesis := some (Table.empty.upsert ⟨table.nextGenesisId, genesisDocument genesis⟩) }) := by
  simp only [storeGenesis, bounded, ha, ↓reduceIte, Tables.replaceGenesis, Tables.need, h, bind,
    Except.bind]
  rfl

theorem storeGenesis_of_outage (ha : s.answering = false) (genesis : Bytes) :
    ∃ error, s.storeGenesis genesis = .error error := by
  obtain ⟨error, herror⟩ := exists_error_of_outage ha .storeGenesis
  refine ⟨error, ?_⟩
  simp only [storeGenesis, herror, bind, Except.bind]

end Store

/-- Genesis data is taken up, for which the factory has to accept it and the store to answer;
otherwise nothing changes. -/
theorem Indexer.adopt_cases (ix : Indexer) {s : Store} {table : Table GenesisRow}
    (h : s.tables.genesis = some table) (genesis : Bytes) :
    (∃ decoder, ix.factory genesis = .ok decoder ∧ s.answering = true ∧
        (ix.adopt s genesis).answer = .ok () ∧
        (ix.adopt s genesis).state = ({ ix with decoder := some decoder },
          s.withTables { s.tables with
            genesis := some (Table.empty.upsert
              ⟨table.nextGenesisId, genesisDocument genesis⟩) })) ∨
      (¬((∃ decoder, ix.factory genesis = .ok decoder) ∧ s.answering = true) ∧
        (∃ error, (ix.adopt s genesis).answer = .error error) ∧
        (ix.adopt s genesis).state = (ix, s)) := by
  cases hfactory : ix.factory genesis with
  | error fault =>
    right
    refine ⟨by rintro ⟨⟨decoder, ⟨⟩⟩, -⟩, ?_⟩
    simp only [adopt, hfactory, Except.error.injEq, exists_eq', and_self]
  | ok decoder =>
    cases ha : s.answering with
    | true =>
      left
      refine ⟨decoder, rfl, rfl, ?_⟩
      simp only [adopt, hfactory, Store.storeGenesis_eq ha h, and_self]
    | false =>
      right
      obtain ⟨error, herror⟩ := Store.storeGenesis_of_outage ha genesis
      refine ⟨by rintro ⟨-, ⟨⟩⟩, ?_⟩
      simp only [adopt, hfactory, herror, Except.error.injEq, exists_eq', and_self]

/-! ### Moments -/

namespace Service

/-- The genesis data that has been taken up. -/
def Moment.adopted? (x : Moment) : Option Bytes :=
  match x.event, x.answer with
  | .adopt genesis, .adopted (.ok _) => some genesis
  | _, _ => none

/-- Whether a reset at startup has dropped the genesis document. -/
def Moment.clears (x : Moment) : Bool :=
  match x.event, x.answer with
  | .resetForStartup, .schema (.ok _) => true
  | _, _ => false

/-- The genesis data that was taken up last. -/
def lastAdopted? (xs : List Moment) : Option Bytes := (xs.filterMap Moment.adopted?).getLast?

/-- The moments since the last reset at startup. -/
def sinceCleared (xs : List Moment) : List Moment := xs.rtakeWhile fun x => !x.clears

theorem lastAdopted?_concat (xs : List Moment) (x : Moment) :
    lastAdopted? (xs ++ [x]) = x.adopted?.or (lastAdopted? xs) := by
  rw [lastAdopted?, List.filterMap_append, List.getLast?_append]
  cases hx : x.adopted? <;> simp [hx, lastAdopted?]

theorem lastAdopted?_sinceCleared_concat (xs : List Moment) (x : Moment) :
    lastAdopted? (sinceCleared (xs ++ [x])) =
      if x.clears then none else x.adopted?.or (lastAdopted? (sinceCleared xs)) := by
  cases hx : x.clears with
  | true => simp [sinceCleared, hx, lastAdopted?]
  | false =>
    rw [sinceCleared, List.rtakeWhile_concat]
    simp only [hx, Bool.not_false, ↓reduceIte, Bool.false_eq_true]
    exact lastAdopted?_concat _ x

variable {svc : Service} {table : Table GenesisRow}

/-- An event with its answer and the tables after it. -/
def moment (svc : Service) (e : Event) : Moment :=
  ⟨e, (svc.step e).answer, (svc.step e).state.store.tables⟩

theorem moments_concat (es : List Event) (e : Event) :
    svc.moments (es ++ [e]) = svc.moments es ++ [(svc.run es).state.moment e] := by
  induction es generalizing svc with
  | nil => rfl
  | cons e' es ih => exact congrArg _ ih

theorem run_concat_state (es : List Event) (e : Event) :
    (svc.run (es ++ [e])).state = ((svc.run es).state.step e).state := run_append_state es [e]

/-! ### Steps -/

/-- Genesis data is taken up, or the document is dropped, or neither of the two has to do with the
event. -/
theorem step_genesis_cases (e : Event) (h : svc.store.tables.genesis = some table) :
    (∃ genesis decoder, svc.indexer.factory genesis = .ok decoder ∧
        (svc.moment e).adopted? = some genesis ∧ (svc.moment e).clears = false ∧
        (svc.step e).state.indexer = { svc.indexer with decoder := some decoder } ∧
        ∃ id, (svc.step e).state.store.tables.genesis =
          some (Table.empty.upsert ⟨id, genesisDocument genesis⟩)) ∨
      ((svc.moment e).adopted? = none ∧ (svc.moment e).clears = true ∧
        (svc.step e).state.indexer = svc.indexer ∧
        (svc.step e).state.store.tables.genesis = some .empty) ∨
      ((svc.moment e).adopted? = none ∧ (svc.moment e).clears = false ∧
        (svc.step e).state.indexer = svc.indexer ∧
        (svc.step e).state.store.tables.genesis = some table) := by
  have halike : ∀ s', svc.store.Alike s' → s'.tables.genesis = some table :=
    fun s' hs => (congrArg (·.1) hs.kept).trans h
  cases e with
  | adopt genesis =>
    rcases svc.indexer.adopt_cases h genesis with
      ⟨decoder, hfactory, -, hanswer, hstate⟩ | ⟨-, ⟨error, hanswer⟩, hstate⟩
    · left
      refine ⟨genesis, decoder, hfactory, ?_⟩
      simp only [moment, Moment.adopted?, Moment.clears, step, hanswer, hstate, true_and]
      exact ⟨_, rfl⟩
    · right; right
      simp only [moment, Moment.adopted?, Moment.clears, step, hanswer, hstate, h, and_self]
  | ingest b =>
    exact .inr (.inr ⟨rfl, rfl, rfl, halike _ (svc.indexer.ingest_alike svc.store .none b)⟩)
  | ingestRaw raw =>
    exact .inr (.inr ⟨rfl, rfl, rfl, halike _ (svc.indexer.ingestRaw_alike svc.store .none raw)⟩)
  | tick now =>
    obtain ⟨incidents, daily, hstore⟩ := Monitor.tick_monitored svc.store now svc.monitor
    refine .inr (.inr ⟨rfl, rfl, rfl, ?_⟩)
    exact (congrArg (fun s => s.tables.genesis) hstore).trans h
  | createSchema =>
    cases haccess : svc.store.access with
    | ok t =>
      obtain rfl := Store.access_tables haccess
      simp [moment, Moment.adopted?, Moment.clears, step, withStore, Store.createSchema, haccess,
        Store.withTables, Tables.createAll, Tables.createDerived, h]
    | error error =>
      simp [moment, Moment.adopted?, Moment.clears, step, withStore, Store.createSchema, haccess, h]
  | resetDerived =>
    cases haccess : svc.store.access <;>
      simp [moment, Moment.adopted?, Moment.clears, step, withStore, Store.resetDerived, haccess,
        Store.clearDerived, Tables.createDerived, Tables.dropDerived, h]
  | resetForStartup =>
    cases haccess : svc.store.access <;>
      simp [moment, Moment.adopted?, Moment.clears, step, withStore, Store.resetForStartup, haccess,
        Tables.createAll, Tables.createDerived, Tables.drop, Tables.dropDerived, h]
  | _ => exact .inr (.inr ⟨rfl, rfl, rfl, h⟩)

/-! ### Runs -/

/-- The decoder is that of the genesis data taken up last, and the document that of the genesis
data taken up last since a reset at startup. -/
structure Adopted (svc : Service) (factory : DecoderFactory) (xs : List Moment) : Prop where
  factory_eq : svc.indexer.factory = factory
  decoder : svc.indexer.decoder = (lastAdopted? xs).bind fun genesis => (factory genesis).toOption
  accepted : ∀ genesis, lastAdopted? xs = some genesis → ∃ decoder, factory genesis = .ok decoder
  documents : ∃ table, svc.store.tables.genesis = some table ∧
    table.rows.map (·.document) =
      ((lastAdopted? (sinceCleared xs)).map genesisDocument).toList

/-- Whatever happens to a service keeps decoder and document in step. -/
theorem Adopted.step {factory : DecoderFactory} {xs : List Moment} (h : svc.Adopted factory xs)
    (e : Event) : (svc.step e).state.Adopted factory (xs ++ [svc.moment e]) := by
  obtain ⟨table, htable, hdocuments⟩ := h.documents
  rcases svc.step_genesis_cases e htable with
    ⟨genesis, decoder, hfactory, hadopted, hclears, hindexer, id, hgenesis⟩ |
    ⟨hadopted, hclears, hindexer, hgenesis⟩ | ⟨hadopted, hclears, hindexer, hgenesis⟩
  · rw [h.factory_eq] at hfactory
    constructor
    · rw [hindexer, h.factory_eq]
    · rw [hindexer, lastAdopted?_concat, hadopted]
      simp [hfactory, Except.toOption]
    · rw [lastAdopted?_concat, hadopted, Option.some_or]
      rintro _ ⟨⟩
      exact ⟨decoder, hfactory⟩
    · rw [lastAdopted?_sinceCleared_concat, hclears, hadopted]
      exact ⟨_, hgenesis, rfl⟩
  · constructor
    · rw [hindexer, h.factory_eq]
    · rw [hindexer, lastAdopted?_concat, hadopted, Option.none_or, h.decoder]
    · rw [lastAdopted?_concat, hadopted, Option.none_or]
      exact h.accepted
    · rw [lastAdopted?_sinceCleared_concat, hclears]
      exact ⟨_, hgenesis, rfl⟩
  · constructor
    · rw [hindexer, h.factory_eq]
    · rw [hindexer, lastAdopted?_concat, hadopted, Option.none_or, h.decoder]
    · rw [lastAdopted?_concat, hadopted, Option.none_or]
      exact h.accepted
    · rw [lastAdopted?_sinceCleared_concat, hclears, hadopted]
      exact ⟨_, hgenesis, hdocuments⟩

theorem run_adopted_moments (hfresh : svc.indexer.decoder = none)
    (hempty : svc.store.tables.genesis = some .empty) (es : List Event) :
    (svc.run es).state.Adopted svc.indexer.factory (svc.moments es) := by
  induction es using List.reverseRecOn with
  | nil => exact ⟨rfl, hfresh, nofun, ⟨_, hempty, rfl⟩⟩
  | append_singleton es e ih =>
    rw [run_concat_state, moments_concat]
    exact ih.step e

theorem lastAdopted?_isSome_iff {xs : List Moment} :
    (lastAdopted? xs).isSome = true ↔ ∃ x ∈ xs, ∃ genesis, x.adopted? = some genesis := by
  rw [lastAdopted?, List.getLast?_isSome, Ne, List.filterMap_eq_nil_iff]
  simp [Option.eq_none_iff_forall_ne_some]

theorem Adopted.isReady_iff {factory : DecoderFactory} {xs : List Moment}
    (h : svc.Adopted factory xs) :
    svc.indexer.isReady = true ↔ ∃ x ∈ xs, ∃ genesis, x.adopted? = some genesis := by
  rw [← lastAdopted?_isSome_iff, Indexer.isReady, h.decoder]
  cases hlast : lastAdopted? xs with
  | none => simp
  | some genesis =>
    obtain ⟨decoder, hdecoder⟩ := h.accepted genesis hlast
    simp [hdecoder, Except.toOption]

/-- Without a decoder, a block is refused and nothing changes, whatever it is. -/
theorem step_of_unready (hready : svc.indexer.isReady = false) {e : Event}
    (he : (∃ b, e = .ingest b) ∨ ∃ raw, e = .ingestRaw raw) :
    (svc.step e).answer = .ingested (.error .notReady) ∧ (svc.step e).state = svc := by
  have hdecoder : svc.indexer.decoder = none := Option.isNone_iff_eq_none.1 (by
    simpa [Indexer.isReady] using hready)
  rcases he with ⟨b, rfl⟩ | ⟨raw, rfl⟩
  · simp only [step, withStore, Indexer.ingest, hdecoder, and_self]
  · simp only [step, withStore, Indexer.ingestRaw, hdecoder, and_self]

/-- **Decoder and genesis document stay in step.**  A service without a decoder begins with no
document, and anything may happen to it.  It has a decoder exactly if genesis data has been taken
up, namely that of the genesis data taken up last.  The stored document is that of the genesis data
taken up last since a reset at startup, and there is none if there has been no such data.  Genesis
data is taken up exactly if the factory accepts it and the store answers, and otherwise nothing
changes.  Without a decoder, every block is refused, and nothing changes. -/
theorem run_adopted (svc : Service) (hfresh : svc.indexer.decoder = none)
    (hempty : svc.store.tables.genesis = some .empty) (es : List Event) :
    let xs := svc.moments es
    let after := (svc.run es).state
    (after.indexer.isReady = true ↔ ∃ x ∈ xs, ∃ genesis, x.adopted? = some genesis) ∧
      after.indexer.decoder =
        (lastAdopted? xs).bind (fun genesis => (svc.indexer.factory genesis).toOption) ∧
      (∃ table, after.store.tables.genesis = some table ∧
        table.rows.map (·.document) =
          ((lastAdopted? (sinceCleared xs)).map genesisDocument).toList) ∧
      (∀ genesis, (after.step (.adopt genesis)).answer = .adopted (.ok ()) ↔
        (∃ decoder, svc.indexer.factory genesis = .ok decoder) ∧
          after.store.answering = true) ∧
      (∀ genesis error, (after.step (.adopt genesis)).answer = .adopted (.error error) →
        (after.step (.adopt genesis)).state = after) ∧
      (after.indexer.isReady = false → ∀ e, ((∃ b, e = .ingest b) ∨ ∃ raw, e = .ingestRaw raw) →
        (after.step e).answer = .ingested (.error .notReady) ∧ (after.step e).state = after) := by
  intro xs after
  have hadopted : after.Adopted svc.indexer.factory xs := run_adopted_moments hfresh hempty es
  obtain ⟨table, htable, -⟩ := hadopted.documents
  have hadopt := after.indexer.adopt_cases htable
  refine ⟨hadopted.isReady_iff, hadopted.decoder, hadopted.documents, fun genesis => ?_,
    fun genesis error herror => ?_, fun hready e he => step_of_unready hready he⟩
  · rcases hadopt genesis with ⟨decoder, hfactory, ha, hanswer, -⟩ | ⟨hnot, ⟨error, hanswer⟩, -⟩
    · rw [hadopted.factory_eq] at hfactory
      simp [step, hanswer, hfactory, ha]
    · rw [hadopted.factory_eq] at hnot
      simp only [step, hanswer, hnot, iff_false]
      rintro ⟨⟩
  · rcases hadopt genesis with ⟨decoder, -, -, hanswer, -⟩ | ⟨-, -, hstate⟩
    · simp [step, hanswer] at herror
    · simp only [step, hstate]

/-- A service that has not taken up genesis data. -/
def unready : Service := { sample with indexer := { sample.indexer with decoder := none } }

/-- A list, which is no genesis data, and an object, which is.  After the reset at startup the store
does not answer when the next data arrives. -/
def startup : List Event :=
  [.ingest (.sample 1 0 []), .adopt [0x5b, 0x5d], .adopt [0x7b, 0x7d], .ingest (.sample 6 0 []),
    .resetForStartup, .answering false, .adopt [0x7b, 0x20, 0x7d], .answering true]

/-- The decoder is there at the end, and the document is not. -/
theorem run_adopted_startup :
    let xs := unready.moments startup
    let after := (unready.run startup).state
    unready.indexer.decoder = none ∧ unready.store.tables.genesis = some .empty ∧
      xs.map Moment.adopted? = [none, none, some [0x7b, 0x7d], none, none, none, none, none] ∧
      after.indexer.isReady = true ∧
      (∃ table, after.store.tables.genesis = some table ∧
        table.rows.map (·.document) =
          ((lastAdopted? (sinceCleared xs)).map genesisDocument).toList) ∧
      lastAdopted? (sinceCleared xs) = none := by
  intro xs after
  have hadopted : xs.map Moment.adopted? =
      [none, none, some [0x7b, 0x7d], none, none, none, none, none] := by decide +kernel
  obtain ⟨hready, -, hdocuments, -⟩ := run_adopted unready rfl rfl startup
  refine ⟨rfl, rfl, hadopted, hready.2 ?_, hdocuments, by decide +kernel⟩
  have hmem : some [0x7b, 0x7d] ∈ xs.map Moment.adopted? := by simp [hadopted]
  obtain ⟨x, hx, hgenesis⟩ := List.mem_map.1 hmem
  exact ⟨x, hx, _, hgenesis⟩

end Service

end ChainWatch
