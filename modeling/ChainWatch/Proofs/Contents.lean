import ChainWatch.Proofs.Effect
import ChainWatch.Proofs.Frame

/-!
# The derived tables, delivery by delivery

On a store that answers, the derived tables after a delivery are told by the derived tables before
it, the rule against rows of actions and the block.  Other tables, missing or not, have no part in
that.  A block that starts the chain over leaves nothing of the tables before it and takes the rule
away, so from such a block on the derived tables are those of a store that has begun with it.

* `Store.Holds` : the derived tables and the rule of a store that answers.
* `Store.Holds.ingest`, `Store.holds_ingest_of_genesis` : after a block.
* `Store.ingest_state_of_outage` : a store that does not answer stays as it is.
* `Service.step_delivery_cases` : which deliveries change derived tables at all.
* `Service.run_since_genesis` : the block that starts the chain over as a reset point.
-/

namespace ChainWatch

namespace Store

variable {s : Store} {d : Derived} {refuses : ActionRow → Bool} {registry : Registry}
  {decoder : Decoder} {b : Block}

/-- A store that answers has given derived tables and a given rule against rows of actions. -/
structure Holds (s : Store) (d : Derived) (refuses : ActionRow → Bool) : Prop where
  answering : s.answering = true
  derived : s.tables.derived? = some d
  refuses : s.refuses = refuses

/-- Whatever a store holds, emptying leaves nothing of it. -/
theorem holds_clearDerived (ha : s.answering = true) :
    s.clearDerived.Holds {} fun _ => false := ⟨ha, rfl, rfl⟩

theorem Holds.process (h : s.Holds d refuses) (registry : Registry) (decoder : Decoder)
    (b : Block) :
    (s.process registry decoder b).state.Holds ((b.writes registry decoder).apply refuses d)
      refuses := by
  obtain ⟨ha, hd, rfl⟩ := h
  rw [(process_spec registry decoder b ha hd).2]
  exact ⟨ha, Tables.derived?_withDerived, rfl⟩

theorem Holds.ingest (h : s.Holds d refuses) (registry : Registry) (decoder : Decoder)
    (hb : b.isGenesis = false) :
    (s.ingest registry decoder b).state.Holds ((b.writes registry decoder).apply refuses d)
      refuses := by
  have hahead : s.ahead b = s := by simp [ahead, hb]
  rw [(ingest_eq_process registry decoder b h.answering).2, hahead]
  exact h.process registry decoder b

/-- A block that starts the chain over leaves what it writes into empty tables. -/
theorem holds_ingest_of_genesis (registry : Registry) (decoder : Decoder)
    (ha : s.answering = true) (hb : b.isGenesis = true) :
    (s.ingest registry decoder b).state.Holds (Derived.ingest registry decoder {} b)
      fun _ => false := by
  have hahead : s.ahead b = s.clearDerived := if_pos hb
  have hwritten : Derived.ingest registry decoder {} b =
      (b.writes registry decoder).apply (fun _ => false) {} := by
    simp [Derived.ingest]
  rw [(ingest_eq_process registry decoder b ha).2, hahead, hwritten]
  exact (holds_clearDerived ha).process registry decoder b

/-- Without a rule, both kinds of blocks are the same. -/
theorem Holds.ingest_of_accepting (h : s.Holds d fun _ => false) (registry : Registry)
    (decoder : Decoder) (b : Block) :
    (s.ingest registry decoder b).state.Holds (d.ingest registry decoder b) fun _ => false := by
  by_cases hb : b.isGenesis = true
  · have hwritten : d.ingest registry decoder b = Derived.ingest registry decoder {} b := by
      simp [Derived.ingest, hb]
    rw [hwritten]
    exact holds_ingest_of_genesis registry decoder h.answering hb
  · rw [Bool.not_eq_true] at hb
    have hwritten : d.ingest registry decoder b =
        (b.writes registry decoder).apply (fun _ => false) d := by
      simp [Derived.ingest, hb]
    rw [hwritten]
    exact h.ingest registry decoder hb

/-- A store that does not answer stays as it is. -/
theorem ingest_state_of_outage (ha : s.answering = false) :
    (s.ingest registry decoder b).state = s := by
  by_cases hb : b.isGenesis = true
  · obtain ⟨error, herror⟩ := exists_error_of_outage ha .genesisReset
    simp only [Store.ingest, if_pos hb, startOver, herror]
  · obtain ⟨error, herror⟩ := exists_error_of_outage ha .beginBlock
    simp only [Store.ingest, if_neg hb, processReported_state, Store.process, herror]

end Store

namespace Service

variable {svc : Service} {decoder : Decoder} {d : Derived}

/-- A delivery leaves the derived tables as they are, or it is taken for a block. -/
theorem step_delivery_cases {e : Event} (he : e.isDelivery = true) :
    (svc.step e).state.store.tables.derived? = svc.store.tables.derived? ∨
      ∃ decoder b, svc.indexer.decoder = some decoder ∧ e.block? svc.indexer = some b := by
  have hanswered : ∀ result, (svc.step e).answer = .ingested result →
      (svc.step e).state.store.tables.derived? = svc.store.tables.derived? ∨
        ∃ decoder b, svc.indexer.decoder = some decoder ∧ e.block? svc.indexer = some b :=
    fun result h => (step_cases h).imp_left fun hstate => by rw [hstate]
  cases e with
  | adopt genesis =>
    left
    obtain ⟨table, hs⟩ := svc.indexer.adopt_tables svc.store genesis
    simp only [step, hs]
    rfl
  | ingest b => exact hanswered _ rfl
  | ingestRaw raw => exact hanswered _ rfl
  | _ => cases he

theorem step_ingest_store (hdecoder : svc.indexer.decoder = some decoder) (b : Block) :
    (svc.step (.ingest b)).state.store =
      (svc.store.ingest svc.indexer.registry decoder b).state := by
  rw [step_eq_ingest .none hdecoder (e := .ingest b) rfl]
  rfl

/-- Blocks arrive at a store without a rule, one after the other. -/
theorem run_holds (hdecoder : svc.indexer.decoder = some decoder)
    (h : svc.store.Holds d fun _ => false) (bs : List Block) :
    (svc.run (bs.map .ingest)).state.store.Holds
      (bs.foldl (Derived.ingest svc.indexer.registry decoder) d) fun _ => false := by
  induction bs generalizing svc d with
  | nil => exact h
  | cons b bs ih =>
    have hnext := h.ingest_of_accepting svc.indexer.registry decoder b
    rw [← step_ingest_store hdecoder] at hnext
    have hkept : (svc.step (.ingest b)).state.indexer.decoder = some decoder := hdecoder
    exact ih hkept hnext

/-- Blocks leave everything but the derived tables as it is. -/
theorem run_ingest_alike (svc : Service) (bs : List Block) :
    (svc.run (bs.map .ingest)).state.indexer = svc.indexer ∧
      svc.store.Alike (svc.run (bs.map .ingest)).state.store := by
  refine run_induction (P := fun svc' => svc'.indexer = svc.indexer ∧ svc.store.Alike svc'.store)
    (fun svc' e he h => ?_) ⟨rfl, Store.Alike.refl _⟩
  obtain ⟨b, -, rfl⟩ := List.mem_map.1 he
  exact ⟨h.1, h.2.trans (svc'.indexer.ingest_alike svc'.store .none b)⟩

/-- From a block that starts the chain over, the derived tables are what the blocks from there on
write into empty ones. -/
theorem run_holds_of_genesis (hdecoder : svc.indexer.decoder = some decoder)
    (ha : svc.store.answering = true) {start : Block} (hstart : start.isGenesis = true)
    (rest : List Block) :
    (svc.run ((start :: rest).map .ingest)).state.store.Holds
      ((start :: rest).foldl (Derived.ingest svc.indexer.registry decoder) {})
      fun _ => false := by
  have hnext := Store.holds_ingest_of_genesis svc.indexer.registry decoder ha hstart
  rw [← step_ingest_store hdecoder] at hnext
  have hkept : (svc.step (.ingest start)).state.indexer.decoder = some decoder := hdecoder
  exact run_holds hkept hnext rest

/-- **A block that starts the chain over is a reset point.**  Two services with the same decoder and
the same handlers have stores that answer, whatever these hold, whichever tables are missing and
whichever rows of actions they refuse.  One takes any blocks and then the blocks from such a start
on, the other only the latter.  The six derived tables are there and the same in both at the end,
and the tables of the genesis document, the incidents and the days are what they were. -/
theorem run_since_genesis (svc svc' : Service) (hready : svc.indexer.isReady = true)
    (hindexer : svc'.indexer = svc.indexer) (ha : svc.store.answering = true)
    (ha' : svc'.store.answering = true) (before rest : List Block) {start : Block}
    (hstart : start.isGenesis = true) :
    let whole := (svc.run ((before ++ start :: rest).map .ingest)).state
    let fresh := (svc'.run ((start :: rest).map .ingest)).state
    (∃ d, whole.store.tables.derived? = some d ∧ fresh.store.tables.derived? = some d) ∧
      whole.store.tables.kept = svc.store.tables.kept := by
  intro whole fresh
  obtain ⟨decoder, hdecoder⟩ := Option.isSome_iff_exists.1 hready
  obtain ⟨hbefore, halike⟩ := svc.run_ingest_alike before
  have hwhole : whole =
      ((svc.run (before.map .ingest)).state.run ((start :: rest).map .ingest)).state := by
    rw [← run_append_state, ← List.map_append]
  have hdecoder' : svc'.indexer.decoder = some decoder := by rw [hindexer, hdecoder]
  have hstill : (svc.run (before.map .ingest)).state.indexer.decoder = some decoder := by
    rw [hbefore, hdecoder]
  have hholds := run_holds_of_genesis hstill (halike.answering.trans ha) hstart rest
  have hholds' := run_holds_of_genesis hdecoder' ha' hstart rest
  rw [← hwhole, hbefore] at hholds
  rw [hindexer] at hholds'
  exact ⟨⟨_, hholds.derived, hholds'.derived⟩, (svc.run_ingest_alike _).2.kept⟩

/-- A service whose store lacks a table and refuses all rows of actions. -/
def worn : Service :=
  { sample with store := (sample.store.dropTable .volumes).refuse fun _ => true }

/-- Blocks ahead of a start, the start, and blocks behind it, of which the last one is refused. -/
def epochs : List Block × Block × List Block :=
  ([.sample 3 0 [("t", 0)]], .sample 1 0 [("t", 0)],
    [.sample 6 0 [("t", 0), ("u", 3)], .sample 8 0 [("v", 4)]])

/-- Nothing can be ingested ahead of the start. -/
theorem run_since_genesis_worn :
    let whole := (worn.run ((epochs.1 ++ epochs.2.1 :: epochs.2.2).map .ingest)).state
    let fresh := (sample.run ((epochs.2.1 :: epochs.2.2).map .ingest)).state
    worn.indexer.isReady = true ∧ sample.indexer = worn.indexer ∧
      worn.store.answering = true ∧ sample.store.answering = true ∧
      epochs.2.1.isGenesis = true ∧
      TableName.derived.map worn.store.tables.sizeOf =
        [some 0, some 0, some 0, some 0, some 0, none] ∧
      TableName.derived.map whole.store.tables.sizeOf =
        [some 2, some 2, some 2, some 0, some 0, some 2] ∧
      (∃ d, whole.store.tables.derived? = some d ∧ fresh.store.tables.derived? = some d) ∧
      whole.store.tables.kept = worn.store.tables.kept :=
  ⟨rfl, rfl, rfl, rfl, rfl, rfl, rfl,
    run_since_genesis worn sample rfl rfl rfl rfl epochs.1 epochs.2.2 rfl⟩

end Service

end ChainWatch
