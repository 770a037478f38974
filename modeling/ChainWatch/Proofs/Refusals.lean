import ChainWatch.Proofs.Positions
import ChainWatch.Proofs.StartOver

/-!
# Why a block is refused

On a store that answers and has its tables, a block is refused only by the handler of an action, and
the error names the first action whose handler cannot build its row.  An action has a handler only
if its transaction has succeeded, its own output can be decoded and its code is registered, so
results and outputs that are missing or too many, unknown codes, repeated hashes, odd times and high
fees refuse nothing; neither does anything that the store holds.

* `Placed.CallsFor` : an action is handled, with an output.
* `Placed.refusal?`, `Script.refusal?_ofBlock` : the first refusal of a block, by places.
* `Block.findSome?_placed_eq_some_iff` : the first action of the document with a property.
* `Store.ingest_answer` : what is answered to a block is told by the block.
* `Service.step_ingest_refused_iff` : which blocks are accepted, and what the error names.
-/

namespace ChainWatch

/-! ### Actions -/

/-- An action calls for a handler: its transaction has succeeded, its own output can be decoded, and
its code has the handler. -/
structure Placed.CallsFor (x : Placed) (registry : Registry) (decoder : Decoder) (b : Block)
    (handler : Handler) (output : Members) : Prop where
  output : b.outputAt decoder x.txPosition x.position = some output
  handler : registry.handlerOf x.action.typeId = some handler

namespace Placed

variable (x : Placed) (registry : Registry) (decoder : Decoder) (b : Block)

/-- The error of an action whose handler cannot build its row. -/
def refusal? : Option IngestError :=
  (x.output? decoder b).bind fun output =>
    (registry.handlerOf x.action.typeId).bind fun handler =>
      match handler.build (x.context b output) with
      | .ok _ => none
      | .error source => some (.handler x.tx.txHash x.position (.field source))

variable {x registry decoder b}

theorem refusal?_of_callsFor {handler : Handler} {output : Members}
    (h : x.CallsFor registry decoder b handler output) :
    x.refusal? registry decoder b =
      match handler.build (x.context b output) with
      | .ok _ => none
      | .error source => some (.handler x.tx.txHash x.position (.field source)) := by
  have houtput : x.output? decoder b = some output := h.output
  rw [refusal?, houtput, h.handler]
  rfl

theorem refusal?_eq_some_iff {error : IngestError} :
    x.refusal? registry decoder b = some error ↔
      ∃ handler output source, x.CallsFor registry decoder b handler output ∧
        handler.build (x.context b output) = .error source ∧
        error = .handler x.tx.txHash x.position (.field source) := by
  constructor
  · intro h
    obtain ⟨output, houtput, hrest⟩ := Option.bind_eq_some_iff.1 h
    obtain ⟨handler, hhandler, hbuild⟩ := Option.bind_eq_some_iff.1 hrest
    refine ⟨handler, output, ?_⟩
    split at hbuild
    next => cases hbuild
    next source hsource =>
      exact ⟨source, ⟨houtput, hhandler⟩, hsource, (Option.some.inj hbuild).symm⟩
  · rintro ⟨handler, output, source, hcalls, hbuild, rfl⟩
    rw [refusal?_of_callsFor hcalls, hbuild]

theorem refusal?_eq_none_iff :
    x.refusal? registry decoder b = none ↔
      ∀ handler output, x.CallsFor registry decoder b handler output →
        ∃ row, handler.build (x.context b output) = .ok row := by
  constructor
  · intro h handler output hcalls
    rw [refusal?_of_callsFor hcalls] at h
    cases hbuild : handler.build (x.context b output) with
    | ok row => exact ⟨row, rfl⟩
    | error source =>
      rw [hbuild] at h
      cases h
  · intro h
    refine Option.eq_none_iff_forall_ne_some.2 fun error herror => ?_
    obtain ⟨handler, output, source, hcalls, hbuild, -⟩ := refusal?_eq_some_iff.1 herror
    obtain ⟨row, hrow⟩ := h handler output hcalls
    rw [hrow] at hbuild
    cases hbuild

end Placed

/-! ### Blocks -/

theorem Placed.Before.asymm {x y : Placed} (h : x.Before y) : ¬ y.Before x := by
  unfold Before at h ⊢
  omega

/-- The first action of a document with which something can be found. -/
theorem Block.findSome?_placed_eq_some_iff {b : Block} {α : Type} {f : Placed → Option α} {a : α} :
    b.placed.findSome? f = some a ↔
      ∃ x ∈ b.placed, f x = some a ∧ ∀ y ∈ b.placed, y.Before x → f y = none := by
  constructor
  · intro h
    obtain ⟨front, x, back, hsplit, hx, hfront⟩ := List.findSome?_eq_some_iff.1 h
    have hordered := b.placed_pairwise
    rw [hsplit] at hordered ⊢
    refine ⟨x, by simp, hx, fun y hy hbefore => ?_⟩
    rcases List.mem_append.1 hy with hy | hy
    · exact hfront y hy
    · -- what does not stand in front of the action does not stand before it
      have hafter := (List.pairwise_cons.1 (List.pairwise_append.1 hordered).2.1).1
      rcases List.mem_cons.1 hy with rfl | hy
      · exact absurd hbefore hbefore.asymm
      · exact absurd hbefore (hafter y hy).asymm
  · rintro ⟨x, hx, hfound, hfirst⟩
    obtain ⟨front, back, hsplit⟩ := List.append_of_mem hx
    have hordered := b.placed_pairwise
    rw [hsplit] at hordered hfirst ⊢
    refine List.findSome?_eq_some_iff.2 ⟨front, x, back, rfl, hfound, fun y hy => ?_⟩
    refine hfirst y (List.mem_append_left _ hy) ?_
    exact (List.pairwise_append.1 hordered).2.2 y hy x List.mem_cons_self

namespace Script

variable (registry : Registry) (decoder : Decoder) (b : Block)

theorem ofHandlers_refusal? : IngestStep.OfHandlers IngestStep.refusal? :=
  ⟨fun _ => rfl, fun _ => rfl, fun _ => rfl, fun _ => rfl, fun _ => rfl⟩

theorem refusals_afterAction (x : Placed) :
    (afterAction registry b (x.executed decoder b) x.action x.position).filterMap
      IngestStep.refusal? = (x.refusal? registry decoder b).toList := by
  have htx : (x.executed decoder b).tx = x.tx := Executed.of_tx decoder x.tx _
  simp only [afterAction, Placed.handled_executed, Placed.refusal?, htx]
  cases x.output? decoder b with
  | none =>
    simp only [Option.bind_none]
    split <;> rfl
  | some output =>
    cases registry.handlerOf x.action.typeId with
    | none =>
      simp only [Option.bind_some, Option.map_none]
      split <;> rfl
    | some handler =>
      simp only [Option.bind_some, Option.map_some, ofHandler]
      cases handler.build (x.context b output) <;> rfl

/-- The first refusal of a block is that of its first action which has one. -/
theorem refusal?_ofBlock : (ofBlock registry decoder b).refusal? =
    b.placed.findSome? fun x => x.refusal? registry decoder b := by
  rw [refusal?, ← List.head?_filterMap, filterMap_ofBlock registry decoder b ofHandlers_refusal?]
  simp only [refusals_afterAction, ← List.filterMap_eq_flatMap_toList, List.head?_filterMap]

end Script

namespace Block

variable {registry : Registry} {decoder : Decoder} {refuses : ActionRow → Bool} {b : Block}

theorem exists_verdict_eq_ok_iff : (∃ summary, b.verdict registry decoder refuses = .ok summary) ↔
    (Script.ofBlock registry decoder b).refusal? = none := by
  unfold verdict
  dsimp only
  cases (Script.ofBlock registry decoder b).refusal? <;> simp

theorem verdict_eq_error_iff {error : IngestError} :
    b.verdict registry decoder refuses = .error error ↔
      (Script.ofBlock registry decoder b).refusal? = some error := by
  unfold verdict
  dsimp only
  cases (Script.ofBlock registry decoder b).refusal? <;> simp

end Block

/-- A store that answers and has its derived tables answers to a block as the block itself tells,
whatever it holds. -/
theorem Store.ingest_answer {s : Store} (registry : Registry) (decoder : Decoder) (b : Block)
    (ha : s.answering = true)
    (hpresent : ∀ name ∈ TableName.derived, (s.tables.sizeOf name).isSome) :
    (s.ingest registry decoder b).answer =
      b.verdict registry decoder (s.ahead b).refuses := by
  have hahead : ∀ name ∈ TableName.derived, ((s.ahead b).tables.sizeOf name).isSome := by
    intro name hname
    unfold ahead
    split
    · rw [sizeOf_clearDerived hname]
      rfl
    · exact hpresent name hname
  obtain ⟨d, hd⟩ := Tables.exists_derived? hahead
  exact (ingest_spec registry decoder b ha hd).1

/-- **A block is refused only for an action whose handler cannot build its row, and the error names
the first one.**  On a store that answers and has its derived tables, whatever they hold and
whichever rows of actions are refused, a block is accepted exactly if every action that calls for a
handler gives its row.  Otherwise the error tells the transaction and the position of the first such
action in the document that gives none, with the field that the handler has found missing or
malformed. -/
theorem Service.step_ingest_refused_iff (svc : Service) {decoder : Decoder}
    (hdecoder : svc.indexer.decoder = some decoder) (ha : svc.store.answering = true)
    (hpresent : ∀ name ∈ TableName.derived, (svc.store.tables.sizeOf name).isSome) (b : Block) :
    let registry := svc.indexer.registry
    ((∃ summary, (svc.step (.ingest b)).answer = .ingested (.ok summary)) ↔
      ∀ x ∈ b.placed, ∀ handler output, x.CallsFor registry decoder b handler output →
        ∃ row, handler.build (x.context b output) = .ok row) ∧
    ∀ error, (svc.step (.ingest b)).answer = .ingested (.error error) ↔
      ∃ x ∈ b.placed,
        (∃ handler output source, x.CallsFor registry decoder b handler output ∧
          handler.build (x.context b output) = .error source ∧
          error = .handler x.tx.txHash x.position (.field source)) ∧
        ∀ y ∈ b.placed, y.Before x →
          ∀ handler output, y.CallsFor registry decoder b handler output →
            ∃ row, handler.build (y.context b output) = .ok row := by
  intro registry
  have hanswer : (svc.step (.ingest b)).answer =
      .ingested (b.verdict registry decoder (svc.store.ahead b).refuses) := by
    rw [step_eq_ingest .none hdecoder (e := .ingest b) rfl, withStore,
      Store.ingest_answer registry decoder b ha hpresent]
  simp only [hanswer, Answer.ingested.injEq, Block.exists_verdict_eq_ok_iff,
    Block.verdict_eq_error_iff, Script.refusal?_ofBlock, ← Placed.refusal?_eq_none_iff,
    ← Placed.refusal?_eq_some_iff, List.findSome?_eq_none_iff, Block.findSome?_placed_eq_some_iff,
    implies_true, and_self]

/-- Two transactions that nothing is asked of: one has failed, and of the other the first output is
no object and the second has an unknown code.  Their hash is the same, the time is far outside the
calendar, and the fees are higher than any column holds. -/
def Block.strange : Block :=
  { Block.sample 5 0x1000000000000000000000000 [] with
    transactions :=
      [⟨"a", "first", [⟨4, .null⟩], 0xFFFFFFFFFFFFFFFF⟩,
        ⟨"a", "second", [⟨4, .null⟩, ⟨200, .null⟩], 0xFFFFFFFFFFFFFFFF⟩]
    results :=
      [⟨false, 0xFFFFFFFFFFFFFFFF, [[0x7b, 0x7d]]⟩,
        ⟨true, 0xFFFFFFFFFFFFFFFF, [[0x5b, 0x5d], [0x7b, 0x7d], [0x7b, 0x7d]]⟩] }

/-- The same with three more transactions: the third action of the next one registers a stake and
tells nothing about it, the asset of the one behind it has no address, and the last one has no
result. -/
def Block.stranger : Block :=
  { Block.strange with
    transactions := Block.strange.transactions ++
      [⟨"b", "third", [⟨0, .null⟩, ⟨200, .null⟩, ⟨10, .null⟩], 0⟩, ⟨"c", "fourth", [⟨4, .null⟩], 0⟩,
        ⟨"d", "fifth", [⟨4, .null⟩], 0⟩]
    results := Block.strange.results ++
      [⟨true, 0, [[], [0x7b, 0x7d], [0x7b, 0x7d]]⟩, ⟨true, 0, [[0x7b, 0x7d]]⟩] }

/-- The first block is accepted, and the error about the second names the stake. -/
theorem Service.step_ingest_strange :
    sample.indexer.decoder = some .json ∧ sample.store.answering = true ∧
      (∀ name ∈ TableName.derived, (sample.store.tables.sizeOf name).isSome) ∧
      (∃ summary, (sample.step (.ingest .strange)).answer = .ingested (.ok summary)) ∧
      (sample.step (.ingest .stranger)).answer = .ingested (.error
        (.handler "b" 2 (.field (.missing "RegisterValidatorStake" "node_id")))) := by
  have hpresent : ∀ name ∈ TableName.derived, (sample.store.tables.sizeOf name).isSome := by decide
  refine ⟨rfl, rfl, hpresent, ?_, ?_⟩
  · refine (step_ingest_refused_iff sample rfl rfl hpresent .strange).1.2 fun x hx => ?_
    have hnone : ∀ x ∈ Block.strange.placed, x.refusal? .standard .json .strange = none := by
      decide +kernel
    exact Placed.refusal?_eq_none_iff.1 (hnone x hx)
  · let stake : Placed :=
      ⟨2, 2, ⟨"b", "third", [⟨0, .null⟩, ⟨200, .null⟩, ⟨10, .null⟩], 0⟩, ⟨10, .null⟩⟩
    have hbefore : ∀ y ∈ Block.stranger.placed, y.Before stake →
        y.refusal? .standard .json .stranger = none := by
      decide +kernel
    refine ((step_ingest_refused_iff sample rfl rfl hpresent .stranger).2 _).2
      ⟨stake, Block.mem_placed.2 ⟨rfl, rfl⟩, ?_,
        fun y hy hlt => Placed.refusal?_eq_none_iff.1 (hbefore y hy hlt)⟩
    exact Placed.refusal?_eq_some_iff.1 (by decide +kernel)

end ChainWatch
