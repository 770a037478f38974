import ChainWatch.Proofs.Refusals

/-!
# Rows that the table of actions refuses

A row of an action that the store refuses is lost, and nothing else is lost with it.  The work on
a block with refused rows is compared here with the same work on a store that refuses none.

* `Store.lenient` : the store that refuses no row.
* `Script.actionRows_eq`, `Block.written_eq`, `Block.failed_eq` : the rows of actions that are
  stored and those that are lost.
* `LosesOnly` : two outcomes differ by lost rows alone.
* `Store.ingest_losesOnly` : the outcomes of a block on the two stores.
-/

namespace ChainWatch

/-- The store that refuses no row. -/
def Store.lenient (s : Store) : Store := { s with refuses := fun _ => false }

/-! ### Stored and lost rows -/

section Rows

variable (registry : Registry) (decoder : Decoder) (refuses : ActionRow → Bool) (b : Block)

/-- A script writes the rows of its actions which are not refused. -/
theorem Script.actionRows_eq (script : Script) : script.flatMap (IngestStep.actionRows refuses) =
    (script.filterMap IngestStep.actionRow?).filter (!refuses ·) := by
  have hstep : ∀ step : IngestStep, step.actionRows refuses =
      step.actionRow?.toList.filter (!refuses ·) := by
    intro step
    cases step with
    | writeAction row =>
      by_cases hr : refuses row = true <;> simp [IngestStep.actionRows, IngestStep.actionRow?, hr]
    | _ => rfl
  rw [List.filterMap_eq_flatMap_toList, List.filter_flatMap]
  exact List.flatMap_congr fun step _ => hstep step

namespace Block

/-- The rows of the actions of a block, in the order of the document. -/
def actionRows : List ActionRow := b.placed.map fun x => x.row decoder b

theorem actionRow?_ofBlock :
    (Script.ofBlock registry decoder b).filterMap IngestStep.actionRow? = b.actionRows decoder := by
  have hall := Script.actionRows_eq (fun _ => false) (Script.ofBlock registry decoder b)
  rw [Script.actionRows_ofBlock, b.actionRows_eq decoder] at hall
  simpa [actionRows] using hall.symm

theorem written_eq : (Script.ofBlock registry decoder b).written refuses =
    (b.actionRows decoder).countP (!refuses ·) := by
  rw [Script.written, actionRow?_ofBlock]

theorem failed_eq : (Script.ofBlock registry decoder b).failed refuses =
    (b.actionRows decoder).countP refuses := by
  rw [Script.failed, actionRow?_ofBlock]

/-- The summary of a block that no handler refuses counts its rows. -/
theorem verdict_eq_ok (h : (Script.ofBlock registry decoder b).refusal? = none) :
    b.verdict registry decoder refuses = .ok {
      height := b.height, totals := .of (b.executed decoder)
      actionsWritten := (b.actionRows decoder).countP (!refuses ·)
      actionsFailed := (b.actionRows decoder).countP refuses } := by
  unfold verdict
  dsimp only
  rw [h, ← written_eq registry, ← failed_eq registry]

/-- The rows that are not refused go into the table of actions, in their order. -/
theorem apply_actions (d : Derived) :
    ((Script.ofBlock registry decoder b).apply refuses d).actions =
      d.actions.upsertAll ((b.actionRows decoder).filter (!refuses ·)) := by
  rw [Script.apply_actions, Script.actionRows_eq, actionRow?_ofBlock]

end Block

end Rows

/-! ### Two outcomes -/

/-- Of two outcomes of an accepted block, the first has lost the rows of actions that the store
refuses, and nothing else. -/
structure LosesOnly (s : Store) (decoder : Decoder) (b : Block) (summary : BlockSummary)
    (lossy whole : Outcome Store (Except IngestError BlockSummary)) : Prop where
  /-- The summaries differ in the numbers of stored and lost rows. -/
  answer : lossy.answer = .ok { summary with
    actionsWritten := (b.actionRows decoder).countP (!s.refuses ·)
    actionsFailed := (b.actionRows decoder).countP s.refuses }
  /-- Every table but those of actions and volumes is as without refusals. -/
  others : lossy.state.tables = { whole.state.tables with
    actions := lossy.state.tables.actions, volumes := lossy.state.tables.volumes }
  /-- The rows that are not refused are written in their order, and the others are left out. -/
  actions : ∃ before, s.tables.actions = some before ∧
    whole.state.tables.actions = some (before.upsertAll (b.actionRows decoder)) ∧
    lossy.state.tables.actions =
      some (before.upsertAll ((b.actionRows decoder).filter (!s.refuses ·)))
  /-- A stored row stays if all the rows with its key are refused. -/
  kept : ∀ key, (∀ row ∈ b.actionRows decoder, Keyed.key row = key → s.refuses row = true) →
    lossy.state.tables.actions.bind (·.find? key) = s.tables.actions.bind (·.find? key)
  /-- The volume of a type of the block is the number of its stored actions. -/
  tallied : ∀ code ∈ touchedCodes b, ∃ actions, lossy.state.tables.actions = some actions ∧
    lossy.state.tables.volumes.bind (·.find? code) =
      some ⟨code, actionName code, actions.rows.countP (·.actionType == code)⟩
  /-- The volumes of the other types are as before. -/
  untouched : ∀ code ∉ touchedCodes b, lossy.state.tables.volumes.bind (·.find? code) =
    s.tables.volumes.bind (·.find? code)

namespace Block

variable (registry : Registry) (decoder : Decoder) (refuses : ActionRow → Bool) (b : Block)

/-- Refused rows touch none of the tables beside those of actions and volumes. -/
theorem apply_refusing (d : Derived) :
    let script := Script.ofBlock registry decoder b
    script.apply refuses d = { script.apply (fun _ => false) d with
      actions := (script.apply refuses d).actions
      volumes := (script.apply refuses d).volumes } := by
  intro script
  refine Derived.ext ?_ ?_ rfl ?_ ?_ rfl
  · rw [Script.apply_blocks, Script.apply_blocks]
  · rw [Script.apply_transactions, Script.apply_transactions]
  · rw [Script.apply_assets, Script.apply_assets]
  · rw [Script.apply_stakes, Script.apply_stakes]

/-- A key keeps its row if all rows that a block has for it are refused. -/
theorem find?_apply_of_refused {key : String × Int × Nat} (d : Derived)
    (h : ∀ row ∈ b.actionRows decoder, Keyed.key row = key → refuses row = true) :
    ((Script.ofBlock registry decoder b).apply refuses d).actions.find? key =
      d.actions.find? key := by
  have hnone : Table.lastOf? ((b.actionRows decoder).filter (!refuses ·)) key = none := by
    refine Table.lastOf?_eq_none_iff.2 fun row hrow hkey => ?_
    obtain ⟨hmem, hstored⟩ := List.mem_filter.1 hrow
    rw [h row hmem hkey] at hstored
    cases hstored
  rw [apply_actions, Table.find?_upsertAll, hnone, Option.none_or]

end Block

namespace Store

variable {s : Store} (registry : Registry) (decoder : Decoder) {b : Block}

/-- A block that starts nothing over, on a store that answers and has its derived tables. -/
theorem ingest_spec_of_later {d : Derived} (ha : s.answering = true)
    (hd : s.tables.derived? = some d) (hb : b.isGenesis = false) :
    (s.ingest registry decoder b).answer = b.verdict registry decoder s.refuses ∧
      (s.ingest registry decoder b).state = s.withTables
        (s.tables.withDerived ((b.writes registry decoder).apply s.refuses d)) := by
  have hahead : s.ahead b = s := by simp [ahead, hb]
  have hspec := ingest_spec (s := s) registry decoder b ha (hahead.symm ▸ hd)
  rwa [hahead] at hspec

/-- Such a block, if no handler refuses it. -/
theorem ingest_of_built {d : Derived} (ha : s.answering = true)
    (hd : s.tables.derived? = some d) (hb : b.isGenesis = false)
    (hbuilt : (Script.ofBlock registry decoder b).refusal? = none) :
    (s.ingest registry decoder b).answer = .ok {
        height := b.height, totals := .of (b.executed decoder)
        actionsWritten := (b.actionRows decoder).countP (!s.refuses ·)
        actionsFailed := (b.actionRows decoder).countP s.refuses } ∧
      (s.ingest registry decoder b).state.tables =
        s.tables.withDerived ((Script.ofBlock registry decoder b).apply s.refuses d) := by
  obtain ⟨hanswer, hstate⟩ := ingest_spec_of_later registry decoder ha hd hb
  have hwrites : b.writes registry decoder = Script.ofBlock registry decoder b := by
    simp [Block.writes, hbuilt]
  rw [hanswer, hstate, hwrites]
  exact ⟨Block.verdict_eq_ok registry decoder s.refuses b hbuilt, rfl⟩

theorem losesOnly_of_built {d : Derived} {summary : BlockSummary} (ha : s.answering = true)
    (hd : s.tables.derived? = some d) (hb : b.isGenesis = false)
    (hbuilt : (Script.ofBlock registry decoder b).refusal? = none)
    (hsummary : (s.lenient.ingest registry decoder b).answer = .ok summary) :
    LosesOnly s decoder b summary (s.ingest registry decoder b)
      (s.lenient.ingest registry decoder b) := by
  obtain ⟨hanswer, htables⟩ := ingest_of_built registry decoder ha hd hb hbuilt
  obtain ⟨hwhole, hwholeTables⟩ :=
    ingest_of_built (s := s.lenient) registry decoder ha hd hb hbuilt
  have hbefore : s.tables.actions = some d.actions ∧ s.tables.volumes = some d.volumes := by
    rw [← Tables.withDerived_of_derived? hd]
    exact ⟨rfl, rfl⟩
  constructor
  case answer =>
    rw [hwhole, Except.ok.injEq] at hsummary
    rw [hanswer, ← hsummary]
  case others =>
    rw [hwholeTables, htables]
    exact congrArg s.tables.withDerived (b.apply_refusing registry decoder s.refuses d)
  case actions =>
    refine ⟨d.actions, hbefore.1, ?_, ?_⟩
    · rw [hwholeTables]
      have hall := b.apply_actions registry decoder (fun _ => false) d
      exact congrArg some (hall.trans (by simp))
    · rw [htables]
      exact congrArg some (b.apply_actions registry decoder s.refuses d)
  case kept =>
    intro key hrefused
    rw [htables, hbefore.1]
    exact b.find?_apply_of_refused registry decoder s.refuses d hrefused
  case tallied =>
    intro code hcode
    rw [htables]
    exact ⟨_, rfl, b.ofBlock_tallied registry decoder s.refuses hcode d⟩
  case untouched =>
    intro code hcode
    rw [htables, hbefore.2]
    exact Script.apply_volume (b.ofBlock_spares registry decoder hcode).2

/-- **A refused row of an action costs only itself.**  Whatever rows of actions a store with its
tables refuses, a block that does not start the chain over is refused exactly if it is refused on
the store that takes all rows, for the same reason and without any change.  If it is accepted, it
leaves what it leaves there, but for the refused rows, and the volumes and the summary count the
rows that are stored. -/
theorem ingest_losesOnly (ha : s.answering = true)
    (hpresent : ∀ name ∈ TableName.derived, (s.tables.sizeOf name).isSome) (hb : b.height ≠ 1) :
    let lossy := s.ingest registry decoder b
    let whole := s.lenient.ingest registry decoder b
    (∀ error, lossy.answer = .error error ↔ whole.answer = .error error) ∧
      (∀ error, lossy.answer = .error error → lossy.state = s ∧ whole.state = s.lenient) ∧
      ∀ summary, whole.answer = .ok summary → LosesOnly s decoder b summary lossy whole := by
  intro lossy whole
  have hlater : b.isGenesis = false := by simp [Block.isGenesis, genesisHeight, hb]
  obtain ⟨d, hd⟩ := Tables.exists_derived? hpresent
  have hlossy := (ingest_spec_of_later registry decoder ha hd hlater).1
  have hwhole := (ingest_spec_of_later (s := s.lenient) registry decoder ha hd hlater).1
  have herror : ∀ error, lossy.answer = .error error ↔ whole.answer = .error error := by
    intro error
    rw [hlossy, hwhole, Block.verdict_eq_error_iff, Block.verdict_eq_error_iff]
  refine ⟨herror, fun error h => ?_, fun summary hsummary => ?_⟩
  · exact ⟨ingest_state_of_error hlater h, ingest_state_of_error hlater ((herror error).1 h)⟩
  · have hbuilt : (Script.ofBlock registry decoder b).refusal? = none :=
      Block.exists_verdict_eq_ok_iff.1 ⟨summary, hwhole.symm.trans hsummary⟩
    exact losesOnly_of_built registry decoder ha hd hlater hbuilt hsummary

/-- A store that has the action of one transaction, and refuses all further actions of this one and
of another. -/
def picky : Store :=
  ((Service.sample.store.ingest .standard .json (.sample 3 0 [("kept", 0)])).state).refuse
    fun row => row.txHash == "kept" || row.txHash == "lost"

/-- Of three actions one is stored, one is lost, and one stays as it was three seconds ago. -/
theorem ingest_losesOnly_picky :
    let b := Block.sample 5 3000 [("lost", 0), ("kept", 0), ("new", 0)]
    let lossy := picky.ingest .standard .json b
    let summary : BlockSummary := ⟨5, ⟨3, 3, 1, 0⟩, 3, 0⟩
    picky.answering = true ∧ (∀ name ∈ TableName.derived, (picky.tables.sizeOf name).isSome) ∧
      b.height ≠ 1 ∧ (picky.lenient.ingest .standard .json b).answer = .ok summary ∧
      LosesOnly picky .json b summary lossy (picky.lenient.ingest .standard .json b) ∧
      lossy.answer = .ok { summary with actionsWritten := 1, actionsFailed := 2 } ∧
      lossy.state.tables.actions.map (·.rows.map fun row => (row.txHash, row.timestamp)) =
        some [("kept", .ofMillis 0), ("new", .ofMillis 3000)] := by
  intro b lossy summary
  have ha : picky.answering = true := by decide +kernel
  have hpresent : ∀ name ∈ TableName.derived, (picky.tables.sizeOf name).isSome := by
    decide +kernel
  have hsummary : (picky.lenient.ingest .standard .json b).answer = .ok summary := by
    decide +kernel
  have hloses := (ingest_losesOnly .standard .json ha hpresent (b := b) (by decide)).2.2 _ hsummary
  have hcounts : (b.actionRows .json).countP (!picky.refuses ·) = 1 ∧
      (b.actionRows .json).countP picky.refuses = 2 := by
    decide +kernel
  refine ⟨ha, hpresent, by decide, hsummary, hloses, ?_, by decide +kernel⟩
  rw [hloses.answer, hcounts.1, hcounts.2]

end Store

end ChainWatch
