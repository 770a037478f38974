import ChainWatch.Proofs.Effect

/-!
# What a block writes, table by table

Five of the derived tables take rows that are known before the store is looked at.  The sixth, the
volumes, counts rows of another one: a volume is right after its type has been counted, and it stays
right as long as no action of that type is written.

* `IngestStep.apply_tables`, `Script.apply_blocks`, … : the rows that go into the five tables.
* `Script.transactionRows_ofBlock`, `Script.actionRows_ofBlock`, `Script.blockRows_ofBlock` : these
  rows of a block.
* `Derived.Tallied` : the volume of a type is the number of its stored actions.
* `mem_touchedCodes` : the types that a block counts.
* `Block.writes_settle` : after a block, a type is tallied, or else the block has left it alone.
-/

namespace ChainWatch

/-! ### Rows -/

namespace IngestStep

variable (refuses : ActionRow → Bool) (d : Derived) (step : IngestStep)

/-- The rows of blocks that a step writes. -/
def blockRows : IngestStep → List BlockRow
  | writeBlock row => [row]
  | _ => []

/-- The rows of transactions that a step writes. -/
def transactionRows : IngestStep → List TransactionRow
  | writeTransaction row => [row]
  | _ => []

/-- The rows of actions that a step writes into a table that may refuse them. -/
def actionRows : IngestStep → List ActionRow
  | writeAction row => if refuses row then [] else [row]
  | _ => []

/-- The rows of assets that a step writes. -/
def assetRows : IngestStep → List AssetRow
  | writeSide _ (.asset row) => [row]
  | _ => []

/-- The rows of stakes that a step writes. -/
def stakeRows : IngestStep → List StakeRow
  | writeSide _ (.stake row) => [row]
  | _ => []

/-- The rows of a step go into their tables. -/
theorem apply_tables :
    (step.apply refuses d).blocks = d.blocks.upsertAll step.blockRows ∧
      (step.apply refuses d).transactions = d.transactions.upsertAll step.transactionRows ∧
      (step.apply refuses d).actions = d.actions.upsertAll (step.actionRows refuses) ∧
      (step.apply refuses d).assets = d.assets.upsertAll step.assetRows ∧
      (step.apply refuses d).stakes = d.stakes.upsertAll step.stakeRows := by
  cases step with
  | writeAction row =>
    by_cases hr : refuses row = true
    · simp only [apply, actionRows, if_pos hr]
      exact ⟨rfl, rfl, rfl, rfl, rfl⟩
    · simp only [apply, actionRows, if_neg hr]
      exact ⟨rfl, rfl, rfl, rfl, rfl⟩
  | writeSide place row => cases row <;> exact ⟨rfl, rfl, rfl, rfl, rfl⟩
  | _ => exact ⟨rfl, rfl, rfl, rfl, rfl⟩

end IngestStep

namespace Script

variable (refuses : ActionRow → Bool) (script : Script) (d : Derived)

theorem apply_blocks :
    (script.apply refuses d).blocks = d.blocks.upsertAll (script.flatMap IngestStep.blockRows) :=
  Table.foldl_upsertAll (fun d step => (step.apply_tables refuses d).1) script d

theorem apply_transactions : (script.apply refuses d).transactions =
    d.transactions.upsertAll (script.flatMap IngestStep.transactionRows) :=
  Table.foldl_upsertAll (fun d step => (step.apply_tables refuses d).2.1) script d

theorem apply_actions : (script.apply refuses d).actions =
    d.actions.upsertAll (script.flatMap (IngestStep.actionRows refuses)) :=
  Table.foldl_upsertAll (fun d step => (step.apply_tables refuses d).2.2.1) script d

theorem apply_assets :
    (script.apply refuses d).assets = d.assets.upsertAll (script.flatMap IngestStep.assetRows) :=
  Table.foldl_upsertAll (fun d step => (step.apply_tables refuses d).2.2.2.1) script d

theorem apply_stakes :
    (script.apply refuses d).stakes = d.stakes.upsertAll (script.flatMap IngestStep.stakeRows) :=
  Table.foldl_upsertAll (fun d step => (step.apply_tables refuses d).2.2.2.2) script d

end Script

/-! ### Volumes -/

/-- A row of another type does not change the number of stored actions of a type. -/
theorem Tables.countActions_upsert {table : Table ActionRow} {row : ActionRow} {code : Nat}
    (h : row.actionType ≠ code) :
    countActions (table.upsert row) code = countActions table code := by
  have hfilter : (table.upsert row).rows.filter (·.actionType == code) =
      table.rows.filter (·.actionType == code) := by
    refine ((table.upsert row).ascending.filter _).eq_of_mem_iff (table.ascending.filter _) ?_
    intro r
    rw [List.mem_filter, List.mem_filter, Table.mem_upsert, beq_iff_eq]
    constructor
    · rintro ⟨rfl | ⟨hr, -⟩, hcode⟩
      · exact absurd hcode h
      · exact ⟨hr, hcode⟩
    · rintro ⟨hr, hcode⟩
      -- rows of different types have different keys
      refine ⟨.inr ⟨hr, fun hkey => h ?_⟩, hcode⟩
      rw [← hcode]
      exact (congrArg (·.2.2) hkey).symm
  rw [countActions, countActions, List.countP_eq_length_filter, List.countP_eq_length_filter,
    hfilter]

/-- The volume of a type is the number of its stored actions. -/
def Derived.Tallied (d : Derived) (code : Nat) : Prop :=
  d.volumes.find? code = some ⟨code, actionName code, Tables.countActions d.actions code⟩

namespace IngestStep

variable {refuses : ActionRow → Bool} {d : Derived} {step : IngestStep} {code : Nat}

/-- Whether a step writes no action of a type. -/
def spares (code : Nat) (step : IngestStep) : Prop :=
  ∀ row, step = .writeAction row → row.actionType ≠ code

theorem apply_count (h : step.spares code) :
    Tables.countActions (step.apply refuses d).actions code =
      Tables.countActions d.actions code := by
  cases step with
  | writeAction row =>
    simp only [apply]
    split
    · rfl
    · exact Tables.countActions_upsert (h row rfl)
  | writeSide place row => cases row <;> rfl
  | _ => rfl

/-- A volume changes only when its type is counted. -/
theorem apply_volume (h : step ≠ .refreshVolume code) :
    (step.apply refuses d).volumes.find? code = d.volumes.find? code := by
  cases step with
  | writeAction row =>
    simp only [apply]
    split <;> rfl
  | writeSide place row => cases row <;> rfl
  | refreshVolume other =>
    have hne : other ≠ code := fun hc => h (hc ▸ rfl)
    exact (Table.find?_upsert _ _ _).trans (if_neg hne)
  | _ => rfl

theorem apply_tallied_self : ((refreshVolume code).apply refuses d).Tallied code :=
  (Table.find?_upsert _ _ _).trans (if_pos rfl)

theorem apply_tallied (h : step.spares code) (ht : d.Tallied code) :
    (step.apply refuses d).Tallied code := by
  by_cases hself : step = .refreshVolume code
  · rw [hself]
    exact apply_tallied_self
  · rw [Derived.Tallied, apply_volume hself, apply_count h]
    exact ht

end IngestStep

namespace Script

variable {refuses : ActionRow → Bool} {script : Script} {d : Derived} {code : Nat}

theorem apply_volume (h : .refreshVolume code ∉ script) :
    (script.apply refuses d).volumes.find? code = d.volumes.find? code := by
  induction script generalizing d with
  | nil => rfl
  | cons step rest ih =>
    rw [List.mem_cons, not_or] at h
    exact (ih h.2).trans (IngestStep.apply_volume (Ne.symm h.1))

theorem apply_tallied (h : ∀ step ∈ script, step.spares code) (ht : d.Tallied code) :
    (script.apply refuses d).Tallied code := by
  induction script generalizing d with
  | nil => exact ht
  | cons step rest ih =>
    rw [List.forall_mem_cons] at h
    exact ih h.2 (IngestStep.apply_tallied h.1 ht)

/-- A type is tallied if it is counted and no action of it is written from there on. -/
theorem apply_tallied_of_mem (h : ∀ step ∈ script, step.spares code)
    (hmem : .refreshVolume code ∈ script) : (script.apply refuses d).Tallied code := by
  induction script generalizing d with
  | nil => cases hmem
  | cons step rest ih =>
    rw [List.forall_mem_cons] at h
    rcases List.mem_cons.1 hmem with rfl | hrest
    · show (apply refuses rest _).Tallied code
      exact apply_tallied h.2 IngestStep.apply_tallied_self
    · exact ih h.2 hrest

end Script

/-! ### The rows of a block -/

/-- The rows of the actions of a transaction. -/
def Executed.actionRows (e : Executed) (time : Instant) : List ActionRow :=
  e.actions.map fun (action, position) => e.actionRow time action position

namespace Script

variable (registry : Registry) (b : Block) (e : Executed)

/-- The lines about a transaction as a whole. -/
theorem exists_report_of_mem {step : IngestStep} (h : step ∈ missingResult b e ++ badOutputs e) :
    ∃ line, step = .report line := by
  rcases List.mem_append.1 h with hmissing | hbad
  · unfold missingResult at hmissing
    split at hmissing
    · cases hmissing
    · exact ⟨_, List.mem_singleton.1 hmissing⟩
  · obtain ⟨⟨output, position⟩, -, houtput⟩ := List.mem_filterMap.1 hbad
    cases output with
    | ok members => cases houtput
    | error error =>
      cases houtput
      exact ⟨_, rfl⟩

/-- Behind the row of an action there is a line, a row that the action gives rise to, or a
refusal. -/
theorem afterAction_cases {action : Action} {position : Nat} {step : IngestStep}
    (h : step ∈ afterAction registry b e action position) :
    (∃ line, step = .report line) ∨ (∃ place row, step = .writeSide place row) ∨
      ∃ place error, step = .refuse place error := by
  unfold afterAction at h
  split at h
  next handler ctx _ =>
    rw [List.mem_singleton, ofHandler] at h
    split at h
    next row _ => exact .inr (.inl ⟨_, row, h⟩)
    next error _ => exact .inr (.inr ⟨_, error, h⟩)
  next =>
    split at h
    · exact .inl ⟨_, List.mem_singleton.1 h⟩
    · cases h

/-- The steps of a transaction ahead of its own row write neither transactions nor blocks. -/
theorem rows_eq_nil_of_mem_front {step : IngestStep}
    (h : step ∈ missingResult b e ++ badOutputs e ++
      e.actions.flatMap fun (action, position) => ofAction registry b e action position) :
    step.transactionRows = [] ∧ step.blockRows = [] := by
  rcases List.mem_append.1 h with hlines | hactions
  · obtain ⟨line, rfl⟩ := exists_report_of_mem b e hlines
    exact ⟨rfl, rfl⟩
  · obtain ⟨⟨action, position⟩, -, hstep⟩ := List.mem_flatMap.1 hactions
    rcases List.mem_cons.1 hstep with rfl | hafter
    · exact ⟨rfl, rfl⟩
    · rcases afterAction_cases registry b e hafter with
        ⟨line, rfl⟩ | ⟨place, row, rfl⟩ | ⟨place, error, rfl⟩ <;> exact ⟨rfl, rfl⟩

theorem rows_ofTransaction :
    (ofTransaction registry b e).flatMap IngestStep.transactionRows = [e.transactionRow b] ∧
      (ofTransaction registry b e).flatMap IngestStep.blockRows = [] := by
  have htransactions := List.flatMap_eq_nil_iff.2 fun _ hstep =>
    (rows_eq_nil_of_mem_front registry b e hstep).1
  have hblocks := List.flatMap_eq_nil_iff.2 fun _ hstep =>
    (rows_eq_nil_of_mem_front registry b e hstep).2
  constructor
  · rw [ofTransaction, List.flatMap_append, htransactions]
    rfl
  · rw [ofTransaction, List.flatMap_append, hblocks]
    rfl

/-- Rows of a kind that counting does not write come from the transactions and from the end. -/
theorem flatMap_ofBlock {ρ : Type} {rows : IngestStep → List ρ}
    (hcounts : ∀ code, rows (.refreshVolume code) = []) (decoder : Decoder) :
    (ofBlock registry decoder b).flatMap rows =
      ((b.executed decoder).flatMap fun e => (ofTransaction registry b e).flatMap rows) ++
        rows (.writeBlock ((Totals.of (b.executed decoder)).blockRow b)) := by
  have hnone : ((touchedCodes b).map IngestStep.refreshVolume).flatMap rows = [] := by
    rw [List.flatMap_map]
    exact List.flatMap_eq_nil_iff.2 fun code _ => hcounts code
  rw [ofBlock, List.flatMap_append, List.flatMap_append, hnone, List.append_nil, List.flatMap_assoc,
    List.flatMap_singleton]

/-- A block writes one row for each of its transactions. -/
theorem transactionRows_ofBlock (decoder : Decoder) :
    (ofBlock registry decoder b).flatMap IngestStep.transactionRows =
      (b.executed decoder).map (·.transactionRow b) := by
  rw [flatMap_ofBlock registry b (fun _ => rfl), List.map_eq_flatMap]
  simp only [fun e => (rows_ofTransaction registry b e).1]
  exact List.append_nil _

/-- A block writes one row for itself. -/
theorem blockRows_ofBlock (decoder : Decoder) :
    (ofBlock registry decoder b).flatMap IngestStep.blockRows =
      [(Totals.of (b.executed decoder)).blockRow b] := by
  rw [flatMap_ofBlock registry b (fun _ => rfl), List.flatMap_eq_nil_iff.2 fun e _ =>
    (rows_ofTransaction registry b e).2]
  rfl

/-- A transaction writes the rows of its actions, if none is refused. -/
theorem actionRows_ofTransaction :
    (ofTransaction registry b e).flatMap (IngestStep.actionRows fun _ => false) =
      e.actionRows b.timestamp := by
  have hlines : (missingResult b e ++ badOutputs e).flatMap
      (IngestStep.actionRows fun _ => false) = [] := by
    refine List.flatMap_eq_nil_iff.2 fun step hstep => ?_
    obtain ⟨line, rfl⟩ := exists_report_of_mem b e hstep
    rfl
  have hafter : ∀ action position, (afterAction registry b e action position).flatMap
      (IngestStep.actionRows fun _ => false) = [] := by
    refine fun action position => List.flatMap_eq_nil_iff.2 fun step hstep => ?_
    rcases afterAction_cases registry b e hstep with
      ⟨line, rfl⟩ | ⟨place, row, rfl⟩ | ⟨place, error, rfl⟩ <;> rfl
  have haction : ∀ action position, (ofAction registry b e action position).flatMap
      (IngestStep.actionRows fun _ => false) = [e.actionRow b.timestamp action position] := by
    intro action position
    rw [ofAction, List.flatMap_cons, hafter]
    rfl
  rw [ofTransaction, List.flatMap_append, List.flatMap_append, hlines, List.flatMap_assoc,
    Executed.actionRows, List.map_eq_flatMap]
  simp only [haction]
  simp [IngestStep.actionRows]

/-- A block writes the rows of the actions of its transactions. -/
theorem actionRows_ofBlock (decoder : Decoder) :
    (ofBlock registry decoder b).flatMap (IngestStep.actionRows fun _ => false) =
      (b.executed decoder).flatMap (·.actionRows b.timestamp) := by
  rw [flatMap_ofBlock registry b (fun _ => rfl)]
  simp only [actionRows_ofTransaction]
  exact List.append_nil _

end Script

/-! ### The types that a block counts -/

theorem mem_touchedCodes {b : Block} {code : Nat} :
    code ∈ touchedCodes b ↔ ∃ tx ∈ b.transactions, ∃ action ∈ tx.actions, action.typeId = code := by
  have hmem := Table.mem_upsertAll (fun _ => rfl) Table.empty
    (b.transactions.flatMap fun tx => tx.actions.map (·.typeId)) code
  rw [touchedCodes]
  refine hmem.trans ?_
  simp [Table.empty, List.mem_flatMap]

theorem Executed.of_tx (decoder : Decoder) (tx : Transaction) (result : Option ExecutionResult) :
    (of decoder tx result).tx = tx := by
  cases result <;> rfl

theorem Block.tx_mem_of_mem_executed {b : Block} {decoder : Decoder} {e : Executed}
    (h : e ∈ b.executed decoder) : e.tx ∈ b.transactions := by
  obtain ⟨⟨tx, position⟩, hmem, rfl⟩ := List.mem_map.1 h
  rw [Executed.of_tx]
  exact List.fst_mem_of_mem_zipIdx hmem

namespace Script

variable {registry : Registry} {b : Block} {e : Executed}

/-- The steps of a transaction count nothing, and the actions that they write are its own. -/
theorem mem_ofTransaction {step : IngestStep} (h : step ∈ ofTransaction registry b e) :
    (∀ code, step ≠ .refreshVolume code) ∧
      ∀ row, step = .writeAction row → ∃ action ∈ e.tx.actions, action.typeId = row.actionType := by
  rcases List.mem_append.1 h with hfront | hrow
  · rcases List.mem_append.1 hfront with hlines | hactions
    · obtain ⟨line, rfl⟩ := exists_report_of_mem b e hlines
      exact ⟨nofun, nofun⟩
    · obtain ⟨⟨action, position⟩, hmem, hstep⟩ := List.mem_flatMap.1 hactions
      rcases List.mem_cons.1 hstep with rfl | hafter
      · refine ⟨nofun, ?_⟩
        rintro row ⟨⟩
        exact ⟨action, List.fst_mem_of_mem_zipIdx hmem, rfl⟩
      · rcases afterAction_cases registry b e hafter with
          ⟨line, rfl⟩ | ⟨place, row, rfl⟩ | ⟨place, error, rfl⟩ <;> exact ⟨nofun, nofun⟩
  · obtain rfl := List.mem_singleton.1 hrow
    exact ⟨nofun, nofun⟩

/-- What follows the transactions of a block writes no action. -/
theorem mem_counting {row : BlockRow} {codes : List Nat} {step : IngestStep}
    (h : step ∈ codes.map IngestStep.refreshVolume ++ [.writeBlock row]) (code : Nat) :
    step.spares code := by
  simp only [List.mem_append, List.mem_map, List.mem_singleton] at h
  rcases h with ⟨other, -, rfl⟩ | rfl <;> exact nofun

end Script

/-- What a script leaves of a type of actions: it is tallied in the end, whatever was there, or the
script has not touched it at all. -/
def Script.Settles (refuses : ActionRow → Bool) (code : Nat) (script : Script) : Prop :=
  (∀ d, (script.apply refuses d).Tallied code) ∨
    (∀ step ∈ script, step.spares code) ∧ .refreshVolume code ∉ script

namespace Block

variable (registry : Registry) (decoder : Decoder) (refuses : ActionRow → Bool) (b : Block)

/-- A type that occurs in a block is tallied after its steps. -/
theorem ofBlock_tallied {code : Nat} (hcode : code ∈ touchedCodes b) (d : Derived) :
    ((Script.ofBlock registry decoder b).apply refuses d).Tallied code := by
  simp only [Script.ofBlock, List.append_assoc, Script.apply_append]
  rw [← Script.apply_append]
  refine Script.apply_tallied_of_mem (fun step hstep => Script.mem_counting hstep code) ?_
  exact List.mem_append_left _ (List.mem_map_of_mem hcode)

/-- A type that does not occur in a block is left alone by its steps. -/
theorem ofBlock_spares {code : Nat} (hcode : code ∉ touchedCodes b) :
    (∀ step ∈ Script.ofBlock registry decoder b, step.spares code) ∧
      .refreshVolume code ∉ Script.ofBlock registry decoder b := by
  have htransactions : ∀ step ∈ (b.executed decoder).flatMap (Script.ofTransaction registry b),
      step.spares code ∧ step ≠ .refreshVolume code := by
    intro step hstep
    obtain ⟨e, he, hmem⟩ := List.mem_flatMap.1 hstep
    obtain ⟨hcount, hrows⟩ := Script.mem_ofTransaction hmem
    refine ⟨fun row hrow htype => hcode ?_, hcount code⟩
    obtain ⟨action, haction, htypeId⟩ := hrows row hrow
    exact mem_touchedCodes.2
      ⟨e.tx, tx_mem_of_mem_executed he, action, haction, htypeId.trans htype⟩
  refine ⟨fun step hstep => ?_, fun hmem => ?_⟩
  · rw [Script.ofBlock, List.append_assoc, List.mem_append] at hstep
    rcases hstep with hstep | hstep
    · exact (htransactions step hstep).1
    · exact Script.mem_counting hstep code
  · rw [Script.ofBlock, List.append_assoc, List.mem_append] at hmem
    rcases hmem with hmem | hmem
    · exact (htransactions _ hmem).2 rfl
    · simp [hcode] at hmem

theorem ofBlock_settles (code : Nat) :
    (Script.ofBlock registry decoder b).Settles refuses code := by
  by_cases hcode : code ∈ touchedCodes b
  · exact .inl (ofBlock_tallied registry decoder refuses b hcode)
  · exact .inr (ofBlock_spares registry decoder b hcode)

/-- After a block, every type is tallied, or the block has left it alone. -/
theorem writes_settle (code : Nat) : (b.writes registry decoder).Settles refuses code := by
  rcases b.writes_cases registry decoder with hwrites | hwrites
  · rw [hwrites]
    exact .inr ⟨by simp, by simp⟩
  · rw [hwrites]
    exact ofBlock_settles registry decoder refuses b code

end Block

/-- Of several scripts the last one that touches a type decides about it. -/
theorem Script.Settles.append {refuses : ActionRow → Bool} {code : Nat} {script rest : Script}
    (h : script.Settles refuses code) (hrest : rest.Settles refuses code) :
    Script.Settles refuses code (script ++ rest) := by
  rcases hrest with hrest | ⟨hspared, huncounted⟩
  · left
    intro d
    rw [Script.apply_append]
    exact hrest _
  · rcases h with h | ⟨hspared', huncounted'⟩
    · left
      intro d
      rw [Script.apply_append]
      exact Script.apply_tallied hspared (h d)
    · right
      refine ⟨fun step hstep => ?_, fun hmem => ?_⟩
      · exact (List.mem_append.1 hstep).elim (hspared' step) (hspared step)
      · exact (List.mem_append.1 hmem).elim huncounted' huncounted

end ChainWatch
