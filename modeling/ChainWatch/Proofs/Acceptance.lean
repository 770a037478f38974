import ChainWatch.Proofs.Frame
import ChainWatch.Proofs.Totals
import ChainWatch.Proofs.Writes

/-!
# What an accepted block has written

A block that is accepted has written all its rows but perhaps those of actions.  This holds whatever
the store is like: accesses may fail and tables may be missing, as long as the block gets through.
A table that is missing has been asked for no row.

* `Table.Took` : a table that may be missing has taken rows.
* `Table.Took.find?` : what a key finds in it then.
* `Workspace.access_eq_ok`, `Workspace.guarded_eq_ok` : accesses that succeed.
* `Script.Accepted`, `Script.run_accepted` : what steps have written if none has failed.
* `Store.ingest_accepted` : what a block has written that is accepted, and what is answered to it.
* `Store.ingest_failed` : where no access fails and no row is refused, no row is lost.
-/

namespace ChainWatch

/-! ### Tables that take rows -/

/-- A table has taken rows, for which it has to be there. -/
structure Table.Took {ρ κ : Type} [Keyed ρ κ] [KeyOrder κ] (t t' : Option (Table ρ))
    (rows : List ρ) : Prop where
  tables : t' = t.map (·.upsertAll rows)
  present : t = none → rows = []

namespace Table.Took

variable {ρ κ : Type} [Keyed ρ κ] [KeyOrder κ] {t t' t'' : Option (Table ρ)} {rows more : List ρ}

theorem nil : Took t t [] := ⟨by cases t <;> rfl, fun _ => rfl⟩

theorem single {table : Table ρ} {row : ρ} (h : t = some table) :
    Took t (some (table.upsert row)) [row] := by
  subst h
  exact ⟨rfl, nofun⟩

/-- A table that has taken a row is there. -/
theorem exists_of_single {row : ρ} (h : Took t t' [row]) :
    ∃ table, t = some table ∧ t' = some (table.upsert row) := by
  obtain ⟨rfl, hpresent⟩ := h
  cases t with
  | none => cases hpresent rfl
  | some table => exact ⟨table, rfl, rfl⟩

theorem append (h : Took t t' rows) (h' : Took t' t'' more) : Took t t'' (rows ++ more) := by
  obtain ⟨rfl, hpresent⟩ := h
  obtain ⟨rfl, hpresent'⟩ := h'
  refine ⟨?_, fun hnone => ?_⟩
  · cases t with
    | none => rfl
    | some table => exact congrArg some (table.upsertAll_append rows more).symm
  · subst hnone
    rw [hpresent rfl, hpresent' rfl, List.append_nil]

/-- A key finds the last of the rows that has it, or what it has found before. -/
theorem find? [DecidableEq κ] (h : Took t t' rows) (k : κ) :
    t'.bind (·.find? k) = (lastOf? rows k).or (t.bind (·.find? k)) := by
  obtain ⟨rfl, hpresent⟩ := h
  cases t with
  | none =>
    rw [hpresent rfl]
    rfl
  | some table => exact table.find?_upsertAll rows k

end Table.Took

/-! ### Accesses that succeed -/

namespace Workspace

variable {w w' : Workspace} {faults : Faults} {write : Tables → Except StoreError Tables}

theorem access_eq_ok (h : w.access faults write = (w', none)) :
    write w.tables = .ok w'.tables := by
  unfold access at h
  split at h
  · cases h
  · split at h
    next hwrite =>
      cases h
      exact hwrite
    next => cases h

theorem release_tables (h : w.release faults = (w', none)) : w'.tables = w.tables := by
  unfold release at h
  split at h
  next hidle =>
    cases h
    exact (Except.ok.inj (access_eq_ok hidle)).symm
  next hfailed => exact absurd h (hfailed _)

theorem guarded_eq_ok (h : w.guarded faults write = (w', none)) :
    write w.tables = .ok w'.tables := by
  unfold guarded at h
  split at h
  next => cases h
  next w₁ hset =>
    have hset' := w.setPoint_tables faults
    rw [hset] at hset'
    split at h
    next => cases h
    next w₂ hwrite =>
      split at h
      next => cases h
      next w₃ hrelease =>
        cases h
        rw [release_tables hrelease, ← hset']
        exact access_eq_ok hwrite

end Workspace

/-! ### Steps that succeed -/

open Table (Took)

/-- What steps have written if none of them has failed.  A row of an action may be lost. -/
structure Script.Accepted (script : Script) (p p' : Progress) : Prop where
  blocks : Took p.work.tables.blocks p'.work.tables.blocks (script.flatMap IngestStep.blockRows)
  transactions : Took p.work.tables.transactions p'.work.tables.transactions
    (script.flatMap IngestStep.transactionRows)
  assets : Took p.work.tables.assets p'.work.tables.assets (script.flatMap IngestStep.assetRows)
  stakes : Took p.work.tables.stakes p'.work.tables.stakes (script.flatMap IngestStep.stakeRows)
  counted : p'.written + p'.failed =
    p.written + p.failed + (script.flatMap (IngestStep.actionRows fun _ => false)).length
  failed_le : p.failed ≤ p'.failed
  actions : p'.failed = p.failed → Took p.work.tables.actions p'.work.tables.actions
    (script.flatMap (IngestStep.actionRows fun _ => false))
  present : p'.work.tables.actions.isSome = p.work.tables.actions.isSome

namespace Script.Accepted

variable {p p' p'' : Progress} {script : Script} {step : IngestStep}

theorem nil (p : Progress) : Accepted [] p p :=
  ⟨.nil, .nil, .nil, .nil, rfl, le_rfl, fun _ => .nil, rfl⟩

theorem cons (h : Accepted [step] p p') (h' : script.Accepted p' p'') :
    Accepted (step :: script) p p'' where
  blocks := by simpa using h.blocks.append h'.blocks
  transactions := by simpa using h.transactions.append h'.transactions
  assets := by simpa using h.assets.append h'.assets
  stakes := by simpa using h.stakes.append h'.stakes
  counted := by
    have hcounted := h.counted
    have hcounted' := h'.counted
    simp only [List.flatMap_cons, List.flatMap_nil, List.append_nil] at hcounted
    rw [List.flatMap_cons, List.length_append]
    omega
  failed_le := h.failed_le.trans h'.failed_le
  actions hnone := by
    have hle := h.failed_le
    have hle' := h'.failed_le
    simpa using (h.actions (by omega)).append (h'.actions (by omega))
  present := h'.present.trans h.present

end Script.Accepted

namespace Tables

variable {t t' : Tables}

theorem writeAction_eq_ok {refuses : ActionRow → Bool} {row : ActionRow}
    (h : t.writeAction refuses row = .ok t') :
    ∃ table, t.actions = some table ∧ t' = { t with actions := some (table.upsert row) } := by
  obtain ⟨table, hneed, h⟩ := bind_eq_ok.1 h
  split at h
  · cases h
  · cases h
    exact ⟨table, need_eq_ok hneed, rfl⟩

theorem writeAsset_eq_ok {row : AssetRow} (h : t.writeSide (.asset row) = .ok t') :
    ∃ table, t.assets = some table ∧ t' = { t with assets := some (table.upsert row) } := by
  obtain ⟨table, hneed, ⟨⟩⟩ := bind_eq_ok.1 h
  exact ⟨table, need_eq_ok hneed, rfl⟩

theorem writeStake_eq_ok {row : StakeRow} (h : t.writeSide (.stake row) = .ok t') :
    ∃ table, t.stakes = some table ∧ t' = { t with stakes := some (table.upsert row) } := by
  obtain ⟨table, hneed, ⟨⟩⟩ := bind_eq_ok.1 h
  exact ⟨table, need_eq_ok hneed, rfl⟩

theorem writeTransaction_eq_ok {row : TransactionRow} (h : t.writeTransaction row = .ok t') :
    ∃ table, t.transactions = some table ∧
      t' = { t with transactions := some (table.upsert row) } := by
  obtain ⟨table, hneed, ⟨⟩⟩ := bind_eq_ok.1 h
  exact ⟨table, need_eq_ok hneed, rfl⟩

theorem refreshVolume_eq_ok {code : Nat} (h : t.refreshVolume code = .ok t') :
    t.actions.isSome = true ∧ ∃ table row, t.volumes = some table ∧
      t' = { t with volumes := some (table.upsert row) } := by
  obtain ⟨actions, hneed, h⟩ := bind_eq_ok.1 h
  obtain ⟨table, hvolumes, ⟨⟩⟩ := bind_eq_ok.1 h
  exact ⟨by rw [need_eq_ok hneed]; rfl, table, _, need_eq_ok hvolumes, rfl⟩

theorem writeBlock_eq_ok {row : BlockRow} (h : t.writeBlock row = .ok t') :
    ∃ table, t.blocks = some table ∧ t' = { t with blocks := some (table.upsert row) } := by
  obtain ⟨table, hneed, ⟨⟩⟩ := bind_eq_ok.1 h
  exact ⟨table, need_eq_ok hneed, rfl⟩

end Tables

theorem Progress.afterWrite_eq_ok {p p' : Progress} {out : Workspace × Option StoreError}
    (h : p.afterWrite out = (p', none)) : ∃ w, out = (w, none) ∧ p' = { p with work := w } := by
  obtain ⟨w, _ | error⟩ := out
  · cases h
    exact ⟨w, rfl, rfl⟩
  · cases h

/-- A step that does not fail has written its rows, but for that of an action, which may be
lost. -/
theorem IngestStep.take_accepted {refuses : ActionRow → Bool} {faults : Faults} {p p' : Progress}
    {step : IngestStep} (h : step.take refuses faults p = (p', none)) :
    Script.Accepted [step] p p' := by
  cases step with
  | report line =>
    cases h
    exact ⟨.nil, .nil, .nil, .nil, rfl, le_rfl, fun _ => .nil, rfl⟩
  | refuse place error => cases h
  | writeAction row =>
    simp only [take] at h
    rcases hwrite : p.work.guarded faults (·.writeAction refuses row) with ⟨w, _ | error⟩
    · obtain ⟨table, hpresent, htables⟩ :=
        Tables.writeAction_eq_ok (Workspace.guarded_eq_ok hwrite)
      obtain ⟨t, saved, accesses⟩ := w
      obtain rfl : t = _ := htables
      rw [hwrite] at h
      cases h
      exact ⟨.nil, .nil, .nil, .nil, Nat.add_right_comm _ _ _, le_rfl, fun _ => .single hpresent,
        by rw [hpresent]; rfl⟩
    · have htables := Workspace.guarded_tables_of_error (congrArg Prod.snd hwrite)
      rw [hwrite] at h htables
      obtain ⟨t, saved, accesses⟩ := w
      obtain rfl : t = _ := htables
      cases h
      -- the row is lost, and counted as such
      exact ⟨.nil, .nil, .nil, .nil, rfl, Nat.le_succ _,
        fun hfailed => absurd hfailed (Nat.succ_ne_self _), rfl⟩
  | writeSide place row =>
    simp only [take] at h
    rcases hwrite : p.work.access faults (·.writeSide row) with ⟨⟨t, saved, accesses⟩, _ | error⟩
    · rw [hwrite] at h
      cases h
      cases row with
      | asset row =>
        obtain ⟨table, hpresent, rfl⟩ := Tables.writeAsset_eq_ok (Workspace.access_eq_ok hwrite)
        exact ⟨.nil, .nil, .single hpresent, .nil, rfl, le_rfl, fun _ => .nil, rfl⟩
      | stake row =>
        obtain ⟨table, hpresent, rfl⟩ := Tables.writeStake_eq_ok (Workspace.access_eq_ok hwrite)
        exact ⟨.nil, .nil, .nil, .single hpresent, rfl, le_rfl, fun _ => .nil, rfl⟩
    · rw [hwrite] at h
      cases h
  | writeTransaction row =>
    obtain ⟨⟨t, saved, accesses⟩, hwrite, rfl⟩ := Progress.afterWrite_eq_ok h
    obtain ⟨table, hpresent, rfl⟩ := Tables.writeTransaction_eq_ok (Workspace.access_eq_ok hwrite)
    exact ⟨.nil, .single hpresent, .nil, .nil, rfl, le_rfl, fun _ => .nil, rfl⟩
  | refreshVolume code =>
    obtain ⟨⟨t, saved, accesses⟩, hwrite, rfl⟩ := Progress.afterWrite_eq_ok h
    obtain ⟨-, table, row, -, rfl⟩ := Tables.refreshVolume_eq_ok (Workspace.access_eq_ok hwrite)
    exact ⟨.nil, .nil, .nil, .nil, rfl, le_rfl, fun _ => .nil, rfl⟩
  | writeBlock row =>
    obtain ⟨⟨t, saved, accesses⟩, hwrite, rfl⟩ := Progress.afterWrite_eq_ok h
    obtain ⟨table, hpresent, rfl⟩ := Tables.writeBlock_eq_ok (Workspace.access_eq_ok hwrite)
    exact ⟨.single hpresent, .nil, .nil, .nil, rfl, le_rfl, fun _ => .nil, rfl⟩

/-- Steps of which none fails are taken one after the other. -/
theorem Script.run_cons_eq_ok {refuses : ActionRow → Bool} {faults : Faults} {step : IngestStep}
    {rest : Script} {p p' : Progress} (h : run refuses faults (step :: rest) p = (p', none)) :
    ∃ p₁, step.take refuses faults p = (p₁, none) ∧ rest.run refuses faults p₁ = (p', none) := by
  rw [run] at h
  split at h
  next p₁ htake => exact ⟨p₁, htake, h⟩
  next hfailed => exact absurd h (hfailed p')

/-- Steps of which none fails have written their rows, but for those of actions, which may be
lost. -/
theorem Script.run_accepted {refuses : ActionRow → Bool} {faults : Faults} {script : Script}
    {p p' : Progress} (h : script.run refuses faults p = (p', none)) : script.Accepted p p' := by
  induction script generalizing p with
  | nil =>
    cases h
    exact .nil _
  | cons step rest ih =>
    obtain ⟨p₁, htake, hrest⟩ := run_cons_eq_ok h
    exact (IngestStep.take_accepted htake).cons (ih hrest)

/-- Work that comes to its end meets no refusal. -/
theorem Script.refusal?_of_run {refuses : ActionRow → Bool} {faults : Faults} {script : Script}
    {p p' : Progress} (h : script.run refuses faults p = (p', none)) :
    ∀ step ∈ script, step.refusal? = none := by
  induction script generalizing p with
  | nil => exact List.forall_mem_nil _
  | cons step rest ih =>
    obtain ⟨p₁, htake, hrest⟩ := run_cons_eq_ok h
    refine List.forall_mem_cons.2 ⟨?_, ih hrest⟩
    cases step with
    | refuse place error => cases htake
    | _ => rfl

/-- Types are counted only in a table that is there. -/
theorem Script.isSome_actions_of_run {refuses : ActionRow → Bool} {faults : Faults}
    {script : Script} {p p' : Progress} (h : script.run refuses faults p = (p', none)) {code : Nat}
    (hcode : .refreshVolume code ∈ script) : p.work.tables.actions.isSome = true := by
  induction script generalizing p with
  | nil => cases hcode
  | cons step rest ih =>
    obtain ⟨p₁, htake, hrest⟩ := run_cons_eq_ok h
    rcases List.mem_cons.1 hcode with rfl | hlater
    · obtain ⟨w, hwrite, -⟩ := Progress.afterWrite_eq_ok htake
      exact (Tables.refreshVolume_eq_ok (Workspace.access_eq_ok hwrite)).1
    · rw [← (IngestStep.take_accepted htake).present]
      exact ih hrest hlater

/-- Where no access fails and no row is refused, no row of an action is lost. -/
theorem IngestStep.take_failed {p p' : Progress} {step : IngestStep}
    (h : step.take (fun _ => false) .none p = (p', none))
    (hpresent : p.work.tables.actions.isSome = true) : p'.failed = p.failed := by
  cases step with
  | report line =>
    cases h
    rfl
  | refuse place error => cases h
  | writeAction row =>
    obtain ⟨table, htable⟩ := Option.isSome_iff_exists.1 hpresent
    have hwrite : p.work.tables.writeAction (fun _ => false) row =
        .ok { p.work.tables with actions := some (table.upsert row) } := by
      simp only [Tables.writeAction, htable, Tables.need]
      rfl
    have hguarded := Workspace.guarded_none_of_ok (w := p.work) (·.writeAction _ row) hwrite
    simp only [take, hguarded] at h
    cases h
    rfl
  | writeSide place row =>
    simp only [take] at h
    rcases hwrite : p.work.access .none (·.writeSide row) with ⟨w, _ | error⟩
    · rw [hwrite] at h
      cases h
      rfl
    · rw [hwrite] at h
      cases h
  | writeTransaction row | refreshVolume code | writeBlock row =>
    obtain ⟨w, -, rfl⟩ := Progress.afterWrite_eq_ok h
    rfl

theorem Script.run_failed {script : Script} {p p' : Progress}
    (h : script.run (fun _ => false) .none p = (p', none))
    (hpresent : p.work.tables.actions.isSome = true) : p'.failed = p.failed := by
  induction script generalizing p with
  | nil =>
    cases h
    rfl
  | cons step rest ih =>
    obtain ⟨p₁, htake, hrest⟩ := run_cons_eq_ok h
    have hkept := (IngestStep.take_accepted htake).present.trans hpresent
    exact (ih hrest hkept).trans (IngestStep.take_failed htake hpresent)

/-! ### Blocks that are accepted -/

/-- What a block has done that is accepted, and what is answered to it. -/
structure Block.Accepted (registry : Registry) (decoder : Decoder) (b : Block) (s s' : Store)
    (summary : BlockSummary) : Prop where
  blocks : Took s.tables.blocks s'.tables.blocks [(Totals.of (b.executed decoder)).blockRow b]
  transactions : Took s.tables.transactions s'.tables.transactions
    ((b.executed decoder).map (·.transactionRow b))
  assets : Took s.tables.assets s'.tables.assets
    ((Script.ofBlock registry decoder b).flatMap IngestStep.assetRows)
  stakes : Took s.tables.stakes s'.tables.stakes
    ((Script.ofBlock registry decoder b).flatMap IngestStep.stakeRows)
  height : summary.height = b.height
  totals : summary.totals = .of (b.executed decoder)
  counted : summary.actionsWritten + summary.actionsFailed =
    ((b.executed decoder).flatMap (·.actionRows b.timestamp)).length
  actions : summary.actionsFailed = 0 → Took s.tables.actions s'.tables.actions
    ((b.executed decoder).flatMap (·.actionRows b.timestamp))
  unrefused : ∀ step ∈ Script.ofBlock registry decoder b, step.refusal? = none

theorem Block.map_tx_executed (b : Block) (decoder : Decoder) :
    (b.executed decoder).map (·.tx) = b.transactions := by
  conv_rhs => rw [← List.zipIdx_map_fst 0 b.transactions]
  rw [executed, List.map_map]
  exact List.map_congr_left fun ⟨tx, position⟩ _ => Executed.of_tx decoder tx _

/-- There are as many rows of actions as there are actions. -/
theorem Block.length_actionRows (b : Block) (decoder : Decoder) :
    ((b.executed decoder).flatMap (·.actionRows b.timestamp)).length =
      (b.transactions.map (·.actions.length)).sum := by
  conv_rhs => rw [← b.map_tx_executed decoder, List.map_map]
  rw [List.length_flatMap]
  congr 1
  exact List.map_congr_left fun e _ => by simp [Executed.actionRows, Executed.actions]

namespace Store

variable {s : Store} {registry : Registry} {decoder : Decoder} {b : Block} {faults : Faults}
  {summary : BlockSummary}

theorem process_accepted (h : (s.process registry decoder b faults).answer = .ok summary) :
    b.Accepted registry decoder s (s.process registry decoder b faults).state summary := by
  rcases process_cases (s := s) with
    ⟨⟨error, herror⟩, -⟩ | ⟨w, p, w', hset, hrun, hdone, hstate, hanswer⟩
  · rw [herror] at h
    cases h
  · have hbegun : w.tables = s.tables := by
      have htables := Workspace.setPoint_tables { tables := s.tables } faults
      rwa [hset] at htables
    have htables : (s.process registry decoder b faults).state.tables = p.work.tables := by
      rw [hstate]
      exact Workspace.release_tables hdone
    rw [hanswer, Except.ok.injEq] at h
    subst h
    have hsteps := Script.run_accepted hrun
    have hcounted := hsteps.counted
    have hactions := hsteps.actions
    simp only [Script.actionRows_ofBlock, Nat.zero_add] at hcounted hactions
    constructor
    · rw [htables, ← hbegun, ← Script.blockRows_ofBlock registry]
      exact hsteps.blocks
    · rw [htables, ← hbegun, ← Script.transactionRows_ofBlock registry]
      exact hsteps.transactions
    · rw [htables, ← hbegun]
      exact hsteps.assets
    · rw [htables, ← hbegun]
      exact hsteps.stakes
    · rfl
    · rfl
    · exact hcounted
    · rw [htables, ← hbegun]
      exact hactions
    · exact Script.refusal?_of_run hrun

/-- Where no access fails and no row is refused, a block that is accepted has lost no row. -/
theorem process_failed (h : (s.process registry decoder b).answer = .ok summary)
    (hrefuses : s.refuses = fun _ => false) : summary.actionsFailed = 0 := by
  have haccepted := process_accepted h
  rcases process_cases (s := s) with
    ⟨⟨error, herror⟩, -⟩ | ⟨w, p, w', hset, hrun, hdone, hstate, hanswer⟩
  · rw [herror] at h
    cases h
  rw [hrefuses] at hrun
  cases hpresent : w.tables.actions.isSome with
  | true =>
    rw [hanswer, Except.ok.injEq] at h
    subst h
    exact Script.run_failed hrun hpresent
  | false =>
    -- without the table no type has been counted, so there are no actions
    have hnone : ∀ tx ∈ b.transactions, tx.actions = [] := by
      intro tx htx
      refine List.eq_nil_iff_forall_not_mem.2 fun action haction => ?_
      have hcode : .refreshVolume action.typeId ∈ Script.ofBlock registry decoder b := by
        have htouched := mem_touchedCodes.2 ⟨tx, htx, action, haction, rfl⟩
        simp [Script.ofBlock, htouched]
      rw [Script.isSome_actions_of_run hrun hcode] at hpresent
      cases hpresent
    have hcounted := haccepted.counted
    rw [Block.length_actionRows, List.sum_eq_zero_iff_forall_eq_nat.2 (by simpa using hnone)]
      at hcounted
    omega

theorem exists_summary (h : (s.ingest registry decoder b faults).answer.isOk = true) :
    ∃ summary, (s.ingest registry decoder b faults).answer = .ok summary := by
  cases hanswer : (s.ingest registry decoder b faults).answer with
  | error error =>
    rw [hanswer] at h
    cases h
  | ok summary => exact ⟨summary, rfl⟩

/-- A block is not accepted by a store that does not answer. -/
theorem answering_of_ingest_ok (h : (s.ingest registry decoder b faults).answer = .ok summary) :
    s.answering = true := by
  cases ha : s.answering with
  | true => rfl
  | false =>
    by_cases hgenesis : b.isGenesis = true
    · obtain ⟨error, herror⟩ := exists_error_of_outage ha .genesisReset
      simp [ingest, hgenesis, startOver, herror] at h
    · obtain ⟨error, herror⟩ := exists_error_of_outage ha .beginBlock
      simp [ingest, hgenesis, process, herror] at h

/-- What a block has done that is accepted; one that starts the chain over has found the derived
tables empty. -/
theorem ingest_accepted (h : (s.ingest registry decoder b faults).answer = .ok summary) :
    b.Accepted registry decoder (s.ahead b) (s.ingest registry decoder b faults).state summary := by
  obtain ⟨hanswer, hstate⟩ :=
    ingest_eq_process registry decoder b (answering_of_ingest_ok h) faults
  rw [hstate]
  exact process_accepted (hanswer ▸ h)

/-- A block that does not start the chain over finds the tables as they are. -/
theorem ingest_accepted_of_height (hheight : b.height ≠ 1)
    (h : (s.ingest registry decoder b faults).answer = .ok summary) :
    b.Accepted registry decoder s (s.ingest registry decoder b faults).state summary := by
  have hahead : s.ahead b = s := if_neg (by simp [Block.isGenesis, genesisHeight, hheight])
  have haccepted := ingest_accepted h
  rwa [hahead] at haccepted

/-- A block that is accepted has lost no row where no access fails and no row is refused. -/
theorem ingest_failed (h : (s.ingest registry decoder b).answer = .ok summary)
    (hrefuses : s.refuses = fun _ => false) : summary.actionsFailed = 0 := by
  obtain ⟨hanswer, -⟩ := ingest_eq_process registry decoder b (answering_of_ingest_ok h)
  refine process_failed (hanswer ▸ h) ?_
  unfold ahead
  split
  · rfl
  · exact hrefuses

end Store

end ChainWatch
