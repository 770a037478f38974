import ChainWatch.Proofs.Writes

/-!
# Replay

Blocks that have been ingested may be delivered again.  If one of them starts the chain over,
nothing of what was there before it matters.  If none does, they write one script: every key of the
five tables keeps its last row, and the volumes are counted from the same actions again.

* `Script.apply_apply` : a script that settles all types may be repeated.
* `Derived.foldl_ingest_foldl_ingest` : so may the blocks of a list.
* `Service.run_ingest_twice` : the tables and the answers of a second delivery.
-/

namespace ChainWatch

variable (registry : Registry) (decoder : Decoder) (refuses : ActionRow → Bool)

/-- Writing the same again changes nothing, if every type of actions is tallied or left alone. -/
theorem Script.apply_apply {script : Script} (h : ∀ code, script.Settles refuses code)
    (d : Derived) : script.apply refuses (script.apply refuses d) = script.apply refuses d := by
  have hactions : (script.apply refuses (script.apply refuses d)).actions =
      (script.apply refuses d).actions := by
    rw [apply_actions, apply_actions, Table.upsertAll_upsertAll]
  apply Derived.ext
  case actions => exact hactions
  case volumes =>
    refine Table.ext_find? fun code => ?_
    rcases h code with htallied | ⟨-, huncounted⟩
    · -- both times the type is counted in the same table
      have hfirst := htallied d
      have hsecond := htallied (script.apply refuses d)
      rw [Derived.Tallied, hactions] at hsecond
      rw [hsecond, hfirst]
    · exact apply_volume huncounted
  case blocks => rw [apply_blocks, apply_blocks, Table.upsertAll_upsertAll]
  case transactions => rw [apply_transactions, apply_transactions, Table.upsertAll_upsertAll]
  case assets => rw [apply_assets, apply_assets, Table.upsertAll_upsertAll]
  case stakes => rw [apply_stakes, apply_stakes, Table.upsertAll_upsertAll]

/-! ### Lists of blocks -/

theorem Block.flatMap_writes_settles (bs : List Block) (code : Nat) :
    Script.Settles refuses code (bs.flatMap (Block.writes registry decoder)) := by
  induction bs with
  | nil => exact .inr ⟨by simp, by simp⟩
  | cons b bs ih => exact (b.writes_settle registry decoder refuses code).append ih

namespace Derived

/-- Blocks of which none starts the chain over write one script. -/
theorem foldl_ingest {bs : List Block} (h : ∀ b ∈ bs, b.isGenesis = false) (d : Derived) :
    bs.foldl (ingest registry decoder) d =
      Script.apply (fun _ => false) (bs.flatMap (Block.writes registry decoder)) d := by
  induction bs generalizing d with
  | nil => rfl
  | cons b bs ih =>
    rw [List.forall_mem_cons] at h
    rw [List.foldl_cons, ih h.2, List.flatMap_cons, Script.apply_append, ingest, h.1]
    rfl

/-- If a block starts the chain over, what was there before does not matter. -/
theorem foldl_ingest_of_genesis {bs : List Block} (h : ∃ b ∈ bs, b.isGenesis = true)
    (d d' : Derived) :
    bs.foldl (ingest registry decoder) d = bs.foldl (ingest registry decoder) d' := by
  induction bs generalizing d d' with
  | nil =>
    obtain ⟨b, hb, -⟩ := h
    cases hb
  | cons b bs ih =>
    rw [List.foldl_cons, List.foldl_cons]
    by_cases hb : b.isGenesis = true
    · simp only [ingest, if_pos hb]
    · obtain ⟨other, hother, hgenesis⟩ := h
      rcases List.mem_cons.1 hother with rfl | hrest
      · exact absurd hgenesis hb
      · exact ih ⟨other, hrest, hgenesis⟩ _ _

/-- Ingesting a list of blocks again changes nothing. -/
theorem foldl_ingest_foldl_ingest (bs : List Block) (d : Derived) :
    bs.foldl (ingest registry decoder) (bs.foldl (ingest registry decoder) d) =
      bs.foldl (ingest registry decoder) d := by
  by_cases hgenesis : ∃ b ∈ bs, b.isGenesis = true
  · exact foldl_ingest_of_genesis registry decoder hgenesis _ _
  · have hnone : ∀ b ∈ bs, b.isGenesis = false :=
      fun b hb => Bool.eq_false_iff.2 fun hb' => hgenesis ⟨b, hb, hb'⟩
    rw [foldl_ingest registry decoder hnone, foldl_ingest registry decoder hnone]
    exact Script.apply_apply _ (Block.flatMap_writes_settles registry decoder _ bs) d

end Derived

namespace Service

/-- **Replay is idempotent.**  On a store that answers, has all its tables and refuses no row, a
second delivery of any list of blocks leaves the whole service as the first one has left it, and
every block is answered as it was the first time. -/
theorem run_ingest_twice (svc : Service) (hs : svc.store.Sound) (bs : List Block) :
    ((svc.run (bs.map .ingest)).state.run (bs.map .ingest)).state =
        (svc.run (bs.map .ingest)).state ∧
      ((svc.run (bs.map .ingest)).state.run (bs.map .ingest)).answer =
        (svc.run (bs.map .ingest)).answer := by
  cases hdecoder : svc.indexer.decoder with
  | none =>
    have hstate := run_ingest_of_unready hdecoder bs
    rw [hstate]
    exact ⟨hstate, rfl⟩
  | some decoder =>
    obtain ⟨d, hd⟩ := Tables.exists_derived? fun name _ => hs.complete name
    obtain ⟨hanswer, hstate⟩ := run_ingest_spec hs hd hdecoder bs
    have hfirst : (svc.withDerived
        (bs.foldl (Derived.ingest svc.indexer.registry decoder) d)).store.Sound :=
      sound_withDerived hs
    obtain ⟨hanswer', hstate'⟩ := run_ingest_spec hfirst Tables.derived?_withDerived hdecoder bs
    rw [hstate, hanswer, hanswer', hstate']
    refine ⟨?_, rfl⟩
    exact congrArg svc.withDerived
      (Derived.foldl_ingest_foldl_ingest svc.indexer.registry decoder bs d)

theorem sound_sample : sample.store.Sound where
  answering := rfl
  accepting := rfl
  complete name := by cases name <;> rfl

/-- A block that is lost, one that starts the chain over, two of one height that share a
transaction, and one that is refused. -/
def replayed : List Block :=
  [.sample 3 0 [("t", 0)], .sample 1 0 [("t", 0)], .sample 6 0 [("t", 3), ("u", 0)],
    .sample 6 0 [("u", 3)], .sample 8 0 [("v", 0), ("w", 4)]]

theorem run_replayed_twice :
    sample.store.Sound ∧
      (sample.run (replayed.map .ingest)).state.store.tables.sizeOf .actions = some 4 ∧
      ((sample.run (replayed.map .ingest)).state.run (replayed.map .ingest)).state =
        (sample.run (replayed.map .ingest)).state ∧
      ((sample.run (replayed.map .ingest)).state.run (replayed.map .ingest)).answer =
        (sample.run (replayed.map .ingest)).answer :=
  ⟨sound_sample, rfl, run_ingest_twice sample sound_sample replayed⟩

end Service

end ChainWatch
