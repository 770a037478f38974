import Mathlib.Data.List.Pairwise
import ChainWatch.Proofs.Aggregate
import ChainWatch.Proofs.Replay

/-!
# Blocks that may be interchanged

Blocks that have no key in common write different rows of five tables, so it does not matter which
of them comes first.  The volumes are counted from a table that all of them write into, and each
counts only the types of its own actions.  But the block that touches a type last counts what the
others have written as well: after both, a type that one of them touches is tallied, whichever comes
last.

* `Script.Apart`, `Script.apply_comm` : scripts without a common key may be interchanged.
* `Block.Apart` : blocks without a common key.
* `Block.Apart.interchangeable` : such blocks may be interchanged.
* `Service.run_perm` : the tables and the answers do not depend on the order of delivery.
-/

namespace ChainWatch

/-! ### Scripts -/

/-- Scripts without a common key in the five tables that take rows known beforehand. -/
structure Script.Apart (refuses : ActionRow → Bool) (script rest : Script) : Prop where
  blocks : Table.Disjoint (script.flatMap IngestStep.blockRows) (rest.flatMap IngestStep.blockRows)
  transactions : Table.Disjoint (script.flatMap IngestStep.transactionRows)
    (rest.flatMap IngestStep.transactionRows)
  actions : Table.Disjoint (script.flatMap (IngestStep.actionRows refuses))
    (rest.flatMap (IngestStep.actionRows refuses))
  assets : Table.Disjoint (script.flatMap IngestStep.assetRows) (rest.flatMap IngestStep.assetRows)
  stakes : Table.Disjoint (script.flatMap IngestStep.stakeRows) (rest.flatMap IngestStep.stakeRows)

namespace Script

variable {refuses : ActionRow → Bool} {script rest : Script}

/-- Two scripts that settle a type leave the same volume in either order, if they leave the same
actions. -/
theorem Settles.volume_comm {code : Nat} (h : script.Settles refuses code)
    (hrest : rest.Settles refuses code) {d : Derived}
    (hactions : (apply refuses (script ++ rest) d).actions =
      (apply refuses (rest ++ script) d).actions) :
    (apply refuses (script ++ rest) d).volumes.find? code =
      (apply refuses (rest ++ script) d).volumes.find? code := by
  have huntouched : ∀ {whole : Script}, .refreshVolume code ∉ whole →
      (apply refuses whole d).volumes.find? code = d.volumes.find? code := apply_volume
  have hswap : .refreshVolume code ∈ script ++ rest ↔ .refreshVolume code ∈ rest ++ script := by
    rw [List.mem_append, List.mem_append, or_comm]
  rcases h.append hrest with htallied | ⟨-, huncounted⟩
  · rcases hrest.append h with htallied' | ⟨-, huncounted'⟩
    · have hfirst := htallied d
      have hsecond := htallied' d
      rw [Derived.Tallied, hactions] at hfirst
      rw [hfirst, hsecond]
    · rw [huntouched huncounted', huntouched (mt hswap.1 huncounted')]
  · rw [huntouched huncounted, huntouched (mt hswap.2 huncounted)]

/-- Scripts without a common key may be interchanged, if they settle all types. -/
theorem apply_comm (h : script.Apart refuses rest) (hscript : ∀ code, script.Settles refuses code)
    (hrest : ∀ code, rest.Settles refuses code) (d : Derived) :
    rest.apply refuses (script.apply refuses d) = script.apply refuses (rest.apply refuses d) := by
  have hactions : (rest.apply refuses (script.apply refuses d)).actions =
      (script.apply refuses (rest.apply refuses d)).actions := by
    simp only [apply_actions]
    exact Table.upsertAll_comm _ h.actions
  apply Derived.ext
  case actions => exact hactions
  case volumes =>
    refine Table.ext_find? fun code => ?_
    rw [← apply_append, ← apply_append] at hactions ⊢
    exact (hscript code).volume_comm (hrest code) hactions
  case blocks =>
    simp only [apply_blocks]
    exact Table.upsertAll_comm _ h.blocks
  case transactions =>
    simp only [apply_transactions]
    exact Table.upsertAll_comm _ h.transactions
  case assets =>
    simp only [apply_assets]
    exact Table.upsertAll_comm _ h.assets
  case stakes =>
    simp only [apply_stakes]
    exact Table.upsertAll_comm _ h.stakes

end Script

/-! ### Blocks -/

namespace Block

variable (registry : Registry) (decoder : Decoder)

/-- The rows of assets that a block writes. -/
def assetRows (b : Block) : List AssetRow :=
  (b.writes registry decoder).flatMap IngestStep.assetRows

/-- The rows of stakes that a block writes. -/
def stakeRows (b : Block) : List StakeRow :=
  (b.writes registry decoder).flatMap IngestStep.stakeRows

/-- Blocks without a common key: they have different stored heights, and share no transaction, no
asset and no stake. -/
structure Apart (b b' : Block) : Prop where
  height : clampSigned b.height ≠ clampSigned b'.height
  txHash : ∀ tx ∈ b.transactions, ∀ tx' ∈ b'.transactions, tx.txHash ≠ tx'.txHash
  asset : ∀ r ∈ b.assetRows registry decoder, ∀ r' ∈ b'.assetRows registry decoder,
    r.address ≠ r'.address
  stake : ∀ r ∈ b.stakeRows registry decoder, ∀ r' ∈ b'.stakeRows registry decoder,
    (r.nodeId, r.startBlock) ≠ (r'.nodeId, r'.startBlock)

variable {registry decoder} {b b' : Block}

instance : Decidable (Apart registry decoder b b') :=
  decidable_of_iff
    (clampSigned b.height ≠ clampSigned b'.height ∧
      (∀ tx ∈ b.transactions, ∀ tx' ∈ b'.transactions, tx.txHash ≠ tx'.txHash) ∧
      (∀ r ∈ b.assetRows registry decoder, ∀ r' ∈ b'.assetRows registry decoder,
        r.address ≠ r'.address) ∧
      ∀ r ∈ b.stakeRows registry decoder, ∀ r' ∈ b'.stakeRows registry decoder,
        (r.nodeId, r.startBlock) ≠ (r'.nodeId, r'.startBlock))
    ⟨fun ⟨hheight, htxHash, hasset, hstake⟩ => ⟨hheight, htxHash, hasset, hstake⟩,
      fun h => ⟨h.height, h.txHash, h.asset, h.stake⟩⟩

/-- The rows that a block writes are rows of its own. -/
theorem mem_rows_of_mem_writes {ρ : Type} {rows : IngestStep → List ρ} {r : ρ}
    (h : r ∈ (b.writes registry decoder).flatMap rows) :
    r ∈ (Script.ofBlock registry decoder b).flatMap rows := by
  rcases b.writes_cases registry decoder with hwrites | hwrites
  · rw [hwrites] at h
    cases h
  · rwa [hwrites] at h

theorem height_of_mem_writes {r : BlockRow}
    (h : r ∈ (b.writes registry decoder).flatMap IngestStep.blockRows) :
    r.height = clampSigned b.height := by
  have hrow := mem_rows_of_mem_writes h
  rw [Script.blockRows_ofBlock, List.mem_singleton] at hrow
  rw [hrow]
  rfl

theorem exists_tx_of_mem_transactionRows {r : TransactionRow}
    (h : r ∈ (b.writes registry decoder).flatMap IngestStep.transactionRows) :
    ∃ tx ∈ b.transactions, tx.txHash = r.txHash := by
  have hrow := mem_rows_of_mem_writes h
  rw [Script.transactionRows_ofBlock] at hrow
  exact exists_tx_of_mem hrow

theorem exists_tx_of_mem_actionRows {r : ActionRow}
    (h : r ∈ (b.writes registry decoder).flatMap (IngestStep.actionRows fun _ => false)) :
    ∃ tx ∈ b.transactions, tx.txHash = r.txHash := by
  have hrow := mem_rows_of_mem_writes h
  rw [Script.actionRows_ofBlock] at hrow
  obtain ⟨e, he, hr⟩ := List.mem_flatMap.1 hrow
  obtain ⟨⟨action, position⟩, -, rfl⟩ := List.mem_map.1 hr
  exact ⟨e.tx, tx_mem_of_mem_executed he, rfl⟩

/-- Blocks without a common key write no two rows with the same key. -/
theorem Apart.writes (h : Apart registry decoder b b') :
    (b.writes registry decoder).Apart (fun _ => false) (b'.writes registry decoder) where
  blocks r hr r' hr' hkey := by
    have hheight : r.height = r'.height := hkey
    rw [height_of_mem_writes hr, height_of_mem_writes hr'] at hheight
    exact h.height (Int.ofNat.inj hheight)
  transactions r hr r' hr' hkey := by
    obtain ⟨tx, htx, hhash⟩ := exists_tx_of_mem_transactionRows hr
    obtain ⟨tx', htx', hhash'⟩ := exists_tx_of_mem_transactionRows hr'
    exact h.txHash tx htx tx' htx' (hhash.trans (hkey.trans hhash'.symm))
  actions r hr r' hr' hkey := by
    obtain ⟨tx, htx, hhash⟩ := exists_tx_of_mem_actionRows hr
    obtain ⟨tx', htx', hhash'⟩ := exists_tx_of_mem_actionRows hr'
    have hrows : r.txHash = r'.txHash := congrArg Prod.fst hkey
    exact h.txHash tx htx tx' htx' (hhash.trans (hrows.trans hhash'.symm))
  assets := h.asset
  stakes := h.stake

end Block

/-! ### Interchange -/

/-- Whether the derived tables are the same after two blocks in either order. -/
def Block.Interchangeable (registry : Registry) (decoder : Decoder) (b b' : Block) : Prop :=
  ∀ d : Derived, (d.ingest registry decoder b).ingest registry decoder b' =
    (d.ingest registry decoder b').ingest registry decoder b

variable {registry : Registry} {decoder : Decoder}

/-- Blocks without a common key, of which none starts the chain over, may be interchanged. -/
theorem Block.Apart.interchangeable {b b' : Block} (h : Apart registry decoder b b')
    (hb : b.isGenesis = false) (hb' : b'.isGenesis = false) :
    Interchangeable registry decoder b b' := by
  intro d
  have hcomm := Script.apply_comm h.writes (b.writes_settle registry decoder _)
    (b'.writes_settle registry decoder _) d
  simp only [Derived.ingest, hb, hb', Bool.false_eq_true, if_false]
  exact hcomm

/-- Blocks without common keys may be delivered in any order. -/
theorem Derived.foldl_ingest_perm {bs bs' : List Block}
    (hapart : bs.Pairwise (Block.Apart registry decoder)) (hbs : ∀ b ∈ bs, b.isGenesis = false)
    (hperm : bs.Perm bs') (d : Derived) :
    bs.foldl (ingest registry decoder) d = bs'.foldl (ingest registry decoder) d := by
  have hpairwise : bs.Pairwise (Block.Interchangeable registry decoder) :=
    hapart.imp_of_mem fun hb hb' h => h.interchangeable (hbs _ hb) (hbs _ hb')
  have hflipped : bs.Pairwise (flip (Block.Interchangeable registry decoder)) :=
    hpairwise.imp fun h d => (h d).symm
  -- a block may be interchanged with itself, and so any two of the list may be
  have hall := List.Pairwise.forall_of_forall_of_flip (fun _ _ _ => rfl) hpairwise hflipped
  exact hperm.foldl_eq' (fun b hb b' hb' d => hall hb hb' d) d

namespace Service

/-- **Blocks without common keys may be delivered in any order.**  A service that has taken up
genesis data, on a store that answers, has all its tables and refuses no row, takes blocks of which
none starts the chain over and no two share a stored height, a transaction, an asset or a stake;
some of them may be refused.  In whatever order they are delivered, the whole service is the same in
the end, and every block is answered as if it had been delivered alone. -/
theorem run_perm (svc : Service) {decoder : Decoder}
    (hdecoder : svc.indexer.decoder = some decoder) (hs : svc.store.Sound) {bs bs' : List Block}
    (hbs : ∀ b ∈ bs, b.isGenesis = false)
    (hapart : bs.Pairwise (Block.Apart svc.indexer.registry decoder)) (hperm : bs.Perm bs') :
    (svc.run (bs'.map .ingest)).state = (svc.run (bs.map .ingest)).state ∧
      (svc.run (bs'.map .ingest)).answer = bs'.map fun b => (svc.step (.ingest b)).answer := by
  obtain ⟨d, hd⟩ := Tables.exists_derived? fun name _ => hs.complete name
  obtain ⟨-, hstate⟩ := run_ingest_spec hs hd hdecoder bs
  obtain ⟨hanswer', hstate'⟩ := run_ingest_spec hs hd hdecoder bs'
  constructor
  · rw [hstate, hstate', Derived.foldl_ingest_perm hapart hbs hperm]
  · rw [hanswer']
    refine List.map_congr_left ?_
    intro b _
    exact (step_ingest_spec hs hd hdecoder b).1.symm

/-- A block of transactions with actions of given types and outputs. -/
def parcel (height : Nat) (txs : List (String × List (Nat × String))) : Block :=
  { Block.sample height 0 [] with
    transactions := txs.map fun (txHash, actions) =>
      { txHash, sponsor := "sponsor", maxFee := 1
        actions := actions.map fun (code, _) => ⟨code, .obj [("asset_type", .int 0)]⟩ }
    results := txs.map fun (_, actions) =>
      ⟨true, 1, actions.map fun (_, output) => Utf8.encode output⟩ }

/-- Blocks that share types of actions; the third one is refused. -/
def parcels : List Block :=
  [parcel 6 [("t", [(0, "\x7b\x7d"), (4, "\x7b\"asset_address\": \"a\"\x7d")])],
    parcel 7 [("u", [(4, "\x7b\"asset_address\": \"b\"\x7d")]), ("v", [(0, "")])],
    parcel 8 [("w", [(0, "\x7b\x7d")]), ("x", [(4, "\x7b\x7d")])],
    parcel 9 [("y", [(3, "\x7b\x7d"), (0, "\x7b\x7d")])]]

theorem run_perm_parcels :
    sample.indexer.decoder = some .json ∧ sample.store.Sound ∧
      (∀ b ∈ parcels, b.isGenesis = false) ∧ parcels.Pairwise (Block.Apart .standard .json) ∧
      parcels.Perm parcels.reverse ∧
      TableName.derived.map (sample.run (parcels.map .ingest)).state.store.tables.sizeOf =
        [some 3, some 4, some 6, some 2, some 0, some 3] ∧
      (sample.run (parcels.reverse.map .ingest)).state =
        (sample.run (parcels.map .ingest)).state ∧
      (sample.run (parcels.reverse.map .ingest)).answer =
        parcels.reverse.map fun b => (sample.step (.ingest b)).answer := by
  have hbs : ∀ b ∈ parcels, b.isGenesis = false := by decide +kernel
  have hapart : parcels.Pairwise (Block.Apart .standard .json) := by decide +kernel
  have hperm : parcels.Perm parcels.reverse := (List.reverse_perm _).symm
  have hsizes : TableName.derived.map
      (sample.run (parcels.map .ingest)).state.store.tables.sizeOf =
        [some 3, some 4, some 6, some 2, some 0, some 3] := by
    decide +kernel
  exact ⟨rfl, sound_sample, hbs, hapart, hperm, hsizes,
    run_perm sample rfl sound_sample hbs hapart hperm⟩

end Service

end ChainWatch
