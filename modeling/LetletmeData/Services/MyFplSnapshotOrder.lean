import LetletmeData.Library.Runs
import LetletmeData.Services.MyFplSnapshotDispatch
import LetletmeData.Services.MyFplSnapshotOverrides

/-!
# My FPL publications are final and ordered

A capture that has been given a revision holds the lock of its event, so no newer revision is
committed before it ends; and a capture that read an outdated active publication cannot commit.
The active publication of an event therefore only gives way to a later one, and a final one only
to a final one. What a dispatch delivers was active when it was claimed.
-/

namespace LetletmeData

open LetletmeData.Library

/-- A manifest of the publication. -/
def MyFplSnapshotRedisManifest.Describes (manifest : MyFplSnapshotRedisManifest)
    (key : MyFplRevision) (row : MyFplSnapshotPublication) : Prop :=
  manifest = myFplManifest manifest.seasonCode key row

/-- At most one publication is active in a scope, receipts describe stored publications, pointers
stand under their keys, and a capture that was given a revision holds the lock and has the greatest
revision of its scope. -/
structure MyFplWorld.Kept (world : MyFplWorld) : Prop where
  one : OneActivePublication world.tables.publications
  revision_lt : ∀ key row, world.tables.publications.find key = some row →
    key.revision < world.nextRevision
  receipts : ∀ id receipt, world.tables.outbox.find id = some receipt →
    ∃ row, world.tables.publications.find receipt.key = some row ∧
      receipt.manifest.Describes receipt.key row
  pointers : ∀ key manifest, world.pointers.find key = some (.manifest manifest) →
    myFplSnapshotRedisManifestKey manifest.seasonCode manifest.eventId = .ok key
  seen : ∀ id run, world.captures.find id = some run →
    OneActivePublication run.seen ∧ overrideMetadata run.call = .ok run.override
  inserted : ∀ id run content revision, world.captures.find id = some run →
    run.phase = .inserted content revision →
      decideCapture run.call run.override run.seen = .ok (.publish content) ∧
      world.locks.find run.call.scope = some (.capture id) ∧ revision < world.nextRevision ∧
      ∀ key row, world.tables.publications.find key = some row → key.scope = run.call.scope →
        key.revision < revision

/-- A step that leaves the publications: receipts keep what they name, and captures that go on keep
their locks. -/
structure MyFplWorld.Frames (world after : MyFplWorld) : Prop where
  publications : after.tables.publications = world.tables.publications
  nextRevision : after.nextRevision = world.nextRevision
  receipts : ∀ id receipt, after.tables.outbox.find id = some receipt →
    ∃ old, world.tables.outbox.find id = some old ∧ receipt.key = old.key ∧
      receipt.manifest = old.manifest
  captures : ∀ id run, after.captures.find id = some run → world.captures.find id = some run
  locks : ∀ scope id, world.locks.find scope = some (.capture id) →
    after.captures.find id ≠ none → after.locks.find scope = some (.capture id)

variable {world after : MyFplWorld}

/-! ### Steps that leave the publications -/

/-- Such a step keeps the invariant when its pointers stand under their keys. -/
theorem MyFplWorld.Kept.of_frames (hkept : world.Kept) (hframes : world.Frames after)
    (hpointers : ∀ key manifest, after.pointers.find key = some (.manifest manifest) →
      myFplSnapshotRedisManifestKey manifest.seasonCode manifest.eventId = .ok key) :
    after.Kept where
  one := hframes.publications ▸ hkept.one
  revision_lt := by
    rw [hframes.publications, hframes.nextRevision]
    exact hkept.revision_lt
  receipts := by
    intro id receipt hfind
    obtain ⟨old, hold, hkey, hmanifest⟩ := hframes.receipts id receipt hfind
    rw [hframes.publications, hkey, hmanifest]
    exact hkept.receipts id old hold
  pointers := hpointers
  seen := fun id run hfind => hkept.seen id run (hframes.captures id run hfind)
  inserted := by
    intro id run content revision hfind hphase
    obtain ⟨hdecision, hlock, hlt, hgreatest⟩ :=
      hkept.inserted id run content revision (hframes.captures id run hfind) hphase
    rw [hframes.publications, hframes.nextRevision]
    exact ⟨hdecision, hframes.locks _ id hlock (hfind ▸ Option.some_ne_none run), hlt, hgreatest⟩

/-- Nothing happens. -/
theorem MyFplWorld.Frames.refl (world : MyFplWorld) : world.Frames world :=
  ⟨rfl, rfl, fun _ receipt hfind => ⟨receipt, hfind, rfl, rfl⟩, fun _ _ hfind => hfind,
    fun _ _ hlock _ => hlock⟩

/-- A lock that another holder gives back leaves the rest. -/
theorem find_locks_unlock {holder other : MyFplLockHolder} {scope : MyFplScope}
    (hlock : world.locks.find scope = some other) (hne : other ≠ holder) :
    (world.unlock holder).locks.find scope = some other := by
  have hnot : ∀ old, world.locks.find scope = some old → ¬ old = holder := by
    intro old hold heq
    rw [hlock] at hold
    exact hne ((Option.some.inj hold).trans heq)
  exact (KeyedTable.find_deleteWhere_of_not hnot).trans hlock

/-- A capture ends. -/
theorem frames_endCapture (world : MyFplWorld) (id : ℕ) : world.Frames (world.endCapture id) where
  publications := rfl
  nextRevision := rfl
  receipts := fun _ receipt hfind => ⟨receipt, hfind, rfl, rfl⟩
  captures := fun _ _ hfind => (KeyedTable.find_of_find_deleteWhere hfind).1
  locks := by
    intro scope other hlock hother
    refine find_locks_unlock hlock fun heq => ?_
    obtain ⟨run, hrun⟩ := Option.ne_none_iff_exists'.mp hother
    exact (KeyedTable.find_of_find_deleteWhere hrun).2 (MyFplLockHolder.capture.inj heq)

/-- A dispatch writes receipts, without changing what they name, and may give its lock back. -/
theorem frames_of_receipts (world : MyFplWorld) (tables : MyFplTables)
    (hpublications : tables.publications = world.tables.publications)
    (hreceipts : ∀ id receipt, tables.outbox.find id = some receipt →
      ∃ old, world.tables.outbox.find id = some old ∧ receipt.key = old.key ∧
        receipt.manifest = old.manifest)
    (owner : String) (rest : List (String × MyFplSnapshotReceipt)) :
    world.Frames ({ world with tables }.nextRow owner rest) where
  publications := hpublications
  nextRevision := rfl
  receipts := hreceipts
  captures := fun _ _ hfind => hfind
  locks := by
    intro scope id hlock _
    have hsame : { world with tables }.locks.find scope = some (.capture id) := hlock
    refine find_locks_unlock hsame fun heq => ?_
    cases heq

/-- A write to receipts leaves what they name. -/
def KeepsNames (write : MyFplSnapshotReceipt → MyFplSnapshotReceipt) : Prop :=
  ∀ receipt, (write receipt).key = receipt.key ∧ (write receipt).manifest = receipt.manifest

/-- Receipts are given up under their names. -/
theorem keepsNames_supersede (message : String) (clock : ℕ) :
    KeepsNames (MyFplSnapshotReceipt.supersede message clock) :=
  fun _ => ⟨rfl, rfl⟩

/-- Receipts are leased under their names. -/
theorem keepsNames_lease (owner : String) (clock : ℕ) :
    KeepsNames (MyFplSnapshotReceipt.lease owner clock) :=
  fun _ => ⟨rfl, rfl⟩

/-- Receipts are released under their names. -/
theorem keepsNames_release (message : String) (clock : ℕ) :
    KeepsNames (MyFplSnapshotReceipt.release message clock) :=
  fun _ => ⟨rfl, rfl⟩

/-- Receipts are settled under their names. -/
theorem keepsNames_settle (reply : MyFplActivateReply) (clock : ℕ) :
    KeepsNames (reply.settle clock) :=
  fun _ => by cases reply <;> exact ⟨rfl, rfl⟩

/-- An update of receipts does not change what they name. -/
theorem receipts_updateWhere {outbox : KeyedTable String MyFplSnapshotReceipt}
    {selected : String → MyFplSnapshotReceipt → Prop}
    [∀ id receipt, Decidable (selected id receipt)]
    {write : MyFplSnapshotReceipt → MyFplSnapshotReceipt} (hwrite : KeepsNames write)
    (id : String) (receipt : MyFplSnapshotReceipt)
    (hfind : (outbox.updateWhere selected write).find id = some receipt) :
    ∃ old, outbox.find id = some old ∧ receipt.key = old.key ∧ receipt.manifest = old.manifest := by
  rw [KeyedTable.find_updateWhere] at hfind
  obtain ⟨old, hold, hnew⟩ := Option.map_eq_some_iff.mp hfind
  refine ⟨old, hold, ?_⟩
  split at hnew
  next => exact hnew ▸ hwrite old
  next => exact hnew ▸ ⟨rfl, rfl⟩

/-- A row that was dealt with frames the world. -/
theorem frames_updateOwnedReceipt (world : MyFplWorld) (id owner : String)
    {write : MyFplSnapshotReceipt → MyFplSnapshotReceipt} (hwrite : KeepsNames write)
    (rest : List (String × MyFplSnapshotReceipt)) :
    world.Frames ({ world with
      tables := updateOwnedReceipt id owner write world.tables }.nextRow owner rest) :=
  frames_of_receipts world (updateOwnedReceipt id owner write world.tables) rfl
    (receipts_updateWhere hwrite) owner rest

/-- What a claim leaves and what it hands to the dispatch. -/
theorem claimMyFplReceipts_spec (claim : MyFplClaim) (tables : MyFplTables) :
    (claimMyFplReceipts claim tables).1.publications = tables.publications ∧
      (∀ id receipt, (claimMyFplReceipts claim tables).1.outbox.find id = some receipt →
        ∃ old, tables.outbox.find id = some old ∧ receipt.key = old.key ∧
          receipt.manifest = old.manifest) ∧
      ∀ id receipt, (id, receipt) ∈ (claimMyFplReceipts claim tables).2 →
        PublicationIs true tables receipt.key ∧ ∃ old, tables.outbox.find id = some old ∧
          receipt.key = old.key ∧ receipt.manifest = old.manifest := by
  have hsupersede := keepsNames_supersede noLongerActive claim.clock
  have hlease := keepsNames_lease claim.owner claim.clock
  refine ⟨rfl, fun id receipt hfind => ?_, fun id receipt hmem => ?_⟩
  · obtain ⟨leased, hleased, hkey, hmanifest⟩ := receipts_updateWhere hlease id receipt hfind
    obtain ⟨old, hold, hkey', hmanifest'⟩ := receipts_updateWhere hsupersede id leased hleased
    exact ⟨old, hold, hkey.trans hkey', hmanifest.trans hmanifest'⟩
  · obtain ⟨hfind, htakes⟩ := KeyedTable.mem_selectSorted.mp (List.mem_of_mem_take hmem)
    exact ⟨htakes.2.1, receipts_updateWhere hsupersede id receipt hfind⟩

/-- The steps of a dispatch frame the world. -/
theorem frames_ownReceipt (isTimestamp : String → Bool) (owner : String) (clock : ℕ)
    (world : MyFplWorld) : world.Frames (ownReceipt isTimestamp owner clock world) := by
  unfold ownReceipt
  split
  next id row rest _ =>
    split
    next => exact frames_updateOwnedReceipt world id owner (keepsNames_release _ clock) rest
    next =>
      split
      next => exact .refl world
      next =>
        split
        next =>
          refine ⟨rfl, rfl, fun _ receipt hfind => ⟨receipt, hfind, rfl, rfl⟩,
            fun _ _ hfind => hfind, fun scope id hlock _ => ?_⟩
          exact KeyedTable.find_insertAbsent_of_find hlock
        next => exact frames_updateOwnedReceipt world id owner (keepsNames_supersede _ clock) rest
  next => exact .refl world

/-- The pointer script leaves the tables and the locks. -/
theorem frames_runPointerScript (owner : String) (world : MyFplWorld) :
    world.Frames (runPointerScript owner world) := by
  unfold runPointerScript
  split
  next =>
    split
    next =>
      exact ⟨rfl, rfl, fun _ receipt hfind => ⟨receipt, hfind, rfl, rfl⟩, fun _ _ hfind => hfind,
        fun _ _ hlock _ => hlock⟩
    next => exact .refl world
  next => exact .refl world

/-- A settled row. -/
theorem frames_settleReceipt (owner : String) (clock : ℕ) (world : MyFplWorld) :
    world.Frames (settleReceipt owner clock world) := by
  unfold settleReceipt
  split
  next id _ rest reply _ =>
    exact frames_updateOwnedReceipt world id owner (keepsNames_settle reply clock) rest
  next => exact .refl world

/-- A failed row. -/
theorem frames_failReceipt (owner message : String) (clock : ℕ) (world : MyFplWorld) :
    world.Frames (failReceipt owner message clock world) := by
  unfold failReceipt
  split
  next id _ rest _ _ =>
    exact frames_updateOwnedReceipt world id owner (keepsNames_release message clock) rest
  next => exact .refl world

/-- A dispatch that ends. -/
theorem frames_endDispatch (owner : String) (world : MyFplWorld) :
    world.Frames (endDispatch owner world) where
  publications := rfl
  nextRevision := rfl
  receipts := fun _ receipt hfind => ⟨receipt, hfind, rfl, rfl⟩
  captures := fun _ _ hfind => hfind
  locks := by
    intro scope id hlock _
    refine find_locks_unlock hlock fun heq => ?_
    cases heq

/-- A dispatch that begins. -/
theorem frames_beginDispatch (claim : MyFplClaim) (world : MyFplWorld) :
    world.Frames (beginDispatch claim world) := by
  unfold beginDispatch
  split
  next =>
    obtain ⟨hpublications, hreceipts, _⟩ := claimMyFplReceipts_spec claim world.tables
    exact ⟨hpublications, rfl, hreceipts, fun _ _ hfind => hfind, fun _ _ hlock _ => hlock⟩
  next => exact .refl world

/-! ### Pointers -/

/-- The script sets its candidate or leaves the pointer, whose revision never goes back. -/
theorem activateMyFplPointer_spec (candidate : MyFplSnapshotRedisManifest)
    (current : Option MyFplPointerText) :
    ((activateMyFplPointer candidate current).1 = some (.manifest candidate) ∨
        (activateMyFplPointer candidate current).1 = current) ∧
      ∀ active, current = some (.manifest active) →
        ∃ later, (activateMyFplPointer candidate current).1 = some (.manifest later) ∧
          active.revision ≤ later.revision := by
  unfold activateMyFplPointer
  match current with
  | none => exact ⟨Or.inl rfl, fun active h => by cases h⟩
  | some .undecodable => exact ⟨Or.inr rfl, fun active h => by cases h⟩
  | some (.manifest stored) =>
    dsimp only
    by_cases hstale : candidate.revision < stored.revision
    · rw [if_pos hstale]
      exact ⟨Or.inr rfl, fun active h => ⟨active, h, le_rfl⟩⟩
    · rw [if_neg hstale]
      split
      next => exact ⟨Or.inr rfl, fun active h => ⟨active, h, le_rfl⟩⟩
      next =>
        refine ⟨Or.inl rfl, fun active h => ⟨candidate, rfl, ?_⟩⟩
        cases h
        exact not_lt.mp hstale

/-- The pointers after the script of a dispatch: each is as before, or the manifest of the row that
is being delivered under its key; no revision goes back. -/
theorem runPointerScript_pointers (owner : String) (world : MyFplWorld) :
    (∀ key manifest, (runPointerScript owner world).pointers.find key = some (.manifest manifest) →
      world.pointers.find key = some (.manifest manifest) ∨
        (myFplSnapshotRedisManifestKey manifest.seasonCode manifest.eventId = .ok key ∧
          ∃ run id receipt, world.dispatches.find owner = some run ∧ (id, receipt) ∈ run.rows ∧
            receipt.manifest = manifest)) ∧
      ∀ key manifest, world.pointers.find key = some (.manifest manifest) →
        ∃ later, (runPointerScript owner world).pointers.find key = some (.manifest later) ∧
          manifest.revision ≤ later.revision := by
  have hsame : (∀ key manifest, world.pointers.find key = some (.manifest manifest) →
      ∃ later, world.pointers.find key = some (.manifest later) ∧
        manifest.revision ≤ later.revision) := fun _ manifest h => ⟨manifest, h, le_rfl⟩
  unfold runPointerScript
  split
  next id row rest hrun =>
    split
    next redisKey hredisKey =>
      obtain ⟨hset, hmonotone⟩ := activateMyFplPointer_spec row.manifest
        (world.pointers.find redisKey)
      dsimp only
      -- under the key of the row stands what the script returned, elsewhere what was there
      have hfind : ∀ key, KeyedTable.find (((activateMyFplPointer row.manifest
          (world.pointers.find redisKey)).1.map (world.pointers.upsert redisKey)).getD
            world.pointers) key =
          if key = redisKey then
            (activateMyFplPointer row.manifest (world.pointers.find redisKey)).1
          else world.pointers.find key := by
        intro key
        cases hpointer : (activateMyFplPointer row.manifest
            (world.pointers.find redisKey)).1 with
        | some pointer => exact KeyedTable.find_upsert key
        | none =>
          rw [hpointer] at hset
          rw [Option.map_none, Option.getD_none]
          split
          next heq => rw [heq, (hset.resolve_left fun h => by cases h)]
          next => rfl
      refine ⟨fun key manifest hpointer => ?_, fun key manifest hpointer => ?_⟩
      · rw [hfind] at hpointer
        split at hpointer
        next heq =>
          cases hset with
          | inl hcandidate =>
            rw [hcandidate] at hpointer
            cases hpointer
            exact Or.inr ⟨heq ▸ hredisKey, _, id, row, hrun, List.mem_cons_self, rfl⟩
          | inr hkept => exact Or.inl (by rw [heq, ← hkept, hpointer])
        next => exact Or.inl hpointer
      · rw [hfind]
        split
        next heq => exact hmonotone manifest (heq ▸ hpointer)
        next => exact ⟨manifest, hpointer, le_rfl⟩
    next => exact ⟨fun _ _ h => Or.inl h, hsame⟩
  next => exact ⟨fun _ _ h => Or.inl h, hsame⟩

/-! ### Captures -/

/-- A capture that begins will read tables with one active publication in each scope. -/
theorem MyFplWorld.Kept.beginCapture (hkept : world.Kept) (id : ℕ) (call : MyFplSnapshotCall) :
    (beginCapture id call world).Kept := by
  unfold LetletmeData.beginCapture
  split
  next override hnone hoverride =>
    refine ⟨hkept.one, hkept.revision_lt, hkept.receipts, hkept.pointers, fun other run hfind => ?_,
      fun other run content revision hfind hphase => ?_⟩
    · rw [KeyedTable.find_upsert] at hfind
      split at hfind
      next => exact Option.some.inj hfind ▸ ⟨hkept.one, hoverride⟩
      next => exact hkept.seen other run hfind
    · rw [KeyedTable.find_upsert] at hfind
      split at hfind
      next =>
        rw [← Option.some.inj hfind] at hphase
        cases hphase
      next => exact hkept.inserted other run content revision hfind hphase
  next => exact hkept

/-- A capture that gets the lock is given the greatest revision so far. -/
theorem MyFplWorld.Kept.insertCapture (hkept : world.Kept) (id : ℕ) :
    (insertCapture id world).Kept := by
  unfold LetletmeData.insertCapture
  split
  next call override seen hrun =>
    split
    next => exact hkept
    next hfree =>
      rw [not_not] at hfree
      split
      next content hdecision =>
        obtain ⟨hseen, hoverride⟩ := hkept.seen id _ hrun
        refine ⟨hkept.one, fun key row hfind => (hkept.revision_lt key row hfind).trans
          (Nat.lt_succ_self _), hkept.receipts, hkept.pointers, fun other run hfind => ?_,
          fun other run content' revision hfind hphase => ?_⟩
        · rw [KeyedTable.find_upsert] at hfind
          split at hfind
          next => exact Option.some.inj hfind ▸ ⟨hseen, hoverride⟩
          next => exact hkept.seen other run hfind
        · rw [KeyedTable.find_upsert] at hfind
          split at hfind
          next heq =>
            rw [← Option.some.inj hfind] at hphase ⊢
            cases hphase
            refine ⟨hdecision, ?_, Nat.lt_succ_self _,
              fun key row hstored _ => hkept.revision_lt key row hstored⟩
            rw [heq]
            exact KeyedTable.find_insertAbsent_self hfree
          next =>
            obtain ⟨hdecision', hlock, hlt, hgreatest⟩ :=
              hkept.inserted other run content' revision hfind hphase
            exact ⟨hdecision', KeyedTable.find_insertAbsent_of_find hlock,
              hlt.trans (Nat.lt_succ_self _), hgreatest⟩
      next => exact hkept.of_frames (frames_endCapture world id) hkept.pointers
  next => exact hkept

/-- A capture that commits switches the active publication of its scope, whose lock it holds. -/
theorem MyFplWorld.Kept.commit (hkept : world.Kept) {id : ℕ} {run : MyFplCaptureRun}
    {content : MyFplSnapshotContent} {revision : ℕ} {tables : MyFplTables}
    (hrun : world.captures.find id = some run) (hphase : run.phase = .inserted content revision)
    (hpublish : publishCapture run.call run.override content revision run.seen world.tables =
      .ok tables) :
    ({ world with tables }.endCapture id).Kept := by
  obtain ⟨hswitch, houtbox⟩ := publishCapture_eq_ok hpublish
  obtain ⟨_, hlock, hlt, _⟩ := hkept.inserted id run content revision hrun hphase
  refine ⟨hswitch.oneActive hkept.one, fun key row hfind => ?_, fun other receipt hfind => ?_,
    hkept.pointers, fun other run' hfind => ?_, fun other run' content' revision' hfind hphase' => ?_⟩
  · by_cases hkey : key = ⟨run.call.scope, revision⟩
    · exact hkey ▸ hlt
    · obtain ⟨_, old, hold, _⟩ := hswitch.others key row hkey hfind
      exact hkept.revision_lt key old hold
  · obtain ⟨hthere, hreceipt⟩ := houtbox other receipt hfind
    cases hreceipt with
    | inl hold =>
      obtain ⟨row, hrow, hdescribes⟩ := hkept.receipts other receipt hold
      have hkey : receipt.key ≠ ⟨run.call.scope, revision⟩ := by
        intro heq
        rw [heq, hswitch.fresh] at hrow
        cases hrow
      obtain ⟨new, hnew⟩ := Option.ne_none_iff_exists'.mp hthere
      refine ⟨new, hnew, ?_⟩
      obtain ⟨_, old, hold, hsame⟩ := hswitch.others receipt.key new hkey hnew
      rw [hrow] at hold
      cases hold
      cases hsame with
      | inl hsame => exact hsame ▸ hdescribes
      | inr hcleared => exact hcleared ▸ hdescribes
    | inr hnew =>
      refine ⟨_, hnew.1 ▸ hswitch.published, ?_⟩
      unfold MyFplSnapshotRedisManifest.Describes
      rw [hnew.2, hnew.1]
      rfl
  · exact hkept.seen other run' (KeyedTable.find_of_find_deleteWhere hfind).1
  · obtain ⟨hfound, hother⟩ := KeyedTable.find_of_find_deleteWhere hfind
    obtain ⟨hdecision, hlock', hlt', hgreatest⟩ :=
      hkept.inserted other run' content' revision' hfound hphase'
    -- another capture that holds a lock holds that of another scope
    have hscope : run'.call.scope ≠ run.call.scope := by
      intro heq
      rw [heq, hlock] at hlock'
      exact hother (MyFplLockHolder.capture.inj (Option.some.inj hlock')).symm
    refine ⟨hdecision, ?_, hlt', fun key row hfind hkey => ?_⟩
    · have hsame : { world with tables }.locks.find run'.call.scope = some (.capture other) := hlock'
      exact find_locks_unlock hsame fun heq => hother (MyFplLockHolder.capture.inj heq)
    · refine hgreatest key row ?_ hkey
      rw [← hswitch.elsewhere key (hkey ▸ hscope)]
      exact hfind

/-- Only the pointer script moves pointers. -/
theorem pointers_myFplStep (isTimestamp : String → Bool) (world : MyFplWorld)
    {action : MyFplAction} (h : ∀ owner, action ≠ .runPointerScript owner) :
    (myFplStep isTimestamp world action).pointers = world.pointers := by
  cases action with
  | beginCapture id call =>
    change (beginCapture id call world).pointers = _
    unfold beginCapture
    split <;> rfl
  | insertCapture id =>
    change (insertCapture id world).pointers = _
    unfold insertCapture
    split
    next =>
      split
      next => rfl
      next => split <;> rfl
    next => rfl
  | commitCapture id =>
    change (commitCapture id world).pointers = _
    unfold commitCapture
    split
    next => split <;> rfl
    next => rfl
  | abortCapture id => rfl
  | beginDispatch claim =>
    change (beginDispatch claim world).pointers = _
    unfold beginDispatch
    split <;> rfl
  | ownReceipt owner clock =>
    change (ownReceipt isTimestamp owner clock world).pointers = _
    unfold ownReceipt
    split
    next =>
      split
      next => rfl
      next =>
        split
        next => rfl
        next => split <;> rfl
    next => rfl
  | runPointerScript owner => exact absurd rfl (h owner)
  | settleReceipt owner clock =>
    change (settleReceipt owner clock world).pointers = _
    unfold settleReceipt
    split <;> rfl
  | failReceipt owner message clock =>
    change (failReceipt owner message clock world).pointers = _
    unfold failReceipt
    split <;> rfl
  | endDispatch owner => rfl

/-- A step frames the world, begins a capture or gives it the lock, or is the commit of a capture. -/
theorem myFplStep_cases (isTimestamp : String → Bool) (world : MyFplWorld) (action : MyFplAction) :
    world.Frames (myFplStep isTimestamp world action) ∨
      (∃ id call, myFplStep isTimestamp world action = beginCapture id call world) ∨
      (∃ id, myFplStep isTimestamp world action = insertCapture id world) ∨
      ∃ id run content revision tables, world.captures.find id = some run ∧
        run.phase = .inserted content revision ∧
        publishCapture run.call run.override content revision run.seen world.tables =
          .ok tables ∧
        myFplStep isTimestamp world action = { world with tables }.endCapture id := by
  cases action with
  | beginCapture id call => exact Or.inr (Or.inl ⟨id, call, rfl⟩)
  | insertCapture id => exact Or.inr (Or.inr (Or.inl ⟨id, rfl⟩))
  | commitCapture id =>
    change world.Frames (commitCapture id world) ∨ _
    cases hrun : world.captures.find id with
    | none =>
      refine Or.inl ?_
      rw [commitCapture, hrun]
      exact .refl world
    | some run =>
      obtain ⟨call, override, seen, phase⟩ := run
      cases phase with
      | waiting =>
        refine Or.inl ?_
        rw [commitCapture, hrun]
        exact .refl world
      | inserted content revision =>
        cases hpublish : publishCapture call override content revision seen world.tables with
        | error error =>
          refine Or.inl ?_
          simp only [commitCapture, hrun, hpublish]
          exact frames_endCapture world id
        | ok tables =>
          refine Or.inr (Or.inr (Or.inr ⟨id, _, content, revision, tables, hrun, rfl, hpublish, ?_⟩))
          simp only [myFplStep, commitCapture, hrun, hpublish]
  | abortCapture id => exact Or.inl (frames_endCapture world id)
  | beginDispatch claim => exact Or.inl (frames_beginDispatch claim world)
  | ownReceipt owner clock => exact Or.inl (frames_ownReceipt isTimestamp owner clock world)
  | runPointerScript owner => exact Or.inl (frames_runPointerScript owner world)
  | settleReceipt owner clock => exact Or.inl (frames_settleReceipt owner clock world)
  | failReceipt owner message clock =>
    exact Or.inl (frames_failReceipt owner message clock world)
  | endDispatch owner => exact Or.inl (frames_endDispatch owner world)

/-- The pointers a step leaves stand under their keys. -/
theorem MyFplWorld.Kept.pointers_step (hkept : world.Kept) (isTimestamp : String → Bool)
    (action : MyFplAction) (key : String) (manifest : MyFplSnapshotRedisManifest)
    (hfind : (myFplStep isTimestamp world action).pointers.find key = some (.manifest manifest)) :
    myFplSnapshotRedisManifestKey manifest.seasonCode manifest.eventId = .ok key := by
  by_cases hscript : ∃ owner, action = .runPointerScript owner
  · obtain ⟨owner, rfl⟩ := hscript
    cases (runPointerScript_pointers owner world).1 key manifest hfind with
    | inl hold => exact hkept.pointers key manifest hold
    | inr hset => exact hset.1
  · rw [pointers_myFplStep isTimestamp world fun owner h => hscript ⟨owner, h⟩] at hfind
    exact hkept.pointers key manifest hfind

/-- Every step keeps the invariant. -/
theorem kept_myFplStep (isTimestamp : String → Bool) (world : MyFplWorld) (action : MyFplAction)
    (hkept : world.Kept) : (myFplStep isTimestamp world action).Kept := by
  rcases myFplStep_cases isTimestamp world action with hframes | ⟨id, call, hstep⟩ | ⟨id, hstep⟩ |
    ⟨id, run, content, revision, tables, hrun, hphase, hpublish, hstep⟩
  · exact hkept.of_frames hframes (hkept.pointers_step isTimestamp action)
  · exact hstep ▸ hkept.beginCapture id call
  · exact hstep ▸ hkept.insertCapture id
  · exact hstep ▸ hkept.commit hrun hphase hpublish

/-- Nothing is published at first. -/
theorem kept_initial : MyFplWorld.initial.Kept where
  one := fun _ _ _ _ h => (Option.some_ne_none _ h.symm).elim
  revision_lt := fun _ _ h => (Option.some_ne_none _ h.symm).elim
  receipts := fun _ _ h => (Option.some_ne_none _ h.symm).elim
  pointers := fun _ _ h => (Option.some_ne_none _ h.symm).elim
  seen := fun _ _ h => (Option.some_ne_none _ h.symm).elim
  inserted := fun _ _ _ _ h => (Option.some_ne_none _ h.symm).elim

/-! ### What later worlds show -/

/-- The active publications of the scopes. -/
def MyFplWorld.shown (world : MyFplWorld) (scope : MyFplScope) :
    Option (MyFplRevision × MyFplSnapshotPublication) :=
  loadActivePublication scope world.tables.publications

/-- A later world shows the same or later publications, final ones where final ones were shown, and
its pointers have not gone back. -/
structure MyFplWorld.LeadsTo (earlier later : MyFplWorld) : Prop where
  advances : Advances (fun active => active.1.revision) earlier.shown later.shown
  final : ∀ scope active, earlier.shown scope = some active → active.2.kind = .final →
    ∃ active', later.shown scope = some active' ∧ active'.2.kind = .final
  pointers : ∀ key manifest, earlier.pointers.find key = some (.manifest manifest) →
    ∃ manifest', later.pointers.find key = some (.manifest manifest') ∧
      manifest.revision ≤ manifest'.revision

/-- A world leads to itself. -/
theorem MyFplWorld.LeadsTo.refl (world : MyFplWorld) : world.LeadsTo world :=
  ⟨.refl _, fun _ active hactive hfinal => ⟨active, hactive, hfinal⟩,
    fun _ manifest hfind => ⟨manifest, hfind, le_rfl⟩⟩

/-- What one world leads to leads on. -/
theorem MyFplWorld.LeadsTo.trans (first second third : MyFplWorld) (h : first.LeadsTo second)
    (h' : second.LeadsTo third) : first.LeadsTo third := by
  refine ⟨h.advances.trans h'.advances, fun scope active hactive hfinal => ?_,
    fun key manifest hfind => ?_⟩
  · obtain ⟨middle, hmiddle, hmiddleFinal⟩ := h.final scope active hactive hfinal
    exact h'.final scope middle hmiddle hmiddleFinal
  · obtain ⟨middle, hmiddle, hle⟩ := h.pointers key manifest hfind
    obtain ⟨last, hlast, hle'⟩ := h'.pointers key middle hmiddle
    exact ⟨last, hlast, hle.trans hle'⟩

/-- A commit gives its scope a later active publication, a final one if one was active. -/
theorem MyFplWorld.Kept.shown_commit (hkept : world.Kept) {id : ℕ} {run : MyFplCaptureRun}
    {content : MyFplSnapshotContent} {revision : ℕ} {tables : MyFplTables}
    (hrun : world.captures.find id = some run) (hphase : run.phase = .inserted content revision)
    (hpublish : publishCapture run.call run.override content revision run.seen world.tables =
      .ok tables) (scope : MyFplScope) (active : MyFplRevision × MyFplSnapshotPublication)
    (hactive : world.shown scope = some active) :
    ∃ active', loadActivePublication scope tables.publications = some active' ∧
      (active' = active ∨ active.1.revision < active'.1.revision) ∧
      (active.2.kind = .final → active'.2.kind = .final) := by
  obtain ⟨hswitch, _⟩ := publishCapture_eq_ok hpublish
  obtain ⟨hdecision, _, _, hgreatest⟩ := hkept.inserted id run content revision hrun hphase
  obtain ⟨hseen, hoverride⟩ := hkept.seen id run hrun
  obtain ⟨hfind, hactiveScope, hisActive⟩ := active_of_loadActivePublication hactive
  have hone := hswitch.oneActive hkept.one
  by_cases hscope : scope = run.call.scope
  · have hlt := hgreatest active.1 active.2 hfind (hactiveScope.trans hscope)
    have hload := loadActivePublication_of_active (⟨run.call.scope, revision⟩, _) hone
      hswitch.published rfl
    rw [hscope]
    refine ⟨_, hload, Or.inr hlt, fun hfinal => ?_⟩
    -- the capture has seen the final publication and has gone on, so it is a complete override
    have hkey : active.1 ≠ ⟨run.call.scope, revision⟩ := fun heq => by
      rw [heq] at hlt
      exact lt_irrefl _ hlt
    have hloaded := loadActivePublication_of_active _ hseen
      (hswitch.cleared active.1 active.2 hfind (hactiveScope.trans hscope) hisActive hkey) hisActive
    rw [hactiveScope, hscope] at hloaded
    have hgoesOn := decideCapture_eq_publish hdecision active hloaded
    have hcomplete : run.override.Complete := by
      by_contra hincomplete
      exact hgoesOn (Or.inl ⟨hfinal, Or.inl hincomplete⟩)
    exact ((overrideMetadata_eq_ok hoverride).2 hcomplete.2.2).1
  · have hkept' : tables.publications.find active.1 = some active.2 := by
      rw [hswitch.elsewhere active.1 (hactiveScope ▸ hscope), hfind]
    have hload := loadActivePublication_of_active active hone hkept' hisActive
    rw [hactiveScope] at hload
    exact ⟨active, hload, Or.inl rfl, fun hfinal => hfinal⟩

/-- Each step leads on. -/
theorem leadsTo_myFplStep (isTimestamp : String → Bool) (world : MyFplWorld) (action : MyFplAction)
    (hkept : world.Kept) : world.LeadsTo (myFplStep isTimestamp world action) := by
  have hpointers : ∀ key manifest, world.pointers.find key = some (.manifest manifest) →
      ∃ manifest', (myFplStep isTimestamp world action).pointers.find key =
          some (.manifest manifest') ∧ manifest.revision ≤ manifest'.revision := by
    by_cases hscript : ∃ owner, action = .runPointerScript owner
    · obtain ⟨owner, rfl⟩ := hscript
      exact (runPointerScript_pointers owner world).2
    · rw [pointers_myFplStep isTimestamp world fun owner h => hscript ⟨owner, h⟩]
      exact fun _ manifest hfind => ⟨manifest, hfind, le_rfl⟩
  have hsame : (myFplStep isTimestamp world action).tables.publications =
      world.tables.publications → world.LeadsTo (myFplStep isTimestamp world action) := by
    intro heq
    have hshown : (myFplStep isTimestamp world action).shown = world.shown := by
      funext scope
      exact congrArg (loadActivePublication scope) heq
    refine ⟨?_, ?_, hpointers⟩
    · rw [hshown]
      exact .refl _
    · rw [hshown]
      exact fun _ active hactive hfinal => ⟨active, hactive, hfinal⟩
  rcases myFplStep_cases isTimestamp world action with hframes | ⟨id, call, hstep⟩ | ⟨id, hstep⟩ |
    ⟨id, run, content, revision, tables, hrun, hphase, hpublish, hstep⟩
  · exact hsame hframes.publications
  · refine hsame (hstep ▸ ?_)
    unfold beginCapture
    split <;> rfl
  · refine hsame (hstep ▸ ?_)
    unfold insertCapture
    split
    next =>
      split
      next => rfl
      next => split <;> rfl
    next => rfl
  · have hshown : ∀ scope, (myFplStep isTimestamp world action).shown scope =
        loadActivePublication scope tables.publications := by
      intro scope
      rw [hstep]
      rfl
    refine ⟨fun scope active hactive => ?_, fun scope active hactive hfinal => ?_, hpointers⟩
    · obtain ⟨active', hload, hlater, _⟩ := hkept.shown_commit hrun hphase hpublish scope active hactive
      exact ⟨active', (hshown scope).trans hload, hlater⟩
    · obtain ⟨active', hload, _, hkind⟩ := hkept.shown_commit hrun hphase hpublish scope active hactive
      exact ⟨active', (hshown scope).trans hload, hkind hfinal⟩

/-! ### What is delivered -/

/-- The manifest stands in Redis, or a dispatch is about to deliver it. -/
def MyFplWorld.Delivers (world : MyFplWorld) (manifest : MyFplSnapshotRedisManifest) : Prop :=
  (∃ key, world.pointers.find key = some (.manifest manifest)) ∨
    ∃ owner run id receipt, world.dispatches.find owner = some run ∧ (id, receipt) ∈ run.rows ∧
      receipt.manifest = manifest

/-- The manifest is that of an active publication. -/
def MyFplWorld.ShowsActive (world : MyFplWorld) (manifest : MyFplSnapshotRedisManifest) : Prop :=
  ∃ key row, world.tables.publications.find key = some row ∧ row.active = true ∧
    manifest.Describes key row

/-- The rows of a dispatch are left over from its rows before, or have just been claimed. -/
theorem rows_myFplStep (isTimestamp : String → Bool) (world : MyFplWorld) (action : MyFplAction)
    {owner : String} {run : MyFplDispatchRun}
    (hrun : (myFplStep isTimestamp world action).dispatches.find owner = some run) :
    (∃ old, world.dispatches.find owner = some old ∧ run.rows ⊆ old.rows) ∨
      ∃ claim, run.rows = (claimMyFplReceipts claim world.tables).2 := by
  have hsame : world.dispatches.find owner = some run →
      (∃ old, world.dispatches.find owner = some old ∧ run.rows ⊆ old.rows) ∨
        ∃ claim, run.rows = (claimMyFplReceipts claim world.tables).2 :=
    fun h => Or.inl ⟨run, h, List.Subset.refl _⟩
  -- a dispatch that goes on with some of its rows
  have hrest : ∀ (other : String) (old new : MyFplDispatchRun),
      world.dispatches.find other = some old → new.rows ⊆ old.rows →
      (world.dispatches.upsert other new).find owner = some run →
      (∃ old, world.dispatches.find owner = some old ∧ run.rows ⊆ old.rows) ∨
        ∃ claim, run.rows = (claimMyFplReceipts claim world.tables).2 := by
    intro other old new hold hsubset hfind
    rw [KeyedTable.find_upsert] at hfind
    split at hfind
    next heq =>
      rw [← Option.some.inj hfind, heq]
      exact Or.inl ⟨old, hold, hsubset⟩
    next => exact hsame hfind
  cases action with
  | beginCapture id call =>
    change (beginCapture id call world).dispatches.find owner = _ at hrun
    unfold beginCapture at hrun
    split at hrun <;> exact hsame hrun
  | insertCapture id =>
    change (insertCapture id world).dispatches.find owner = _ at hrun
    unfold insertCapture at hrun
    split at hrun
    next =>
      split at hrun
      next => exact hsame hrun
      next => split at hrun <;> exact hsame hrun
    next => exact hsame hrun
  | commitCapture id =>
    change (commitCapture id world).dispatches.find owner = _ at hrun
    unfold commitCapture at hrun
    split at hrun
    next => split at hrun <;> exact hsame hrun
    next => exact hsame hrun
  | abortCapture id => exact hsame hrun
  | beginDispatch claim =>
    change (beginDispatch claim world).dispatches.find owner = _ at hrun
    unfold beginDispatch at hrun
    split at hrun
    next =>
      dsimp only at hrun
      rw [KeyedTable.find_upsert] at hrun
      split at hrun
      next => exact Or.inr ⟨claim, by rw [← Option.some.inj hrun]⟩
      next => exact hsame hrun
    next => exact hsame hrun
  | ownReceipt other clock =>
    change (ownReceipt isTimestamp other clock world).dispatches.find owner = _ at hrun
    unfold ownReceipt at hrun
    split at hrun
    next id row rest hold =>
      split at hrun
      next => exact hrest other _ ⟨rest, .idle⟩ hold (List.subset_cons_self _ _) hrun
      next =>
        split at hrun
        next => exact hsame hrun
        next =>
          split at hrun
          next => exact hrest other _ ⟨(id, row) :: rest, .owned⟩ hold (List.Subset.refl _) hrun
          next => exact hrest other _ ⟨rest, .idle⟩ hold (List.subset_cons_self _ _) hrun
    next => exact hsame hrun
  | runPointerScript other =>
    change (runPointerScript other world).dispatches.find owner = _ at hrun
    unfold runPointerScript at hrun
    split at hrun
    next id row rest hold =>
      split at hrun
      next =>
        dsimp only at hrun
        exact hrest other _ ⟨(id, row) :: rest, .replied _⟩ hold (List.Subset.refl _) hrun
      next => exact hsame hrun
    next => exact hsame hrun
  | settleReceipt other clock =>
    change (settleReceipt other clock world).dispatches.find owner = _ at hrun
    unfold settleReceipt at hrun
    split at hrun
    next rest _ hold => exact hrest other _ ⟨rest, .idle⟩ hold (List.subset_cons_self _ _) hrun
    next => exact hsame hrun
  | failReceipt other message clock =>
    change (failReceipt other message clock world).dispatches.find owner = _ at hrun
    unfold failReceipt at hrun
    split at hrun
    next rest _ hold => exact hrest other _ ⟨rest, .idle⟩ hold (List.subset_cons_self _ _) hrun
    next => exact hsame hrun
  | endDispatch other => exact hsame (KeyedTable.find_of_find_deleteWhere hrun).1

/-- What a step newly delivers is the manifest of a publication that is active at its claim. -/
theorem delivers_myFplStep (isTimestamp : String → Bool) (world : MyFplWorld)
    (action : MyFplAction) (manifest : MyFplSnapshotRedisManifest) (hkept : world.Kept)
    (h : (myFplStep isTimestamp world action).Delivers manifest) :
    world.Delivers manifest ∨ world.ShowsActive manifest := by
  cases h with
  | inl hpointer =>
    obtain ⟨key, hfind⟩ := hpointer
    refine Or.inl ?_
    by_cases hscript : ∃ owner, action = .runPointerScript owner
    · obtain ⟨owner, rfl⟩ := hscript
      cases (runPointerScript_pointers owner world).1 key manifest hfind with
      | inl hold => exact Or.inl ⟨key, hold⟩
      | inr hset =>
        obtain ⟨run, id, receipt, hrun, hmem, hmanifest⟩ := hset.2
        exact Or.inr ⟨owner, run, id, receipt, hrun, hmem, hmanifest⟩
    · rw [pointers_myFplStep isTimestamp world fun owner h => hscript ⟨owner, h⟩] at hfind
      exact Or.inl ⟨key, hfind⟩
  | inr hrow =>
    obtain ⟨owner, run, id, receipt, hrun, hmem, hmanifest⟩ := hrow
    cases rows_myFplStep isTimestamp world action hrun with
    | inl hleft =>
      obtain ⟨old, hold, hsubset⟩ := hleft
      exact Or.inl (Or.inr ⟨owner, old, id, receipt, hold, hsubset hmem, hmanifest⟩)
    | inr hclaimed =>
      obtain ⟨claim, hrows⟩ := hclaimed
      rw [hrows] at hmem
      obtain ⟨⟨row, hrow, hactive⟩, old, hold, hkey, hsame⟩ :=
        (claimMyFplReceipts_spec claim world.tables).2.2 id receipt hmem
      obtain ⟨described, hdescribed, hdescribes⟩ := hkept.receipts id old hold
      rw [← hkey, Option.mem_def.mp hrow] at hdescribed
      cases hdescribed
      refine Or.inr ⟨receipt.key, row, hrow, hactive, ?_⟩
      rw [← hmanifest, hsame, hkey]
      exact hdescribes

/-- Between any two points of a history: an event has at most one active publication, which only
gives way to one of a greater revision, a final one only to a final one; pointers never go back,
and each stands under the key of the manifest of a publication that was active before. -/
theorem myFplPublications_ordered (isTimestamp : String → Bool)
    (before stretch : List MyFplAction) :
    let earlier := runSteps (myFplStep isTimestamp) .initial before
    let later := runSteps (myFplStep isTimestamp) .initial (before ++ stretch)
    OneActivePublication later.tables.publications ∧
      (∀ scope active, earlier.shown scope = some active →
        ∃ active', later.shown scope = some active' ∧
          (active' = active ∨ active.1.revision < active'.1.revision)) ∧
      (∀ scope active, earlier.shown scope = some active → active.2.kind = .final →
        ∃ active', later.shown scope = some active' ∧ active'.2.kind = .final) ∧
      (∀ key manifest, earlier.pointers.find key = some (.manifest manifest) →
        ∃ manifest', later.pointers.find key = some (.manifest manifest') ∧
          manifest.revision ≤ manifest'.revision) ∧
      ∀ key manifest, later.pointers.find key = some (.manifest manifest) →
        myFplSnapshotRedisManifestKey manifest.seasonCode manifest.eventId = .ok key ∧
        ∃ past, past <+: before ++ stretch ∧
          (runSteps (myFplStep isTimestamp) .initial past).ShowsActive manifest := by
  intro earlier later
  have hkept : earlier.Kept :=
    runSteps_invariant (kept_myFplStep isTimestamp) .initial before kept_initial
  have hkept' : later.Kept :=
    runSteps_invariant (kept_myFplStep isTimestamp) .initial (before ++ stretch) kept_initial
  have hleads : earlier.LeadsTo later := by
    have hsplit : later = runSteps (myFplStep isTimestamp) earlier stretch := runSteps_append _ _ _ _
    rw [hsplit]
    exact EveryStep.related_ends MyFplWorld.LeadsTo.refl MyFplWorld.LeadsTo.trans
      (everyStep_of_invariant (kept_myFplStep isTimestamp)
        (fun world action h => leadsTo_myFplStep isTimestamp world action h) earlier stretch hkept)
  refine ⟨hkept'.one, fun scope active hactive => ?_, hleads.final, hleads.pointers,
    fun key manifest hfind => ⟨hkept'.pointers key manifest hfind, ?_⟩⟩
  · obtain ⟨active', hlater, hadvance⟩ := hleads.advances scope active hactive
    exact ⟨active', hlater, hadvance⟩
  · have hdelivers : later.Delivers manifest := Or.inl ⟨key, hfind⟩
    cases exists_prefix_of_step (kept_myFplStep isTimestamp)
        (fun world action value h => delivers_myFplStep isTimestamp world action value h)
        .initial (before ++ stretch) kept_initial hdelivers with
    | inl hinitial =>
      cases hinitial with
      | inl hpointer => exact absurd hpointer.choose_spec.symm (Option.some_ne_none _)
      | inr hrow =>
        obtain ⟨_, _, _, _, hrun, _⟩ := hrow
        exact absurd hrun.symm (Option.some_ne_none _)
    | inr hpast => exact hpast

end LetletmeData
