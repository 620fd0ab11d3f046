import LetletmeData.Cache.RepeatedDelivery
import LetletmeData.Repositories.PublicationOrigins
import LetletmeData.Services.LiveSnapshotSync

/-!
# The order of live snapshots

Staging transactions of an event follow one another, and each commits only from the fence on, so
revisions and check times rise together. Whatever is activated in the database or points from
Redis was staged that way. Both stores therefore move forward by check time; a delivery may
still be late and point Redis to a snapshot that the database has retired.
-/

namespace LetletmeData

open LetletmeData.Library

/-- An earlier revision with no later check time. -/
def StagedLiveSnapshot.Before (earlier later : StagedLiveSnapshot) : Prop :=
  earlier.revision < later.revision ∧ earlier.fetch.checkedAt ≤ later.fetch.checkedAt

/-- The manifest has the revision and the check time of a staged snapshot. -/
def DataPublicationManifest.StagedIn (staged : List StagedLiveSnapshot)
    (manifest : DataPublicationManifest) : Prop :=
  ∃ snapshot ∈ staged, manifest.revision = snapshot.revision ∧
    manifest.sourceCheckedAt = toISOString snapshot.fetch.checkedAt

/-- Snapshots are staged in the order of their check times up to the fence, and all that workers
remember, receipts deliver, the database shows or Redis points to was staged. -/
structure LiveSyncWorld.Ordered (season : FplSeasonRef) (eventId : ℕ) (world : LiveSyncWorld) :
    Prop where
  wellFormed : world.tables.db.WellFormed
  staged : world.staged.Pairwise StagedLiveSnapshot.Before
  revision_lt : ∀ snapshot ∈ world.staged, snapshot.revision < world.tables.db.nextRevision
  fence : ∀ snapshot ∈ world.staged,
    ∃ fence ∈ world.tables.liveSnapshotCheckedAt, snapshot.fetch.checkedAt ≤ fence
  activated : ∀ manifest ∈ world.activated, manifest.StagedIn world.staged
  active : ∀ id row, world.tables.db.publications.find id = some row →
    row.scope = livePublicationScope season eventId → row.status = .active →
      ∃ manifest ∈ world.activated, row.manifest = some manifest ∧
        manifest.revision = row.revision
  receipts : ∀ id receipt, world.tables.db.outbox.find id = some receipt →
    receipt.manifest.scope = liveScope season.seasonCode eventId →
      receipt.manifest ∈ world.activated
  claimed : ∀ row ∈ world.claimed,
    row.delivery.manifest.scope = liveScope season.seasonCode eventId →
      row.delivery.manifest ∈ world.activated
  pointer : ∀ manifest, world.cache.pointer = some (.manifest manifest) →
    manifest.StagedIn world.staged
  read : ∀ manifest ∈ world.read, manifest.StagedIn world.staged

section Staging

variable {host : HostFunctions} {season : FplSeasonRef}
  {eventId now publicationId sourceRunId : ℕ}  {fetch : LiveSnapshotFetch} {canonicalWrites : Except RepositoryError Unit}
  {tables written : LiveTables}

/-- A durable write keeps the publication tables and claims the fence if it is accepted. -/
theorem persistLiveSnapshotDurably_spec {checkedAt : ℕ} {accepted : Bool}
    (h : persistLiveSnapshotDurably season eventId checkedAt canonicalWrites tables =
      .ok (written, accepted)) :
    (accepted = true ∧ (∀ fence ∈ tables.liveSnapshotCheckedAt, fence ≤ checkedAt) ∧
        written = { tables with liveSnapshotCheckedAt := some checkedAt }) ∨
      (accepted = false ∧ written = tables) := by
  obtain ⟨-, h⟩ := throwIf_bind_eq_ok.mp h
  obtain ⟨⟨claimed, won, winner⟩, hclaim, h⟩ := bind_eq_ok.mp h
  obtain ⟨rfl, rfl⟩ : claimed = written ∧ won = accepted := by
    cases won with
    | true =>
      obtain ⟨_, -, h⟩ := bind_eq_ok.mp h
      simpa [pure, Except.pure] using h
    | false => simpa [pure, Except.pure] using h
  unfold claimLiveSnapshotFence at hclaim
  split at hclaim
  next hfence =>
    obtain ⟨rfl, rfl, -⟩ := by simpa using Except.ok.inj hclaim
    exact .inl ⟨rfl, hfence.2, rfl⟩
  · obtain ⟨-, hclaim⟩ := throwIf_bind_eq_ok.mp hclaim
    obtain ⟨found, -, hclaim⟩ := orThrow_bind_eq_ok.mp hclaim
    obtain ⟨rfl, rfl, -⟩ := by simpa using Except.ok.inj hclaim
    exact .inr ⟨rfl, rfl⟩

/-- A staging transaction that commits prepares a publication under the next revision, and then
either skips it or claims the fence and stores its items. -/
theorem liveStagingTransaction_spec {staged : Option StagedLiveSnapshot}
    (habsent : tables.db.publications.find publicationId = none)
    (h : liveStagingTransaction host season eventId now publicationId sourceRunId fetch
      canonicalWrites tables = .ok (written, staged)) :
    let prepared := databaseStep host tables.db
      (.preparePublication now (liveStagingInput season eventId publicationId sourceRunId))
    prepared.nextRevision = tables.db.nextRevision + 1 ∧
      ∃ call : DatabaseCall, ¬ call.ActivatesLive season eventId ∧
        ((staged = none ∧ written = { tables with db := databaseStep host prepared call }) ∨
          ((∀ fence ∈ tables.liveSnapshotCheckedAt, fence ≤ fetch.checkedAt) ∧
            staged = some ⟨sourceRunId, fetch, publicationId, tables.db.nextRevision⟩ ∧
            written = { tables with
              db := databaseStep host prepared call
              liveSnapshotCheckedAt := some fetch.checkedAt })) := by
  intro prepared
  obtain ⟨staging, hstaging, h⟩ := bind_eq_ok.mp h
  obtain ⟨rfl, hprepared⟩ := preparePublication_of_absent habsent hstaging
  refine ⟨congrArg (·.nextRevision) hprepared, ?_⟩
  obtain ⟨⟨persisted, accepted⟩, hpersisted, h⟩ := bind_eq_ok.mp h
  dsimp only at h
  rcases persistLiveSnapshotDurably_spec hpersisted with ⟨rfl, hfence, rfl⟩ | ⟨rfl, rfl⟩
  · obtain ⟨stored, hstored, h⟩ := bind_eq_ok.mp h
    obtain ⟨rfl, rfl⟩ := Prod.ext_iff.mp (Except.ok.inj h)
    have hstep : databaseStep host prepared (.stagePublicationItems publicationId
        (fetch.items.map (publicationItemProof host))) = stored := commit_of_ok hstored
    exact ⟨.stagePublicationItems publicationId (fetch.items.map (publicationItemProof host)), nofun,
      .inr ⟨hfence, rfl, by rw [hstep]⟩⟩
  · obtain ⟨stored, hstored, h⟩ := bind_eq_ok.mp h
    obtain ⟨rfl, rfl⟩ := Prod.ext_iff.mp (Except.ok.inj h)
    have hstep : databaseStep host prepared (.skipPublication now publicationId) = stored :=
      commit_of_ok hstored
    exact ⟨.skipPublication now publicationId, nofun, .inl ⟨rfl, by rw [hstep]⟩⟩

end Staging

namespace DataPublicationManifest.StagedIn

variable {staged : List StagedLiveSnapshot} {manifest : DataPublicationManifest}

/-- What was staged stays staged. -/
theorem append (h : manifest.StagedIn staged) (later : List StagedLiveSnapshot) :
    manifest.StagedIn (staged ++ later) := by
  obtain ⟨snapshot, hsnapshot, hversion⟩ := h
  exact ⟨snapshot, List.mem_append_left _ hsnapshot, hversion⟩

/-- A heartbeat keeps revision and check time. -/
theorem refreshed (h : manifest.StagedIn staged) (text : String) :
    (manifest.refreshed text).StagedIn staged := h

end DataPublicationManifest.StagedIn

namespace LiveSyncWorld.Ordered

variable {season : FplSeasonRef} {eventId : ℕ} {world : LiveSyncWorld}

/-- Nothing is staged at first. -/
theorem initial (currentSeasons : List FplSeasonRef) (seasons : List ℕ) (events : List (ℕ × ℕ)) :
    (LiveSyncWorld.initial currentSeasons seasons events).Ordered season eventId where
  wellFormed := .initial seasons events
  staged := .nil
  revision_lt := nofun
  fence := nofun
  activated := nofun
  active := fun _ _ hfind => nomatch hfind
  receipts := fun _ _ hfind => nomatch hfind
  claimed := nofun
  pointer := fun _ hpointer => nomatch hpointer
  read := nofun

/-- Calls that activate nothing of the event leave the order. -/
theorem call (h : world.Ordered season eventId) (host : HostFunctions) {call : DatabaseCall}
    (hcall : ¬ call.ActivatesLive season eventId) :
    (world.withDatabase (databaseStep host world.tables.db call)).Ordered season eventId := by
  obtain ⟨hwellFormed, hfollows⟩ := h.wellFormed.step host call
  obtain ⟨hrows, hreceipts⟩ := Originates.databaseStep host world.tables.db call
  refine { h with
    wellFormed := hwellFormed
    revision_lt := fun snapshot hsnapshot =>
      (h.revision_lt snapshot hsnapshot).trans_le hfollows.sequence_le
    active := ?_
    receipts := ?_ }
  · intro id row' hrow' hscope hactive
    rcases hrows id row' hrow' with ⟨row, hrow, hlasts⟩ | ⟨now, input, -, -, rfl⟩ |
      ⟨now, input, target, run, rfl, -, hallowed, rfl⟩
    · have hwas : row.status = .active := by
        rcases hlasts.status with hsame | hclosed
        · exact hsame ▸ hactive
        · rcases hclosed with hclosed | hclosed <;> exact nomatch hactive.symm.trans hclosed
      obtain ⟨manifest, hmem, hmanifest, hrevision⟩ :=
        h.active id row hrow (hlasts.scope_eq ▸ hscope) hwas
      exact ⟨manifest, hmem, hlasts.manifest_eq.trans hmanifest,
        hrevision.trans hlasts.revision_eq.symm⟩
    · exact nomatch hactive
    · rw [scope_activatedRow, hallowed.scope_eq] at hscope
      exact absurd (.inl hscope) hcall
  · intro outboxId receipt' hreceipt' hscope
    rcases hreceipts outboxId receipt' hreceipt' with ⟨receipt, hreceipt, hlasts⟩ |
      ⟨now, input, target, run, rfl, -, rfl⟩
    · rw [hlasts.manifest_eq] at hscope ⊢
      exact h.receipts outboxId receipt hreceipt hscope
    · exact absurd (.inr hscope) hcall

/-- Drawing revisions leaves the order. -/
theorem draw (h : world.Ordered season eventId) {revision : ℕ}
    (hle : world.tables.db.nextRevision ≤ revision) :
    (world.withDatabase { world.tables.db with nextRevision := revision }).Ordered season
      eventId :=
  { h with
    wellFormed :=
      have hleads : world.tables.db.LeadsTo { world.tables.db with nextRevision := revision } :=
        h.wellFormed.follows_of_publications_eq rfl hle
      hleads.wellFormed
    revision_lt := fun snapshot hsnapshot => (h.revision_lt snapshot hsnapshot).trans_le hle }

/-- The fence moves forward over what is staged. -/
theorem advanceFence (h : world.Ordered season eventId) {checkedAt : ℕ}
    (hle : ∀ fence ∈ world.tables.liveSnapshotCheckedAt, fence ≤ checkedAt) :
    { world with
      tables := { world.tables with liveSnapshotCheckedAt := some checkedAt } }.Ordered season
        eventId := by
  refine { h with fence := fun snapshot hsnapshot => ⟨checkedAt, rfl, ?_⟩ }
  obtain ⟨fence, hfence, hsnapshotLe⟩ := h.fence snapshot hsnapshot
  exact hsnapshotLe.trans (hle fence hfence)

/-- A snapshot under a newer revision and a check time up to the fence is staged last. -/
theorem stage (h : world.Ordered season eventId) {snapshot : StagedLiveSnapshot}
    (hbefore : ∀ earlier ∈ world.staged, earlier.Before snapshot)
    (hrevision : snapshot.revision < world.tables.db.nextRevision)
    (hfence : ∃ fence ∈ world.tables.liveSnapshotCheckedAt, snapshot.fetch.checkedAt ≤ fence) :
    { world with staged := world.staged ++ [snapshot] }.Ordered season eventId := by
  refine { h with
    staged := List.pairwise_append.mpr
      ⟨h.staged, List.pairwise_singleton _ _, fun earlier hearlier last hlast => ?_⟩
    revision_lt := ?_
    fence := ?_
    activated := fun manifest hmanifest => (h.activated manifest hmanifest).append _
    pointer := fun manifest hpointer => (h.pointer manifest hpointer).append _
    read := fun manifest hmanifest => (h.read manifest hmanifest).append _ }
  · obtain rfl := List.mem_singleton.mp hlast
    exact hbefore earlier hearlier
  · intro other hother
    rcases List.mem_append.mp hother with hold | hnew
    · exact h.revision_lt other hold
    · exact List.mem_singleton.mp hnew ▸ hrevision
  · intro other hother
    rcases List.mem_append.mp hother with hold | hnew
    · exact h.fence other hold
    · exact List.mem_singleton.mp hnew ▸ hfence

/-- Operations that install staged manifests leave the order. -/
theorem operate (h : world.Ordered season eventId) {operation : CacheOperation}
    (hcandidate : ∀ candidate, operation.candidate = some candidate →
      candidate.StagedIn world.staged) : (world.operate operation).Ordered season eventId :=
  { h with pointer := pointer_kind_cacheStep h.pointer hcandidate }

/-- Activating a staged manifest leaves the order. -/
theorem activate (h : world.Ordered season eventId) {manifest : DataPublicationManifest}
    (hstaged : manifest.StagedIn world.staged) (now sourceRunId outboxId : ℕ) :
    (world.activate now (liveActivationInput season eventId sourceRunId manifest
      outboxId)).Ordered season eventId := by
  set input := liveActivationInput season eventId sourceRunId manifest outboxId with hinput
  unfold LiveSyncWorld.activate
  split
  next db hdb =>
    -- the committed tables are those of the call, whatever the host is
    let host : HostFunctions := ⟨id, fun _ => true, fun _ => none⟩
    have hstep : databaseStep host world.tables.db (.activatePublication now input) = db :=
      commit_of_ok hdb
    obtain ⟨hwellFormed, hfollows⟩ := h.wellFormed.step host (.activatePublication now input)
    obtain ⟨hrows, hreceipts⟩ :=
      Originates.databaseStep host world.tables.db (.activatePublication now input)
    rw [hstep] at hwellFormed hfollows hrows hreceipts
    refine { h with
      wellFormed := hwellFormed
      revision_lt := fun snapshot hsnapshot =>
        (h.revision_lt snapshot hsnapshot).trans_le hfollows.sequence_le
      activated := ?_
      active := ?_
      receipts := ?_
      claimed := fun row hrow hscope => List.mem_append_left _ (h.claimed row hrow hscope) }
    · intro other hother
      rcases List.mem_append.mp hother with hold | hnew
      · exact h.activated other hold
      · obtain rfl := List.mem_singleton.mp hnew
        exact hstaged
    · intro id row' hrow' hscope hactive
      rcases hrows id row' hrow' with ⟨row, hrow, hlasts⟩ | ⟨_, _, hcall, -, -⟩ |
        ⟨_, _, target, run, hcall, hid, hallowed, rfl⟩
      · have hwas : row.status = .active := by
          rcases hlasts.status with hsame | hclosed
          · exact hsame ▸ hactive
          · rcases hclosed with hclosed | hclosed <;> exact nomatch hactive.symm.trans hclosed
        obtain ⟨other, hmem, hmanifest, hrevision⟩ :=
          h.active id row hrow (hlasts.scope_eq ▸ hscope) hwas
        exact ⟨other, List.mem_append_left _ hmem, hlasts.manifest_eq.trans hmanifest,
          hrevision.trans hlasts.revision_eq.symm⟩
      · exact nomatch hcall
      · obtain ⟨rfl, rfl⟩ := by simpa using hcall
        refine ⟨manifest, by simp [hinput, liveActivationInput], ?_, ?_⟩
        · simp [activatedRow, hid, hinput, liveActivationInput]
        · rw [revision_activatedRow]
          exact hallowed.manifest_matches.2.2.2.2
    · intro id receipt' hreceipt' hscope
      rcases hreceipts id receipt' hreceipt' with ⟨receipt, hreceipt, hlasts⟩ |
        ⟨_, _, target, run, hcall, -, rfl⟩
      · rw [hlasts.manifest_eq] at hscope ⊢
        exact List.mem_append_left _ (h.receipts id receipt hreceipt hscope)
      · obtain ⟨rfl, rfl⟩ := by simpa using hcall
        exact List.mem_append_right _ (List.mem_singleton_self _)
  · exact h

/-- A claim takes deliveries of receipts. -/
theorem claim (h : world.Ordered season eventId) (host : HostFunctions) (dbNow owner : ℕ)
    (limit leaseMs publicationId : Option ℕ) :
    (world.claim host dbNow owner limit leaseMs publicationId).Ordered season eventId := by
  unfold LiveSyncWorld.claim
  split
  next db rows hclaim =>
    have hstep : databaseStep host world.tables.db
        (.claimOutbox dbNow owner limit leaseMs publicationId) = db := by
      simp [databaseStep, commit, claimedTables, hclaim, Except.map]
    have hcalled := h.call host
      (show ¬ (DatabaseCall.claimOutbox dbNow owner limit leaseMs publicationId).ActivatesLive
        season eventId from id)
    rw [hstep] at hcalled
    refine { hcalled with claimed := fun row hrow hscope => ?_ }
    rcases List.mem_append.mp hrow with hold | hnew
    · exact h.claimed row hold hscope
    · obtain ⟨-, hbatch, -⟩ := claimDataPublicationOutbox_eq_ok.mp hclaim
      obtain ⟨entry, hentry, hloaded⟩ := exists_of_mem_of_forall₂ hbatch hnew
      obtain ⟨delivery, hdelivery, rfl⟩ := claimReceipt_eq_ok.mp hloaded
      have hdue := KeyedTable.mem_selectSorted.mp (List.mem_of_mem_take hentry)
      have hmanifest := manifest_of_loadPreparedPublication hdelivery
      rw [hmanifest] at hscope ⊢
      exact h.receipts entry.1 entry.2 hdue.1 hscope
  · exact h

end LiveSyncWorld.Ordered

section Steps

variable {host : LiveHostFunctions} {season : FplSeasonRef} {eventId : ℕ} {world : LiveSyncWorld}

/-- A delivery in memory was claimed, for the keys it goes to. -/
theorem LiveSyncWorld.deliveryTo_eq_some {scope : DataPublicationScope} {dispatcher : ℕ}
    {delivery : PreparedDelivery} (h : world.deliveryTo scope dispatcher = some delivery) :
    delivery.manifest.scope = scope ∧ ∃ row ∈ world.claimed, row.delivery = delivery := by
  obtain ⟨hdelivery, hscope⟩ := Option.filter_eq_some_iff.mp h
  obtain ⟨row, hrow, rfl⟩ := Option.map_eq_some_iff.mp hdelivery
  exact ⟨by simpa using hscope, row, List.mem_of_getElem? hrow, rfl⟩

/-- What a staging transaction does: it draws a revision and throws, skips its publication, or
stages it under the next revision and its check time as the fence. -/
theorem liveSyncStep_stage_cases {now publicationId sourceRunId : ℕ} {fetch : LiveSnapshotFetch}
    {canonicalWrites : Except RepositoryError Unit}
    (habsent : world.tables.db.publications.find publicationId = none) :
    let later := liveSyncStep host season eventId world
      (.stage now publicationId sourceRunId fetch canonicalWrites)
    let prepare : DatabaseCall :=
      .preparePublication now (liveStagingInput season eventId publicationId sourceRunId)
    let prepared := databaseStep host.toHostFunctions world.tables.db prepare
    (∃ revision, world.tables.db.nextRevision ≤ revision ∧
        later = world.withDatabase { world.tables.db with nextRevision := revision }) ∨
      (prepared.nextRevision = world.tables.db.nextRevision + 1 ∧
        ∃ call : DatabaseCall, ¬ call.ActivatesLive season eventId ∧
          (later = world.withDatabase (databaseStep host.toHostFunctions prepared call) ∨
            ((∀ fence ∈ world.tables.liveSnapshotCheckedAt, fence ≤ fetch.checkedAt) ∧
              later = { world with
                tables := { world.tables with
                  db := databaseStep host.toHostFunctions prepared call
                  liveSnapshotCheckedAt := some fetch.checkedAt }
                staged := world.staged ++
                  [⟨sourceRunId, fetch, publicationId, world.tables.db.nextRevision⟩] }))) := by
  intro later prepare prepared
  have hlater : later = liveSyncStep host season eventId world
    (.stage now publicationId sourceRunId fetch canonicalWrites) := rfl
  rw [liveSyncStep, if_pos habsent, stageLiveSnapshot] at hlater
  cases hbody : liveStagingTransaction host.toHostFunctions season eventId now publicationId
      sourceRunId fetch canonicalWrites world.tables with
  | error error =>
    rw [hbody] at hlater
    exact .inl ⟨_, le_nextRevision_preparePublication now _ _, hlater⟩
  | ok result =>
    obtain ⟨written, staged⟩ := result
    rw [hbody] at hlater
    obtain ⟨hrevision, call, hcall, ⟨rfl, rfl⟩ | ⟨hfence, rfl, rfl⟩⟩ :=
      liveStagingTransaction_spec habsent hbody
    · exact .inr ⟨hrevision, call, hcall, .inl hlater⟩
    · exact .inr ⟨hrevision, call, hcall, .inr ⟨hfence, hlater⟩⟩

/-- Every step leaves the order. -/
theorem LiveSyncWorld.Ordered.step (h : world.Ordered season eventId) (host : LiveHostFunctions)
    (action : LiveSyncAction) :
    (liveSyncStep host season eventId world action).Ordered season eventId := by
  cases action with
  | persistUnchanged checkedAt canonicalWrites =>
    rw [liveSyncStep]
    split
    next tables accepted hpersisted =>
      rcases persistLiveSnapshotDurably_spec hpersisted with ⟨-, hfence, rfl⟩ | ⟨-, rfl⟩
      · exact h.advanceFence hfence
      · exact h
    · exact h
  | stage now publicationId sourceRunId fetch canonicalWrites =>
    by_cases habsent : world.tables.db.publications.find publicationId = none
    · have hprepared := h.call host.toHostFunctions (show ¬ (DatabaseCall.preparePublication now
        (liveStagingInput season eventId publicationId sourceRunId)).ActivatesLive season eventId
          from nofun)
      rcases liveSyncStep_stage_cases habsent with ⟨revision, hle, heq⟩ |
        ⟨hrevision, call, hcall, heq | ⟨hfence, heq⟩⟩
      · rw [heq]
        exact h.draw hle
      · rw [heq]
        exact hprepared.call host.toHostFunctions hcall
      · rw [heq]
        have hstored := (hprepared.call host.toHostFunctions hcall).advanceFence hfence
        refine hstored.stage (fun earlier hearlier => ⟨h.revision_lt earlier hearlier, ?_⟩) ?_
          ⟨fetch.checkedAt, rfl, le_rfl⟩
        · obtain ⟨fence, hmem, hle⟩ := h.fence earlier hearlier
          exact hle.trans (hfence fence hmem)
        · have hfollows := (hprepared.wellFormed.step host.toHostFunctions call).follows
          exact hrevision.ge.trans hfollows.sequence_le
    · rw [liveSyncStep, if_neg habsent]
      exact h
  | publish worker =>
    rw [liveSyncStep]
    split
    · exact h.operate nofun
    · exact h
  | activate worker now outboxId =>
    rw [liveSyncStep]
    split
    next staged hstaged =>
      exact h.activate ⟨staged, List.mem_of_getElem? hstaged, rfl, rfl⟩ _ _ _
    · exact h
  | readPublished =>
    refine { h with read := fun manifest hmanifest => ?_ }
    rcases List.mem_append.mp hmanifest with hold | hnew
    · exact h.read manifest hold
    · exact h.pointer manifest
        (pointer_of_readPointer (Option.mem_toList.mp hnew))
  | refreshHeartbeat reader lastSuccessfulFetchAt =>
    rw [liveSyncStep]
    split
    next active hactive =>
      refine h.operate ?_
      rintro candidate hcandidate
      obtain rfl := Option.some.inj hcandidate
      exact (h.read active (List.mem_of_getElem? hactive)).refreshed _
    · exact h
  | recoverPending reader sourceRunId now outboxId =>
    rw [liveSyncStep]
    split
    next cached hcached => exact h.activate (h.read cached (List.mem_of_getElem? hcached)) _ _ _
    · exact h
  | claim dbNow owner limit leaseMs publicationId =>
    exact h.claim host.toHostFunctions dbNow owner limit leaseMs publicationId
  | stageDelivery dispatcher =>
    rw [liveSyncStep]
    split
    · exact h.operate nofun
    · exact h
  | activatePointer dispatcher =>
    rw [liveSyncStep]
    split
    next delivery hdelivery =>
      obtain ⟨hscope, row, hrow, rfl⟩ := LiveSyncWorld.deliveryTo_eq_some hdelivery
      refine h.operate ?_
      rintro candidate hcandidate
      obtain rfl := Option.some.inj hcandidate
      exact h.activated _ (h.claimed row hrow hscope)
    · exact h
  | expire key => exact h.operate nofun
  | call call =>
    rw [liveSyncStep]
    split
    · exact h
    next hcall => exact h.call host.toHostFunctions hcall

/-- The tables after a step follow those before it. -/
theorem LiveSyncWorld.Ordered.follows (h : world.Ordered season eventId) (host : LiveHostFunctions)
    (action : LiveSyncAction) :
    Follows world.tables.db (liveSyncStep host season eventId world action).tables.db := by
  have hself : Follows world.tables.db world.tables.db := .refl _
  have hcall : ∀ call, Follows world.tables.db
      (databaseStep host.toHostFunctions world.tables.db call) :=
    fun call => (h.wellFormed.step host.toHostFunctions call).follows
  have hactivate : ∀ now input, Follows world.tables.db (world.activate now input).tables.db := by
    intro now input
    unfold LiveSyncWorld.activate
    split
    next db hdb =>
      have hstep : databaseStep host.toHostFunctions world.tables.db
        (.activatePublication now input) = db := commit_of_ok hdb
      change Follows world.tables.db db
      rw [← hstep]
      exact hcall _
    · exact hself
  cases action with
  | persistUnchanged checkedAt canonicalWrites =>
    rw [liveSyncStep]
    split
    next tables accepted hpersisted =>
      rcases persistLiveSnapshotDurably_spec hpersisted with ⟨-, -, rfl⟩ | ⟨-, rfl⟩ <;> exact hself
    · exact hself
  | stage now publicationId sourceRunId fetch canonicalWrites =>
    by_cases habsent : world.tables.db.publications.find publicationId = none
    · have hprepared := h.wellFormed.step host.toHostFunctions
        (.preparePublication now (liveStagingInput season eventId publicationId sourceRunId))
      rcases liveSyncStep_stage_cases habsent with ⟨revision, hle, heq⟩ |
        ⟨-, call, -, heq | ⟨-, heq⟩⟩
      · rw [heq]
        have hleads : world.tables.db.LeadsTo { world.tables.db with nextRevision := revision } :=
          h.wellFormed.follows_of_publications_eq rfl hle
        exact hleads.follows
      · rw [heq]
        exact hprepared.follows.trans _ _ _
          (hprepared.wellFormed.step host.toHostFunctions call).follows
      · rw [heq]
        exact hprepared.follows.trans _ _ _
          (hprepared.wellFormed.step host.toHostFunctions call).follows
    · rw [liveSyncStep, if_neg habsent]
      exact hself
  | claim dbNow owner limit leaseMs publicationId =>
    rw [liveSyncStep, LiveSyncWorld.claim]
    split
    next db rows hclaim =>
      have hstep : databaseStep host.toHostFunctions world.tables.db
          (.claimOutbox dbNow owner limit leaseMs publicationId) = db := by
        simp [databaseStep, commit, claimedTables, hclaim, Except.map]
      change Follows world.tables.db db
      rw [← hstep]
      exact hcall _
    · exact hself
  | activate | recoverPending =>
    rw [liveSyncStep]
    split
    · exact hactivate _ _
    · exact hself
  | publish | refreshHeartbeat | stageDelivery | activatePointer =>
    rw [liveSyncStep]
    split <;> exact hself
  | readPublished | expire => exact hself
  | call call =>
    rw [liveSyncStep]
    split
    · exact hself
    · exact hcall call

/-- What was activated stays recorded. -/
theorem LiveSyncWorld.activated_subset (world : LiveSyncWorld) (host : LiveHostFunctions)
    (action : LiveSyncAction) :
    world.activated ⊆ (liveSyncStep host season eventId world action).activated := by
  have hself : world.activated ⊆ world.activated := List.Subset.refl _
  have hactivate : ∀ now input, world.activated ⊆ (world.activate now input).activated := by
    intro now input
    unfold LiveSyncWorld.activate
    split
    · exact List.subset_append_left _ _
    · exact hself
  cases action with
  | activate | recoverPending =>
    rw [liveSyncStep]
    split
    · exact hactivate _ _
    · exact hself
  | stage =>
    rw [liveSyncStep]
    split
    · split <;> exact hself
    · exact hself
  | claim =>
    rw [liveSyncStep, LiveSyncWorld.claim]
    split <;> exact hself
  | persistUnchanged | publish | refreshHeartbeat | stageDelivery | activatePointer | call =>
    rw [liveSyncStep]
    split <;> exact hself
  | readPublished | expire => exact hself

end Steps

/-- The manifests of the active publications of the event. -/
def LiveSyncWorld.activeManifests (season : FplSeasonRef) (eventId : ℕ) (world : LiveSyncWorld) :
    List DataPublicationManifest :=
  (world.tables.db.activeIn (livePublicationScope season eventId)).filterMap (·.2.manifest)

/-- The revisions of the manifests agree with their check times. -/
def RevisionsAgree (manifests : List DataPublicationManifest) : Prop :=
  ∀ manifest ∈ manifests, ∀ manifest' ∈ manifests,
    (manifest.revision ≤ manifest'.revision → manifest.sourceCheckedAt ≤ manifest'.sourceCheckedAt) ∧
      (manifest.sourceCheckedAt < manifest'.sourceCheckedAt →
        manifest.revision < manifest'.revision)

/-- Every publication that a step leaves active in the database has been activated, and is no
older by check time than the one that was active before. When the step activates the pointer,
the same holds of the pointer. -/
structure AdvancesByCheckTime (season : FplSeasonRef) (eventId : ℕ) (action : LiveSyncAction)
    (world later : LiveSyncWorld) : Prop where
  active : ∀ manifest' ∈ later.activeManifests season eventId,
    manifest' ∈ later.activated ∧ ∀ manifest ∈ world.activeManifests season eventId,
      manifest.sourceCheckedAt ≤ manifest'.sourceCheckedAt
  pointer : ∀ dispatcher, action = .activatePointer dispatcher →
    ∀ manifest', later.cache.pointer = some (.manifest manifest') →
      (world.cache.pointer = some (.manifest manifest') ∨ manifest' ∈ later.activated) ∧
        ∀ manifest, world.cache.pointer = some (.manifest manifest) →
          manifest.sourceCheckedAt ≤ manifest'.sourceCheckedAt

section Order

variable {host : LiveHostFunctions} {season : FplSeasonRef} {eventId : ℕ} {world : LiveSyncWorld}

/-- Of two staged snapshots the one of the later revision was checked no earlier. -/
theorem LiveSyncWorld.Ordered.checkedAt_le (h : world.Ordered season eventId) :
    ∀ snapshot ∈ world.staged, ∀ snapshot' ∈ world.staged,
      snapshot.revision ≤ snapshot'.revision →
        snapshot.fetch.checkedAt ≤ snapshot'.fetch.checkedAt := by
  refine List.Pairwise.forall_of_forall_of_flip (fun _ _ _ => le_rfl) ?_ ?_
  · exact h.staged.imp fun hbefore _ => hbefore.2
  · exact h.staged.imp fun hbefore hle => absurd hbefore.1 (not_lt.mpr hle)

/-- Of two staged manifests the one of the later revision was checked no earlier. -/
theorem LiveSyncWorld.Ordered.sourceCheckedAt_le (h : world.Ordered season eventId)
    {manifest manifest' : DataPublicationManifest} (hstaged : manifest.StagedIn world.staged)
    (hstaged' : manifest'.StagedIn world.staged) (hle : manifest.revision ≤ manifest'.revision) :
    manifest.sourceCheckedAt ≤ manifest'.sourceCheckedAt := by
  obtain ⟨snapshot, hsnapshot, hrevision, hchecked⟩ := hstaged
  obtain ⟨snapshot', hsnapshot', hrevision', hchecked'⟩ := hstaged'
  rw [hchecked, hchecked']
  refine (toISOString_le_iff snapshot.fetch.checkedAt_year snapshot'.fetch.checkedAt_year).mpr ?_
  exact h.checkedAt_le snapshot hsnapshot snapshot' hsnapshot' (hrevision ▸ hrevision' ▸ hle)

/-- An active publication of the event is one of the activated manifests. -/
theorem LiveSyncWorld.Ordered.mem_activated (h : world.Ordered season eventId)
    {manifest : DataPublicationManifest} (hactive : manifest ∈ world.activeManifests season eventId) :
    manifest ∈ world.activated ∧ ∃ id row,
      (id, row) ∈ world.tables.db.activeIn (livePublicationScope season eventId) ∧
        manifest.revision = row.revision := by
  obtain ⟨⟨id, row⟩, hmem, hmanifest⟩ := List.mem_filterMap.mp hactive
  obtain ⟨hfind, hscope, hstatus⟩ := Database.mem_activeIn.mp hmem
  obtain ⟨shown, hactivated, hshown, hrevision⟩ := h.active id row hfind hscope hstatus
  obtain rfl : shown = manifest := Option.some.inj (hshown.symm.trans hmanifest)
  exact ⟨hactivated, id, row, hmem, hrevision⟩

/-- An activation of the pointer leaves it, or moves it to a manifest checked no earlier. -/
theorem sourceCheckedAt_le_of_activateRevision {candidate manifest' : DataPublicationManifest}
    {cache : PublicationCache}
    (hpointer' : (activateRevision candidate cache).1.pointer = some (.manifest manifest')) :
    (cache.pointer = some (.manifest manifest') ∨ candidate = manifest') ∧
      ∀ manifest, cache.pointer = some (.manifest manifest) →
        manifest.sourceCheckedAt ≤ manifest'.sourceCheckedAt := by
  rcases activateRevision_spec candidate cache with ⟨heq, -⟩ | ⟨-, hother, -, -, displaced, -, heq⟩
  · rw [heq] at hpointer'
    refine ⟨.inl hpointer', fun manifest hpointer => ?_⟩
    obtain rfl : manifest = manifest' := by simpa [hpointer] using hpointer'
    exact le_rfl
  · rw [heq] at hpointer'
    obtain rfl : candidate = manifest' := by simpa [PublicationCache.retireKeys] using hpointer'
    refine ⟨.inr rfl, fun manifest hpointer => ?_⟩
    have hnewer := (hother manifest hpointer).2
    exact not_lt.mp fun hlt => hnewer (.inl hlt)

/-- Every step advances both stores by check time. -/
theorem LiveSyncWorld.Ordered.advances (h : world.Ordered season eventId) (host : LiveHostFunctions)
    (action : LiveSyncAction) :
    AdvancesByCheckTime season eventId action world
      (liveSyncStep host season eventId world action) := by
  have hlater := h.step host action
  have hfollows := h.follows host action
  set later := liveSyncStep host season eventId world action with hstep
  have hkept : world.activated ⊆ later.activated := world.activated_subset host action
  constructor
  · intro manifest' hactive'
    obtain ⟨hmem', id', row', hrow', hrevision'⟩ := hlater.mem_activated hactive'
    refine ⟨hmem', fun manifest hactive => ?_⟩
    obtain ⟨hmem, id, row, hrow, hrevision⟩ := h.mem_activated hactive
    obtain ⟨⟨shown, revision⟩, hshown, hadvance⟩ := hfollows.active _ (id, row.revision)
      (h.wellFormed.mem_activeVersion.mpr ⟨row, hrow, rfl⟩)
    -- the slot of the event shows one version, that of the second manifest
    have hversion : (id', row'.revision) = (shown, revision) :=
      Option.some.inj ((hlater.wellFormed.mem_activeVersion.mpr ⟨row', hrow', rfl⟩).symm.trans
        hshown)
    obtain ⟨rfl, rfl⟩ := Prod.ext_iff.mp hversion
    refine hlater.sourceCheckedAt_le (hlater.activated _ (hkept hmem))
      (hlater.activated _ hmem') ?_
    rw [hrevision, hrevision']
    rcases hadvance with heq | hlt
    · exact (congrArg Prod.snd heq).ge
    · exact le_of_lt hlt
  · rintro dispatcher rfl manifest' hpointer'
    rw [hstep, liveSyncStep] at hpointer'
    split at hpointer'
    next delivery hdelivery =>
      obtain ⟨hscope, row, hrow, rfl⟩ := LiveSyncWorld.deliveryTo_eq_some hdelivery
      obtain ⟨hpointed, hle⟩ := sourceCheckedAt_le_of_activateRevision hpointer'
      refine ⟨hpointed.imp_right ?_, hle⟩
      rintro rfl
      exact hkept (h.claimed row hrow hscope)
    · refine ⟨.inl hpointer', fun manifest hpointer => ?_⟩
      obtain rfl : manifest = manifest' := by simpa [hpointer] using hpointer'
      exact le_rfl

/-- Revisions of activated manifests agree with their check times. -/
theorem LiveSyncWorld.Ordered.revisionsAgree (h : world.Ordered season eventId) :
    RevisionsAgree world.activated := by
  intro manifest hmanifest manifest' hmanifest'
  have hle := h.sourceCheckedAt_le (h.activated manifest hmanifest) (h.activated manifest' hmanifest')
  have hge := h.sourceCheckedAt_le (h.activated manifest' hmanifest') (h.activated manifest hmanifest)
  exact ⟨hle, fun hlt => not_le.mp fun hrevision => absurd hlt (not_lt.mpr (hge hrevision))⟩

end Order

/-- However the workers of an event interleave: the revisions of the publications that become
active agree with their check times, the database never makes one active that was checked before
the active one, and activation points Redis only to publications that became active, and to none
that was checked before the one it points to. -/
theorem liveSnapshots_advance (host : LiveHostFunctions) (season : FplSeasonRef) (eventId : ℕ)
    (currentSeasons : List FplSeasonRef) (seasons : List ℕ) (events : List (ℕ × ℕ))
    (actions : List LiveSyncAction) :
    RevisionsAgree
        (runSteps (liveSyncStep host season eventId)
          (.initial currentSeasons seasons events) actions).activated ∧
      EveryStep (liveSyncStep host season eventId)
        (fun world action => AdvancesByCheckTime season eventId action world
          (liveSyncStep host season eventId world action))
        (.initial currentSeasons seasons events) actions := by
  have hstep : ∀ world action, LiveSyncWorld.Ordered season eventId world →
      (liveSyncStep host season eventId world action).Ordered season eventId :=
    fun world action h => h.step host action
  have hinitial : (LiveSyncWorld.initial currentSeasons seasons events).Ordered season eventId :=
    .initial currentSeasons seasons events
  exact ⟨(runSteps_invariant hstep _ actions hinitial).revisionsAgree,
    everyStep_of_invariant hstep (fun world action h => h.advances host action) _ actions hinitial⟩

section Examples

/-- An empty list, to be published. -/
def emptyListValue : PublishedValue :=
  { payload := { canonicalJson := "[]", stringify := "[]", postgresJsonbCanonicalJson := "[]" }
    count := 0 }

/-- An empty live snapshot, fetched at noon or a minute later. -/
def emptyLiveFetch (checkedAt : ℕ) (hyear : isoYear checkedAt < 10000) : LiveSnapshotFetch :=
  { checkedAt := checkedAt
    checkedAt_year := hyear
    lastSuccessfulFetchAt := checkedAt
    publishedAt := checkedAt
    state := .live
    eventLives := emptyListValue
    fixtures := emptyListValue }

/-- The run of a live worker. -/
def liveRun : StartSyncRunInput :=
  { provider := "fpl", lane := "live", scope := "live-snapshot", season := some season2526,
    eventId := some 1, mode := "cache", trigger := "queue" }

/-- Two workers stage and activate one after the other; the first one's delivery is claimed and
staged only then. -/
def lateDelivery : List LiveSyncAction :=
  [.call (.startRun 1 liveRun), .call (.startRun 2 liveRun),
    .stage 0 (contextId 1) 1 (emptyLiveFetch 1755345600000 (by decide)) (.ok ()),
    .activate 0 0 1,
    .stage 0 (contextId 2) 2 (emptyLiveFetch 1755345660000 (by decide)) (.ok ()),
    .activate 1 0 2,
    .claim 0 1 (some 1) none (some (contextId 1)), .stageDelivery 0]

/-- The late delivery points Redis to a snapshot that was checked before the active one. -/
theorem late_delivery_points_back :
    ¬ EveryStep (liveSyncStep pollHost season2526 1)
      (fun world action => ∀ dispatcher, action = .activatePointer dispatcher →
        ∀ manifest', (liveSyncStep pollHost season2526 1 world action).cache.pointer =
            some (.manifest manifest') →
          world.cache.pointer = some (.manifest manifest') ∨
            ∀ manifest ∈ world.activeManifests season2526 1,
              manifest.sourceCheckedAt ≤ manifest'.sourceCheckedAt)
      (.initial [season2526] [2025] [(2025, 1)]) (lateDelivery ++ [.activatePointer 0]) := by
  intro h
  obtain ⟨-, hlast, -⟩ := (everyStep_append _ _ _).mp h
  let manifest (snapshot : StagedLiveSnapshot) : DataPublicationManifest :=
    (snapshot.delivery pollHost.toHostFunctions season2526 1).manifest
  let early := manifest ⟨1, emptyLiveFetch 1755345600000 (by decide), contextId 1, 1⟩
  let late := manifest ⟨2, emptyLiveFetch 1755345660000 (by decide), contextId 2, 2⟩
  have hpointed := hlast 0 rfl early (by decide +kernel)
  rcases hpointed with hpointed | hactive
  · exact absurd hpointed (by decide +kernel)
  · exact absurd (hactive late (by decide +kernel)) (by decide +kernel)

end Examples

end LetletmeData
