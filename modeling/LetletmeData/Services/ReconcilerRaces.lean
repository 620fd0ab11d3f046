import LetletmeData.Repositories.PublicationOrigins
import LetletmeData.Services.DataPublicationReconciler

/-!
# Reconcilers that race with publications

A reconciler reads the active row before the pointer, and swaps against the pointer it read. If a
newer publication is activated and delivered between the two reads, the swap moves the pointer
from the publication that is active in the database to one that is retired. Otherwise what it
swaps from is no newer than the row it read, so it never is the active publication of a later
time.
-/

namespace LetletmeData

open LetletmeData.Library

/-- The identifier and revision a manifest names. -/
def DataPublicationManifest.version (manifest : DataPublicationManifest) : ℕ × ℕ :=
  (manifest.publicationId, manifest.revision)

/-- The identifier and revision of a publication that was found. -/
def PreparedDatasetPublication.version (found : PreparedDatasetPublication) : ℕ × ℕ :=
  (found.publicationId, found.revision)

/-- Every row, receipt and pointer carries a version that was drawn, and no identifier was drawn
twice. -/
structure VersionsDrawn (drawn : List (ℕ × ℕ)) (stores : PublicationStores) : Prop where
  distinct : (drawn.map Prod.fst).Nodup
  wellFormed : stores.db.WellFormed
  rows : ∀ id row, stores.db.publications.find id = some row → (id, row.revision) ∈ drawn
  active : ∀ id row, stores.db.publications.find id = some row → row.status = .active →
    ∃ manifest ∈ row.manifest, manifest.version = (id, row.revision)
  receipts : ∀ id receipt, stores.db.outbox.find id = some receipt →
    receipt.manifest.version ∈ drawn
  pointers : ∀ scope manifest, stores.redis.pointers scope = some (.manifest manifest) →
    manifest.version ∈ drawn

/-- The publication was active in the scope: it still is, or gave way to a higher revision. -/
structure WasActive (drawn : List (ℕ × ℕ)) (db : Database) (scope : PublicationScope)
    (found : PreparedDatasetPublication) : Prop where
  drawn : found.version ∈ drawn
  shown : ∃ version ∈ db.activeVersion scope,
    version = found.version ∨ found.revision < version.2
  manifest : ∀ row, db.publications.find found.publicationId = some row →
    ∃ manifest ∈ row.manifest, manifest.version = found.version

section Versions

variable {drawn : List (ℕ × ℕ)} {stores : PublicationStores}

/-- An identifier was drawn with one revision. -/
theorem VersionsDrawn.version_eq (h : VersionsDrawn drawn stores) {version version' : ℕ × ℕ}
    (hmem : version ∈ drawn) (hmem' : version' ∈ drawn) (hid : version.1 = version'.1) :
    version = version' :=
  List.inj_on_of_nodup_map h.distinct hmem hmem' hid

/-- An activation that is allowed names the version of its row. -/
theorem ActivationAllowed.version_eq {db : Database} {input : ActivatePublicationInput}
    {target : DatasetPublication} {run : SyncRun} (h : ActivationAllowed input db target run) :
    input.manifest.version = (input.publicationId, target.revision) :=
  Prod.ext h.manifest_matches.1 h.manifest_matches.2.2.2.2

/-- The row under an identifier after an activation names the version of its target. -/
theorem manifest_activatedRow (now : ℕ) (input : ActivatePublicationInput)
    (row : DatasetPublication) :
    (activatedRow now input input.publicationId row).manifest = some input.manifest := by
  simp [activatedRow]

/-- A call keeps the versions, a preparation adding its own. -/
theorem VersionsDrawn.call (h : VersionsDrawn drawn stores) (host : HostFunctions)
    (call : DatabaseCall) {drawn' : List (ℕ × ℕ)} (hdistinct : (drawn'.map Prod.fst).Nodup)
    (hdrawn : ∀ version ∈ drawn, version ∈ drawn')
    (hprepared : ∀ now input, call = .preparePublication now input →
      (input.publicationId, stores.db.nextRevision) ∈ drawn') :
    VersionsDrawn drawn' (stores.call host call) := by
  have horigin := Originates.databaseStep host stores.db call
  refine ⟨hdistinct, (h.wellFormed.step host call).wellFormed, ?_, ?_, ?_, ?_⟩
  · intro id row' hrow'
    cases horigin.rows id row' hrow' with
    | lasted row hfind hlasts => exact hlasts.revision_eq ▸ hdrawn _ (h.rows id row hfind)
    | prepared now input hcall hid hrow =>
      rw [hid, hrow]
      exact hprepared now input hcall
    | activated now input target run hcall hid hallowed hrow =>
      rw [hid, hrow, revision_activatedRow]
      exact hdrawn _ (h.rows _ target hallowed.target_found)
  · intro id row' hrow' hactive
    cases horigin.rows id row' hrow' with
    | lasted row hfind hlasts =>
      have hwas : row.status = .active := by
        rcases hlasts.status with hsame | hclosed
        · exact hsame.symm.trans hactive
        · rw [hactive] at hclosed
          exact absurd hclosed (by decide)
      obtain ⟨manifest, hmanifest, hversion⟩ := h.active id row hfind hwas
      exact ⟨manifest, hlasts.manifest_eq ▸ hmanifest, hlasts.revision_eq ▸ hversion⟩
    | prepared now input hcall hid hrow =>
      rw [hrow] at hactive
      exact absurd hactive (by simp [stagingRow])
    | activated now input target run hcall hid hallowed hrow =>
      refine ⟨input.manifest, ?_, ?_⟩
      · rw [hrow, hid, manifest_activatedRow]
        rfl
      · rw [hrow, hid, revision_activatedRow]
        exact hallowed.version_eq
  · intro id receipt' hreceipt'
    cases horigin.receipts id receipt' hreceipt' with
    | lasted receipt hfind hlasts => exact hlasts.manifest_eq ▸ hdrawn _ (h.receipts id receipt hfind)
    | inserted now input target run hcall hallowed hreceipt =>
      rw [hreceipt]
      change input.manifest.version ∈ drawn'
      rw [hallowed.version_eq]
      exact hdrawn _ (h.rows _ target hallowed.target_found)
  · exact fun scope manifest hpointer => hdrawn _ (h.pointers scope manifest hpointer)

/-- An operation on a scope leaves its pointer there. -/
theorem pointers_operate (scope : DataPublicationScope) (operation : CacheOperation) :
    (stores.operate scope operation).redis.pointers scope =
      (cacheStep (stores.redis.cache scope) operation).pointer := by
  simp [PublicationStores.operate, RedisKeys.write]

/-- An operation whose candidate was drawn keeps the versions. -/
theorem VersionsDrawn.operate (h : VersionsDrawn drawn stores) (scope : DataPublicationScope)
    {operation : CacheOperation}
    (hcandidate : ∀ candidate, operation.candidate = some candidate →
      candidate.version ∈ drawn) :
    VersionsDrawn drawn (stores.operate scope operation) := by
  refine ⟨h.distinct, h.wellFormed, h.rows, h.active, h.receipts, ?_⟩
  intro other manifest hpointer
  by_cases hother : other = scope
  · subst hother
    have hpointers : ∀ current, (stores.redis.cache other).pointer = some (.manifest current) →
        current.version ∈ drawn := h.pointers other
    exact pointer_kind_cacheStep hpointers hcandidate manifest
      ((pointers_operate other operation).symm.trans hpointer)
  · refine h.pointers other manifest ?_
    simpa [PublicationStores.operate, RedisKeys.write, hother] using hpointer

/-- The row a reconciler finds active. -/
theorem findActivePublication_spec {db : Database} {scope : PublicationScope}
    {found : PreparedDatasetPublication} (h : findActivePublication scope db = some found) :
    db.activeVersion scope = some found.version ∧
      ∃ row, db.publications.find found.publicationId = some row ∧ row.status = .active ∧
        row.revision = found.revision := by
  obtain ⟨entry, hentry, rfl⟩ := Option.map_eq_some_iff.mp h
  obtain ⟨hfind, -, hactive⟩ := Database.mem_activeIn.mp (List.mem_of_head? hentry)
  exact ⟨by simp [Database.activeVersion, hentry, PreparedDatasetPublication.version],
    entry.2, hfind, hactive, rfl⟩

/-- What is found active was active. -/
theorem VersionsDrawn.wasActive (h : VersionsDrawn drawn stores) {scope : PublicationScope}
    {found : PreparedDatasetPublication}
    (hfound : findActivePublication scope stores.db = some found) :
    WasActive drawn stores.db scope found := by
  obtain ⟨hversion, row, hfind, hactive, hrevision⟩ := findActivePublication_spec hfound
  have hsame : (found.publicationId, row.revision) = found.version := Prod.ext rfl hrevision
  refine ⟨?_, ⟨found.version, hversion, .inl rfl⟩, fun row' hrow' => ?_⟩
  · rw [← hsame]
    exact h.rows _ row hfind
  · obtain rfl : row = row' := Option.some.inj (hfind.symm.trans hrow')
    rw [← hsame]
    exact h.active _ row hfind hactive

/-- What was active stays so over every call, its identifier being in use. -/
theorem WasActive.call (hdrawn : VersionsDrawn drawn stores) {scope : PublicationScope}
    {found : PreparedDatasetPublication} (h : WasActive drawn stores.db scope found)
    (host : HostFunctions) (call : DatabaseCall) {drawn' : List (ℕ × ℕ)}
    (hsubset : ∀ version ∈ drawn, version ∈ drawn')
    (hprepared : ∀ now input, call = .preparePublication now input →
      input.publicationId ∉ drawn.map Prod.fst) :
    WasActive drawn' (stores.call host call).db scope found := by
  refine ⟨hsubset _ h.drawn, ?_, fun row' hrow' => ?_⟩
  · obtain ⟨version, hversion, hahead⟩ := h.shown
    obtain ⟨version', hversion', hadvance⟩ :=
      (hdrawn.wellFormed.step host call).follows.active scope version hversion
    refine ⟨version', hversion', ?_⟩
    rcases hadvance with rfl | hadvance
    · exact hahead
    · rcases hahead with rfl | hahead
      · exact .inr hadvance
      · exact .inr (hahead.trans hadvance)
  · cases (Originates.databaseStep host stores.db call).rows _ row' hrow' with
    | lasted row hfind hlasts =>
      obtain ⟨manifest, hmanifest, hversion⟩ := h.manifest row hfind
      exact ⟨manifest, hlasts.manifest_eq ▸ hmanifest, hversion⟩
    | prepared now input hcall hid hrow =>
      exact absurd (List.mem_map.mpr ⟨found.version, h.drawn, hid⟩) (hprepared now input hcall)
    | activated now input target run hcall hid hallowed hrow =>
      refine ⟨input.manifest, ?_, ?_⟩
      · rw [hrow, hid, manifest_activatedRow]
        rfl
      · rw [hallowed.version_eq]
        exact hdrawn.version_eq (hdrawn.rows _ target hallowed.target_found) h.drawn hid.symm

end Versions

/-- What a process may write: a call that prepares nothing, or an operation whose candidate was
drawn. -/
inductive ProcessWrites (host : HostFunctions) (drawn : List (ℕ × ℕ)) (stores : PublicationStores) :
    PublicationStores → Prop where
  | nothing : ProcessWrites host drawn stores stores
  | call (call : DatabaseCall) (hcall : ∀ now input, call ≠ .preparePublication now input) :
    ProcessWrites host drawn stores (stores.call host call)
  | operate (scope : DataPublicationScope) (operation : CacheOperation)
      (hcandidate : ∀ candidate, operation.candidate = some candidate →
        candidate.version ∈ drawn) :
    ProcessWrites host drawn stores (stores.operate scope operation)

/-- The delivery in a dispatch is of a version that was drawn. -/
def Dispatch.Drawn (drawn : List (ℕ × ℕ)) : Dispatch → Prop
  | .claim => True
  | .deliver row _ => row.delivery.manifest.version ∈ drawn

/-- What a reconciler has read: a row that was active, and a pointer that was not ahead of it. -/
structure SoundView (drawn : List (ℕ × ℕ)) (db : Database) (scope : PublicationScope)
    (found : PreparedDatasetPublication) (redisActive : Option DataPublicationManifest) : Prop where
  wasActive : WasActive drawn db scope found
  drawn : ∀ active ∈ redisActive, active.version ∈ drawn
  not_ahead : ∀ active ∈ redisActive, active.revision ≤ found.revision

/-- A repair installs the row it has read, over a pointer that names another version. -/
structure SoundRepair (drawn : List (ℕ × ℕ)) (db : Database) (scope : PublicationScope)
    (found : PreparedDatasetPublication) (redisActive : Option DataPublicationManifest)
    (canonical : DataPublicationManifest) : Prop where
  view : SoundView drawn db scope found redisActive
  version_eq : canonical.version = found.version
  differs : ¬ MatchesRedis redisActive canonical

/-- What holds of a reconciler by its phase. -/
def ReconcilerPhase.Sound (drawn : List (ℕ × ℕ)) (db : Database) (scope : PublicationScope) :
    ReconcilerPhase → Prop
  | .findActive => True
  | .readPointer dbActive => ∀ found ∈ dbActive, WasActive drawn db scope found
  | .readItems dbActive manifest =>
    ∀ found ∈ dbActive, SoundView drawn db scope found (some manifest)
  | .findStaging view | .loadStaging view _ _ | .stageStaging view _ _ _
  | .activateStaging view _ _ _ =>
    ∀ found ∈ view.dbActive, SoundView drawn db scope found view.redisActive
  | .dispatchStaging _ dispatch => dispatch.Drawn drawn
  | .loadCanonical found redisActive => SoundView drawn db scope found redisActive
  | .dispatchCanonical found redisActive canonical dispatch =>
    SoundRepair drawn db scope found redisActive canonical.manifest ∧ dispatch.Drawn drawn
  | .stageCanonical found redisActive canonical =>
    SoundRepair drawn db scope found redisActive canonical.manifest
  | .repairPointer found redisActive canonical =>
    SoundRepair drawn db scope found redisActive canonical
  | .markReconciled _ | .returned _ | .threw => True

section Processes

variable {host : HostFunctions} {drawn drawn' : List (ℕ × ℕ)} {stores stores' : PublicationStores}
  {db db' : Database} {scope : PublicationScope}

/-- Writes of a process keep the versions. -/
theorem VersionsDrawn.writes (h : VersionsDrawn drawn stores)
    (hwrites : ProcessWrites host drawn stores stores') : VersionsDrawn drawn stores' := by
  cases hwrites with
  | nothing => exact h
  | call call hcall =>
    exact h.call host call h.distinct (fun _ hmem => hmem) fun now input heq =>
      absurd heq (hcall now input)
  | operate scope operation hcandidate => exact h.operate scope hcandidate

/-- Writes of a process leave what was active. -/
theorem WasActive.writes (hdrawn : VersionsDrawn drawn stores)
    (hwrites : ProcessWrites host drawn stores stores') (scope : PublicationScope)
    (found : PreparedDatasetPublication) (h : WasActive drawn stores.db scope found) :
    WasActive drawn stores'.db scope found := by
  cases hwrites with
  | nothing => exact h
  | call call hcall =>
    exact h.call hdrawn host call (fun _ hmem => hmem) fun now input heq =>
      absurd heq (hcall now input)
  | operate scope operation hcandidate => exact h

/-- A reconciler stays sound while what was active stays so. -/
theorem ReconcilerPhase.Sound.mono {phase : ReconcilerPhase} (h : phase.Sound drawn db scope)
    (hdrawn : ∀ version ∈ drawn, version ∈ drawn')
    (hactive : ∀ found, WasActive drawn db scope found → WasActive drawn' db' scope found) :
    phase.Sound drawn' db' scope := by
  have hview : ∀ found redisActive, SoundView drawn db scope found redisActive →
      SoundView drawn' db' scope found redisActive :=
    fun found redisActive hview => ⟨hactive found hview.wasActive,
      fun active hmem => hdrawn _ (hview.drawn active hmem), hview.not_ahead⟩
  have hdispatch : ∀ dispatch : Dispatch, dispatch.Drawn drawn → dispatch.Drawn drawn' := by
    intro dispatch hdispatch
    cases dispatch with
    | claim => trivial
    | deliver row phase => exact hdrawn _ hdispatch
  have hrepair : ∀ found redisActive canonical,
      SoundRepair drawn db scope found redisActive canonical →
        SoundRepair drawn' db' scope found redisActive canonical :=
    fun found redisActive canonical hrepair =>
      ⟨hview _ _ hrepair.view, hrepair.version_eq, hrepair.differs⟩
  cases phase with
  | findActive | markReconciled | returned | threw => trivial
  | readPointer => exact fun found hfound => hactive found (h found hfound)
  | readItems | findStaging | loadStaging | stageStaging | activateStaging =>
    exact fun found hfound => hview _ _ (h found hfound)
  | dispatchStaging => exact hdispatch _ h
  | loadCanonical => exact hview _ _ h
  | dispatchCanonical => exact ⟨hrepair _ _ _ h.1, hdispatch _ h.2⟩
  | stageCanonical | repairPointer => exact hrepair _ _ _ h

/-- The delivery of a drawn version writes as a process. -/
theorem deliveryPhaseStep_writes (draw : StepDraw) {row : ClaimedDataPublicationOutbox}
    (hrow : row.delivery.manifest.version ∈ drawn) (phase : DeliveryPhase) :
    ProcessWrites host drawn stores (deliveryPhaseStep host draw row stores phase).1 := by
  cases phase with
  | stage => exact .operate _ _ (fun _ h => nomatch h)
  | activate =>
    refine .operate _ _ fun candidate hcandidate => ?_
    obtain rfl := Option.some.inj hcandidate
    exact hrow
  | markStaged | markRedisActivated | markDelivered | fail | release =>
    exact .call _ (fun _ _ h => nomatch h)
  | settled => exact .nothing

/-- A claim loads versions that were drawn. -/
theorem VersionsDrawn.claimed (h : VersionsDrawn drawn stores) {dbNow owner : ℕ}
    {limit leaseMs publicationId : Option ℕ} {written : Database}
    {rows : List ClaimedDataPublicationOutbox}
    (hclaim : claimDataPublicationOutbox host dbNow owner limit leaseMs publicationId stores.db =
      .ok (written, rows)) {row : ClaimedDataPublicationOutbox} (hrow : row ∈ rows) :
    row.delivery.manifest.version ∈ drawn := by
  obtain ⟨-, hbatch, -⟩ := claimDataPublicationOutbox_eq_ok.mp hclaim
  obtain ⟨entry, hentry, hloaded⟩ := exists_of_mem_of_forall₂ hbatch hrow
  obtain ⟨delivery, hdelivery, rfl⟩ := claimReceipt_eq_ok.mp hloaded
  have hdue := KeyedTable.mem_selectSorted.mp (List.mem_of_mem_take hentry)
  rw [manifest_of_loadPreparedPublication hdelivery]
  exact h.receipts entry.1 entry.2 hdue.1

/-- A dispatch of drawn versions writes as a process and goes on with drawn versions. -/
theorem dispatchStep_spec (h : VersionsDrawn drawn stores) (draw : StepDraw) (publicationId : ℕ)
    {dispatch : Dispatch} (hdispatch : dispatch.Drawn drawn) :
    ProcessWrites host drawn stores (dispatchStep host draw publicationId stores dispatch).1 ∧
      ∀ next, (dispatchStep host draw publicationId stores dispatch).2 = .running next →
        next.Drawn drawn := by
  cases dispatch with
  | claim =>
    refine ⟨.call _ (fun _ _ h => nomatch h), fun next hnext => ?_⟩
    simp only [dispatchStep] at hnext
    split at hnext
    next written row rows hclaim =>
      cases hnext
      exact h.claimed hclaim List.mem_cons_self
    · cases hnext
    · cases hnext
  | deliver row phase =>
    refine ⟨deliveryPhaseStep_writes draw hdispatch phase, fun next hnext => ?_⟩
    simp only [dispatchStep] at hnext
    split at hnext
    · cases hnext
    · cases hnext
      exact hdispatch

/-- The pointer is about to be read, and is ahead of the row that was read. -/
def ReconcilerPhase.ReadsAhead (cache : PublicationCache) : ReconcilerPhase → Prop
  | .readPointer (some found) =>
    ∃ manifest ∈ cache.activeManifest, found.revision < manifest.revision
  | _ => False

instance (cache : PublicationCache) :
    ∀ phase : ReconcilerPhase, Decidable (phase.ReadsAhead cache)
  | .readPointer (some found) =>
    inferInstanceAs (Decidable (∃ manifest ∈ cache.activeManifest,
      found.revision < manifest.revision))
  | .findActive | .readPointer none | .readItems .. | .findStaging _ | .loadStaging ..
  | .stageStaging .. | .activateStaging .. | .dispatchStaging .. | .loadCanonical ..
  | .dispatchCanonical .. | .stageCanonical .. | .repairPointer .. | .markReconciled _
  | .returned _ | .threw => inferInstanceAs (Decidable False)

/-- A reconciler writes as a process. -/
theorem reconcileStep_writes (h : VersionsDrawn drawn stores) (draw : StepDraw)
    (redisScope : DataPublicationScope) (season : FplSeasonRef) {phase : ReconcilerPhase}
    (hphase : phase.Sound drawn stores.db scope) :
    ProcessWrites host drawn stores (reconcileStep host draw redisScope season stores phase).1 := by
  cases phase with
  | findActive | readPointer | readItems | findStaging | loadStaging | loadCanonical | returned
  | threw => exact .nothing
  | stageStaging | stageCanonical => exact .operate _ _ (fun _ h => nomatch h)
  | activateStaging | markReconciled => exact .call _ (fun _ _ h => nomatch h)
  | dispatchStaging stagingId dispatch => exact (dispatchStep_spec h draw stagingId hphase).1
  | dispatchCanonical found redisActive canonical dispatch =>
    exact (dispatchStep_spec h draw found.publicationId hphase.2).1
  | repairPointer found redisActive canonical =>
    have hdrawn : canonical.version ∈ drawn := hphase.version_eq ▸ hphase.view.wasActive.drawn
    cases redisActive <;>
    · refine .operate _ _ fun candidate hcandidate => ?_
      obtain rfl := Option.some.inj hcandidate
      exact hdrawn

/-- After the staging publication a sound reconciler goes on with its view. -/
theorem ReconcilerView.afterStaging_sound {view : ReconcilerView}
    (h : ∀ found ∈ view.dbActive, SoundView drawn db scope found view.redisActive) :
    view.afterStaging.Sound drawn db scope := by
  unfold ReconcilerView.afterStaging
  split
  · trivial
  next found hfound => exact h found hfound

/-- A publication that was active is loaded under its version. -/
theorem WasActive.loaded {found : PreparedDatasetPublication} {canonical : PreparedDelivery}
    (h : WasActive drawn db scope found)
    (hloaded : loadDataPublicationDelivery host found.publicationId db = .ok canonical) :
    canonical.manifest.version = found.version := by
  obtain ⟨row, hrow, hprepared⟩ := orThrow_bind_eq_ok.mp hloaded
  obtain ⟨manifest, hmanifest, hversion⟩ := h.manifest row hrow
  rw [Option.mem_def.mp hmanifest] at hprepared
  rw [manifest_of_loadPreparedPublication hprepared, hversion]

/-- A reconciler that does not read ahead stays sound. -/
theorem reconcileStep_sound (h : VersionsDrawn drawn stores) (host : HostFunctions) (draw : StepDraw)
    (redisScope : DataPublicationScope) (season : FplSeasonRef) {phase : ReconcilerPhase}
    (hphase : phase.Sound drawn stores.db
      (publicationScope redisScope.dataset season redisScope.eventId))
    (hahead : ¬ phase.ReadsAhead (stores.redis.cache redisScope)) :
    (reconcileStep host draw redisScope season stores phase).2.Sound drawn stores.db
      (publicationScope redisScope.dataset season redisScope.eventId) := by
  cases phase with
  | findActive => exact fun found hfound => h.wasActive hfound
  | readPointer dbActive =>
    simp only [reconcileStep]
    split
    next manifest hread =>
      have hpointer := pointer_of_readPointer hread
      intro found hfound
      obtain rfl := Option.mem_def.mp hfound
      refine ⟨hphase found rfl, fun active hactive => ?_, fun active hactive => ?_⟩ <;>
        obtain rfl := Option.mem_some_iff.mp hactive
      · exact h.pointers redisScope _ hpointer
      · exact not_lt.mp fun hlt => hahead
          ⟨_, PublicationCache.mem_activeManifest.mpr hpointer, hlt⟩
    · exact fun found hfound => ⟨hphase found hfound, nofun, nofun⟩
  | readItems dbActive manifest =>
    intro found hfound
    have hview := hphase found hfound
    have hread : ∀ active, readItems host manifest (stores.redis.cache redisScope) = some active →
        active ∈ some manifest := by
      intro active hactive
      unfold readItems at hactive
      split at hactive
      · exact hactive
      · cases hactive
    exact ⟨hview.wasActive, fun active hactive => hview.drawn active (hread active hactive),
      fun active hactive => hview.not_ahead active (hread active hactive)⟩
  | findStaging view =>
    simp only [reconcileStep]
    split
    · exact hphase
    · exact ReconcilerView.afterStaging_sound hphase
  | loadStaging view stagingId sourceRunId =>
    simp only [reconcileStep]
    split
    · exact hphase
    · exact ReconcilerView.afterStaging_sound hphase
  | stageStaging view stagingId sourceRunId prepared =>
    simp only [reconcileStep]
    split
    · exact hphase
    · exact ReconcilerView.afterStaging_sound hphase
  | activateStaging view stagingId sourceRunId manifest =>
    simp only [reconcileStep]
    split
    · trivial
    · exact ReconcilerView.afterStaging_sound hphase
  | dispatchStaging stagingId dispatch =>
    simp only [reconcileStep]
    split
    next next hnext => exact (dispatchStep_spec h draw stagingId hphase).2 next hnext
    · trivial
    · trivial
  | loadCanonical found redisActive =>
    simp only [reconcileStep]
    split
    next canonical hloaded =>
      split
      · trivial
      next hdiffers => exact ⟨⟨hphase, hphase.wasActive.loaded hloaded, hdiffers⟩, trivial⟩
    · trivial
  | dispatchCanonical found redisActive canonical dispatch =>
    simp only [reconcileStep]
    split
    next next hnext =>
      exact ⟨hphase.1, (dispatchStep_spec h draw found.publicationId hphase.2).2 next hnext⟩
    · split
      · trivial
      · exact hphase.1
    · trivial
  | stageCanonical found redisActive canonical =>
    simp only [reconcileStep]
    split
    · exact hphase
    · trivial
  | repairPointer found redisActive canonical =>
    cases redisActive <;>
    · simp only [reconcileStep]
      split <;> trivial
  | markReconciled | returned | threw => trivial

end Processes

/-- The publications a reconciler is about, in the database. -/
def Reconciler.publicationScope (reconciler : Reconciler) : PublicationScope :=
  LetletmeData.publicationScope reconciler.scope.dataset reconciler.season
    reconciler.scope.eventId

namespace ReconcilingWorld

/-- What the stores hold and the processes remember was drawn, and the reconcilers are sound. -/
structure Sound (world : ReconcilingWorld) : Prop where
  stores : VersionsDrawn world.drawn world.stores
  deliveries : ∀ delivery ∈ world.deliveries,
    delivery.1.delivery.manifest.version ∈ world.drawn
  heartbeats : ∀ heartbeat ∈ world.heartbeats, heartbeat.2.version ∈ world.drawn
  reconcilers : ∀ reconciler ∈ world.reconcilers,
    reconciler.phase.Sound world.drawn world.stores.db reconciler.publicationScope

variable {host : HostFunctions} {world : ReconcilingWorld}

/-- Nothing is drawn at first. -/
theorem Sound.initial (seasons : List ℕ) (events : List (ℕ × ℕ)) :
    (ReconcilingWorld.initial seasons events).Sound where
  stores :=
    { distinct := List.nodup_nil
      wellFormed := .initial seasons events
      rows := fun _ _ hfind => nomatch hfind
      active := fun _ _ hfind => nomatch hfind
      receipts := fun _ _ hfind => nomatch hfind
      pointers := fun _ _ hpointer => nomatch hpointer }
  deliveries := fun _ hmem => nomatch hmem
  heartbeats := fun _ hmem => nomatch hmem
  reconcilers := fun _ hmem => nomatch hmem

/-- Writes of a process keep the world sound. -/
theorem Sound.writes (h : world.Sound) (host : HostFunctions) {stores' : PublicationStores}
    (hwrites : ProcessWrites host world.drawn world.stores stores') :
    ({ world with stores := stores' } : ReconcilingWorld).Sound where
  stores := h.stores.writes hwrites
  deliveries := h.deliveries
  heartbeats := h.heartbeats
  reconcilers := fun reconciler hmem => (h.reconcilers reconciler hmem).mono (fun _ hmem => hmem)
    fun found => WasActive.writes h.stores hwrites _ found

/-- A call on the tables keeps the world sound. -/
theorem Sound.call (h : world.Sound) (call : DatabaseCall) : (world.call host call).Sound := by
  by_cases hprepare : ∃ now input, call = .preparePublication now input
  · obtain ⟨now, input, rfl⟩ := hprepare
    simp only [ReconcilingWorld.call]
    split
    · exact h
    next hfresh =>
      have hdrawn : ∀ version ∈ world.drawn,
          version ∈ world.drawn ++ [(input.publicationId, world.stores.db.nextRevision)] :=
        fun version hmem => List.mem_append_left _ hmem
      have hdistinct : ((world.drawn ++
          [(input.publicationId, world.stores.db.nextRevision)]).map Prod.fst).Nodup := by
        rw [List.map_append, List.nodup_append']
        exact ⟨h.stores.distinct, List.nodup_singleton _, by simpa using hfresh⟩
      refine ⟨?_, fun delivery hmem => hdrawn _ (h.deliveries delivery hmem),
        fun heartbeat hmem => hdrawn _ (h.heartbeats heartbeat hmem), fun reconciler hmem => ?_⟩
      · refine h.stores.call host _ hdistinct hdrawn fun now' input' heq => ?_
        cases heq
        simp
      · refine (h.reconcilers reconciler hmem).mono hdrawn fun found hfound => ?_
        refine hfound.call h.stores host _ hdrawn fun now' input' heq => ?_
        cases heq
        exact hfresh
  · have hcall : ∀ now input, call ≠ .preparePublication now input :=
      fun now input heq => hprepare ⟨now, input, heq⟩
    have hwrites := h.writes host (.call call hcall)
    cases call <;> first | exact hwrites | exact absurd rfl (hcall _ _)

/-- No reconciler is about to read a pointer ahead of the row it has read. -/
def ReadsAhead (world : ReconcilingWorld) : ReconcilingAction → Prop
  | .reconcile index _ => ∃ reconciler ∈ world.reconcilers[index]?,
    reconciler.phase.ReadsAhead (world.stores.redis.cache reconciler.scope)
  | _ => False

instance (world : ReconcilingWorld) : ∀ action, Decidable (world.ReadsAhead action)
  | .reconcile index _ => inferInstanceAs (Decidable (∃ reconciler ∈ world.reconcilers[index]?,
      reconciler.phase.ReadsAhead (world.stores.redis.cache reconciler.scope)))
  | .call _ | .claim .. | .deliver .. | .readPublished _ | .refreshHeartbeat .. | .retire _
  | .expire .. | .startReconciler .. => inferInstanceAs (Decidable False)

/-- A step that does not read ahead keeps the world sound. -/
theorem Sound.step (h : world.Sound) {action : ReconcilingAction}
    (hahead : ¬ world.ReadsAhead action) : (reconcilingStep host world action).Sound := by
  cases action with
  | call call => exact h.call call
  | claim dbNow owner limit leaseMs publicationId =>
    simp only [reconcilingStep, ReconcilingWorld.claim]
    split
    next written rows hclaim =>
      have hworld := h.writes host
        (.call (.claimOutbox dbNow owner limit leaseMs publicationId) fun _ _ h => nomatch h)
      refine ⟨hworld.stores, fun delivery hmem => ?_, hworld.heartbeats, hworld.reconcilers⟩
      rcases List.mem_append.mp hmem with hold | hnew
      · exact h.deliveries delivery hold
      · obtain ⟨row, hrow, rfl⟩ := List.mem_map.mp hnew
        exact h.stores.claimed hclaim hrow
    · exact h
  | deliver index draw =>
    simp only [reconcilingStep]
    split
    next row phase hdelivery =>
      have hrow := h.deliveries _ (List.mem_of_getElem? hdelivery)
      have hworld := h.writes host (deliveryPhaseStep_writes draw hrow phase)
      refine ⟨hworld.stores, fun delivery hmem => ?_, hworld.heartbeats, hworld.reconcilers⟩
      rcases List.mem_or_eq_of_mem_set hmem with hold | rfl
      · exact h.deliveries delivery hold
      · exact hrow
    · exact h
  | readPublished scope =>
    refine ⟨h.stores, h.deliveries, fun heartbeat hmem => ?_, h.reconcilers⟩
    rcases List.mem_append.mp hmem with hold | hnew
    · exact h.heartbeats heartbeat hold
    · obtain ⟨manifest, hread, rfl⟩ := Option.map_eq_some_iff.mp (Option.mem_toList.mp hnew)
      exact h.stores.pointers scope manifest (pointer_of_readPointer hread)
  | refreshHeartbeat reader lastSuccessfulFetchAt =>
    simp only [reconcilingStep]
    split
    next scope active hheartbeat =>
      refine h.writes host (.operate _ _ fun candidate hcandidate => ?_)
      obtain rfl := Option.some.inj hcandidate
      exact h.heartbeats _ (List.mem_of_getElem? hheartbeat)
    · exact h
  | retire scope => exact h.writes host (.operate scope .retire fun _ h => nomatch h)
  | expire scope key => exact h.writes host (.operate scope (.expire key) fun _ h => nomatch h)
  | startReconciler scope season =>
    refine ⟨h.stores, h.deliveries, h.heartbeats, fun reconciler hmem => ?_⟩
    rcases List.mem_append.mp hmem with hold | hnew
    · exact h.reconcilers reconciler hold
    · obtain rfl := List.mem_singleton.mp hnew
      trivial
  | reconcile index draw =>
    simp only [reconcilingStep]
    split
    next reconciler hreconciler =>
      have hphase := h.reconcilers reconciler (List.mem_of_getElem? hreconciler)
      have hwrites : ProcessWrites host world.drawn world.stores _ :=
        reconcileStep_writes h.stores draw reconciler.scope reconciler.season hphase
      have hworld := h.writes host hwrites
      refine ⟨hworld.stores, hworld.deliveries, hworld.heartbeats, fun other hmem => ?_⟩
      rcases List.mem_or_eq_of_mem_set hmem with hold | rfl
      · exact hworld.reconcilers other hold
      · have hnext := reconcileStep_sound h.stores host draw reconciler.scope
          reconciler.season hphase fun hreads => hahead ⟨reconciler, hreconciler, hreads⟩
        exact hnext.mono (fun _ hmem => hmem) fun found =>
          WasActive.writes h.stores hwrites _ found
    · exact h

end ReconcilingWorld

/-- The manifest names the publication that is active in the scope. -/
def NamesActive (db : Database) (scope : PublicationScope) (manifest : DataPublicationManifest) :
    Prop :=
  ∃ found ∈ findActivePublication scope db, found.publicationId = manifest.publicationId

instance (db : Database) (scope : PublicationScope) (manifest : DataPublicationManifest) :
    Decidable (NamesActive db scope manifest) :=
  inferInstanceAs (Decidable (∃ found ∈ findActivePublication scope db, _))

/-- The next step is the compare-and-swap. -/
def ReconcilerPhase.Swaps : ReconcilerPhase → Bool
  | .repairPointer _ (some _) _ => true
  | _ => false

/-- The step is a compare-and-swap of a reconciler that replaces a pointer to the active
publication by one to a publication that is not active. -/
def SwapsBehind (host : HostFunctions) (world : ReconcilingWorld) : ReconcilingAction → Prop
  | .reconcile index draw => ∃ reconciler ∈ world.reconcilers[index]?,
    reconciler.phase.Swaps = true ∧
      (∃ current ∈ (world.stores.redis.cache reconciler.scope).activeManifest,
        NamesActive world.stores.db reconciler.publicationScope current) ∧
      ∃ replaced ∈ ((reconcilingStep host world (.reconcile index draw)).stores.redis.cache
          reconciler.scope).activeManifest,
        ¬ NamesActive world.stores.db reconciler.publicationScope replaced
  | _ => False

instance (host : HostFunctions) (world : ReconcilingWorld) :
    ∀ action, Decidable (SwapsBehind host world action)
  | .reconcile index draw => inferInstanceAs (Decidable (∃ reconciler ∈ world.reconcilers[index]?,
      reconciler.phase.Swaps = true ∧
        (∃ current ∈ (world.stores.redis.cache reconciler.scope).activeManifest,
          NamesActive world.stores.db reconciler.publicationScope current) ∧
        ∃ replaced ∈ ((reconcilingStep host world (.reconcile index draw)).stores.redis.cache
            reconciler.scope).activeManifest,
          ¬ NamesActive world.stores.db reconciler.publicationScope replaced))
  | .call _ | .claim .. | .deliver .. | .readPublished _ | .refreshHeartbeat .. | .retire _
  | .expire .. | .startReconciler .. => inferInstanceAs (Decidable False)

/-- A sound reconciler never replaces a pointer to the active publication. -/
theorem SoundRepair.expected_ne {drawn : List (ℕ × ℕ)} {stores : PublicationStores}
    {scope : PublicationScope} {found : PreparedDatasetPublication}
    {active canonical current : DataPublicationManifest}
    (h : SoundRepair drawn stores.db scope found (some active) canonical)
    (hstores : VersionsDrawn drawn stores)
    (hnames : NamesActive stores.db scope current) :
    current.publicationId ≠ active.publicationId := by
  intro hid
  obtain ⟨shown, hshown, hshownId⟩ := hnames
  obtain ⟨hversion, row, hfind, -, hrevision⟩ := findActivePublication_spec hshown
  have hshownDrawn : shown.version ∈ drawn := (hstores.wasActive hshown).drawn
  have hactive : active.version = shown.version :=
    hstores.version_eq (h.view.drawn active rfl) hshownDrawn (hid.symm.trans hshownId.symm)
  obtain ⟨version, hmem, hahead⟩ := h.view.wasActive.shown
  obtain rfl : shown.version = version := Option.some.inj (hversion.symm.trans hmem)
  rcases hahead with hsame | hahead
  · -- the active publication is the one that was read: the two stores match
    have hmatches : active.version = canonical.version :=
      hactive.trans (hsame.trans h.version_eq.symm)
    exact h.differs ⟨active, rfl, congrArg Prod.fst hmatches, congrArg Prod.snd hmatches⟩
  · -- the active publication is newer, but the pointer that was read was not
    have hnewer : found.revision < active.revision := by
      rw [show active.revision = shown.revision from congrArg Prod.snd hactive]
      exact hahead
    exact absurd (h.view.not_ahead active rfl) (not_le.mpr hnewer)

/-- In a sound world no reconciler swaps behind the database. -/
theorem ReconcilingWorld.Sound.not_swapsBehind {host : HostFunctions} {world : ReconcilingWorld}
    (h : world.Sound) (action : ReconcilingAction) : ¬ SwapsBehind host world action := by
  cases action with
  | reconcile index draw =>
    rintro ⟨reconciler, hreconciler, hswaps, ⟨current, hcurrent, hnames⟩, replaced, hreplaced, hnot⟩
    have hsound := h.reconcilers reconciler (List.mem_of_getElem? hreconciler)
    simp only [reconcilingStep, Option.mem_def.mp hreconciler] at hreplaced
    cases hphase : reconciler.phase with
    | repairPointer found redisActive canonical =>
      rw [hphase] at hswaps hsound hreplaced
      cases redisActive with
      | none => cases hswaps
      | some active =>
        have hpointer := PublicationCache.mem_activeManifest.mp hcurrent
        have hid := hsound.expected_ne h.stores hnames
        have hother : ∀ other, world.stores.redis.pointers reconciler.scope =
            some (.manifest other) → other.publicationId ≠ active.publicationId := by
          intro other hother
          obtain rfl : current = other := by simpa using hpointer.symm.trans hother
          exact hid
        have hreplaced' : (world.stores.operate reconciler.scope
            (.compareAndSwap active.publicationId (some canonical))).redis.pointers
              reconciler.scope = some (.manifest replaced) :=
          PublicationCache.mem_activeManifest.mp hreplaced
        rw [pointers_operate, cacheStep, swap_of_not_expected (some canonical) hother] at hreplaced'
        obtain rfl : current = replaced := by simpa using hpointer.symm.trans hreplaced'
        exact hnot hnames
    | _ =>
      rw [hphase] at hswaps
      cases hswaps
  | _ => exact id

/-- In every run in which no reconciler reads a pointer ahead of the row it has read, none swaps
a pointer to the active publication for one to a publication that is not active. -/
theorem reconcilers_swap_ahead (host : HostFunctions) (seasons : List ℕ) (events : List (ℕ × ℕ))
    (actions : List ReconcilingAction)
    (h : EveryStep (reconcilingStep host) (fun world action => ¬ world.ReadsAhead action)
      (.initial seasons events) actions) :
    EveryStep (reconcilingStep host) (fun world action => ¬ SwapsBehind host world action)
      (.initial seasons events) actions :=
  EveryStep.of_guard
    (fun _ _ (hsound : ReconcilingWorld.Sound _) hahead => hsound.step hahead)
    (fun _ action (hsound : ReconcilingWorld.Sound _) _ => hsound.not_swapsBehind action)
    (.initial seasons events) h

section Examples

/-- The keys of the market contexts of a season. -/
def marketScope : DataPublicationScope :=
  { dataset := .market, seasonCode := season2526.seasonCode, eventId := none }

/-- The values that the steps below draw. -/
def firstDraw : StepDraw := { now := 0, owner := 9, outboxId := 9 }

/-- An empty context becomes active in the database. -/
def activatedContext (n : ℕ) : List ReconcilingAction :=
  let activation : DatabaseCall :=
    .activatePublication 0 (activateContext (contextId n) n n (some n))
  (stageContext (contextId n) n ++ [activation]).map .call

/-- A dispatcher of its own delivers it. -/
def deliveredContext (n delivery : ℕ) : List ReconcilingAction :=
  .claim 0 n none none (some (contextId n)) ::
    List.replicate 5 (.deliver delivery { now := 0, owner := n, outboxId := n })

/-- A reconciler reads the first context in the database; before it reads Redis, the second one
is activated and delivered. -/
def overtakenReconciler : List ReconcilingAction :=
  activatedContext 1 ++ deliveredContext 1 0 ++
    [.startReconciler marketScope season2526, .reconcile 0 firstDraw] ++
    activatedContext 2 ++ deliveredContext 2 1 ++ List.replicate 6 (.reconcile 0 firstDraw)

/-- Its swap points Redis back to the first context. -/
theorem overtaken_reconciler_swaps_behind :
    ¬ EveryStep (reconcilingStep contextHost)
      (fun world action => ¬ SwapsBehind contextHost world action) (.initial [2025] [])
      (overtakenReconciler ++ [.reconcile 0 firstDraw]) := by
  intro h
  have hlast := ((everyStep_append _ _ _).mp h).2.1
  exact hlast (by decide +kernel)

/-- The second context is activated and its delivery stalls after the claim; a reconciler then
finds the first one in Redis and swaps it. -/
def stalledDelivery : List ReconcilingAction :=
  activatedContext 1 ++ deliveredContext 1 0 ++ activatedContext 2 ++
    [.claim 0 2 none none (some (contextId 2)), .startReconciler marketScope season2526] ++
    List.replicate 8 (.reconcile 0 firstDraw)

/-- The repair of the stalled delivery points Redis ahead. -/
theorem stalled_delivery_repaired :
    EveryStep (reconcilingStep contextHost)
        (fun world action => ¬ SwapsBehind contextHost world action) (.initial [2025] [])
        stalledDelivery ∧
      ((runSteps (reconcilingStep contextHost) (.initial [2025] [])
        stalledDelivery).stores.redis.cache marketScope).activeManifest =
          some (contextManifest (contextId 2) 2) :=
  ⟨reconcilers_swap_ahead contextHost [2025] [] stalledDelivery (by decide +kernel),
    by decide +kernel⟩

end Examples

end LetletmeData
