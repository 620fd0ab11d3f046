import LetletmeData.Library.JsonTexts
import LetletmeData.Library.Runs

/-!
# Identities of endpoints

A manifest configures the stable identity of some endpoints. The row of an endpoint keeps the stable
identity that it has, and conflicts with a manifest that configures another one or changes the
adapter. The row takes over the adapter and the locator of the manifest in any case.
-/

namespace LetletmeData

open LetletmeData.Library

/-- `AdapterKind`. -/
inductive AdapterKind where
  | xAccount
  | xSemantic
  | rssAtom
  | podcastFeed
  | youtubeChannel
  deriving DecidableEq

/-- `identityStatus`. -/
inductive IdentityStatus where
  | pending
  | verified
  | conflict
  | failed
  deriving DecidableEq

/-- `status` of an endpoint in a manifest. -/
inductive DesiredEndpointStatus where
  | active
  | paused
  deriving DecidableEq

/-- `DesiredSourceEndpoint`, as far as the identity and the row depend on it. -/
structure DesiredSourceEndpoint where
  adapterKind : AdapterKind
  profileKey : String
  locator : List (String × String)
  status : DesiredEndpointStatus
  deriving DecidableEq

/-- `EndpointIdentityState`. -/
structure EndpointIdentityState where
  stableExternalId : Option String
  identityStatus : IdentityStatus
  identityErrorSummary : Option String
  identityCheckedAt : Option ℤ
  identityNextCheckAt : Option ℤ
  deriving DecidableEq

/-- The row of an endpoint: `ExistingEndpointIdentity` with its status. -/
structure EndpointRow extends EndpointIdentityState where
  adapterKind : AdapterKind
  profileKey : String
  locator : Json
  status : DesiredEndpointStatus

/-- `IDENTITY_REFRESH_MS`. -/
def identityRefreshMs : ℤ := 30 * 24 * 60 * 60000

/-- The locator of a manifest as a JSON value. -/
def DesiredSourceEndpoint.locatorJson (endpoint : DesiredSourceEndpoint) : Json :=
  .object (endpoint.locator.map fun field => (field.1, .string field.2))

/-- `canonicalLocator`. -/
def canonicalLocator (locator : Json) : String := locator.canonicalText

/-- `configuredStableIdentity`. -/
def configuredStableIdentity (endpoint : DesiredSourceEndpoint) : Option String :=
  match endpoint.adapterKind with
  | .xSemantic => endpoint.locator.lookup "semanticProfileKey"
  | .youtubeChannel => endpoint.locator.lookup "channelId"
  | _ => none

/-- An identity that counts as given: not the empty text. -/
def givenIdentity (stableExternalId : Option String) : Option String :=
  stableExternalId.filter (· ≠ "")

/-- `initialEndpointIdentity`. -/
def initialEndpointIdentity (endpoint : DesiredSourceEndpoint) (now : ℤ) : EndpointIdentityState :=
  match givenIdentity (configuredStableIdentity endpoint) with
  | some stableExternalId =>
    { stableExternalId := some stableExternalId
      identityStatus := .verified
      identityErrorSummary := none
      identityCheckedAt := some now
      identityNextCheckAt :=
        if endpoint.adapterKind = .youtubeChannel then some (now + identityRefreshMs) else none }
  | none =>
    { stableExternalId := none
      identityStatus := .pending
      identityErrorSummary := none
      identityCheckedAt := none
      identityNextCheckAt := some now }

/-- The adapter of a row is not that of the manifest. -/
def AdapterChanged (existing : EndpointRow) (endpoint : DesiredSourceEndpoint) : Prop :=
  existing.adapterKind ≠ endpoint.adapterKind

instance (existing : EndpointRow) (endpoint : DesiredSourceEndpoint) :
    Decidable (AdapterChanged existing endpoint) := inferInstanceAs (Decidable (_ ≠ _))

/-- The locator of a row is not that of the manifest. -/
def LocatorChanged (existing : EndpointRow) (endpoint : DesiredSourceEndpoint) : Prop :=
  canonicalLocator existing.locator ≠ canonicalLocator endpoint.locatorJson

instance (existing : EndpointRow) (endpoint : DesiredSourceEndpoint) :
    Decidable (LocatorChanged existing endpoint) := inferInstanceAs (Decidable (_ ≠ _))

/-- The manifest conflicts with the stable identity of a row. -/
def Conflicts (existing : EndpointRow) (endpoint : DesiredSourceEndpoint) : Prop :=
  ∃ stableExternalId ∈ givenIdentity existing.stableExternalId,
    AdapterChanged existing endpoint ∨
      ∃ configured ∈ configuredStableIdentity endpoint, stableExternalId ≠ configured

instance (existing : EndpointRow) (endpoint : DesiredSourceEndpoint) :
    Decidable (Conflicts existing endpoint) :=
  inferInstanceAs (Decidable (∃ stableExternalId ∈ givenIdentity existing.stableExternalId, _ ∨ _))

/-- `reconcileEndpointIdentity`. -/
def reconcileEndpointIdentity (endpoint : DesiredSourceEndpoint) (existing : Option EndpointRow)
    (now : ℤ) : EndpointIdentityState :=
  let initial := initialEndpointIdentity endpoint now
  match existing with
  | none => initial
  | some existing =>
    if Conflicts existing endpoint then
      { stableExternalId := existing.stableExternalId
        identityStatus := .conflict
        identityErrorSummary :=
          some "Manifest locator conflicts with the previously verified stable ID"
        identityCheckedAt := existing.identityCheckedAt
        identityNextCheckAt := none }
    else
      match givenIdentity (configuredStableIdentity endpoint) with
      | some configuredIdentity =>
        { initial with
          stableExternalId := some configuredIdentity
          identityCheckedAt := existing.identityCheckedAt.or (some now) }
      | none =>
        if AdapterChanged existing endpoint ∨ LocatorChanged existing endpoint then
          { stableExternalId := existing.stableExternalId
            identityStatus := .pending
            identityErrorSummary := none
            identityCheckedAt := existing.identityCheckedAt
            identityNextCheckAt := some now }
        else existing.toEndpointIdentityState

/-- The row that an upsert leaves. -/
def upsertedEndpoint (endpoint : DesiredSourceEndpoint) (existing : Option EndpointRow) (now : ℤ) :
    EndpointRow where
  toEndpointIdentityState := reconcileEndpointIdentity endpoint existing now
  adapterKind := endpoint.adapterKind
  profileKey := endpoint.profileKey
  locator := endpoint.locatorJson
  status := endpoint.status

/-- What a manifest says of an endpoint: it lists it, or it leaves it out. -/
inductive ManifestEntry where
  | listed (endpoint : DesiredSourceEndpoint) (now : ℤ)
  | leftOut

/-- The row of an endpoint after a manifest has been applied. -/
def endpointStep (row : Option EndpointRow) : ManifestEntry → Option EndpointRow
  | .listed endpoint now => some (upsertedEndpoint endpoint row now)
  | .leftOut => row.map fun existing => { existing with status := .paused }

/-! ### What one manifest does to an identity -/

/-- A row has a stable identity. -/
def HasIdentity (stableExternalId : String) (row : Option EndpointRow) : Prop :=
  ∃ existing ∈ row, givenIdentity existing.stableExternalId = some stableExternalId

instance (stableExternalId : String) (row : Option EndpointRow) :
    Decidable (HasIdentity stableExternalId row) :=
  inferInstanceAs (Decidable (∃ existing ∈ row, _))

/-- A row is in conflict. -/
def InConflict (row : Option EndpointRow) : Prop :=
  ∃ existing ∈ row, existing.identityStatus = .conflict

instance (row : Option EndpointRow) : Decidable (InConflict row) :=
  inferInstanceAs (Decidable (∃ existing ∈ row, _))

/-- A manifest configures an identity. -/
def Configures (stableExternalId : String) (entry : ManifestEntry) : Prop :=
  ∃ endpoint now, entry = .listed endpoint now ∧
    configuredStableIdentity endpoint = some stableExternalId

/-- A manifest without an identity keeps the adapter of a row and changes its locator. -/
def Relocates (row : Option EndpointRow) (entry : ManifestEntry) : Prop :=
  ∃ existing ∈ row, ∃ endpoint now, entry = .listed endpoint now ∧
    configuredStableIdentity endpoint = none ∧ ¬ AdapterChanged existing endpoint ∧
    LocatorChanged existing endpoint

/-- A row waits for its identity to be checked. -/
def AwaitsCheck (row : Option EndpointRow) : Prop :=
  ∃ existing ∈ row, existing.identityStatus = .pending

/-- A conflict arises for a stable identity only. -/
def ConflictOfIdentity (row : Option EndpointRow) : Prop :=
  InConflict row → ∃ stableExternalId, HasIdentity stableExternalId row

/-- A manifest leaves a conflict only by configuring the identity of the row, or by relocating the
row, whose identity is then checked again. -/
def LeavesConflict (row : Option EndpointRow) (entry : ManifestEntry) : Prop :=
  ∀ stableExternalId, HasIdentity stableExternalId row → InConflict row →
    ¬ InConflict (endpointStep row entry) →
    Configures stableExternalId entry ∨ Relocates row entry ∧ AwaitsCheck (endpointStep row entry)

/-- An identity that counts as given is not empty. -/
theorem givenIdentity_eq_some {stored : Option String} {stableExternalId : String} :
    givenIdentity stored = some stableExternalId ↔
      stored = some stableExternalId ∧ stableExternalId ≠ "" := by
  simp [givenIdentity, Option.filter_eq_some_iff]

/-- What one manifest makes of a row with an identity: the identity stays, and the row is in conflict
unless the manifest configures that identity, relocates the row or leaves it as it is. -/
theorem reconcile_cases {existing : EndpointRow} {stableExternalId : String}
    (h : givenIdentity existing.stableExternalId = some stableExternalId)
    (endpoint : DesiredSourceEndpoint) (now : ℤ) :
    let identity := reconcileEndpointIdentity endpoint (some existing) now
    givenIdentity identity.stableExternalId = some stableExternalId ∧
      (identity.identityStatus = .conflict ∨
        configuredStableIdentity endpoint = some stableExternalId ∨
        (configuredStableIdentity endpoint = none ∧ ¬ AdapterChanged existing endpoint ∧
          LocatorChanged existing endpoint ∧ identity.identityStatus = .pending) ∨
        identity.identityStatus = existing.identityStatus) := by
  dsimp only [reconcileEndpointIdentity]
  by_cases hconflict : Conflicts existing endpoint
  · rw [if_pos hconflict]
    exact ⟨h, .inl rfl⟩
  · rw [if_neg hconflict]
    have hadapter : ¬ AdapterChanged existing endpoint :=
      fun hchanged => hconflict ⟨stableExternalId, h, .inl hchanged⟩
    have hconfigured : ∀ configured ∈ configuredStableIdentity endpoint,
        stableExternalId = configured := by
      intro configured hmem
      by_contra hne
      exact hconflict ⟨stableExternalId, h, .inr ⟨configured, hmem, hne⟩⟩
    have hgiven := givenIdentity_eq_some.mp h
    cases hcase : configuredStableIdentity endpoint with
    | some configured =>
      obtain rfl := hconfigured configured hcase
      have hsome : givenIdentity (some stableExternalId) = some stableExternalId :=
        givenIdentity_eq_some.mpr ⟨rfl, hgiven.2⟩
      rw [hsome]
      exact ⟨hsome, .inr (.inl rfl)⟩
    | none =>
      change givenIdentity (if _ then _ else _ : EndpointIdentityState).stableExternalId = _ ∧ _
      by_cases hlocator : LocatorChanged existing endpoint
      · rw [if_pos (Or.inr hlocator)]
        exact ⟨h, .inr (.inr (.inl ⟨rfl, hadapter, hlocator, rfl⟩))⟩
      · rw [if_neg (not_or.mpr ⟨hadapter, hlocator⟩)]
        exact ⟨h, .inr (.inr (.inr rfl))⟩

/-- A manifest keeps a stable identity. -/
theorem HasIdentity.step {stableExternalId : String} {row : Option EndpointRow}
    (h : HasIdentity stableExternalId row) (entry : ManifestEntry) :
    HasIdentity stableExternalId (endpointStep row entry) := by
  obtain ⟨existing, hrow, hidentity⟩ := h
  obtain rfl := Option.mem_def.mp hrow
  cases entry with
  | listed endpoint now => exact ⟨_, rfl, (reconcile_cases hidentity endpoint now).1⟩
  | leftOut => exact ⟨_, rfl, hidentity⟩

/-- A manifest leaves a conflict in two ways only. -/
theorem leavesConflict (row : Option EndpointRow) (entry : ManifestEntry) :
    LeavesConflict row entry := by
  intro stableExternalId hidentity hconflict hleft
  obtain ⟨existing, hrow, hidentity⟩ := hidentity
  obtain rfl := Option.mem_def.mp hrow
  obtain ⟨_, hsame, hstatus⟩ := hconflict
  obtain rfl := Option.some.inj (Option.mem_def.mp hsame)
  cases entry with
  | leftOut => exact absurd ⟨_, rfl, hstatus⟩ hleft
  | listed endpoint now =>
    obtain ⟨-, hcases⟩ := reconcile_cases hidentity endpoint now
    have hnot : ¬ (reconcileEndpointIdentity endpoint (some existing) now).identityStatus =
        .conflict := fun h => hleft ⟨_, rfl, h⟩
    rcases hcases with h | h | ⟨hnone, hadapter, hlocator, hpending⟩ | h
    · exact absurd h hnot
    · exact .inl ⟨endpoint, now, rfl, h⟩
    · exact .inr ⟨⟨existing, rfl, endpoint, now, rfl, hnone, hadapter, hlocator⟩,
        _, rfl, hpending⟩
    · exact absurd (h.trans hstatus) hnot

/-- A row without an identity is in conflict after a manifest only if it was before. -/
theorem inConflict_of_no_identity {row : Option EndpointRow} {entry : ManifestEntry}
    (hnone : ∀ existing ∈ row, givenIdentity existing.stableExternalId = none)
    (h : InConflict (endpointStep row entry)) : InConflict row := by
  obtain ⟨next, hnext, hstatus⟩ := h
  cases entry with
  | leftOut =>
    obtain ⟨existing, hrow, rfl⟩ := Option.map_eq_some_iff.mp (Option.mem_def.mp hnext)
    exact ⟨existing, hrow, hstatus⟩
  | listed endpoint now =>
    obtain rfl := Option.some.inj (Option.mem_def.mp hnext)
    have hinitial : (initialEndpointIdentity endpoint now).identityStatus ≠ .conflict := by
      unfold initialEndpointIdentity
      split <;> simp
    change (reconcileEndpointIdentity endpoint row now).identityStatus = .conflict at hstatus
    cases row with
    | none => exact absurd hstatus hinitial
    | some existing =>
      have hcalm : ¬ Conflicts existing endpoint := by
        rintro ⟨stableExternalId, hmem, -⟩
        rw [hnone existing rfl] at hmem
        exact absurd hmem (Option.not_mem_none stableExternalId)
      dsimp only [reconcileEndpointIdentity] at hstatus
      rw [if_neg hcalm] at hstatus
      split at hstatus
      next => exact absurd hstatus hinitial
      next =>
        split at hstatus
        next => exact absurd hstatus (by simp)
        next => exact ⟨existing, rfl, hstatus⟩

/-- A manifest brings a row into conflict for its identity only. -/
theorem ConflictOfIdentity.step {row : Option EndpointRow} (h : ConflictOfIdentity row)
    (entry : ManifestEntry) : ConflictOfIdentity (endpointStep row entry) := by
  intro hconflict
  by_cases hidentity : ∃ stableExternalId, HasIdentity stableExternalId row
  · obtain ⟨stableExternalId, hidentity⟩ := hidentity
    exact ⟨stableExternalId, hidentity.step entry⟩
  · have hnone : ∀ existing ∈ row, givenIdentity existing.stableExternalId = none := by
      intro existing hrow
      refine Option.eq_none_iff_forall_ne_some.mpr fun stableExternalId hgiven => ?_
      exact hidentity ⟨stableExternalId, existing, hrow, hgiven⟩
    exact absurd (h (inConflict_of_no_identity hnone hconflict)) hidentity

/-! ### Runs of manifests -/

/-- Over every run of manifests a stable identity stays, a conflict is one of an identity, and it is
left only by a manifest that configures this identity or by one without an identity that relocates
the endpoint. -/
theorem identityConflicts_remembered (row : Option EndpointRow) (entries : List ManifestEntry) :
    (∀ stableExternalId, HasIdentity stableExternalId row →
      HasIdentity stableExternalId (runSteps endpointStep row entries)) ∧
      EveryStep endpointStep LeavesConflict row entries ∧
      (ConflictOfIdentity row → ConflictOfIdentity (runSteps endpointStep row entries)) :=
  ⟨fun _ h => runSteps_invariant (fun _ entry hrow => hrow.step entry) row entries h,
    everyStep_of_forall leavesConflict row entries,
    fun h => runSteps_invariant (fun _ entry hrow => hrow.step entry) row entries h⟩

/-- An endpoint that is a channel first, then a feed, then a feed elsewhere. -/
def relocatedChannel : List ManifestEntry :=
  [.listed ⟨.youtubeChannel, "youtube", [("channelId", "UC72QokPHXQ9r98ROfNZmaDw")], .active⟩ 0,
    .listed ⟨.rssAtom, "feed", [("url", "https://example.com/first")], .active⟩ 1,
    .listed ⟨.rssAtom, "feed", [("url", "https://example.com/second")], .active⟩ 2]

/-- The conflict of the channel with the first feed is forgotten with the second one, which configures
no identity. -/
theorem relocation_forgets_conflict :
    ¬ ∀ row entries, EveryStep endpointStep (fun row entry => ∀ stableExternalId,
      HasIdentity stableExternalId row → InConflict row → ¬ InConflict (endpointStep row entry) →
        Configures stableExternalId entry) row entries := by
  intro h
  obtain ⟨endpoint, now, hentry, hconfigured⟩ := (h none relocatedChannel).2.2.1
    "UC72QokPHXQ9r98ROfNZmaDw" (by decide +kernel) (by decide +kernel) (by decide +kernel)
  cases hentry
  exact absurd hconfigured (by decide)

end LetletmeData
