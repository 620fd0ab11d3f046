import Mathlib.Data.List.Basic
import LetletmeData.Content.WeekPublication

/-!
# The order of the public Week pointer

The script refuses a revision that is smaller than the one the pointer names. A tombstone
removes the pointer and with it the revision to compare with, so order is kept exactly as long
as nothing readable is staged below a tombstone while the pointer is absent.
-/

namespace LetletmeData

open LetletmeData.Library

variable {host : WeekHost} {world : WeekWorld} {delivery : WeekDelivery}

namespace WeekWorld

/-- The revision the pointer names. -/
def Names (world : WeekWorld) (revision : ℤ) : Prop :=
  ∃ active, world.cache.pointer = some (.manifest active) ∧ active.revision = revision

/-- The pointer names no revision smaller than one the script has activated or tombstoned. -/
def KeepsOrder (world : WeekWorld) : Prop :=
  ∀ named, world.Names named → ∀ settled ∈ world.activated ++ world.tombstoned, settled ≤ named

/-- Without a pointer, whatever was activated has been tombstoned since. -/
def Withdrawn (world : WeekWorld) : Prop :=
  world.cache.pointer = none →
    ∀ revision ∈ world.activated, ∃ tombstone ∈ world.tombstoned, revision ≤ tombstone

end WeekWorld

/-- A staging hands the script a candidate: both envelopes of the publication are valid. -/
def WeekDelivery.Stageable (host : WeekHost) (delivery : WeekDelivery) : Prop :=
  ∃ candidate, weekPointerCandidate host delivery = .ok candidate

/-- A readable publication that is staged while the pointer is absent is not older than any
tombstone. -/
def StagedAboveTombstones (world : WeekWorld) : WeekAction → Prop
  | .movePointer delivery =>
    delivery ∈ world.persisted → delivery.english.state ≠ .unavailable →
      world.cache.pointer = none →
        ∀ tombstone ∈ world.tombstoned, tombstone ≤ delivery.english.revision
  | _ => True

/-! ### One command -/

/-- The candidate of a staging carries the revision and the state of its publication. -/
theorem weekPointerCandidate_spec {candidate : WeekPointer}
    (h : weekPointerCandidate host delivery = .ok candidate) :
    candidate.revision = delivery.english.revision ∧
      candidate.state = delivery.english.state := by
  obtain ⟨_, _, h⟩ := bind_eq_ok.mp h
  obtain ⟨_, _, h⟩ := bind_eq_ok.mp h
  cases h
  exact ⟨rfl, rfl⟩

/-- What is persisted can be staged. -/
theorem stageable_of_persist {english chinese : WeekPublicationEnvelope} {outboxId : String}
    {now : ℤ} {tables : WeekTables} {written : WeekTables × WeekPublicationResult}
    (h : persistWeekPublication host english chinese outboxId now tables = .ok written) :
    (⟨english, chinese, written.2⟩ : WeekDelivery).Stageable host := by
  obtain ⟨_, _, h⟩ := bind_eq_ok.mp h
  obtain ⟨_, _, h⟩ := bind_eq_ok.mp h
  obtain ⟨_, _, h⟩ := bind_eq_ok.mp h
  obtain ⟨_, _, h⟩ := bind_eq_ok.mp h
  obtain ⟨_, _, h⟩ := bind_eq_ok.mp h
  obtain ⟨_, henglish, h⟩ := bind_eq_ok.mp h
  obtain ⟨_, hchinese, _⟩ := bind_eq_ok.mp h
  exact ⟨_, bind_eq_ok.mpr ⟨_, henglish, bind_eq_ok.mpr ⟨_, hchinese, rfl⟩⟩⟩

/-- What the script does: it refuses, removes the pointer or sets it, the latter two only when
the pointer names no greater revision. -/
theorem activePointerCasScript_cases (candidate : WeekPointer) (cache : WeekCache) :
    (activePointerCasScript candidate cache = (cache, .invalidCurrent) ∧ cache.pointer ≠ none) ∨
    (activePointerCasScript candidate cache = (cache, .stale) ∧ cache.pointer ≠ none) ∨
    ((∀ text, cache.pointer = some text →
        ∃ active, text = .manifest active ∧ active.revision ≤ candidate.revision) ∧
      ((candidate.state = .unavailable ∧
          activePointerCasScript candidate cache = ({ cache with pointer := none }, .tombstoned)) ∨
        (candidate.state ≠ .unavailable ∧
          activePointerCasScript candidate cache =
            ({ cache with pointer := some (.manifest candidate) }, .activated)))) := by
  cases hpointer : cache.pointer with
  | none =>
    right; right
    by_cases hstate : candidate.state = .unavailable <;>
      simp [activePointerCasScript, hpointer, hstate]
  | some text =>
    cases text with
    | undecodable => left; simp [activePointerCasScript, hpointer]
    | manifest active =>
      by_cases hlater : candidate.revision < active.revision
      · right; left
        by_cases hstate : candidate.state = .unavailable <;>
          simp [activePointerCasScript, hpointer, hstate, hlater]
      · right; right
        have hle : active.revision ≤ candidate.revision := not_lt.mp hlater
        by_cases hstate : candidate.state = .unavailable <;>
          simp [activePointerCasScript, hpointer, hstate, hlater, hle]

/-! ### One step -/

/-- The pointer step of a persisted publication hands its candidate to the script. -/
theorem weekStep_movePointer {candidate : WeekPointer} (hpersisted : delivery ∈ world.persisted)
    (hcandidate : weekPointerCandidate host delivery = .ok candidate) :
    weekStep host world (.movePointer delivery) =
      world.record delivery (activePointerCasScript candidate world.cache) := by
  have hmove : moveWeekPointer host delivery world.cache =
      .ok (activePointerCasScript candidate world.cache) := bind_eq_ok.mpr ⟨_, hcandidate, rfl⟩
  simp only [weekStep, if_pos hpersisted, hmove]

/-- What is not a pointer step of a persisted publication leaves the pointer and the record. -/
theorem weekStep_other (host : WeekHost) (world : WeekWorld) (action : WeekAction)
    (h : ∀ delivery ∈ world.persisted, action ≠ .movePointer delivery) :
    (weekStep host world action).cache.pointer = world.cache.pointer ∧
      (weekStep host world action).activated = world.activated ∧
      (weekStep host world action).tombstoned = world.tombstoned := by
  cases action with
  | persist english chinese outboxId now =>
    simp only [weekStep]
    split
    next => exact ⟨rfl, rfl, rfl⟩
    next => exact ⟨rfl, rfl, rfl⟩
  | setPayload delivery locale =>
    by_cases hpersisted : delivery ∈ world.persisted
    · simp only [weekStep, if_pos hpersisted]
      cases hset : setWeekPayload host delivery locale world.cache with
      | error error => exact ⟨rfl, rfl, rfl⟩
      | ok cache =>
        obtain ⟨_, _, hset⟩ := bind_eq_ok.mp hset
        obtain ⟨_, _, hset⟩ := bind_eq_ok.mp hset
        cases hset
        exact ⟨rfl, rfl, rfl⟩
    · simp [weekStep, hpersisted]
  | movePointer delivery =>
    have hpersisted : delivery ∉ world.persisted := fun hmem => h delivery hmem rfl
    simp [weekStep, hpersisted]

/-- Every publication that becomes persisted can be staged. -/
theorem stageable_weekStep (host : WeekHost) (world : WeekWorld) (action : WeekAction)
    (h : ∀ delivery ∈ world.persisted, delivery.Stageable host) :
    ∀ delivery ∈ (weekStep host world action).persisted, delivery.Stageable host := by
  cases action with
  | persist english chinese outboxId now =>
    simp only [weekStep]
    split
    next tables persisted hpersist =>
      intro delivery hdelivery
      cases List.mem_cons.mp hdelivery with
      | inl hnew => rw [hnew]; exact stageable_of_persist hpersist
      | inr hold => exact h delivery hold
    next => exact h
  | setPayload delivery locale =>
    simp only [weekStep]
    split
    · split
      next => exact h
      next => exact h
    · exact h
  | movePointer delivery =>
    simp only [weekStep]
    split
    · split
      next => exact h
      next => exact h
    · exact h

/-- What is in order and was activated or tombstoned while the pointer names a revision is not
greater than any revision above it. -/
theorem WeekWorld.KeepsOrder.settled_le (h : world.KeepsOrder) {active : WeekPointer}
    (hpointer : world.cache.pointer = some (.manifest active)) {bound settled : ℤ}
    (hbound : active.revision ≤ bound)
    (hsettled : settled ∈ world.activated ++ world.tombstoned) : settled ≤ bound :=
  (h _ ⟨active, hpointer, rfl⟩ settled hsettled).trans hbound

/-- The pointer step of a persisted publication: the world stays in order exactly when a readable
publication that finds no pointer is not older than a tombstone. -/
theorem keepsOrder_movePointer (hstageable : ∀ delivery ∈ world.persisted, delivery.Stageable host)
    (hwithdrawn : world.Withdrawn) (hkeeps : world.KeepsOrder)
    (hpersisted : delivery ∈ world.persisted) :
    (weekStep host world (.movePointer delivery)).Withdrawn ∧
      ((weekStep host world (.movePointer delivery)).KeepsOrder ↔
        StagedAboveTombstones world (.movePointer delivery)) := by
  obtain ⟨candidate, hcandidate⟩ := hstageable delivery hpersisted
  obtain ⟨hrevision, hstate⟩ := weekPointerCandidate_spec hcandidate
  rw [weekStep_movePointer hpersisted hcandidate]
  rcases activePointerCasScript_cases candidate world.cache with
    ⟨hinvalid, hpointer⟩ | ⟨hstale, hpointer⟩ |
      ⟨hnotGreater, ⟨htombstone, hscript⟩ | ⟨hreadable, hscript⟩⟩
  · rw [hinvalid]
    exact ⟨hwithdrawn, iff_of_true hkeeps fun _ _ hnone => absurd hnone hpointer⟩
  · rw [hstale]
    exact ⟨hwithdrawn, iff_of_true hkeeps fun _ _ hnone => absurd hnone hpointer⟩
  · rw [hscript]
    have hbelow : ∀ revision ∈ world.activated,
        ∃ tombstone ∈ delivery.english.revision :: world.tombstoned, revision ≤ tombstone := by
      intro revision hactivated
      cases hpointer : world.cache.pointer with
      | none =>
        obtain ⟨tombstone, hmem, hle⟩ := hwithdrawn hpointer revision hactivated
        exact ⟨tombstone, List.mem_cons_of_mem _ hmem, hle⟩
      | some text =>
        obtain ⟨active, rfl, hle⟩ := hnotGreater text hpointer
        rw [hrevision] at hle
        exact ⟨_, List.mem_cons_self,
          hkeeps.settled_le hpointer hle (List.mem_append_left _ hactivated)⟩
    refine ⟨fun _ => hbelow, iff_of_true ?_ ?_⟩
    · rintro named ⟨active, hactive, _⟩
      cases hactive
    · intro _ hreadable
      exact absurd (hstate ▸ htombstone) hreadable
  · rw [hscript]
    refine ⟨fun hnone => absurd hnone (by simp [WeekWorld.record]), ?_, ?_⟩
    · intro hkept _ _ _ tombstone htombstone
      have hle := hkept _ ⟨candidate, rfl, rfl⟩ tombstone (List.mem_append_right _ htombstone)
      exact hrevision ▸ hle
    · rintro habove named ⟨active, hactive, rfl⟩ settled hsettled
      cases hactive
      rw [hrevision]
      cases List.mem_cons.mp hsettled with
      | inl hself => exact hself.le
      | inr hsettled =>
        cases hpointer : world.cache.pointer with
        | some text =>
          obtain ⟨active, rfl, hle⟩ := hnotGreater text hpointer
          exact hkeeps.settled_le hpointer (hrevision ▸ hle) hsettled
        | none =>
          have htombstones := habove hpersisted (hstate ▸ hreadable) hpointer
          cases List.mem_append.mp hsettled with
          | inl hactivated =>
            obtain ⟨tombstone, hmem, hle⟩ := hwithdrawn hpointer settled hactivated
            exact hle.trans (htombstones tombstone hmem)
          | inr htombstoned => exact htombstones settled htombstoned

/-- The world is one that runs from nothing reach while they stay in order. -/
def WeekWorld.Sound (host : WeekHost) (world : WeekWorld) : Prop :=
  (∀ delivery ∈ world.persisted, delivery.Stageable host) ∧ world.Withdrawn

/-- One step keeps the world sound, and in order exactly when it stages above the tombstones. -/
theorem sound_weekStep (host : WeekHost) (world : WeekWorld) (action : WeekAction)
    (hsound : world.Sound host) (hkeeps : world.KeepsOrder) :
    (weekStep host world action).Sound host ∧
      ((weekStep host world action).KeepsOrder ↔ StagedAboveTombstones world action) := by
  obtain ⟨hstageable, hwithdrawn⟩ := hsound
  have hstageable' := stageable_weekStep host world action hstageable
  by_cases hmoves : ∃ delivery ∈ world.persisted, action = .movePointer delivery
  · obtain ⟨delivery, hpersisted, rfl⟩ := hmoves
    obtain ⟨hwithdrawn', hiff⟩ := keepsOrder_movePointer hstageable hwithdrawn hkeeps hpersisted
    exact ⟨⟨hstageable', hwithdrawn'⟩, hiff⟩
  · have hother : ∀ delivery ∈ world.persisted, action ≠ .movePointer delivery :=
      fun delivery hmem haction => hmoves ⟨delivery, hmem, haction⟩
    obtain ⟨hpointer, hactivated, htombstoned⟩ := weekStep_other host world action hother
    have habove : StagedAboveTombstones world action := by
      cases action with
      | movePointer delivery => exact fun hmem => absurd rfl (hother delivery hmem)
      | persist | setPayload => trivial
    refine ⟨⟨hstageable', ?_⟩, iff_of_true ?_ habove⟩
    · unfold WeekWorld.Withdrawn
      rw [hpointer, hactivated, htombstoned]
      exact hwithdrawn
    · unfold WeekWorld.KeepsOrder WeekWorld.Names
      rw [hpointer, hactivated, htombstoned]
      exact hkeeps

/-! ### Runs -/

/-- Along every run from nothing, the pointer stays in order exactly when each step that stages a
readable publication without a pointer stages it above the tombstones. -/
theorem weekPointer_keepsOrder_iff (host : WeekHost) (actions : List WeekAction) :
    (∀ before, before <+: actions → (runSteps (weekStep host) .initial before).KeepsOrder) ↔
      EveryStep (weekStep host) StagedAboveTombstones .initial actions := by
  have hsound : WeekWorld.initial.Sound host :=
    ⟨fun _ hmem => absurd hmem List.not_mem_nil, fun _ _ hmem => absurd hmem List.not_mem_nil⟩
  have hkeeps : WeekWorld.initial.KeepsOrder :=
    fun _ _ _ hmem => absurd hmem List.not_mem_nil
  refine forall_prefix_iff_everyStep_of_invariant ?_ ?_ _ actions hsound hkeeps
  · intro world action hsound hkeeps
    exact (sound_weekStep host world action hsound hkeeps).1
  · intro world action hsound hkeeps
    exact (sound_weekStep host world action hsound hkeeps).2

/-- A host on which every text is a date and a URL is HTTPS. -/
def plainWeekHost : WeekHost where
  parseDate := fun _ => some 0
  urlProtocol := fun _ => some "https:"
  canonicalJson := fun envelope => envelope.publicationId ++ envelope.locale.text
  sha256 := id

/-- An empty briefing of a revision. -/
def emptyBriefing (revision : ℤ) (publicationId : String) (state : BriefingState)
    (locale : WeekLocale) : WeekPublicationEnvelope where
  revision := revision
  publicationId := publicationId
  state := state
  locale := locale
  publishedAt := "2026-08-14T10:00:00.000Z"
  sourceCheckedAt := "2026-08-14T10:00:00.000Z"
  validUntil := none
  event := none
  featured := []
  sections := []

/-- The delivery of an empty briefing. -/
def emptyDelivery (revision : ℤ) (publicationId : String) (state : BriefingState)
    (outboxId : String) : WeekDelivery where
  english := emptyBriefing revision publicationId state .en
  chinese := emptyBriefing revision publicationId state .zhCN
  persisted := ⟨publicationId, revision, state, false, outboxId⟩

/-- A briefing that can be read. -/
def readableBriefing : WeekDelivery :=
  emptyDelivery 1 "11111111-1111-4111-8111-111111111111" .ready "first"

/-- The briefing that withdraws it. -/
def withdrawal : WeekDelivery :=
  emptyDelivery 2 "22222222-2222-4222-8222-222222222222" .unavailable "second"

/-- Both are persisted in order; the staging of the first reaches Redis last. -/
def lateStaging : List WeekAction :=
  [.persist readableBriefing.english readableBriefing.chinese "first" 0,
    .persist withdrawal.english withdrawal.chinese "second" 1,
    .movePointer withdrawal, .movePointer readableBriefing]

/-- The late staging brings the withdrawn briefing back: the pointer names revision 1 after
revision 2 was tombstoned. -/
theorem lateStaging_restores_withdrawn :
    ¬ (runSteps (weekStep plainWeekHost) .initial lateStaging).KeepsOrder := by
  have hpointer : (runSteps (weekStep plainWeekHost) .initial lateStaging).cache.pointer =
      some (.manifest
        { schemaVersion := 1, publicationId := "11111111-1111-4111-8111-111111111111"
          revision := 1, state := .ready, locales := [.en, .zhCN]
          englishHash := "11111111-1111-4111-8111-111111111111en"
          chineseHash := "11111111-1111-4111-8111-111111111111zh-CN" }) := by
    decide +kernel
  have htombstoned : (runSteps (weekStep plainWeekHost) .initial lateStaging).tombstoned = [2] := by
    decide +kernel
  intro hkeeps
  have hle : (2 : ℤ) ≤ 1 := hkeeps.settled_le hpointer le_rfl
    (List.mem_append_right _ (htombstoned ▸ List.mem_singleton_self 2))
  exact absurd hle (by decide)

section Staging

variable {host : WeekHost} {world : WeekWorld} {delivery : WeekDelivery}

/-- The cache is left as the script leaves it. -/
theorem compareAndSetWeekPointer_fst (candidate : WeekPointer) (cache : WeekCache) :
    (compareAndSetWeekPointer candidate cache).1 = (activePointerCasScript candidate cache).1 := by
  unfold compareAndSetWeekPointer
  split
  next heq => rw [heq]
  next heq => rw [heq]

end Staging

end LetletmeData
