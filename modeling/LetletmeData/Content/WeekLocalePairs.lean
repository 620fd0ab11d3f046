import Mathlib
import LetletmeData.Content.WeekContract
import LetletmeData.Library.JsonTexts

/-!
# Locale pairs that match

The contract compares the two locales by one flat list of texts, so what it accepts has the same
stories in the same order. Where the sections begin is not in the list, and a story that appears
in two revisions has two keys. Accepted pairs match exactly when neither happens.
-/

namespace LetletmeData

open LetletmeData.Library

/-- A story as the two locales share it. -/
def WeekStoryCard.reference (card : WeekStoryCard) : String × ℤ := (card.id, card.storyRevision)

/-- The stories of a publication, the featured ones first. -/
def WeekPublicationEnvelope.stories (value : WeekPublicationEnvelope) : List WeekStoryCard :=
  value.featured ++ value.sections.flatMap (·.items)

/-- Two locales of a publication match. -/
structure LocalesMatch (english chinese : WeekPublicationEnvelope) : Prop where
  featured : english.featured.map (·.reference) = chinese.featured.map (·.reference)
  sections : english.sections.map (fun part => (part.key, part.items.map (·.reference))) =
    chinese.sections.map fun part => (part.key, part.items.map (·.reference))
  english : (english.stories.map (·.id)).Nodup
  chinese : (chinese.stories.map (·.id)).Nodup

/-- Both locales begin their sections at the same places, under the same keys. -/
structure SectionsAligned (english chinese : WeekPublicationEnvelope) : Prop where
  featured : english.featured.length = chinese.featured.length
  sections : english.sections.map (fun part => (part.key, part.items.length)) =
    chinese.sections.map fun part => (part.key, part.items.length)

/-- No story appears in two revisions. -/
def OneRevisionEach (value : WeekPublicationEnvelope) : Prop :=
  ∀ story ∈ value.stories, ∀ other ∈ value.stories,
    story.id = other.id → story.storyRevision = other.storyRevision

/-! ### Texts -/

/-- A number is written without a colon. -/
theorem colon_not_mem_repr (number : ℤ) : ':' ∉ (toString number).toList := by
  cases number with
  | ofNat number =>
    change ':' ∉ number.repr.toList
    rw [Nat.toList_repr]
    exact not_mem_toDigits rfl number
  | negSucc number =>
    change ':' ∉ ("-" ++ number.succ.repr).toList
    rw [String.toList_append, Nat.toList_repr, List.mem_append]
    rintro (hmem | hmem)
    · exact absurd hmem (by decide)
    · exact not_mem_toDigits rfl number.succ hmem

/-- The revision of a story stands behind the last colon of its key. -/
theorem storyKey_injective {id other : String} {revision changed : ℤ}
    (h : id ++ ":" ++ toString revision = other ++ ":" ++ toString changed) :
    id = other ∧ revision = changed := by
  have htexts := congrArg String.toList h
  simp only [String.toList_append, List.append_assoc] at htexts
  obtain ⟨hid, hrevision⟩ := append_cons_injective_last (colon_not_mem_repr revision)
    (colon_not_mem_repr changed) htexts
  exact ⟨String.toList_inj.mp hid, Int.repr_injective (String.toList_inj.mp hrevision)⟩

/-- Under one key, the place of a story identifies it. -/
theorem storyPlace_injective {key id other : String} {revision changed : ℤ}
    (h : key ++ ":" ++ id ++ ":" ++ toString revision =
      key ++ ":" ++ other ++ ":" ++ toString changed) :
    id = other ∧ revision = changed := by
  obtain ⟨hplace, hrevision⟩ := storyKey_injective h
  have hchars := congrArg String.toList hplace
  simp only [String.toList_append] at hchars
  exact ⟨String.toList_inj.mp (List.append_cancel_left hchars), hrevision⟩

/-! ### Lists -/

variable {host : WeekHost} {english chinese : WeekPublicationEnvelope}

/-- Stories under one key that have the same places are the same. -/
theorem references_eq_of_places (key : String) {left right : List WeekStoryCard}
    (h : left.map (fun item => key ++ ":" ++ item.id ++ ":" ++ toString item.storyRevision) =
      right.map fun item => key ++ ":" ++ item.id ++ ":" ++ toString item.storyRevision) :
    left.map (·.reference) = right.map (·.reference) := by
  induction left generalizing right with
  | nil =>
    cases right with
    | nil => rfl
    | cons other right => cases h
  | cons item left ih =>
    cases right with
    | nil => cases h
    | cons other right =>
      obtain ⟨hplace, hrest⟩ := List.cons.inj h
      obtain ⟨hid, hrevision⟩ := storyPlace_injective hplace
      have hreference : item.reference = other.reference := Prod.ext hid hrevision
      rw [List.map_cons, List.map_cons, hreference, ih hrest]

/-- Aligned sections with the same flat list of places have the same stories each. -/
theorem sections_eq_of_places {left right : List WeekSection}
    (haligned : left.map (fun part => (part.key, part.items.length)) =
      right.map fun part => (part.key, part.items.length))
    (h : left.flatMap (fun part => part.items.map fun item =>
        part.key ++ ":" ++ item.id ++ ":" ++ toString item.storyRevision) =
      right.flatMap fun part => part.items.map fun item =>
        part.key ++ ":" ++ item.id ++ ":" ++ toString item.storyRevision) :
    left.map (fun part => (part.key, part.items.map (·.reference))) =
      right.map fun part => (part.key, part.items.map (·.reference)) := by
  induction left generalizing right with
  | nil =>
    cases right with
    | nil => rfl
    | cons other right => cases haligned
  | cons part left ih =>
    cases right with
    | nil => cases haligned
    | cons other right =>
      obtain ⟨hshape, hshapes⟩ := List.cons.inj haligned
      obtain ⟨hkey, hlength⟩ := Prod.mk.inj hshape
      rw [List.flatMap_cons, List.flatMap_cons] at h
      obtain ⟨hitems, hrest⟩ := List.append_inj h (by simpa using hlength)
      rw [hkey] at hitems
      rw [List.map_cons, List.map_cons, hkey, references_eq_of_places _ hitems, ih hshapes hrest]

/-- The flat list names no key twice exactly when the search finds none. -/
theorem firstRepeated_eq_none {seen keys : List String} :
    firstRepeated seen keys = none ↔ keys.Nodup ∧ ∀ key ∈ keys, key ∉ seen := by
  induction keys generalizing seen with
  | nil => simp [firstRepeated]
  | cons key rest ih =>
    by_cases hseen : key ∈ seen
    · simp [firstRepeated, hseen]
    · rw [firstRepeated, if_neg hseen, ih, List.nodup_cons, List.forall_mem_cons]
      simp only [List.mem_cons, not_or]
      constructor
      · rintro ⟨hrest, hfresh⟩
        exact ⟨⟨fun hmem => (hfresh key hmem).1 rfl, hrest⟩, hseen,
          fun other hother => (hfresh other hother).2⟩
      · rintro ⟨⟨hkey, hrest⟩, _, hfresh⟩
        exact ⟨hrest, fun other hother => ⟨fun heq => hkey (heq ▸ hother), hfresh other hother⟩⟩

/-! ### Accepted pairs -/

/-- What an accepted pair is known to share. -/
theorem validateWeekLocalePair_spec (h : validateWeekLocalePair host english chinese = .ok ()) :
    storyOrder english = storyOrder chinese ∧ (storyKeys english).Nodup := by
  obtain ⟨_, _, h⟩ := bind_eq_ok.mp h
  obtain ⟨_, _, h⟩ := bind_eq_ok.mp h
  simp only [assertThat, throwIf_bind_eq_ok, not_not] at h
  obtain ⟨_, _, _, _, _, _, horder, h⟩ := h
  refine ⟨horder, ?_⟩
  cases hrepeated : firstRepeated [] (storyKeys english) with
  | none => exact (firstRepeated_eq_none.mp hrepeated).1
  | some key =>
    rw [hrepeated] at h
    cases h

/-- Distinct keys are distinct stories where each story has one revision. -/
theorem nodup_ids (hkeys : (storyKeys english).Nodup) (hrevision : OneRevisionEach english) :
    (english.stories.map (·.id)).Nodup := by
  have hstories : english.stories.Pairwise fun story other =>
      story.id ++ ":" ++ toString story.storyRevision ≠
        other.id ++ ":" ++ toString other.storyRevision := List.pairwise_map.mp hkeys
  refine List.pairwise_map.mpr (hstories.imp_of_mem fun hstory hother hne hid => hne ?_)
  rw [hid, hrevision _ hstory _ hother hid]

/-- The stories of a publication are those of its featured list and of its sections. -/
theorem references_eq (value : WeekPublicationEnvelope) :
    value.stories.map (·.reference) = value.featured.map (·.reference) ++
      (value.sections.map fun part => (part.key, part.items.map (·.reference))).flatMap
        Prod.snd := by
  rw [WeekPublicationEnvelope.stories, List.map_append, List.map_flatMap, List.flatMap_map]

/-- An accepted pair matches exactly when both locales split their stories alike and no story
appears in two revisions. -/
theorem acceptedLocales_match_iff (host : WeekHost) (english chinese : WeekPublicationEnvelope)
    (h : validateWeekLocalePair host english chinese = .ok ()) :
    LocalesMatch english chinese ↔ SectionsAligned english chinese ∧ OneRevisionEach english := by
  obtain ⟨horder, hkeys⟩ := validateWeekLocalePair_spec h
  constructor
  · intro hmatch
    refine ⟨⟨?_, ?_⟩, ?_⟩
    · simpa using congrArg List.length hmatch.featured
    · have hlengths := congrArg (List.map fun part => (part.1, part.2.length)) hmatch.sections
      simpa [Function.comp_def] using hlengths
    · intro story hstory other hother hid
      rw [List.inj_on_of_nodup_map hmatch.english hstory hother hid]
  · rintro ⟨haligned, hrevision⟩
    obtain ⟨hfeatured, hsections⟩ := List.append_inj horder (by simpa using haligned.featured)
    have hcards := references_eq_of_places "featured" hfeatured
    have hparts := sections_eq_of_places haligned.sections hsections
    have hids := nodup_ids hkeys hrevision
    refine ⟨hcards, hparts, hids, ?_⟩
    -- The ids of the other locale are the same list.
    have hreferences : english.stories.map (·.reference) = chinese.stories.map (·.reference) := by
      rw [references_eq, references_eq, hcards, hparts]
    have hsame := congrArg (List.map Prod.fst) hreferences
    simp only [List.map_map] at hsame
    exact hsame ▸ hids

/-- A host for texts of one date and of HTTPS addresses. -/
def pairHost : WeekHost where
  parseDate := fun text => if text = "2026-08-14T10:00:00.000Z" then some 1786701600000 else none
  urlProtocol := fun text => if text.startsWith "https://" then some "https:" else none
  canonicalJson := fun _ => ""
  sha256 := fun _ => ""

/-- A story of the fixture, in one of its revisions. -/
def fixtureStory (revision : ℤ) : WeekStoryCard where
  id := "story-1"
  slug := "opening-round"
  storyRevision := revision
  title := "Opening round"
  summary := "What to watch"
  sourceName := some none
  sourceUrl := some none
  sourceCheckedAt := some none
  expiresAt := some none

/-- A briefing with the given stories. -/
def pairedBriefing (locale : WeekLocale) (featured : List WeekStoryCard)
    (sections : List WeekSection) : WeekPublicationEnvelope where
  revision := 1
  publicationId := "11111111-1111-4111-8111-111111111111"
  state := .ready
  locale := locale
  publishedAt := "2026-08-14T10:00:00.000Z"
  sourceCheckedAt := "2026-08-14T10:00:00.000Z"
  validUntil := none
  event := none
  featured := featured
  sections := sections

/-- One featured story and an empty section in both locales match. -/
theorem acceptedLocales_match_fixture :
    LocalesMatch (pairedBriefing .en [fixtureStory 1] [⟨"injury", "Injuries", []⟩])
      (pairedBriefing .zhCN [fixtureStory 1] [⟨"injury", "伤病", []⟩]) :=
  (acceptedLocales_match_iff pairHost _ _ (by decide +kernel)).mpr
    ⟨⟨rfl, rfl⟩, fun story hstory other hother _ => by
      rw [List.mem_singleton.mp hstory, List.mem_singleton.mp hother]⟩

/-- A story featured in one revision and listed in another. -/
def twoRevisions (locale : WeekLocale) : WeekPublicationEnvelope :=
  pairedBriefing locale [fixtureStory 1] [⟨"injury", "Injuries", [fixtureStory 2]⟩]

/-- Neither a story in two revisions nor a story that only one locale features is refused. -/
theorem acceptedLocales_differ :
    (validateWeekLocalePair pairHost (twoRevisions .en) (twoRevisions .zhCN) = .ok () ∧
      ¬ LocalesMatch (twoRevisions .en) (twoRevisions .zhCN)) ∧
    (validateWeekLocalePair pairHost (pairedBriefing .en [fixtureStory 1] [])
        (pairedBriefing .zhCN [] [⟨"featured", "精选", [fixtureStory 1]⟩]) = .ok () ∧
      ¬ LocalesMatch (pairedBriefing .en [fixtureStory 1] [])
        (pairedBriefing .zhCN [] [⟨"featured", "精选", [fixtureStory 1]⟩])) :=
  ⟨⟨by decide +kernel, fun h => absurd h.english (by decide +kernel)⟩,
    by decide +kernel, fun h => absurd h.featured (by decide +kernel)⟩

end LetletmeData
