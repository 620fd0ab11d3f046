import Mathlib.Algebra.Order.Ring.Int
import LetletmeData.Library.Procedures
import LetletmeData.Library.Runs
import LetletmeData.Repositories.ProviderIdentity

/-!
# The match reconciler

A run of the reconciler quarantines the verified links of a season that its rows contradict, and
links every other match to the fixtures that it can be. A match or a fixture whose link has been
decided is left alone. Every statement is a transaction of its own, so a run that throws keeps
what it has written.
-/

namespace LetletmeData

open LetletmeData.Library

/-- `isAutoMappingProtectedStatus`. -/
def ProviderLinkStatus.IsAutoMappingProtected (status : ProviderLinkStatus) : Prop :=
  status.IsVerified ∨ status = .quarantined ∨ status = .rejected

instance ProviderLinkStatus.decidableIsAutoMappingProtected (status : ProviderLinkStatus) :
    Decidable status.IsAutoMappingProtected := inferInstanceAs (Decidable (_ ∨ _ ∨ _))

/-- `ProviderEntityType`. -/
inductive ProviderEntityType where
  | team
  | player
  deriving DecidableEq

/-- `ProviderEntityLink`, in the columns that the team map reads; the confirmed seasons are there
when the evidence has a list of texts of them. -/
structure ProviderEntityLink where
  entityType : ProviderEntityType
  leftProvider : String
  leftEntityId : Option ℕ
  rightProvider : String
  rightEntityId : ℕ
  status : ProviderLinkStatus
  confirmedSeasons : Option (List String)

/-- A row of `understat.matches`. -/
structure UnderstatMatch where
  matchId : ℕ
  homeTeamId : ℕ
  awayTeamId : ℕ
  kickoffAt : ℤ
  isResult : Bool
  homeGoals : Option ℕ
  awayGoals : Option ℕ

/-- `FplSeasonFixtureRow`. -/
structure FplSeasonFixture where
  fixtureCode : ℕ
  kickoffAt : Option ℤ
  finished : Bool
  homeTeamCode : ℕ
  awayTeamCode : ℕ
  homeGoals : Option ℕ
  awayGoals : Option ℕ

/-- What a run of the reconciler reads besides the match links, and when. -/
structure ProviderMatchFacts where
  season : String
  now : ℤ
  entityLinks : List ProviderEntityLink
  understatRows : List UnderstatMatch
  fplRows : List FplSeasonFixture

/-- `providerTeamConfirmedForSeason`. -/
def providerTeamConfirmedForSeason (link : ProviderEntityLink) (season : String) : Prop :=
  ∃ seasons ∈ link.confirmedSeasons, season ∈ seasons

instance (link : ProviderEntityLink) (season : String) :
    Decidable (providerTeamConfirmedForSeason link season) :=
  inferInstanceAs (Decidable (∃ seasons ∈ link.confirmedSeasons, season ∈ seasons))

/-- What `verifiedTeamMap` gets under a team; of several links the last one counts. -/
def verifiedTeamMap (links : List ProviderEntityLink) (season : String) (teamId : ℕ) : Option ℕ :=
  ((links.filter fun link =>
    link.entityType = .team ∧ link.leftProvider = "understat" ∧ link.rightProvider = "fpl" ∧
      link.leftEntityId = some teamId ∧ link.status.IsVerified ∧
      providerTeamConfirmedForSeason link season).getLast?).map (·.rightEntityId)

section Reconciler

variable (facts : ProviderMatchFacts)

/-- The team map of a run. -/
def ProviderMatchFacts.teamMap (teamId : ℕ) : Option ℕ :=
  verifiedTeamMap
    (facts.entityLinks.filter fun link => link.entityType = .team ∧ link.status.IsVerified)
    facts.season teamId

/-- A finished fixture of the two teams has the kickoff, up to ten minutes, and the goals. -/
def sameKickoffAndScore (understat : UnderstatMatch) (fixture : FplSeasonFixture) : Prop :=
  fixture.finished = true ∧
    (∃ kickoffAt ∈ fixture.kickoffAt, (understat.kickoffAt - kickoffAt).natAbs ≤ 10 * 60 * 1000) ∧
    understat.homeGoals = fixture.homeGoals ∧ understat.awayGoals = fixture.awayGoals

instance (understat : UnderstatMatch) (fixture : FplSeasonFixture) :
    Decidable (sameKickoffAndScore understat fixture) := inferInstanceAs (Decidable (_ ∧ _ ∧ _ ∧ _))

/-- A verified link still holds of its match and its fixture. -/
def ProviderMatchFacts.LinkValid (understat : UnderstatMatch) (fixture : FplSeasonFixture) : Prop :=
  facts.teamMap understat.homeTeamId = some fixture.homeTeamCode ∧
    facts.teamMap understat.awayTeamId = some fixture.awayTeamCode ∧
    sameKickoffAndScore understat fixture

instance (understat : UnderstatMatch) (fixture : FplSeasonFixture) :
    Decidable (facts.LinkValid understat fixture) := inferInstanceAs (Decidable (_ ∧ _ ∧ _))

/-- The match and the fixture of a link, if both are among the rows. -/
def ProviderMatchFacts.linkRows (pair : ProviderMatchPair) :
    Option (UnderstatMatch × FplSeasonFixture) := do
  let understat ← facts.understatRows.find? fun row => toString row.matchId = pair.leftMatchId
  let fixture ←
    (facts.fplRows.filter fun row => toString row.fixtureCode = pair.rightMatchId).getLast?
  return (understat, fixture)

/-- The rows of a run contradict a link. -/
def ProviderMatchFacts.Contradicts (pair : ProviderMatchPair) : Prop :=
  ∃ rows ∈ facts.linkRows pair, ¬ facts.LinkValid rows.1 rows.2

instance (pair : ProviderMatchPair) : Decidable (facts.Contradicts pair) :=
  inferInstanceAs (Decidable (∃ rows ∈ facts.linkRows pair, _))

/-- The link pairs a match of the run's season with a fixture. -/
def ProviderMatchFacts.Covers (pair : ProviderMatchPair) : Prop :=
  pair.season = facts.season ∧ pair.leftProvider = "understat" ∧ pair.rightProvider = "fpl"

/-- The existing links of a run. -/
def ProviderMatchFacts.existingLinks (links : ProviderMatchLinks) :
    List (ProviderMatchPair × ProviderMatchLink) :=
  (findMatchLinks facts.season links).filter fun entry =>
    entry.1.leftProvider = "understat" ∧ entry.1.rightProvider = "fpl"

/-- The links of a run whose matches and fixtures are left alone. -/
def ProviderMatchFacts.protectedLinks (links : ProviderMatchLinks) :
    List (ProviderMatchPair × ProviderMatchLink) :=
  (facts.existingLinks links).filter fun entry => entry.2.status.IsAutoMappingProtected

/-- The fixtures that a match can be, given the teams of the match. -/
def matchCandidates (protectedRightMatchIds : List String) (homeTeamCode awayTeamCode : ℕ)
    (row : UnderstatMatch) : List FplSeasonFixture :=
  facts.fplRows.filter fun fixture =>
    toString fixture.fixtureCode ∉ protectedRightMatchIds ∧
      fixture.homeTeamCode = homeTeamCode ∧ fixture.awayTeamCode = awayTeamCode ∧
      sameKickoffAndScore row fixture

/-- The pair of a match and a fixture. -/
def ProviderMatchFacts.pair (row : UnderstatMatch) (fixture : FplSeasonFixture) :
    ProviderMatchPair :=
  ⟨facts.season, "understat", toString row.matchId, "fpl", toString fixture.fixtureCode⟩

/-- `MATCH_RULE_ID`. -/
def matchRuleId : String := "understat-fpl-match-kickoff-score"

/-- One pass of the loop over the verified links. -/
def quarantineLink (quarantined : ℕ) (entry : ProviderMatchPair × ProviderMatchLink) :
    Procedure ProviderMatchLinks String ℕ :=
  if facts.Contradicts entry.1 then do
    transaction (updateMatchStatus entry.1 .quarantined none facts.now)
    return quarantined + 1
  else return quarantined

/-- One pass of the loop over the matches. -/
def linkMatch (protectedLeftMatchIds protectedRightMatchIds : List String) (counts : ℕ × ℕ)
    (row : UnderstatMatch) : Procedure ProviderMatchLinks String (ℕ × ℕ) :=
  if toString row.matchId ∈ protectedLeftMatchIds then return counts
  else
    match facts.teamMap row.homeTeamId, facts.teamMap row.awayTeamId with
    | some homeTeamCode, some awayTeamCode =>
      -- a team code of zero counts as no team code
      if homeTeamCode = 0 ∨ awayTeamCode = 0 then return counts
      else
        let candidates :=
          matchCandidates facts protectedRightMatchIds homeTeamCode awayTeamCode row
        let status : ProviderLinkStatus :=
          if candidates.length = 1 then .autoVerified else .ambiguous
        candidates.foldlM (fun (counts : ℕ × ℕ) candidate => do
          transaction (upsertMatchLink (facts.pair row candidate) status
            "verified-teams-kickoff-score" matchRuleId
            (.matchRule (row.kickoffAt - candidate.kickoffAt.getD 0).natAbs homeTeamCode awayTeamCode
              (row.homeGoals, row.awayGoals) candidates.length)
            none facts.now)
          return if status = .autoVerified then (counts.1 + 1, counts.2)
            else (counts.1, counts.2 + 1)) counts
    | _, _ => return counts

/-- What a run returns. -/
structure ProviderMatchCounts where
  verified : ℕ
  ambiguous : ℕ
  quarantined : ℕ
  deriving DecidableEq

/-- `reconcileProviderMatches`. -/
def reconcileProviderMatches : Procedure ProviderMatchLinks String ProviderMatchCounts := do
  let links ← get
  let protectedLinks := facts.protectedLinks links
  let quarantined ←
    ((facts.existingLinks links).filter fun entry => entry.2.status.IsVerified).foldlM
      (quarantineLink facts) 0
  let counts ← (facts.understatRows.filter (·.isResult)).foldlM
    (linkMatch facts (protectedLinks.map (·.1.leftMatchId))
      (protectedLinks.map (·.1.rightMatchId))) (0, 0)
  return ⟨counts.1, counts.2, quarantined⟩

end Reconciler

/-! ### What a run leaves alone -/

section Kept

variable {facts : ProviderMatchFacts} {links : ProviderMatchLinks}

/-- The existing links of a run are the rows that it covers. -/
theorem ProviderMatchFacts.mem_existingLinks {pair : ProviderMatchPair} {link : ProviderMatchLink} :
    (pair, link) ∈ facts.existingLinks links ↔
      links.rows.find pair = some link ∧ facts.Covers pair := by
  rw [existingLinks, List.mem_filter, findMatchLinks, KeyedTable.mem_selectWhere,
    decide_eq_true_iff, Covers, and_assoc]

/-- A row that the loop over the verified links leaves: as it was, or quarantined because the rows
of the run contradict it. -/
def QuarantinedAtMost (facts : ProviderMatchFacts) (links later : ProviderMatchLinks)
    (pair : ProviderMatchPair) : Prop :=
  later.rows.find pair = links.rows.find pair ∨
    ∃ link, links.rows.find pair = some link ∧ link.status.IsVerified ∧ facts.Covers pair ∧
      facts.Contradicts pair ∧
      later.rows.find pair = some (link.withStatus .quarantined none facts.now)

/-- The loop over the verified links quarantines links at most. -/
theorem quarantineLinks_ends (facts : ProviderMatchFacts) (links : ProviderMatchLinks) :
    Ends (((facts.existingLinks links).filter fun entry => entry.2.status.IsVerified).foldlM
      (quarantineLink facts) 0) links fun _ later =>
        ∀ pair, QuarantinedAtMost facts links later pair := by
  refine Ends.foldlM ?_ 0 fun _ => Or.inl rfl
  intro quarantined state entry hentry hstate
  rw [List.mem_filter, decide_eq_true_iff] at hentry
  obtain ⟨hfind, hcovers⟩ := ProviderMatchFacts.mem_existingLinks.mp hentry.1
  unfold quarantineLink
  split
  · rename_i hcontradicts
    refine Ends.bind (Ends.transaction (fun written hwritten => Ends.pure ?_) fun _ _ => hstate)
    intro pair
    have hwrittenRow := find_of_updateMatchStatus hwritten pair
    by_cases hpair : pair = entry.1
    · rw [if_pos hpair] at hwrittenRow
      right
      subst hpair
      refine ⟨entry.2, hfind, hentry.2, hcovers, hcontradicts, ?_⟩
      rw [hwrittenRow]
      cases hstate entry.1 with
      | inl hsame =>
        rw [hsame, hfind]
        rfl
      | inr hdone =>
        obtain ⟨link, hlink, -, -, -, hquarantined⟩ := hdone
        obtain rfl := Option.some.inj (hlink.symm.trans hfind)
        rw [hquarantined]
        rfl
    · rw [if_neg hpair] at hwrittenRow
      unfold QuarantinedAtMost
      rw [hwrittenRow]
      exact hstate pair
  · exact Ends.pure hstate

/-- The loop over the matches leaves the links alone that have been decided, and those of other
seasons and providers. -/
theorem linkMatches_ends (facts : ProviderMatchFacts) (links mid : ProviderMatchLinks)
    {pair : ProviderMatchPair}
    (hpair : facts.Covers pair → pair ∈ (facts.protectedLinks links).map (·.1)) :
    Ends ((facts.understatRows.filter (·.isResult)).foldlM
      (linkMatch facts ((facts.protectedLinks links).map (·.1.leftMatchId))
        ((facts.protectedLinks links).map (·.1.rightMatchId))) (0, 0)) mid fun _ later =>
          later.rows.find pair = mid.rows.find pair := by
  have hself : mid.rows.find pair = mid.rows.find pair := rfl
  refine Ends.foldlM ?_ (0, 0) hself
  intro counts state row _ hstate
  unfold linkMatch
  split
  · exact Ends.pure hstate
  rename_i hunprotected
  split
  · split
    · exact Ends.pure hstate
    refine Ends.foldlM ?_ counts hstate
    intro counts state candidate _ hstate
    refine Ends.bind (Ends.transaction (fun written hwritten => Ends.pure ?_) fun _ _ => hstate)
    have hne : pair ≠ facts.pair row candidate := by
      intro hsame
      have hcovers : facts.Covers pair := by
        rw [hsame]
        exact ⟨rfl, rfl, rfl⟩
      obtain ⟨entry, hentry, hprotected⟩ := List.mem_map.mp (hpair hcovers)
      refine hunprotected (List.mem_map.mpr ⟨entry, hentry, ?_⟩)
      rw [hprotected, hsame]
      rfl
    rw [find_of_upsertMatchLink hne hwritten]
    exact hstate
  · exact Ends.pure hstate

/-- A run leaves a link that has been decided as it was, or quarantines it because its rows
contradict it. -/
theorem reconcileProviderMatches_ends (facts : ProviderMatchFacts) {pair : ProviderMatchPair}
    {link : ProviderMatchLink} (hlink : links.rows.find pair = some link)
    (hprotected : link.status.IsAutoMappingProtected) :
    Ends (reconcileProviderMatches facts) links fun _ later =>
      QuarantinedAtMost facts links later pair := by
  have hpair : facts.Covers pair → pair ∈ (facts.protectedLinks links).map (·.1) := by
    intro hcovers
    refine List.mem_map.mpr ⟨(pair, link), ?_, rfl⟩
    rw [ProviderMatchFacts.protectedLinks, List.mem_filter, decide_eq_true_iff]
    exact ⟨ProviderMatchFacts.mem_existingLinks.mpr ⟨hlink, hcovers⟩, hprotected⟩
  unfold reconcileProviderMatches
  refine Ends.bind (Ends.get ?_)
  refine Ends.bind ((quarantineLinks_ends facts links).mono fun result mid hmid => ?_)
  cases result with
  | error error => exact hmid pair
  | ok quarantined =>
    refine Ends.bind ((linkMatches_ends facts links mid hpair).mono fun result later hlater => ?_)
    have hkept : QuarantinedAtMost facts links later pair := by
      unfold QuarantinedAtMost
      rw [hlater]
      exact hmid pair
    cases result with
    | error error => exact hkept
    | ok counts => exact Ends.pure hkept

end Kept

/-! ### Runs over changing rows -/

/-- What happens to the links: a run of the reconciler, or a review of one link. -/
inductive ProviderMatchAction where
  | reconcile (facts : ProviderMatchFacts)
  | review (pair : ProviderMatchPair) (status : ProviderLinkStatus) (reviewedBy : Option String)
      (now : ℤ)

/-- One step. What a run that throws has written stays. -/
def providerMatchStep (links : ProviderMatchLinks) : ProviderMatchAction → ProviderMatchLinks
  | .reconcile facts => ((reconcileProviderMatches facts).run.run links).2
  | .review pair status reviewedBy now => commit (updateMatchStatus pair status reviewedBy now) links

/-- No fixture and no match of a season has two verified links. -/
structure LinkedOnce (links : ProviderMatchLinks) : Prop where
  fixtures : ∀ left right link other, links.rows.find left = some link →
    links.rows.find right = some other → link.status.IsVerified → other.status.IsVerified →
      left.SameRight right → left = right
  matched : ∀ left right link other, links.rows.find left = some link →
    links.rows.find right = some other → link.status.IsVerified → other.status.IsVerified →
      left.SameLeft right → left = right

/-- A run of the reconciler never changes a link that somebody has verified, unless its rows
contradict the link: then it is quarantined. -/
def ManualLinksKept (links : ProviderMatchLinks) : ProviderMatchAction → Prop
  | .reconcile facts =>
    ∀ pair link, links.rows.find pair = some link → link.status = .manualVerified →
      (providerMatchStep links (.reconcile facts)).rows.find pair = some link ∨
        facts.Covers pair ∧ facts.Contradicts pair ∧
          (providerMatchStep links (.reconcile facts)).rows.find pair =
            some (link.withStatus .quarantined none facts.now)
  | .review _ _ _ _ => True

/-- Whatever the reconciler runs on, verified links are one to one after every run, and a manually
verified link is changed only to be quarantined when it is contradicted. -/
theorem providerMatchLinks_oneToOne (links : ProviderMatchLinks)
    (actions : List ProviderMatchAction) :
    LinkedOnce (runSteps providerMatchStep links actions) ∧
      EveryStep providerMatchStep (fun before action =>
        ManualLinksKept before action ∧ LinkedOnce (providerMatchStep before action)) links
        actions := by
  have honce : ∀ links, LinkedOnce links := fun links =>
    { fixtures := fun _ _ _ _ hlink hother hverified hverified' =>
        links.eq_of_sameRight hlink hother hverified hverified'
      matched := fun _ _ _ _ hlink hother hverified hverified' =>
        links.eq_of_sameLeft hlink hother hverified hverified' }
  refine ⟨honce _, ?_⟩
  have hkept : ∀ before action, LinkedOnce before →
      ManualLinksKept before action ∧ LinkedOnce (providerMatchStep before action) := by
    intro before action _
    refine ⟨?_, honce _⟩
    cases action with
    | review pair status reviewedBy now => trivial
    | reconcile facts =>
      intro pair link hlink hmanual
      have hends := reconcileProviderMatches_ends facts hlink (Or.inl (Or.inr hmanual))
      cases hends with
      | inl hsame => exact Or.inl (hsame.trans hlink)
      | inr hquarantined =>
        obtain ⟨other, hother, -, hcovers, hcontradicts, hrow⟩ := hquarantined
        obtain rfl := Option.some.inj (hlink.symm.trans hother)
        exact Or.inr ⟨hcovers, hcontradicts, hrow⟩
  exact everyStep_of_invariant (fun before action _ => honce _) hkept links actions (honce links)

/-- The facts of a run in which a match and its fixture were played, with different scores. -/
def contradictingFacts : ProviderMatchFacts where
  season := "2526"
  now := 0
  entityLinks := []
  understatRows := [⟨7, 1, 2, 0, true, some 1, some 0⟩]
  fplRows := [⟨9, some 0, true, 1, 2, some 0, some 0⟩]

/-- The pair of the match and the fixture. -/
def contradictedPair : ProviderMatchPair := ⟨"2526", "understat", "7", "fpl", "9"⟩

/-- A link of the pair that somebody has verified. -/
def reviewedLink : ProviderMatchLink where
  status := .manualVerified
  method := "manual"
  ruleId := "manual"
  evidence := .other ""
  reviewedBy := some "operator"
  reviewedAt := some 0

/-- A table with that link. -/
def reviewedLinks : ProviderMatchLinks where
  rows := ⟨[(contradictedPair, reviewedLink)], by decide⟩
  verifiedLeft := by decide
  verifiedRight := by decide

/-- The reconciler changes a manually verified link that its rows contradict. -/
theorem reconcile_quarantines_manual :
    reviewedLinks.rows.find contradictedPair = some reviewedLink ∧
      (providerMatchStep reviewedLinks (.reconcile contradictingFacts)).rows.find
        contradictedPair = some (reviewedLink.withStatus .quarantined none 0) ∧
      reviewedLink.withStatus .quarantined none 0 ≠ reviewedLink := by
  decide +kernel

end LetletmeData
