import Mathlib.Data.Int.Notation
import LetletmeData.Library.KeyedTables
import LetletmeData.Library.Transactions

/-!
# Provider match links

A link pairs a match of one provider with a match of another one in a season. The table has one
row for a pair, and of the verified rows only one for a match on either side; a statement that
would leave it otherwise is rejected.
-/

namespace LetletmeData

open LetletmeData.Library

/-- `ProviderLinkStatus`. -/
inductive ProviderLinkStatus where
  | pending
  | autoVerified
  | manualVerified
  | ambiguous
  | quarantined
  | rejected
  deriving DecidableEq

/-- `isVerifiedProviderLinkStatus`. -/
def ProviderLinkStatus.IsVerified (status : ProviderLinkStatus) : Prop :=
  status = .autoVerified ∨ status = .manualVerified

instance ProviderLinkStatus.decidableIsVerified (status : ProviderLinkStatus) :
    Decidable status.IsVerified := inferInstanceAs (Decidable (_ ∨ _))

/-- The columns of `bridge_match_links_pair_unique`. A row is addressed by them, as by its
identifier. -/
structure ProviderMatchPair where
  season : String
  leftProvider : String
  leftMatchId : String
  rightProvider : String
  rightMatchId : String
  deriving DecidableEq

/-- The evidence of a link: that of the match rule, or what somebody else has written. -/
inductive MatchLinkEvidence where
  | matchRule (kickoffDifferenceMs : ℕ) (homeTeamCode awayTeamCode : ℕ)
      (score : Option ℕ × Option ℕ) (candidateCount : ℕ)
  | other (text : String)
  deriving DecidableEq

/-- The other columns of `bridge.match_links`. -/
structure ProviderMatchLink where
  status : ProviderLinkStatus
  method : String
  ruleId : String
  evidence : MatchLinkEvidence
  reviewedBy : Option String
  reviewedAt : Option ℤ
  deriving DecidableEq

/-- The pairs of two rows agree in the season and the match on the left. -/
def ProviderMatchPair.SameLeft (pair other : ProviderMatchPair) : Prop :=
  pair.season = other.season ∧ pair.leftProvider = other.leftProvider ∧
    pair.leftMatchId = other.leftMatchId

/-- The pairs of two rows agree in the season and the match on the right. -/
def ProviderMatchPair.SameRight (pair other : ProviderMatchPair) : Prop :=
  pair.season = other.season ∧ pair.rightProvider = other.rightProvider ∧
    pair.rightMatchId = other.rightMatchId

instance (pair other : ProviderMatchPair) : Decidable (pair.SameLeft other) :=
  inferInstanceAs (Decidable (_ ∧ _ ∧ _))

instance (pair other : ProviderMatchPair) : Decidable (pair.SameRight other) :=
  inferInstanceAs (Decidable (_ ∧ _ ∧ _))

/-- A unique index over the verified rows. -/
def VerifiedUnique (rows : KeyedTable ProviderMatchPair ProviderMatchLink)
    (same : ProviderMatchPair → ProviderMatchPair → Prop) : Prop :=
  ∀ entry ∈ rows.entries, ∀ other ∈ rows.entries, entry.2.status.IsVerified →
    other.2.status.IsVerified → same entry.1 other.1 → entry.1 = other.1

instance (rows : KeyedTable ProviderMatchPair ProviderMatchLink)
    (same : ProviderMatchPair → ProviderMatchPair → Prop) [DecidableRel same] :
    Decidable (VerifiedUnique rows same) :=
  inferInstanceAs (Decidable (∀ entry ∈ rows.entries, ∀ other ∈ rows.entries,
    entry.2.status.IsVerified → other.2.status.IsVerified → same entry.1 other.1 →
      entry.1 = other.1))

/-- `bridge.match_links` with its unique indexes. -/
structure ProviderMatchLinks where
  rows : KeyedTable ProviderMatchPair ProviderMatchLink
  verifiedLeft : VerifiedUnique rows ProviderMatchPair.SameLeft
  verifiedRight : VerifiedUnique rows ProviderMatchPair.SameRight

/-- What a statement leaves, if the indexes accept it. -/
def ProviderMatchLinks.check (rows : KeyedTable ProviderMatchPair ProviderMatchLink) :
    Except String ProviderMatchLinks :=
  if hleft : VerifiedUnique rows ProviderMatchPair.SameLeft then
    if hright : VerifiedUnique rows ProviderMatchPair.SameRight then .ok ⟨rows, hleft, hright⟩
    else .error "bridge_match_links_verified_right_idx"
  else .error "bridge_match_links_verified_left_idx"

/-- `upsertMatchLink`. -/
def upsertMatchLink (pair : ProviderMatchPair) (status : ProviderLinkStatus) (method ruleId : String)
    (evidence : MatchLinkEvidence) (reviewedBy : Option String) (now : ℤ)
    (links : ProviderMatchLinks) : Except String ProviderMatchLinks :=
  ProviderMatchLinks.check (links.rows.upsert pair
    { status
      method
      ruleId
      evidence
      reviewedBy := if status = .manualVerified then reviewedBy else none
      reviewedAt := if status = .manualVerified then some now else none })

/-- A link under another status. -/
def ProviderMatchLink.withStatus (link : ProviderMatchLink) (status : ProviderLinkStatus)
    (reviewedBy : Option String) (now : ℤ) : ProviderMatchLink :=
  { link with status, reviewedBy, reviewedAt := reviewedBy.map fun _ => now }

/-- `updateMatchStatus`. -/
def updateMatchStatus (pair : ProviderMatchPair) (status : ProviderLinkStatus)
    (reviewedBy : Option String) (now : ℤ) (links : ProviderMatchLinks) :
    Except String ProviderMatchLinks :=
  ProviderMatchLinks.check
    (links.rows.updateWhere (fun other _ => other = pair) (·.withStatus status reviewedBy now))

/-- `findMatchLinks` of a season. -/
def findMatchLinks (season : String) (links : ProviderMatchLinks) :
    List (ProviderMatchPair × ProviderMatchLink) :=
  links.rows.selectWhere fun pair _ => pair.season = season

section Statements

variable {rows : KeyedTable ProviderMatchPair ProviderMatchLink} {links written : ProviderMatchLinks}
  {pair : ProviderMatchPair} {status : ProviderLinkStatus} {method ruleId : String}
  {evidence : MatchLinkEvidence} {reviewedBy : Option String} {now : ℤ}

/-- A statement that is accepted leaves its rows. -/
theorem ProviderMatchLinks.check_eq_ok (h : check rows = .ok written) : written.rows = rows := by
  unfold check at h
  split at h
  · split at h
    · obtain rfl := Except.ok.inj h
      rfl
    · exact absurd h (by simp)
  · exact absurd h (by simp)

/-- Two verified links of a match on the left are one. -/
theorem ProviderMatchLinks.eq_of_sameLeft (links : ProviderMatchLinks)
    {left right : ProviderMatchPair} {link other : ProviderMatchLink}
    (hlink : links.rows.find left = some link) (hother : links.rows.find right = some other)
    (hverified : link.status.IsVerified) (hother' : other.status.IsVerified)
    (hsame : left.SameLeft right) : left = right :=
  links.verifiedLeft (left, link) (KeyedTable.mem_entries_iff.mpr hlink) (right, other)
    (KeyedTable.mem_entries_iff.mpr hother) hverified hother' hsame

/-- Two verified links of a match on the right are one. -/
theorem ProviderMatchLinks.eq_of_sameRight (links : ProviderMatchLinks)
    {left right : ProviderMatchPair} {link other : ProviderMatchLink}
    (hlink : links.rows.find left = some link) (hother : links.rows.find right = some other)
    (hverified : link.status.IsVerified) (hother' : other.status.IsVerified)
    (hsame : left.SameRight right) : left = right :=
  links.verifiedRight (left, link) (KeyedTable.mem_entries_iff.mpr hlink) (right, other)
    (KeyedTable.mem_entries_iff.mpr hother) hverified hother' hsame

/-- An upsert leaves the other pairs alone. -/
theorem find_of_upsertMatchLink {other : ProviderMatchPair} (hne : other ≠ pair)
    (h : upsertMatchLink pair status method ruleId evidence reviewedBy now links = .ok written) :
    written.rows.find other = links.rows.find other := by
  rw [ProviderMatchLinks.check_eq_ok h, KeyedTable.find_upsert, if_neg hne]

/-- An update of the status rewrites the row of its pair. -/
theorem find_of_updateMatchStatus
    (h : updateMatchStatus pair status reviewedBy now links = .ok written)
    (other : ProviderMatchPair) :
    written.rows.find other =
      if other = pair then (links.rows.find other).map (·.withStatus status reviewedBy now)
      else links.rows.find other := by
  rw [ProviderMatchLinks.check_eq_ok h, KeyedTable.find_updateWhere]
  by_cases hother : other = pair <;> simp [hother]

end Statements

end LetletmeData
