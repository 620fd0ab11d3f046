import Mathlib.Data.List.Sort
import Mathlib.Data.Int.Order.Basic
import LetletmeData.Content.RecurringRuns

/-!
# Feeds

A feed document is a list of nodes. A poll selects the nodes dated in its window, the latest first
and up to a limit, and parses each into an item or a rejection. The server of a feed answers a
conditional request with the document, or that it was not modified.
-/

namespace LetletmeData

open LetletmeData.Library

/-- The root of a document is `rss` or `feed`. -/
inductive FeedFormat where
  | rss
  | atom
  deriving DecidableEq

/-- The first text of a date element, if it has one: a date, or nothing when it is not one. -/
abbrev DateText := Option (Option ℤ)

/-- `isoDate` of the first text of some elements. -/
def isoDate (texts : List DateText) : Option ℤ := (texts.findSome? id).join

/-- A node of a feed, in the first texts that the adapter reads; the facts are what else goes into
its item, and the issue is what the item contract has against them. -/
structure FeedNode where
  guid : Option String
  id : Option String
  videoId : Option String
  link : Option String
  pubDate : DateText
  published : DateText
  updated : DateText
  dcDate : DateText
  facts : String
  issue : Option String
  deriving DecidableEq

/-- The nodes of a document; a value that is not an object is none. -/
abbrev FeedDocument := List (Option FeedNode)

/-- An `AcquisitionItemV1` of a feed. -/
structure FeedItem where
  externalItemId : String
  publishedAt : Option ℤ
  updatedAt : Option ℤ
  facts : String
  deriving DecidableEq

/-- `FeedItemRejection`. -/
structure FeedItemRejection where
  externalItemId : String
  reasonCode : String
  deriving DecidableEq

section Nodes

variable (format : FeedFormat)

/-- When a node was published. -/
def FeedNode.publishedAt (node : FeedNode) : Option ℤ :=
  match format with
  | .rss => isoDate [node.pubDate, node.published]
  | .atom => isoDate [node.published]

/-- The later date of a node; of the years that have four digits the later text is the later
date. -/
def FeedNode.effectiveAt (node : FeedNode) : Option ℤ :=
  match node.publishedAt format, isoDate [node.updated, node.dcDate] with
  | some publishedAt, some updatedAt => some (max publishedAt updatedAt)
  | publishedAt, updatedAt => publishedAt.or updatedAt

/-- `parseRssItem` or `parseAtomItem`, and the item contract. -/
def parseFeedItem (node : FeedNode) : Except String FeedItem := do
  let externalItemId ← orThrow
    (match format with
      | .rss => node.guid.or node.link
      | .atom => (node.videoId.or node.id).or node.link)
    "MISSING_STABLE_ITEM_ID"
  match node.issue with
  | some issue => .error issue
  | none =>
    .ok {
      externalItemId
      publishedAt := node.publishedAt format
      updatedAt :=
        match format with
        | .rss => isoDate [node.updated, node.dcDate]
        | .atom => isoDate [node.updated]
      facts := node.facts }

/-- What a node is called when it is rejected. -/
def FeedNode.fallbackId (node : FeedNode) (index : ℕ) : String :=
  ((node.guid.or node.id).or node.videoId).getD ("invalid-index-" ++ toString index)

/-- The dates a poll accepts, and how many items. -/
structure FeedScope where
  windowStart : ℤ
  windowEnd : ℤ
  maxItems : ℕ
  deriving DecidableEq

/-- `FeedBootstrapMetrics`, in its counts. -/
structure FeedBootstrapMetrics where
  missingPublishedAtCount : ℕ
  outOfScopeCount : ℕ
  itemLimitCount : ℕ
  deriving DecidableEq

/-- `skippedCount`. -/
def FeedBootstrapMetrics.skippedCount (metrics : FeedBootstrapMetrics) : ℕ :=
  metrics.missingPublishedAtCount + metrics.outOfScopeCount + metrics.itemLimitCount

/-- A node with its effective date. -/
def datedNode (value : Option FeedNode) : Option (FeedNode × ℤ) := do
  let node ← value
  let effectiveAt ← node.effectiveAt format
  return (node, effectiveAt)

/-- The date is in the scope. -/
def FeedScope.Contains (scope : FeedScope) (effectiveAt : ℤ) : Prop :=
  scope.windowStart ≤ effectiveAt ∧ effectiveAt ≤ scope.windowEnd

instance (scope : FeedScope) (effectiveAt : ℤ) : Decidable (scope.Contains effectiveAt) :=
  inferInstanceAs (Decidable (_ ∧ _))

/-- The nodes dated in a scope, the latest first. -/
def eligibleNodes (scope : FeedScope) (document : FeedDocument) : List (FeedNode × ℤ) :=
  ((document.filterMap (datedNode format)).filter fun entry => scope.Contains entry.2).insertionSort
    fun left right => right.2 ≤ left.2

/-- The nodes that a poll parses. -/
def selectedNodes (scope : FeedScope) (document : FeedDocument) : List FeedNode :=
  ((eligibleNodes format scope document).take scope.maxItems).map (·.1)

/-- What is counted of the nodes that a poll does not parse. -/
def bootstrapMetrics (scope : FeedScope) (document : FeedDocument) : FeedBootstrapMetrics :=
  let dated := document.filterMap (datedNode format)
  let eligible := (eligibleNodes format scope document).length
  { missingPublishedAtCount := document.length - dated.length
    outOfScopeCount := dated.length - eligible
    itemLimitCount := eligible - (selectedNodes format scope document).length }

/-- What `parseFeedXml` returns of a document. -/
structure ParsedFeed where
  items : List FeedItem
  rejections : List FeedItemRejection
  metrics : FeedBootstrapMetrics
  deriving DecidableEq

/-- The item of a node. -/
def nodeItem (node : FeedNode) : Option FeedItem :=
  match parseFeedItem format node with
  | .ok item => some item
  | .error _ => none

/-- The rejection of a node at its place among those that are parsed. -/
def nodeRejection (node : FeedNode) (index : ℕ) : Option FeedItemRejection :=
  match parseFeedItem format node with
  | .ok _ => none
  | .error reason =>
    some ⟨node.fallbackId index, String.ofList (reason.toList.take 200)⟩

/-- `parseFeedXml`, from the nodes on. -/
def parseFeedXml (scope : FeedScope) (document : FeedDocument) : ParsedFeed where
  items := (selectedNodes format scope document).filterMap (nodeItem format)
  rejections := (selectedNodes format scope document).zipIdx.filterMap fun entry =>
    nodeRejection format entry.1 entry.2
  metrics := bootstrapMetrics format scope document

end Nodes

/-! ### Servers -/

/-- The validators that a server gives its documents, and whether it repeats them when a document
was not modified. -/
structure FeedServer where
  etag : FeedDocument → Option String
  lastModified : FeedDocument → Option String
  repeatsValidator : Bool

/-- The validator of a document. -/
def FeedServer.validator (server : FeedServer) (document : FeedDocument) : HttpValidator :=
  ⟨server.etag document, server.lastModified document⟩

/-- A validator tells its document from every other one. -/
structure FeedServer.ValidatorsIdentify (server : FeedServer) : Prop where
  etag : ∀ left right tag, server.etag left = some tag → server.etag right = some tag →
    left = right
  lastModified : ∀ left right date, server.lastModified left = some date →
    server.lastModified right = some date → left = right

/-- No validator. -/
def HttpValidator.empty : HttpValidator := ⟨none, none⟩

/-- Each part of a validator that is there agrees with another one. -/
def HttpValidator.AgreesWith (validator other : HttpValidator) : Prop :=
  (∀ tag, validator.etag = some tag → other.etag = some tag) ∧
    ∀ date, validator.lastModified = some date → other.lastModified = some date

instance (validator other : HttpValidator) : Decidable (validator.AgreesWith other) :=
  decidable_of_iff
    ((∀ tag ∈ validator.etag, other.etag = some tag) ∧
      ∀ date ∈ validator.lastModified, other.lastModified = some date) Iff.rfl

/-- The answer to a conditional request. -/
inductive FeedResponse where
  | notModified (validator : HttpValidator)
  | document (nodes : FeedDocument) (validator : HttpValidator)
  deriving DecidableEq

/-- The server answers that its document was not modified exactly when the validator sent is that
of the document. -/
def FeedServer.respond (server : FeedServer) (sent : HttpValidator) (document : FeedDocument) :
    FeedResponse :=
  if sent ≠ .empty ∧ sent.AgreesWith (server.validator document) then
    .notModified (if server.repeatsValidator then server.validator document else .empty)
  else .document document (server.validator document)

end LetletmeData
