import LetletmeData.Library.IsoTimestamps
import LetletmeData.Repositories.PublicationTables

/-!
# Preparing a publication

The manifest and the payloads of a publication are built before anything is stored or cached.
Live payloads are serialised in the canonical form of the stored JSON, the others in the
canonical form of the value.
-/

namespace LetletmeData

open LetletmeData.Library

/-- A value to publish, with the number of its items. -/
structure PublishedValue where
  payload : StoredPayload
  count : ℕ
  deriving DecidableEq

/-- `PublishDataRevisionInput`, with the time of the publication. -/
structure PublishDataRevisionInput where
  dataset : DataPublicationDataset
  seasonCode : String
  eventId : Option ℕ
  revision : ℕ
  publicationId : ℕ
  sourceCheckedAt : ℕ
  lastSuccessfulFetchAt : Option ℕ
  publishedAt : ℕ
  state : DataPublicationState
  items : List (String × PublishedValue)

/-- The text a value is published as. -/
def PublishedValue.text (dataset : DataPublicationDataset) (value : PublishedValue) : String :=
  if dataset = .live then value.payload.postgresJsonbCanonicalJson
  else value.payload.canonicalJson

/-- One item of `serializeItems`. -/
def serializeItem (host : HostFunctions) (scope : DataPublicationScope) (revision : ℕ)
    (item : String × PublishedValue) : DataPublicationDeliveryItem :=
  let payload := item.2.text scope.dataset
  { manifest :=
      { name := item.1
        key := dataPublicationItemKey scope revision item.1
        count := item.2.count
        bytes := payload.utf8ByteSize
        sha256 := host.sha256 payload }
    payload := payload }

/-- `prepareDataPublication` of an input that passes its checks. -/
def prepareDataPublication (host : HostFunctions) (input : PublishDataRevisionInput) :
    PreparedDelivery :=
  let scope : DataPublicationScope :=
    { dataset := input.dataset, seasonCode := input.seasonCode, eventId := input.eventId }
  let items := input.items.map (serializeItem host scope input.revision)
  { manifest :=
      { dataset := input.dataset
        seasonCode := input.seasonCode
        eventId := input.eventId
        revision := input.revision
        publicationId := input.publicationId
        sourceCheckedAt := toISOString input.sourceCheckedAt
        lastSuccessfulFetchAt := input.lastSuccessfulFetchAt.map toISOString
        publishedAt := toISOString input.publishedAt
        state := input.state
        items := items.map (·.manifest) }
    items := items }

end LetletmeData
