import LetletmeData.Cache.ManifestTexts

/-!
# Manifests survive the store

A built manifest passes all checks of the parser, but for an event that is no safe integer: the
builder takes any positive integer. A heartbeat changes the time of the last fetch only. Of what is
accepted, every item has the key of its name for the scope and the revision of the manifest, and for
no other.
-/

namespace LetletmeData.ManifestTexts

open LetletmeData.Library

/-! ### Heartbeats -/

/-- A heartbeat leaves everything but the time of the last fetch. -/
theorem lookup_refreshedManifest (manifest : Fields) (date : DateValue) (name : String) :
    (refreshedManifest manifest date).lookup name =
      if name = "lastSuccessfulFetchAt" then some (.string date.toISOString)
      else manifest.lookup name := by
  rw [refreshedManifest, JsValue.lookup_spread, List.lookup_cons]
  split
  next heq => rw [eq_of_beq heq, if_pos rfl, Option.some_or]
  next hne => rw [if_neg (by simpa using hne), List.lookup_nil, Option.none_or]

/-- A heartbeat keeps the fields of a manifest, and adds the time of the last fetch if it is
missing. -/
theorem hasManifestFields_refreshedManifest {manifest : Fields} (h : hasManifestFields manifest)
    (date : DateValue) : hasManifestFields (refreshedManifest manifest date) := by
  rw [hasManifestFields, refreshedManifest, JsValue.map_fst_spread]
  rcases h with hfields | hfields
  · have hnew : "lastSuccessfulFetchAt" ∉ manifest.map Prod.fst :=
      fun hmem => absurd (hfields.mem_iff.mp hmem) (by decide)
    rw [List.filter_cons_of_pos (by simpa using hnew)]
    exact .inr (hfields.append_right _)
  · have hold : "lastSuccessfulFetchAt" ∈ manifest.map Prod.fst :=
      hfields.mem_iff.mpr (by decide)
    rw [List.filter_cons_of_neg (by simpa using hold), List.filter_nil, List.map_nil,
      List.append_nil]
    exact .inr hfields

/-- A manifest that is accepted is accepted after a heartbeat. -/
theorem Accepted.refreshedManifest {host : ManifestHost} {manifest : Fields}
    {scope : DataPublicationScope} {revision : Decimal}
    (h : Accepted host (fun name => manifest.lookup name) scope revision) (date : DateValue) :
    Accepted host (fun name => (refreshedManifest manifest date).lookup name) scope revision := by
  have hfetched : isOptionalTimestamp host (some (.string date.toISOString)) = true := by
    rw [isOptionalTimestamp, isTimestamp, parseDate_toISOString]
    rfl
  simp only [lookup_refreshedManifest]
  exact {
    dataset := h.dataset
    seasonCode := h.seasonCode
    revisionNumber := h.revisionNumber
    eventId := h.eventId
    publicationId := h.publicationId
    sourceCheckedAt := h.sourceCheckedAt
    lastSuccessfulFetchAt := hfetched
    publishedAt := h.publishedAt
    state := h.state
    validRevision := h.validRevision
    validScope := h.validScope
    items := h.items }

/-! ### Built manifests -/

/-- Numbers that pass as positive integers. -/
theorem isPositiveInteger_digits (number : ScriptNumber) :
    isPositiveInteger number.digits = true ↔ IsInteger number.value ∧ 0 < number.value := by
  rw [isPositiveInteger, number.doubleValue_digits, Option.any_some, decide_eq_true_eq]

/-- Natural numbers pass as counts. -/
theorem isCount_ofSafe {number : ℕ} (h : number ≤ maxSafeInteger) :
    isCount (ScriptNumber.ofSafe number h).digits = true := by
  rw [isCount, ScriptNumber.doubleValue_digits, Option.any_some, decide_eq_true_eq]
  exact ⟨Rat.den_natCast number, Nat.cast_nonneg number⟩

/-- An item is serialised exactly if it has a key. -/
theorem serializeItem_eq_ok {host : ManifestHost} {input : PublishDataRevisionInput}
    {item : DataPublicationItemInput} {serialized : SerializedItem} :
    serializeItem host input item = .ok serialized ↔
      ∃ key, dataPublicationItemKey input.scope input.revision.digits item.name = .ok key ∧
        serialized =
          { payload := payloadText input.dataset item.value
            manifest :=
              [("name", .string item.name), ("key", .string key), ("type", .string "string"),
                ("count", .number (ScriptNumber.ofSafe _ item.count_le).digits),
                ("bytes", .number (ScriptNumber.ofSafe _ (item.bytes_le input.dataset)).digits),
                ("sha256", .string (host.sha256 (payloadText input.dataset item.value)))] } := by
  rw [serializeItem, bind_eq_ok]
  simp only [pure, Except.pure, Except.ok.injEq, eq_comm]

section Built

variable {host : ManifestHost} {input : PublishDataRevisionInput} {now : DateValue}

/-- A serialised item is accepted under its name if no item before it has the name. -/
theorem acceptedItem_serialized (hsha256 : ∀ text, isSha256 (host.sha256 text) = true)
    {item : DataPublicationItemInput} {serialized : SerializedItem}
    (h : serializeItem host input item = .ok serialized) {names : List String}
    (hnew : item.name ∉ names) :
    AcceptedItem input.scope input.revision.digits names serialized.manifest item.name := by
  obtain ⟨key, hkey, rfl⟩ := serializeItem_eq_ok.mp h
  exact {
    itemFields := .refl _
    named := rfl
    validName := (dataPublicationItemKey_eq_ok.mp hkey).2.1
    newName := hnew
    type := rfl
    key := ⟨key, rfl, hkey⟩
    count := ⟨_, rfl, isCount_ofSafe _⟩
    bytes := ⟨_, rfl, isCount_ofSafe _⟩
    sha256 := ⟨_, rfl, hsha256 _⟩ }

/-- Serialised items are accepted under their names. -/
theorem readItems_serializeEach (hsha256 : ∀ text, isSha256 (host.sha256 text) = true)
    {items : List DataPublicationItemInput} {names : List String}
    {serialized : List SerializedItem}
    (h : serializeEach host input names items = .ok serialized) :
    readItems input.scope input.revision.digits names
      (serialized.map fun item => .object item.manifest) = some (items.map (·.name)) := by
  induction items generalizing names serialized with
  | nil =>
    obtain rfl := Except.ok.inj h
    rfl
  | cons item items ih =>
    obtain ⟨hnew, h⟩ := throwIf_bind_eq_ok.mp h
    obtain ⟨first, hfirst, h⟩ := bind_eq_ok.mp h
    obtain ⟨rest, hrest, h⟩ := bind_eq_ok.mp h
    obtain rfl := Except.ok.inj h
    have hread := readItem_eq_some.mpr ⟨_, rfl, acceptedItem_serialized hsha256 hfirst hnew⟩
    rw [List.map_cons, List.map_cons, readItems, hread, Option.bind_eq_bind, Option.bind_some,
      ih hrest]
    rfl

/-- Serialised items are read as they are written. -/
theorem isParsed_serializeEach {items : List DataPublicationItemInput} {names : List String}
    {serialized : List SerializedItem}
    (h : serializeEach host input names items = .ok serialized) :
    ∀ item ∈ serialized, (JsValue.object item.manifest).IsParsed := by
  induction items generalizing names serialized with
  | nil =>
    obtain rfl := Except.ok.inj h
    exact List.forall_mem_nil _
  | cons item items ih =>
    obtain ⟨-, h⟩ := throwIf_bind_eq_ok.mp h
    obtain ⟨first, hfirst, h⟩ := bind_eq_ok.mp h
    obtain ⟨rest, hrest, h⟩ := bind_eq_ok.mp h
    obtain rfl := Except.ok.inj h
    refine List.forall_mem_cons.mpr ⟨?_, ih hrest⟩
    obtain ⟨key, -, rfl⟩ := serializeItem_eq_ok.mp hfirst
    refine .object (by simp) ?_
    simp only [List.forall_mem_cons, List.not_mem_nil, false_imp_iff, implies_true, and_true]
    exact ⟨.string _, .string _, .string _, .number (ScriptNumber.isPrinted_digits _),
      .number (ScriptNumber.isPrinted_digits _), .string _⟩

/-- What a manifest was built of. -/
structure BuiltOf (host : ManifestHost) (input : PublishDataRevisionInput) (now : DateValue)
    (manifest : Fields) : Prop where
  scope : assertScope input.scope = .ok ()
  publicationId : isDataPublicationId input.publicationId = true
  state : isCanonicalState input.dataset input.state
  names : (input.items.map (·.name)).Perm (datasetItemNames input.dataset)
  object : ∃ sourceCheckedAt serialized,
    serializeEach host input [] input.items = .ok serialized ∧
      manifest = manifestObject input sourceCheckedAt now serialized

/-- A prepared manifest has been built of its input. -/
theorem builtOf_prepareDataPublication {prepared : PreparedPublication}
    (h : prepareDataPublication host input now = .ok prepared) :
    BuiltOf host input now prepared.manifest := by
  obtain ⟨_, hscope, h⟩ := bind_eq_ok.mp h
  obtain ⟨items, hitems, h⟩ := bind_eq_ok.mp h
  obtain ⟨manifest, hmanifest, h⟩ := bind_eq_ok.mp h
  obtain rfl := Except.ok.inj h
  obtain ⟨-, hitems⟩ := throwIf_bind_eq_ok.mp hitems
  obtain ⟨serialized, hserialized, hitems⟩ := bind_eq_ok.mp hitems
  obtain ⟨hnames, hitems⟩ := throwIf_bind_eq_ok.mp hitems
  obtain rfl := Except.ok.inj hitems
  obtain ⟨sourceCheckedAt, -, hmanifest⟩ := orThrow_bind_eq_ok.mp hmanifest
  obtain ⟨-, hmanifest⟩ := throwIf_bind_eq_ok.mp hmanifest
  obtain ⟨hpublicationId, hmanifest⟩ := throwIf_bind_eq_ok.mp hmanifest
  obtain ⟨hstate, hmanifest⟩ := throwIf_bind_eq_ok.mp hmanifest
  obtain rfl := Except.ok.inj hmanifest
  exact {
    scope := hscope
    publicationId := Bool.not_eq_false _ |>.mp hpublicationId
    state := not_not.mp hstate
    names := not_not.mp hnames
    object := ⟨sourceCheckedAt, serialized, hserialized, rfl⟩ }

/-- A publication has items. -/
theorem items_ne_nil {items : List DataPublicationItemInput} {dataset : DataPublicationDataset}
    (h : (items.map (·.name)).Perm (datasetItemNames dataset)) : items ≠ [] := by
  rintro rfl
  have hlength := h.length_eq
  cases dataset <;> exact absurd hlength (by decide)

/-- A revision with items is a positive safe integer. -/
theorem BuiltOf.revision {manifest : Fields} (h : BuiltOf host input now manifest) :
    isPositiveSafeInteger input.revision.digits = true := by
  obtain ⟨-, serialized, hserialized, -⟩ := h.object
  obtain ⟨item, items, hitems⟩ := List.exists_cons_of_ne_nil (items_ne_nil h.names)
  rw [hitems, serializeEach, throwIf_bind_eq_ok, bind_eq_ok] at hserialized
  obtain ⟨-, first, hfirst, -⟩ := hserialized
  obtain ⟨key, hkey, -⟩ := serializeItem_eq_ok.mp hfirst
  exact (dataPublicationItemKey_eq_ok.mp hkey).1

/-- The names of the fields of a built manifest. -/
theorem names_manifestObject (input : PublishDataRevisionInput) (sourceCheckedAt now : DateValue)
    (items : List SerializedItem) :
    (manifestObject input sourceCheckedAt now items).map Prod.fst =
      ["dataset", "seasonCode", "eventId", "revision", "publicationId", "sourceCheckedAt"] ++
        (fetchFields input.lastSuccessfulFetchAt.join).map Prod.fst ++
        ["publishedAt", "state", "items"] := by
  rw [manifestObject, List.map_append, List.map_append]
  rfl

/-- A built manifest has the fields of one. -/
theorem BuiltOf.hasManifestFields {manifest : Fields} (h : BuiltOf host input now manifest) :
    hasManifestFields manifest := by
  obtain ⟨sourceCheckedAt, serialized, -, rfl⟩ := h.object
  rw [ManifestTexts.hasManifestFields, names_manifestObject]
  cases input.lastSuccessfulFetchAt.join with
  | none => exact .inl (.refl _)
  | some date => exact .inr (List.isPerm_iff.mp rfl)

/-- A built manifest is read as it is written. -/
theorem BuiltOf.isParsed {manifest : Fields} (h : BuiltOf host input now manifest) :
    (JsValue.object manifest).IsParsed := by
  have hfields := h.hasManifestFields
  obtain ⟨sourceCheckedAt, serialized, hserialized, rfl⟩ := h.object
  have hnames : ((manifestObject input sourceCheckedAt now serialized).map Prod.fst).Nodup :=
    hfields.elim (fun hperm => hperm.nodup_iff.mpr (by decide))
      fun hperm => hperm.nodup_iff.mpr (by decide)
  have hevent : (eventValue input.scope.eventId).IsParsed := by
    rw [PublishDataRevisionInput.scope]
    cases input.eventId with
    | none => exact .null
    | some number => exact .number number.isPrinted_digits
  have hitems : (JsValue.array (serialized.map fun item => .object item.manifest)).IsParsed :=
    .array (List.forall_mem_map.mpr (isParsed_serializeEach hserialized))
  refine .object hnames fun field hfield => ?_
  rw [manifestObject, List.mem_append, List.mem_append] at hfield
  simp only [List.mem_cons, List.not_mem_nil, or_false] at hfield
  rcases hfield with ((rfl | rfl | rfl | rfl | rfl | rfl) | hfetch) | rfl | rfl | rfl
  · exact .string _
  · exact .string _
  · exact hevent
  · exact .number input.revision.isPrinted_digits
  · exact .string _
  · exact .string _
  · cases hdate : input.lastSuccessfulFetchAt.join with
    | none => rw [hdate] at hfetch; exact absurd hfetch List.not_mem_nil
    | some date =>
      rw [hdate, fetchFields, List.mem_singleton] at hfetch
      rw [hfetch]
      exact .string _
  · exact .string _
  · exact .string _
  · exact hitems

/-- A text that has been written of a date is a timestamp. -/
theorem isTimestamp_toISOString (host : ManifestHost) (date : DateValue) :
    isTimestamp host date.toISOString = true := by
  rw [isTimestamp, parseDate_toISOString]
  rfl

/-- A built manifest passes all checks if its event is a safe integer. -/
theorem BuiltOf.accepted (hsha256 : ∀ text, isSha256 (host.sha256 text) = true) {manifest : Fields}
    (h : BuiltOf host input now manifest)
    (hsafe : ∀ eventId ∈ input.eventId, IsSafeInteger eventId.value) :
    Accepted host (fun name => manifest.lookup name) input.scope input.revision.digits := by
  obtain ⟨sourceCheckedAt, serialized, hserialized, rfl⟩ := h.object
  obtain ⟨-, hlive, hpositive⟩ := assertScope_eq_ok.mp h.scope
  have hfetched : isOptionalTimestamp host ((manifestObject input sourceCheckedAt now
      serialized).lookup "lastSuccessfulFetchAt") = true := by
    rw [manifestObject]
    cases input.lastSuccessfulFetchAt.join with
    | none => rfl
    | some date => exact isTimestamp_toISOString host date
  have hpublishedAt : (manifestObject input sourceCheckedAt now serialized).lookup "publishedAt" =
      some (.string now.toISOString) := by
    rw [manifestObject]
    cases input.lastSuccessfulFetchAt.join <;> rfl
  have hstate : (manifestObject input sourceCheckedAt now serialized).lookup "state" =
      some (.string (stateText input.state)) := by
    rw [manifestObject]
    cases input.lastSuccessfulFetchAt.join <;> rfl
  have hitems : (manifestObject input sourceCheckedAt now serialized).lookup "items" =
      some (.array (serialized.map fun item => .object item.manifest)) := by
    rw [manifestObject]
    cases input.lastSuccessfulFetchAt.join <;> rfl
  have hevent : ∀ number ∈ input.scope.eventId, isPositiveSafeInteger number = true := by
    intro number hnumber
    obtain ⟨eventId, heventId, rfl⟩ := Option.mem_map.mp hnumber
    have hinteger := (isPositiveInteger_digits eventId).mp (hpositive _ hnumber)
    exact (isPositiveSafeInteger_digits eventId).mpr ⟨hsafe eventId heventId, hinteger.2⟩
  exact {
    dataset := rfl
    seasonCode := rfl
    revisionNumber := rfl
    eventId := readEventId_eq_some.mpr ⟨rfl, hlive, hevent⟩
    publicationId := ⟨_, rfl, h.publicationId⟩
    sourceCheckedAt := ⟨_, rfl, isTimestamp_toISOString host sourceCheckedAt⟩
    lastSuccessfulFetchAt := hfetched
    publishedAt := ⟨_, hpublishedAt, isTimestamp_toISOString host now⟩
    state := ⟨_, hstate, h.state⟩
    validRevision := h.revision
    validScope := h.scope
    items := ⟨_, _, hitems, readItems_serializeEach hsha256 hserialized, .inl h.names⟩ }

end Built

/-! ### Texts of manifests -/

/-- `assertManifestMatchesScope`. -/
def assertManifestMatchesScope (manifest : Fields) (scope : DataPublicationScope) : Prop :=
  manifest.lookup "dataset" = some (.string scope.dataset.text) ∧
    manifest.lookup "seasonCode" = some (.string scope.seasonCode) ∧
    manifest.lookup "eventId" = some (eventValue scope.eventId)

/-- A manifest matches one scope. -/
theorem eq_of_assertManifestMatchesScope {manifest : Fields} {scope other : DataPublicationScope}
    (h : assertManifestMatchesScope manifest scope)
    (hother : assertManifestMatchesScope manifest other) : other = scope := by
  obtain ⟨hdataset, hseasonCode, heventId⟩ := h
  obtain ⟨hotherDataset, hotherSeasonCode, hotherEventId⟩ := hother
  rw [hdataset, Option.some.injEq, JsValue.string.injEq] at hotherDataset
  rw [hseasonCode, Option.some.injEq, JsValue.string.injEq] at hotherSeasonCode
  rw [heventId, Option.some.injEq] at hotherEventId
  obtain ⟨dataset, seasonCode, eventId⟩ := scope
  obtain rfl := datasetText_injective hotherDataset
  obtain rfl := hotherSeasonCode
  obtain rfl := eventValue_injective hotherEventId
  rfl

/-- An accepted manifest matches the scope that it is accepted for. -/
theorem Accepted.assertManifestMatchesScope {host : ManifestHost} {manifest : Fields}
    {scope : DataPublicationScope} {revision : Decimal}
    (h : Accepted host (fun name => manifest.lookup name) scope revision) :
    assertManifestMatchesScope manifest scope :=
  ⟨h.dataset, h.seasonCode, (readEventId_eq_some.mp h.eventId).1⟩

section Runs

variable {host : ManifestHost} {manifest : Fields}

/-- An accepted manifest is accepted again after a heartbeat. -/
theorem parse_refreshedManifest {raw : Option String}
    (h : parseDataPublicationManifest host raw = some manifest) (date : DateValue) :
    parseDataPublicationManifest host (some (manifestText (refreshedManifest manifest date))) =
      some (refreshedManifest manifest date) := by
  obtain ⟨⟨text, -, -, hparse⟩, hfields, scope, revision, haccepted⟩ :=
    parseDataPublicationManifest_eq_some.mp h
  have hdate : (JsValue.object [("lastSuccessfulFetchAt", .string date.toISOString)]).IsParsed :=
    .object (List.nodup_singleton _) (by simpa using .string _)
  exact (parseDataPublicationManifest_manifestText
    ((JsValue.isParsed_of_parse hparse).spread hdate)).mpr
      ⟨hasManifestFields_refreshedManifest hfields date, scope, revision,
        haccepted.refreshedManifest date⟩

/-- A manifest that is accepted of its own text is so after any heartbeats. -/
theorem parse_heartbeats
    (h : parseDataPublicationManifest host (some (manifestText manifest)) = some manifest)
    (heartbeats : List DateValue) :
    parseDataPublicationManifest host
        (some (manifestText (heartbeats.foldl refreshedManifest manifest))) =
      some (heartbeats.foldl refreshedManifest manifest) := by
  induction heartbeats generalizing manifest with
  | nil => exact h
  | cons date heartbeats ih => exact ih (parse_refreshedManifest h date)

/-- Heartbeats leave everything but the time of the last fetch. -/
theorem lookup_heartbeats (heartbeats : List DateValue) {name : String}
    (hname : name ≠ "lastSuccessfulFetchAt") :
    (heartbeats.foldl refreshedManifest manifest).lookup name = manifest.lookup name := by
  induction heartbeats generalizing manifest with
  | nil => rfl
  | cons date heartbeats ih => rw [List.foldl_cons, ih, lookup_refreshedManifest, if_neg hname]

/-- A built manifest is accepted of its text, after any heartbeats, exactly if its event is a safe
integer. -/
theorem BuiltOf.parse_iff {input : PublishDataRevisionInput} {now : DateValue}
    (hsha256 : ∀ text, isSha256 (host.sha256 text) = true)
    (h : BuiltOf host input now manifest) (heartbeats : List DateValue) :
    parseDataPublicationManifest host
          (some (manifestText (heartbeats.foldl refreshedManifest manifest))) =
        some (heartbeats.foldl refreshedManifest manifest) ↔
      ∀ eventId ∈ input.eventId, IsSafeInteger eventId.value := by
  constructor
  · intro hparse eventId heventId
    obtain ⟨-, -, scope, revision, haccepted⟩ := parseDataPublicationManifest_eq_some.mp hparse
    have hread := haccepted.eventId
    rw [lookup_heartbeats heartbeats (by decide)] at hread
    obtain ⟨sourceCheckedAt, serialized, -, rfl⟩ := h.object
    obtain ⟨hvalue, -, hsafe⟩ := readEventId_eq_some.mp hread
    have hevent : input.scope.eventId = scope.eventId :=
      eventValue_injective (Option.some.inj hvalue)
    rw [← hevent] at hsafe
    exact ((isPositiveSafeInteger_digits eventId).mp
      (hsafe _ (Option.mem_map_of_mem _ heventId))).1
  · intro hsafe
    exact parse_heartbeats ((parseDataPublicationManifest_manifestText h.isParsed).mpr
      ⟨h.hasManifestFields, _, _, h.accepted hsha256 hsafe⟩) heartbeats

/-- Every item of a manifest has the key of its name for a scope and a revision, and that key is the
key of nothing else. -/
def ItemsConfinedTo (manifest : Fields) (scope : DataPublicationScope) (revision : Decimal) :
    Prop :=
  manifest.lookup "revision" = some (.number revision) ∧
    ∃ items, manifest.lookup "items" = some (.array items) ∧
      ∀ item ∈ items, ∃ fields name key, item = .object fields ∧
        fields.lookup "name" = some (.string name) ∧ fields.lookup "key" = some (.string key) ∧
        dataPublicationItemKey scope revision name = .ok key ∧
        ∀ other otherRevision otherName,
          dataPublicationItemKey other otherRevision otherName = .ok key →
            other = scope ∧ otherRevision = revision ∧ otherName = name

/-- The items of an accepted manifest are confined to its scope and revision. -/
theorem Accepted.itemsConfinedTo {scope : DataPublicationScope} {revision : Decimal}
    (h : Accepted host (fun name => manifest.lookup name) scope revision) :
    ItemsConfinedTo manifest scope revision := by
  obtain ⟨items, names, hitems, hnames, -⟩ := h.items
  refine ⟨h.revisionNumber, items, hitems, fun item hitem => ?_⟩
  obtain ⟨fields, name, key, hitem, hname, hkey, hitemKey⟩ := exists_key_of_mem hnames hitem
  exact ⟨fields, name, key, hitem, hname, hkey, hitemKey, fun other otherRevision otherName =>
    dataPublicationItemKey_injective hitemKey⟩

end Runs

/-! ### Prepared publications -/

section Prepared

variable {host : ManifestHost} {input : PublishDataRevisionInput} {now : DateValue}

/-- Items with distinct valid names are serialised. -/
theorem exists_serializeEach (hscope : assertScope input.scope = .ok ())
    (hrevision : isPositiveSafeInteger input.revision.digits = true)
    {items : List DataPublicationItemInput} {names : List String}
    (hvalid : ∀ item ∈ items, isItemName item.name = true)
    (hdistinct : (items.map (·.name) ++ names).Nodup) :
    ∃ serialized, serializeEach host input names items = .ok serialized := by
  induction items generalizing names with
  | nil => exact ⟨[], rfl⟩
  | cons item items ih =>
    obtain ⟨hname, hnames⟩ := List.forall_mem_cons.mp hvalid
    rw [List.map_cons, List.cons_append, List.nodup_cons] at hdistinct
    obtain ⟨hnew, hrest⟩ := hdistinct
    have hkey : ∃ key,
        dataPublicationItemKey input.scope input.revision.digits item.name = .ok key :=
      ⟨_, dataPublicationItemKey_eq_ok.mpr
        ⟨hrevision, hname, hscope, String.toList_ofList⟩⟩
    obtain ⟨key, hkey⟩ := hkey
    have hdistinct : (items.map (·.name) ++ item.name :: names).Nodup := by
      rw [List.nodup_middle, List.nodup_cons]
      exact ⟨hnew, hrest⟩
    obtain ⟨rest, hserialized⟩ := ih hnames hdistinct
    exact ⟨_, throwIf_bind_eq_ok.mpr ⟨fun hmem => hnew (List.mem_append_right _ hmem),
      bind_eq_ok.mpr ⟨_, serializeItem_eq_ok.mpr ⟨key, hkey, rfl⟩,
        bind_eq_ok.mpr ⟨rest, hserialized, rfl⟩⟩⟩⟩

/-- The names of the items of a dataset are valid, and distinct. -/
theorem datasetItemNames_valid (dataset : DataPublicationDataset) :
    (∀ name ∈ datasetItemNames dataset, isItemName name = true) ∧
      (datasetItemNames dataset).Nodup := by
  cases dataset <;> exact ⟨by decide, by decide⟩

/-- An input that passes the checks is prepared. -/
theorem exists_prepareDataPublication (hscope : assertScope input.scope = .ok ())
    (hrevision : isPositiveSafeInteger input.revision.digits = true)
    (hnames : (input.items.map (·.name)).Perm (datasetItemNames input.dataset))
    {sourceCheckedAt : DateValue} (hchecked : input.sourceCheckedAt = some sourceCheckedAt)
    (hfetched : input.lastSuccessfulFetchAt ≠ some none)
    (hpublicationId : isDataPublicationId input.publicationId = true)
    (hstate : isCanonicalState input.dataset input.state) :
    ∃ prepared, prepareDataPublication host input now = .ok prepared := by
  obtain ⟨hvalid, hdistinct⟩ := datasetItemNames_valid input.dataset
  have hvalidItems : ∀ item ∈ input.items, isItemName item.name = true :=
    fun item hitem => hvalid _ (hnames.mem_iff.mp (List.mem_map_of_mem hitem))
  have hdistinctItems : (input.items.map DataPublicationItemInput.name ++ []).Nodup := by
    rw [List.append_nil]
    exact hnames.nodup_iff.mpr hdistinct
  obtain ⟨serialized, hserialized⟩ :
      ∃ serialized, serializeEach host input [] input.items = .ok serialized :=
    exists_serializeEach hscope hrevision hvalidItems hdistinctItems
  exact ⟨_, bind_eq_ok.mpr ⟨(), hscope, bind_eq_ok.mpr ⟨serialized,
    throwIf_bind_eq_ok.mpr ⟨by simpa using items_ne_nil hnames, bind_eq_ok.mpr ⟨serialized,
      hserialized, throwIf_bind_eq_ok.mpr ⟨not_not.mpr hnames, rfl⟩⟩⟩,
    bind_eq_ok.mpr ⟨_, orThrow_bind_eq_ok.mpr ⟨sourceCheckedAt, hchecked,
      throwIf_bind_eq_ok.mpr ⟨hfetched, throwIf_bind_eq_ok.mpr ⟨by simp [hpublicationId],
        throwIf_bind_eq_ok.mpr ⟨not_not.mpr hstate, rfl⟩⟩⟩⟩, rfl⟩⟩⟩⟩

end Prepared

/-! ### Every publication -/

/-- The text of an array without items. -/
theorem payloadText_nil (dataset : DataPublicationDataset) :
    payloadText dataset (.array []) = "[]" := by
  cases dataset <;> decide +kernel

/-- An item with an array without items. -/
def emptyItem (name : String) : DataPublicationItemInput where
  name := name
  value := .array []
  count_le := by decide
  bytes_le dataset := by
    rw [payloadText_nil]
    decide

/-- The start of 1970. -/
def firstDate : DateValue := ⟨0, valid_zero⟩

/-- A live publication without any rows. -/
def emptyLive (eventId : ScriptNumber) : PublishDataRevisionInput where
  dataset := .live
  seasonCode := "2526"
  eventId := some eventId
  revision := ScriptNumber.ofSafe 1 (by decide)
  publicationId := "00000000-0000-4000-8000-000000000001"
  sourceCheckedAt := some firstDate
  lastSuccessfulFetchAt := none
  state := .live
  items := [emptyItem "eventLive", emptyItem "fixtures"]

/-- A host with the digest of an array without items. -/
def emptyHost : ManifestHost where
  sha256 text :=
    if text = "[]" then "4f53cda18c2baa0c0354bb5f9a3ecbe5ed12ab4d8e11ba873c2f11161202b945"
    else "e3b0c44298fc1c149afbf4c8996fb92427ae41e4649b934ca495991b7852b855"
  readDate _ := none

/-- The digests of the host are digests. -/
theorem isSha256_emptyHost (text : String) : isSha256 (emptyHost.sha256 text) = true := by
  unfold emptyHost
  dsimp only
  split <;> decide

/-- A live publication without rows is prepared for every positive integer. -/
theorem exists_emptyLive {eventId : ScriptNumber} (hinteger : IsInteger eventId.value)
    (hpositive : 0 < eventId.value) :
    ∃ prepared, prepareDataPublication emptyHost (emptyLive eventId) firstDate = .ok prepared := by
  have hscope : assertScope (emptyLive eventId).scope = .ok () := by
    have hseason : isSeasonCode "2526" = true := by decide
    refine assertScope_eq_ok.mpr ⟨hseason, iff_of_true rfl rfl, fun number hnumber => ?_⟩
    obtain rfl := Option.some.inj hnumber
    exact (isPositiveInteger_digits eventId).mpr ⟨hinteger, hpositive⟩
  have hrevision : isPositiveSafeInteger (emptyLive eventId).revision.digits = true :=
    (isPositiveSafeInteger_digits (ScriptNumber.ofSafe 1 (by decide))).mpr (by decide +kernel)
  have hpublicationId : isDataPublicationId "00000000-0000-4000-8000-000000000001" = true := by
    decide
  have hstate : isCanonicalState .live .live := by decide
  exact exists_prepareDataPublication hscope hrevision (.refl _) rfl (nomatch ·) hpublicationId
    hstate

/-- The event 7. -/
def seventhEvent : ScriptNumber := ScriptNumber.ofSafe 7 (by decide)

/-- The first positive integer that is not safe. -/
def firstUnsafeEvent : ScriptNumber where
  value := 2 ^ 53
  isDouble := by
    have hfinite : |((1 : ℤ) : ℚ) * 2 ^ (53 : ℤ)| < 2 ^ 1024 := by
      rw [Int.cast_one, one_mul, abs_of_pos (two_zpow_pos 53)]
      exact_mod_cast pow_lt_pow_right₀ (by norm_num : (1 : ℚ) < 2) (by norm_num : 53 < 1024)
    have hdouble := isDouble_of_scaled (by norm_num) (by norm_num) hfinite
    rw [Int.cast_one, one_mul] at hdouble
    exact_mod_cast hdouble

end LetletmeData.ManifestTexts
