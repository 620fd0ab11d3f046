import LetletmeData.Content.WeekPublication
import LetletmeData.Library.JsonTexts

/-!
# The history of Week publications

Every publish operation persists its pair of envelopes in one transaction behind the lock of the
Week scope. A publication that is new must be later than all others and becomes the active one; one
that is known must be the latest one and unchanged. So there is at most one active publication, it
is the latest ever, its payloads are those it came with, and it has one outbox row.
-/

namespace LetletmeData

open LetletmeData.Library

/-- A call of `persistWeekPublication`, and whether its transaction fails for another reason. -/
structure PersistWeekCall where
  english : WeekPublicationEnvelope
  chinese : WeekPublicationEnvelope
  outboxId : String
  now : ℤ
  fails : Bool

/-- The tables after the transaction of a call. -/
def WeekTables.persist (host : WeekHost) (tables : WeekTables) (call : PersistWeekCall) : WeekTables :=
  if call.fails then tables
  else
    match persistWeekPublication host call.english call.chinese call.outboxId call.now tables with
    | .ok (written, _) => written
    | .error _ => tables

/-- Nothing has been published. -/
def WeekTables.unpublished : WeekTables := ⟨.empty, .empty, .empty, .empty, .empty⟩

/-- Payloads of the calls that have the same digest are the same. -/
def DistinctHashes (host : WeekHost) (calls : List PersistWeekCall) : Prop :=
  ∀ left ∈ calls.flatMap fun call => [call.english, call.chinese],
    ∀ right ∈ calls.flatMap fun call => [call.english, call.chinese],
      host.sha256 (host.canonicalJson left) = host.sha256 (host.canonicalJson right) → left = right

/-- The proof of a payload. -/
def localeProof (host : WeekHost) (envelope : WeekPublicationEnvelope) : LocaleProof :=
  ⟨(host.canonicalJson envelope).utf8ByteSize, host.sha256 (host.canonicalJson envelope)⟩

/-- The row of a payload. -/
def payloadRow (host : WeekHost) (envelope : WeekPublicationEnvelope) : PublicationPayload :=
  ⟨envelope, (localeProof host envelope).bytes, (localeProof host envelope).sha256⟩

/-- The key under which the outbox takes a publication once. -/
def weekIdempotencyKey (english : WeekPublicationEnvelope) : String :=
  "briefing:week:" ++ english.publicationId ++ ":" ++ toString english.revision

/-- The outbox row of a publication. -/
def outboxRow (english : WeekPublicationEnvelope) (outboxId : String) : PublicationOutboxEntry where
  outboxId := outboxId
  eventType := "briefing.publication.activated"
  publicationId := english.publicationId
  scopeKey := "week"
  revision := english.revision
  locales := [.en, .zhCN]

variable {host : WeekHost} {tables written : WeekTables}

/-! ### One transaction -/

/-- What a committed transaction has checked and written. -/
structure WeekPersisted (host : WeekHost) (call : PersistWeekCall) (tables written : WeekTables) :
    Prop where
  uuid : isUuidText call.english.publicationId
  checked : checkWeekRevision tables call.english (localeProof host call.english).sha256
    (localeProof host call.chinese).sha256 = .ok ()
  publications : written.publications = writeWeekPublication tables call.english
    (localeProof host call.english) (localeProof host call.chinese) call.now
  payloads : written.payloads =
    (tables.payloads.upsert (uuidKey call.english.publicationId, .en)
      (payloadRow host call.english)).upsert (uuidKey call.english.publicationId, .zhCN)
      (payloadRow host call.chinese)
  outbox : written.outbox = tables.outbox.insertAbsent (weekIdempotencyKey call.english)
    (outboxRow call.english call.outboxId)

/-- A text is serialized as its canonical JSON, if at all. -/
theorem eq_of_serializeWeekPublication {envelope : WeekPublicationEnvelope} {text : String}
    (h : serializeWeekPublication host envelope = .ok text) :
    host.canonicalJson envelope = text := by
  obtain ⟨_, _, htext⟩ := bind_eq_ok.mp h
  exact Except.ok.inj htext

/-- The digest of an envelope is the one of its canonical JSON. -/
theorem eq_of_weekPublicationSha256 {envelope : WeekPublicationEnvelope} {digest : String}
    (h : weekPublicationSha256 host envelope = .ok digest) :
    (localeProof host envelope).sha256 = digest := by
  obtain ⟨text, htext, hdigest⟩ := bind_eq_ok.mp h
  rw [← Except.ok.inj hdigest, ← eq_of_serializeWeekPublication htext]
  rfl

/-- A publication that passes has the text of a UUID as its identifier. -/
theorem isUuidText_of_assertWeekPublication {envelope : WeekPublicationEnvelope}
    (h : assertWeekPublication host envelope = .ok ()) : isUuidText envelope.publicationId := by
  have hrest := (throwIf_bind_eq_ok.mp h).2
  exact not_not.mp (throwIf_bind_eq_ok.mp hrest).1

/-- What a transaction that returns has persisted. -/
theorem weekPersisted_of_ok {call : PersistWeekCall} {result : WeekPublicationResult}
    (h : persistWeekPublication host call.english call.chinese call.outboxId call.now tables =
      .ok (written, result)) : WeekPersisted host call tables written := by
  obtain ⟨_, hvalid, h⟩ := bind_eq_ok.mp h
  obtain ⟨_, _, h⟩ := bind_eq_ok.mp h
  obtain ⟨_, _, h⟩ := bind_eq_ok.mp h
  obtain ⟨english, henglish, h⟩ := bind_eq_ok.mp h
  obtain ⟨chinese, hchinese, h⟩ := bind_eq_ok.mp h
  obtain ⟨englishHash, henglishHash, h⟩ := bind_eq_ok.mp h
  obtain ⟨chineseHash, hchineseHash, h⟩ := bind_eq_ok.mp h
  obtain ⟨_, hchecked, h⟩ := bind_eq_ok.mp h
  obtain rfl := eq_of_serializeWeekPublication henglish
  obtain rfl := eq_of_serializeWeekPublication hchinese
  obtain rfl := eq_of_weekPublicationSha256 henglishHash
  obtain rfl := eq_of_weekPublicationSha256 hchineseHash
  obtain ⟨rfl, -⟩ := Prod.mk.inj (Except.ok.inj h)
  exact ⟨isUuidText_of_assertWeekPublication hvalid, hchecked, rfl, rfl, rfl⟩

/-- A transaction leaves everything as it is or has persisted its call. -/
theorem persist_cases (host : WeekHost) (tables : WeekTables) (call : PersistWeekCall) :
    tables.persist host call = tables ∨
      WeekPersisted host call tables (tables.persist host call) := by
  unfold WeekTables.persist
  split
  next => exact Or.inl rfl
  next =>
    split
    next hreturned => exact Or.inr (weekPersisted_of_ok hreturned)
    next => exact Or.inl rfl

/-! ### The latest revision -/

/-- A running maximum is where it started or one of the numbers, and not below any of them. -/
theorem foldl_max_spec (numbers : List ℤ) (start : ℤ) :
    start ≤ numbers.foldl max start ∧ (∀ number ∈ numbers, number ≤ numbers.foldl max start) ∧
      (numbers.foldl max start = start ∨ numbers.foldl max start ∈ numbers) := by
  induction numbers generalizing start with
  | nil => simp
  | cons number rest ih =>
    obtain ⟨hstart, hrest, hreached⟩ := ih (max start number)
    rw [List.foldl_cons]
    refine ⟨(le_max_left _ _).trans hstart, ?_, ?_⟩
    · rw [List.forall_mem_cons]
      exact ⟨(le_max_right _ _).trans hstart, hrest⟩
    · rcases hreached with hreached | hmem
      · rcases max_choice start number with hmax | hmax
        · exact Or.inl (hreached.trans hmax)
        · exact Or.inr (by rw [hreached, hmax]; exact List.mem_cons_self)
      · exact Or.inr (List.mem_cons_of_mem _ hmem)

/-- No publication is later than the latest revision. -/
theorem le_latestWeekRevision {key : String} {row : ContentPublication}
    (hrow : tables.publications.find key = some row) (hscope : row.scopeKey = "week") :
    row.revision ≤ latestWeekRevision tables := by
  apply (foldl_max_spec _ 0).2.1
  exact List.mem_map.mpr ⟨(key, row), KeyedTable.mem_selectWhere.mpr ⟨hrow, hscope⟩, rfl⟩

/-! ### What the tables hold -/

/-- What a publication has left behind: the pair of envelopes it came with as its payloads, their
digests, and its outbox row. -/
structure PublishedAs (host : WeekHost) (tables : WeekTables) (key : String)
    (row : ContentPublication) (call : PersistWeekCall) : Prop where
  key_eq : uuidKey call.english.publicationId = key
  uuid : isUuidText call.english.publicationId
  revision : row.revision = call.english.revision
  english : row.english = localeProof host call.english
  chinese : row.chinese = localeProof host call.chinese
  englishPayload : tables.payloads.find (key, .en) = some (payloadRow host call.english)
  chinesePayload : tables.payloads.find (key, .zhCN) = some (payloadRow host call.chinese)
  outbox : ∃ outboxId, tables.outbox.find (weekIdempotencyKey call.english) =
    some (outboxRow call.english outboxId)

/-- The history is linear: the active publication is the latest one, every publication is as it
came, and payloads and outbox rows belong to publications. -/
structure LinearHistory (host : WeekHost) (calls : List PersistWeekCall) (tables : WeekTables) :
    Prop where
  scope : ∀ key row, tables.publications.find key = some row → row.scopeKey = "week"
  distinct : ∀ key row, tables.publications.find key = some row →
    ∀ other row', tables.publications.find other = some row' → row.revision = row'.revision →
      key = other
  active : ∀ key row, tables.publications.find key = some row → row.status = .active →
    ∀ other row', tables.publications.find other = some row' → row'.revision ≤ row.revision
  published : ∀ key row, tables.publications.find key = some row →
    ∃ call ∈ calls, PublishedAs host tables key row call
  payload : ∀ key locale payload, tables.payloads.find (key, locale) = some payload →
    ∃ row, tables.publications.find key = some row
  outbox : ∀ idempotencyKey entry, tables.outbox.find idempotencyKey = some entry →
    ∃ call ∈ calls, ∃ row, PublishedAs host tables (uuidKey entry.publicationId) row call ∧
      tables.publications.find (uuidKey entry.publicationId) = some row ∧
      idempotencyKey = weekIdempotencyKey call.english

/-- Before the first publication. -/
theorem linearHistory_unpublished (calls : List PersistWeekCall) :
    LinearHistory host calls .unpublished where
  scope := by simp [WeekTables.unpublished]
  distinct := by simp [WeekTables.unpublished]
  active := by simp [WeekTables.unpublished]
  published := by simp [WeekTables.unpublished]
  payload := by simp [WeekTables.unpublished]
  outbox := by simp [WeekTables.unpublished]

/-- Publications are retired in place. -/
def retiredRow (now : ℤ) (row : ContentPublication) : ContentPublication :=
  if row.scopeKey = "week" ∧ row.status = .active then
    { row with status := .retired, servable := false, retiredAt := some now }
  else row

/-- Retiring keeps everything but the status. -/
theorem retiredRow_spec (now : ℤ) (row : ContentPublication) :
    (retiredRow now row).scopeKey = row.scopeKey ∧ (retiredRow now row).revision = row.revision ∧
      (retiredRow now row).english = row.english ∧ (retiredRow now row).chinese = row.chinese ∧
      (row.scopeKey = "week" → (retiredRow now row).status ≠ .active) := by
  unfold retiredRow
  split
  next => exact ⟨rfl, rfl, rfl, rfl, fun _ => by simp⟩
  next hnot => exact ⟨rfl, rfl, rfl, rfl, fun hscope hactive => hnot ⟨hscope, hactive⟩⟩

/-- The publications after a transaction: the written one, and the others, retired. -/
theorem find_writeWeekPublication (english : WeekPublicationEnvelope)
    (englishProof chineseProof : LocaleProof) (now : ℤ) (key : String) :
    (writeWeekPublication tables english englishProof chineseProof now).find key =
      if key = uuidKey english.publicationId then
        some (match tables.publications.find (uuidKey english.publicationId) with
          | some old =>
            { old with
              status := .active, servable := english.state ≠ .unavailable, state := english.state
              validUntil := english.validUntil, retiredAt := none }
          | none => publicationValues english englishProof chineseProof)
      else (tables.publications.find key).map (retiredRow now) := by
  have hretired : ∀ other, (tables.publications.updateWhere
      (fun key row => row.scopeKey = "week" ∧ row.status = .active ∧
        key ≠ uuidKey english.publicationId)
      fun row => { row with status := .retired, servable := false, retiredAt := some now }).find
        other = if other = uuidKey english.publicationId then tables.publications.find other
          else (tables.publications.find other).map (retiredRow now) := by
    intro other
    rw [KeyedTable.find_updateWhere]
    by_cases hother : other = uuidKey english.publicationId
    · simp [hother]
    · cases tables.publications.find other with
      | none => simp
      | some row => simp [hother, retiredRow]
  cases hfind : tables.publications.find (uuidKey english.publicationId) with
  | some old =>
    simp only [writeWeekPublication, hfind]
    rw [KeyedTable.find_updateWhere, hretired]
    by_cases hkey : key = uuidKey english.publicationId
    · subst hkey
      simp [hfind, publicationValues]
    · simp only [if_neg hkey, Option.map_id_fun', id_eq]
  | none =>
    simp only [writeWeekPublication, hfind]
    rw [KeyedTable.find_insertAbsent, hretired]
    by_cases hkey : key = uuidKey english.publicationId
    · subst hkey
      simp [hfind]
    · simp [hkey]

/-- The text of a UUID has no colon. -/
theorem not_mem_of_isUuidText {text : String} (h : isUuidText text) : ':' ∉ text.toList := by
  unfold isUuidText at h
  intro hmem
  split at h
  next first second third fourth fifth hgroups =>
    simp only [Bool.and_eq_true, List.all_eq_true] at h
    have hjoined : ['-'].intercalate [first, second, third, fourth, fifth] = text.toList := by
      rw [← hgroups, List.intercalate_splitOn]
    rw [← hjoined] at hmem
    have hgroup : ∀ group ∈ [first, second, third, fourth, fifth], ':' ∉ group := by
      intro group hgroup hcolon
      exact absurd (h.1.1.2 group hgroup ':' hcolon) (by decide)
    simp only [List.forall_mem_cons] at hgroup
    simp [List.intercalate, List.intersperse, hgroup] at hmem
  next => exact absurd h (by simp)

/-- The key of the outbox names the publication. -/
theorem weekIdempotencyKey_injective {left right : WeekPublicationEnvelope}
    (hleft : isUuidText left.publicationId) (hright : isUuidText right.publicationId)
    (h : weekIdempotencyKey left = weekIdempotencyKey right) :
    left.publicationId = right.publicationId := by
  have hlist := congrArg String.toList h
  simp only [weekIdempotencyKey, String.toList_append, List.append_assoc,
    List.append_cancel_left_eq] at hlist
  exact String.toList_inj.mp (append_cons_injective (not_mem_of_isUuidText hleft)
    (not_mem_of_isUuidText hright) hlist).1

/-- A publication stays as it came while its row keeps revision and digests, its payloads stay and
no outbox row is lost. -/
theorem PublishedAs.of_kept {key : String} {row row' : ContentPublication} {call : PersistWeekCall}
    (h : PublishedAs host tables key row call)
    (hrow : row'.revision = row.revision ∧ row'.english = row.english ∧ row'.chinese = row.chinese)
    (hpayloads : ∀ locale payload, tables.payloads.find (key, locale) = some payload →
      written.payloads.find (key, locale) = some payload)
    (houtbox : ∀ key entry, tables.outbox.find key = some entry →
      written.outbox.find key = some entry) : PublishedAs host written key row' call where
  key_eq := h.key_eq
  uuid := h.uuid
  revision := hrow.1.trans h.revision
  english := hrow.2.1.trans h.english
  chinese := hrow.2.2.trans h.chinese
  englishPayload := hpayloads _ _ h.englishPayload
  chinesePayload := hpayloads _ _ h.chinesePayload
  outbox := by
    obtain ⟨outboxId, hentry⟩ := h.outbox
    exact ⟨outboxId, houtbox _ _ hentry⟩

section Step

variable {calls : List PersistWeekCall} {call : PersistWeekCall}

/-- A call of the run for a known publication is the call it came with. -/
theorem LinearHistory.same_call (h : LinearHistory host calls tables)
    (hhashes : DistinctHashes host calls) (hcall : call ∈ calls)
    (hpersisted : WeekPersisted host call tables written) {old : ContentPublication}
    (hold : tables.publications.find (uuidKey call.english.publicationId) = some old) :
    old.revision = call.english.revision ∧ call.english.revision = latestWeekRevision tables ∧
      ∃ first ∈ calls, PublishedAs host tables (uuidKey call.english.publicationId) old first ∧
        first.english = call.english ∧ first.chinese = call.chinese := by
  have hchecked := hpersisted.checked
  simp only [checkWeekRevision, hold, assertThat] at hchecked
  obtain ⟨hrevision, hchecked⟩ := throwIf_bind_eq_ok.mp hchecked
  obtain ⟨hlatest, hchecked⟩ := throwIf_bind_eq_ok.mp hchecked
  have hdigests := not_not.mp (throwIf_eq_ok.mp hchecked)
  obtain ⟨first, hfirst, hpublished⟩ := h.published _ _ hold
  rw [hpublished.english, hpublished.chinese] at hdigests
  have hmem : ∀ {call}, call ∈ calls →
      call.english ∈ calls.flatMap (fun call => [call.english, call.chinese]) ∧
        call.chinese ∈ calls.flatMap (fun call => [call.english, call.chinese]) := by
    intro call hcall
    exact ⟨List.mem_flatMap.mpr ⟨call, hcall, by simp⟩, List.mem_flatMap.mpr ⟨call, hcall, by simp⟩⟩
  exact ⟨not_not.mp hrevision, not_not.mp hlatest, first, hfirst, hpublished,
    hhashes _ (hmem hfirst).1 _ (hmem hcall).1 hdigests.1,
    hhashes _ (hmem hfirst).2 _ (hmem hcall).2 hdigests.2⟩

/-- A transaction changes no payload that is there. -/
theorem LinearHistory.payloads_kept (h : LinearHistory host calls tables)
    (hhashes : DistinctHashes host calls) (hcall : call ∈ calls)
    (hpersisted : WeekPersisted host call tables written) {key : String} {locale : WeekLocale}
    {payload : PublicationPayload} (hpayload : tables.payloads.find (key, locale) = some payload) :
    written.payloads.find (key, locale) = some payload := by
  rw [hpersisted.payloads, KeyedTable.find_upsert, KeyedTable.find_upsert]
  by_cases hkey : key = uuidKey call.english.publicationId
  · subst hkey
    obtain ⟨old, hold⟩ := h.payload _ _ _ hpayload
    obtain ⟨-, -, first, -, hpublished, henglish, hchinese⟩ :=
      h.same_call hhashes hcall hpersisted hold
    cases locale with
    | en =>
      rw [if_neg (by simp), if_pos rfl, ← henglish, ← hpublished.englishPayload]
      exact hpayload
    | zhCN =>
      rw [if_pos rfl, ← hchinese, ← hpublished.chinesePayload]
      exact hpayload
  · simpa [hkey] using hpayload

/-- A transaction changes no outbox row that is there. -/
theorem outbox_kept (hpersisted : WeekPersisted host call tables written) {key : String}
    {entry : PublicationOutboxEntry} (hentry : tables.outbox.find key = some entry) :
    written.outbox.find key = some entry := by
  rw [hpersisted.outbox]
  exact KeyedTable.find_insertAbsent_of_find hentry

/-- What a transaction leaves of the publications: the written one, which is the latest, and the
others, none of them active. -/
theorem LinearHistory.publications_written (h : LinearHistory host calls tables)
    (hhashes : DistinctHashes host calls) (hcall : call ∈ calls)
    (hpersisted : WeekPersisted host call tables written) {key : String}
    {row : ContentPublication} (hrow : written.publications.find key = some row) :
    (key = uuidKey call.english.publicationId ∧ row.scopeKey = "week" ∧
        row.revision = call.english.revision ∧ row.english = localeProof host call.english ∧
        row.chinese = localeProof host call.chinese) ∨
      key ≠ uuidKey call.english.publicationId ∧
        ∃ old, tables.publications.find key = some old ∧ row = retiredRow call.now old ∧
          old.revision < call.english.revision := by
  rw [hpersisted.publications, find_writeWeekPublication] at hrow
  by_cases hkey : key = uuidKey call.english.publicationId
  · left
    subst hkey
    rw [if_pos rfl] at hrow
    cases hfind : tables.publications.find (uuidKey call.english.publicationId) with
    | some old =>
      obtain ⟨hrevision, -, first, -, hpublished, henglish, hchinese⟩ :=
        h.same_call hhashes hcall hpersisted hfind
      simp only [hfind] at hrow
      obtain rfl := Option.some.inj hrow
      exact ⟨rfl, h.scope _ old hfind, hrevision, henglish ▸ hpublished.english,
        hchinese ▸ hpublished.chinese⟩
    | none =>
      simp only [hfind] at hrow
      obtain rfl := Option.some.inj hrow
      exact ⟨rfl, rfl, rfl, rfl, rfl⟩
  · right
    rw [if_neg hkey] at hrow
    obtain ⟨old, hold, rfl⟩ := Option.map_eq_some_iff.mp hrow
    refine ⟨hkey, old, hold, rfl, ?_⟩
    have hle := le_latestWeekRevision hold (h.scope _ _ hold)
    cases hfind : tables.publications.find (uuidKey call.english.publicationId) with
    | some known =>
      obtain ⟨hrevision, hlatest, -⟩ := h.same_call hhashes hcall hpersisted hfind
      refine lt_of_le_of_ne (hle.trans_eq hlatest.symm) fun heq => hkey ?_
      exact h.distinct _ _ hold _ _ hfind (heq.trans hrevision.symm)
    | none =>
      have hchecked := hpersisted.checked
      simp only [checkWeekRevision, hfind, assertThat, throwIf_eq_ok, not_not] at hchecked
      exact hle.trans_lt hchecked

/-- The written publication is as its call brought it. -/
theorem LinearHistory.publishedAs_written (h : LinearHistory host calls tables)
    (hhashes : DistinctHashes host calls) (hcall : call ∈ calls)
    (hpersisted : WeekPersisted host call tables written) {row : ContentPublication}
    (hrow : row.revision = call.english.revision ∧ row.english = localeProof host call.english ∧
      row.chinese = localeProof host call.chinese) :
    PublishedAs host written (uuidKey call.english.publicationId) row call where
  key_eq := rfl
  uuid := hpersisted.uuid
  revision := hrow.1
  english := hrow.2.1
  chinese := hrow.2.2
  englishPayload := by
    rw [hpersisted.payloads, KeyedTable.find_upsert, KeyedTable.find_upsert]
    simp
  chinesePayload := by
    rw [hpersisted.payloads, KeyedTable.find_upsert]
    simp
  outbox := by
    rw [hpersisted.outbox, KeyedTable.find_insertAbsent]
    cases hentry : tables.outbox.find (weekIdempotencyKey call.english) with
    | none => exact ⟨call.outboxId, by simp⟩
    | some entry =>
      -- the publication is known, and the row is its own
      obtain ⟨owner, -, row', howner, hrow', hkeys⟩ := h.outbox _ _ hentry
      have hid := weekIdempotencyKey_injective hpersisted.uuid howner.uuid hkeys
      rw [← howner.key_eq, ← hid] at hrow'
      obtain ⟨-, -, first, -, hpublished, henglish, -⟩ :=
        h.same_call hhashes hcall hpersisted hrow'
      obtain ⟨outboxId, hfirst⟩ := hpublished.outbox
      rw [henglish, hentry] at hfirst
      exact ⟨outboxId, by rw [Option.some_or, hfirst]⟩

/-- A transaction keeps every publication with its revision and digests. -/
theorem LinearHistory.row_kept (h : LinearHistory host calls tables)
    (hhashes : DistinctHashes host calls) (hcall : call ∈ calls)
    (hpersisted : WeekPersisted host call tables written) {key : String} {old : ContentPublication}
    (hold : tables.publications.find key = some old) :
    ∃ row, written.publications.find key = some row ∧ row.revision = old.revision ∧
      row.english = old.english ∧ row.chinese = old.chinese := by
  rw [hpersisted.publications, find_writeWeekPublication]
  by_cases hkey : key = uuidKey call.english.publicationId
  · subst hkey
    rw [if_pos rfl]
    simp only [hold]
    exact ⟨_, rfl, rfl, rfl, rfl⟩
  · rw [if_neg hkey, hold]
    obtain ⟨-, hrevision, henglish, hchinese, -⟩ := retiredRow_spec call.now old
    exact ⟨_, rfl, hrevision, henglish, hchinese⟩

/-- A transaction keeps the history linear. -/
theorem LinearHistory.persisted (h : LinearHistory host calls tables)
    (hhashes : DistinctHashes host calls) (hcall : call ∈ calls)
    (hpersisted : WeekPersisted host call tables written) : LinearHistory host calls written where
  scope := by
    intro key row hrow
    rcases h.publications_written hhashes hcall hpersisted hrow with hnew | hold
    · exact hnew.2.1
    · obtain ⟨-, old, hold, rfl, -⟩ := hold
      exact (retiredRow_spec _ old).1.trans (h.scope _ _ hold)
  distinct := by
    intro key row hrow other row' hrow' hrevision
    rcases h.publications_written hhashes hcall hpersisted hrow with hnew | hold
    · rcases h.publications_written hhashes hcall hpersisted hrow' with hnew' | hold'
      · exact hnew.1.trans hnew'.1.symm
      · obtain ⟨-, old, -, rfl, hlt⟩ := hold'
        rw [hnew.2.2.1, (retiredRow_spec _ old).2.1] at hrevision
        exact absurd hrevision hlt.ne'
    · obtain ⟨-, old, hold, rfl, hlt⟩ := hold
      rw [(retiredRow_spec _ old).2.1] at hrevision
      rcases h.publications_written hhashes hcall hpersisted hrow' with hnew' | hold'
      · rw [hnew'.2.2.1] at hrevision
        exact absurd hrevision hlt.ne
      · obtain ⟨-, old', hold', rfl, -⟩ := hold'
        rw [(retiredRow_spec _ old').2.1] at hrevision
        exact h.distinct _ _ hold _ _ hold' hrevision
  active := by
    intro key row hrow hactive other row' hrow'
    rcases h.publications_written hhashes hcall hpersisted hrow with hnew | hold
    · rw [hnew.2.2.1]
      rcases h.publications_written hhashes hcall hpersisted hrow' with hnew' | hold'
      · exact hnew'.2.2.1.le
      · obtain ⟨-, old, -, rfl, hlt⟩ := hold'
        rw [(retiredRow_spec _ old).2.1]
        exact hlt.le
    · obtain ⟨-, old, hold, rfl, -⟩ := hold
      exact absurd hactive ((retiredRow_spec _ old).2.2.2.2 (h.scope _ _ hold))
  published := by
    intro key row hrow
    rcases h.publications_written hhashes hcall hpersisted hrow with hnew | hold
    · obtain ⟨rfl, -, hwritten⟩ := hnew
      exact ⟨call, hcall, h.publishedAs_written hhashes hcall hpersisted hwritten⟩
    · obtain ⟨-, old, hold, rfl, -⟩ := hold
      obtain ⟨first, hfirst, hpublished⟩ := h.published _ _ hold
      obtain ⟨-, hrevision, henglish, hchinese, -⟩ := retiredRow_spec call.now old
      exact ⟨first, hfirst, hpublished.of_kept ⟨hrevision, henglish, hchinese⟩
        (fun _ _ => h.payloads_kept hhashes hcall hpersisted)
        (fun _ _ => outbox_kept hpersisted)⟩
  payload := by
    intro key locale payload hpayload
    rw [hpersisted.payloads, KeyedTable.find_upsert, KeyedTable.find_upsert] at hpayload
    by_cases hkey : key = uuidKey call.english.publicationId
    · subst hkey
      rw [hpersisted.publications, find_writeWeekPublication, if_pos rfl]
      exact ⟨_, rfl⟩
    · rw [if_neg (by simp [hkey]), if_neg (by simp [hkey])] at hpayload
      obtain ⟨old, hold⟩ := h.payload _ _ _ hpayload
      obtain ⟨row, hrow, -⟩ := h.row_kept hhashes hcall hpersisted hold
      exact ⟨row, hrow⟩
  outbox := by
    intro idempotencyKey entry hentry
    rw [hpersisted.outbox, KeyedTable.find_insertAbsent, Option.or_eq_some_iff] at hentry
    rcases hentry with hentry | hentry
    · obtain ⟨owner, howner, old, hpublished, hold, hkey⟩ := h.outbox _ _ hentry
      obtain ⟨row, hrow, hkept⟩ := h.row_kept hhashes hcall hpersisted hold
      exact ⟨owner, howner, row, hpublished.of_kept hkept
        (fun _ _ => h.payloads_kept hhashes hcall hpersisted)
        (fun _ _ => outbox_kept hpersisted), hrow, hkey⟩
    · obtain ⟨rfl, rfl⟩ : idempotencyKey = weekIdempotencyKey call.english ∧
          outboxRow call.english call.outboxId = entry := by simpa using hentry.2
      have hwritten : ∃ row, written.publications.find (uuidKey call.english.publicationId) =
          some row := by
        rw [hpersisted.publications, find_writeWeekPublication, if_pos rfl]
        exact ⟨_, rfl⟩
      obtain ⟨row, hrow⟩ := hwritten
      rcases h.publications_written hhashes hcall hpersisted hrow with hnew | hold
      · exact ⟨call, hcall, row, h.publishedAs_written hhashes hcall hpersisted hnew.2.2, hrow,
          rfl⟩
      · exact absurd rfl hold.1

end Step

/-! ### Runs -/

/-- What later tables keep of earlier ones: the publications with their revisions, and the payloads.
-/
structure HistoryKept (tables later : WeekTables) : Prop where
  publications : ∀ key old, tables.publications.find key = some old →
    ∃ row, later.publications.find key = some row ∧ row.revision = old.revision
  payloads : ∀ key locale payload, tables.payloads.find (key, locale) = some payload →
    later.payloads.find (key, locale) = some payload

/-- Tables keep their own history. -/
theorem HistoryKept.refl (tables : WeekTables) : HistoryKept tables tables :=
  ⟨fun _ old hold => ⟨old, hold, rfl⟩, fun _ _ _ hpayload => hpayload⟩

/-- What is kept twice is kept. -/
theorem HistoryKept.trans {first second third : WeekTables} (h : HistoryKept first second)
    (h' : HistoryKept second third) : HistoryKept first third where
  publications := by
    intro key old hold
    obtain ⟨row, hrow, hrevision⟩ := h.publications key old hold
    obtain ⟨row', hrow', hrevision'⟩ := h'.publications key row hrow
    exact ⟨row', hrow', hrevision'.trans hrevision⟩
  payloads := fun key locale payload hpayload =>
    h'.payloads key locale payload (h.payloads key locale payload hpayload)

/-- Every call keeps the history linear, and what was there. -/
theorem LinearHistory.step {calls : List PersistWeekCall} (h : LinearHistory host calls tables)
    (hhashes : DistinctHashes host calls) {call : PersistWeekCall} (hcall : call ∈ calls) :
    LinearHistory host calls (tables.persist host call) ∧
      HistoryKept tables (tables.persist host call) := by
  rcases persist_cases host tables call with hsame | hpersisted
  · rw [hsame]
    exact ⟨h, .refl tables⟩
  · refine ⟨h.persisted hhashes hcall hpersisted, ⟨fun key old hold => ?_, fun _ _ _ =>
      h.payloads_kept hhashes hcall hpersisted⟩⟩
    obtain ⟨row, hrow, hrevision, -⟩ := h.row_kept hhashes hcall hpersisted hold
    exact ⟨row, hrow, hrevision⟩

/-- A run keeps the history linear, and what was there. -/
theorem LinearHistory.run {calls actions : List PersistWeekCall} (h : LinearHistory host calls tables)
    (hhashes : DistinctHashes host calls) (hactions : actions ⊆ calls) :
    LinearHistory host calls (runSteps (WeekTables.persist host) tables actions) ∧
      HistoryKept tables (runSteps (WeekTables.persist host) tables actions) := by
  induction actions generalizing tables with
  | nil => exact ⟨h, .refl tables⟩
  | cons call rest ih =>
    obtain ⟨hstep, hkept⟩ := h.step hhashes (hactions List.mem_cons_self)
    obtain ⟨hrun, hrest⟩ := ih hstep fun _ hmem => hactions (List.mem_cons_of_mem _ hmem)
    exact ⟨hrun, hkept.trans hrest⟩

/-- Two publications that are both active are the same. -/
theorem LinearHistory.active_unique {calls : List PersistWeekCall} (h : LinearHistory host calls tables)
    {key other : String} {row row' : ContentPublication}
    (hrow : tables.publications.find key = some row) (hactive : row.status = .active)
    (hother : tables.publications.find other = some row') (hactive' : row'.status = .active) :
    key = other :=
  h.distinct _ _ hrow _ _ hother (le_antisymm (h.active _ _ hother hactive' _ _ hrow)
    (h.active _ _ hrow hactive _ _ hother))

/-- Every publication has exactly one outbox row. -/
theorem LinearHistory.outbox_unique {calls : List PersistWeekCall} (h : LinearHistory host calls tables)
    {key : String} {row : ContentPublication} (hrow : tables.publications.find key = some row) :
    ∃! idempotencyKey, ∃ entry, tables.outbox.find idempotencyKey = some entry ∧
      uuidKey entry.publicationId = key := by
  obtain ⟨call, -, hpublished⟩ := h.published _ _ hrow
  obtain ⟨outboxId, hentry⟩ := hpublished.outbox
  refine ⟨weekIdempotencyKey call.english, ⟨_, hentry, hpublished.key_eq⟩, ?_⟩
  rintro idempotencyKey ⟨entry, hother, rfl⟩
  obtain ⟨owner, -, _, howner, -, hkey⟩ := h.outbox _ _ hother
  have hpayload := howner.englishPayload.symm.trans hpublished.englishPayload
  have henglish : owner.english = call.english :=
    congrArg PublicationPayload.payload (Option.some.inj hpayload)
  rw [hkey, henglish]

/-- In every history of publish transactions, at every time: there is at most one active
publication; no publication there has ever been is later than it; every publication has one outbox
row and both payloads, and these are the payloads it has had ever since it was there. -/
theorem weekPublications_linear (host : WeekHost) (calls : List PersistWeekCall)
    (hhashes : DistinctHashes host calls) :
    ∀ before, before <+: calls →
      let now := runSteps (WeekTables.persist host) .unpublished before
      (∀ key row, now.publications.find key = some row → row.status = .active →
        (∀ other row', now.publications.find other = some row' → row'.status = .active →
          other = key) ∧
        ∀ earlier, earlier <+: before → ∀ other row',
          (runSteps (WeekTables.persist host) .unpublished earlier).publications.find other =
            some row' → row'.revision ≤ row.revision) ∧
      (∀ key row, now.publications.find key = some row →
        (∀ locale, ∃ payload, now.payloads.find (key, locale) = some payload) ∧
        ∃! idempotencyKey, ∃ entry, now.outbox.find idempotencyKey = some entry ∧
          uuidKey entry.publicationId = key) ∧
      ∀ earlier, earlier <+: before → ∀ key locale payload,
        (runSteps (WeekTables.persist host) .unpublished earlier).payloads.find (key, locale) =
          some payload → now.payloads.find (key, locale) = some payload := by
  intro before hbefore now
  have hnow : LinearHistory host calls now :=
    ((linearHistory_unpublished calls).run hhashes hbefore.subset).1
  have hkept : ∀ earlier, earlier <+: before →
      HistoryKept (runSteps (WeekTables.persist host) .unpublished earlier) now := by
    rintro earlier ⟨later, rfl⟩
    have hearlier := ((linearHistory_unpublished calls).run hhashes
      ((List.prefix_append earlier later).trans hbefore).subset).1
    have hrun := (hearlier.run hhashes
      (List.Subset.trans (List.subset_append_right earlier later) hbefore.subset)).2
    rwa [← runSteps_append] at hrun
  refine ⟨fun key row hrow hactive => ⟨fun other row' hother hactive' =>
    hnow.active_unique hother hactive' hrow hactive, ?_⟩, fun key row hrow => ⟨?_, ?_⟩, ?_⟩
  · intro earlier hearlier other row' hother
    obtain ⟨later, hlater, hrevision⟩ := (hkept earlier hearlier).publications other row' hother
    rw [← hrevision]
    exact hnow.active _ _ hrow hactive _ _ hlater
  · intro locale
    obtain ⟨call, -, hpublished⟩ := hnow.published _ _ hrow
    cases locale with
    | en => exact ⟨_, hpublished.englishPayload⟩
    | zhCN => exact ⟨_, hpublished.chinesePayload⟩
  · exact hnow.outbox_unique hrow
  · exact fun earlier hearlier => (hkept earlier hearlier).payloads

/-- The texts and the digests of briefings without an event and without stories. -/
def emptyWeekHost : WeekHost where
  parseDate := fun text => if text = "2026-08-14T10:00:00.000Z" then some 1786701600000 else none
  urlProtocol := fun _ => none
  canonicalJson := fun envelope =>
    "\x7b\"event\":null,\"featured\":[],\"locale\":\"" ++ envelope.locale.text ++
      "\",\"publicationId\":\"" ++ envelope.publicationId ++ "\",\"publishedAt\":\"" ++
      envelope.publishedAt ++ "\",\"revision\":" ++ toString envelope.revision ++
      ",\"schemaVersion\":1,\"scopeKey\":\"week\",\"scopeKind\":\"SURFACE\",\"sections\":[]," ++
      "\"sourceCheckedAt\":\"" ++ envelope.sourceCheckedAt ++
      "\",\"state\":\"EMPTY\",\"validUntil\":null\x7d"
  sha256 := fun text =>
    if text = "\x7b\"event\":null,\"featured\":[],\"locale\":\"en\",\"publicationId\":" ++
        "\"11111111-1111-4111-8111-111111111111\",\"publishedAt\":\"2026-08-14T10:00:00.000Z\"," ++
        "\"revision\":1,\"schemaVersion\":1,\"scopeKey\":\"week\",\"scopeKind\":\"SURFACE\"," ++
        "\"sections\":[],\"sourceCheckedAt\":\"2026-08-14T10:00:00.000Z\",\"state\":\"EMPTY\"," ++
        "\"validUntil\":null\x7d" then
      "f8d17ce1ede2c9079cfdc9d26cd3714ca47e25f1a7632fcd547aeabfddc54e3c"
    else "8918e4e8850fa692eedbe4b142788afd1c9e4d87de05c378364f2b13af4bbf98"

/-- One locale of an empty briefing. -/
def firstBriefing (locale : WeekLocale) : WeekPublicationEnvelope where
  revision := 1
  publicationId := "11111111-1111-4111-8111-111111111111"
  state := .empty
  locale := locale
  publishedAt := "2026-08-14T10:00:00.000Z"
  sourceCheckedAt := "2026-08-14T10:00:00.000Z"
  validUntil := none
  event := none
  featured := []
  sections := []

/-- A call with the briefing. -/
def firstPersist (outboxId : String) (now : ℤ) : PersistWeekCall where
  english := firstBriefing .en
  chinese := firstBriefing .zhCN
  outboxId := outboxId
  now := now
  fails := false

/-- A repeated call leaves the active publication with one outbox row. -/
theorem weekPublications_linear_repeated :
    let now := runSteps (WeekTables.persist emptyWeekHost) .unpublished
      [firstPersist "first" 0, firstPersist "second" 1]
    (now.publications.find "11111111-1111-4111-8111-111111111111").map (·.status) = some .active ∧
      ∃! idempotencyKey, ∃ entry, now.outbox.find idempotencyKey = some entry ∧
        uuidKey entry.publicationId = "11111111-1111-4111-8111-111111111111" := by
  intro now
  have hhashes : DistinctHashes emptyWeekHost
      [firstPersist "first" 0, firstPersist "second" 1] := by
    unfold DistinctHashes
    decide +kernel
  have hactive : (now.publications.find "11111111-1111-4111-8111-111111111111").map (·.status) =
      some .active := by
    decide +kernel
  obtain ⟨row, hrow, -⟩ := Option.map_eq_some_iff.mp hactive
  exact ⟨hactive, ((weekPublications_linear emptyWeekHost _ hhashes _ List.prefix_rfl).2.1 _ _
    hrow).2⟩

end LetletmeData
