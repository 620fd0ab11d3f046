import LetletmeData.Repositories.PublicationHistory

/-!
# The content of publications that were active

What a publication serves is the item list of its manifest and the stored rows. Staging items
is an upsert that asks for no status, and an active publication may be activated again under
another manifest, so the content of a publication that was active once can still be rewritten.
-/

namespace LetletmeData

open LetletmeData.Library

/-- The item list of a manifest and the stored items by name. -/
structure PublicationContent where
  manifestItems : Option (List DataPublicationManifestItem)
  stored : String → Option DatasetPublicationItem

/-- The content of an identifier and revision, while a row carries them. -/
def Database.content (db : Database) (version : ℕ × ℕ) : Option PublicationContent :=
  ((db.publications.find version.1).filter fun row => row.revision = version.2).map fun row =>
    { manifestItems := row.manifest.map (·.items)
      stored := fun name => db.items.find (version.1, name) }

/-- The content is what it was, as long as there is one. -/
def KeepsContent (db later : Database) (version : ℕ × ℕ) : Prop :=
  ∀ content, later.content version = some content → db.content version = some content

/-- The identifiers and revisions of the active publications. -/
def Database.activeVersions (db : Database) : List (ℕ × ℕ) :=
  (db.publications.selectWhere fun _ row => row.status = .active).map fun entry =>
    (entry.1, entry.2.revision)

/-- The tables, and every version that has become active so far. -/
structure PublicationLedger where
  db : Database
  activated : List (ℕ × ℕ)

namespace PublicationLedger

/-- Before the first run. -/
def initial (seasons : List ℕ) (events : List (ℕ × ℕ)) : PublicationLedger :=
  { db := .initial seasons events, activated := [] }

/-- A call, and the record of what is active after it. -/
def step (host : HostFunctions) (ledger : PublicationLedger) (call : DatabaseCall) :
    PublicationLedger :=
  let db := databaseStep host ledger.db call
  { db := db, activated := ledger.activated ++ db.activeVersions }

/-- Whatever has become active keeps its content. -/
structure KeepsActivated (ledger later : PublicationLedger) : Prop where
  activated_subset : ledger.activated ⊆ later.activated
  content : ∀ version ∈ ledger.activated, KeepsContent ledger.db later.db version

/-- Nothing changes in no time. -/
theorem KeepsActivated.refl (ledger : PublicationLedger) : ledger.KeepsActivated ledger :=
  ⟨fun _ h => h, fun _ _ _ h => h⟩

/-- Content is kept over consecutive histories. -/
theorem KeepsActivated.trans (first second third : PublicationLedger)
    (h : first.KeepsActivated second) (h' : second.KeepsActivated third) :
    first.KeepsActivated third :=
  ⟨List.Subset.trans h.activated_subset h'.activated_subset, fun version hversion content hcontent =>
    h.content version hversion content
      (h'.content version (h.activated_subset hversion) content hcontent)⟩

/-- Recorded revisions come from the sequence. -/
structure Consistent (ledger : PublicationLedger) : Prop where
  wellFormed : ledger.db.WellFormed
  revision_lt : ∀ version ∈ ledger.activated, version.2 < ledger.db.nextRevision

/-- The first ledger is consistent. -/
theorem Consistent.initial (seasons : List ℕ) (events : List (ℕ × ℕ)) :
    (PublicationLedger.initial seasons events).Consistent :=
  ⟨.initial seasons events, nofun⟩

/-- Every call keeps the ledger consistent. -/
theorem Consistent.step {ledger : PublicationLedger} (h : ledger.Consistent)
    (host : HostFunctions) (call : DatabaseCall) : (ledger.step host call).Consistent := by
  obtain ⟨hwellFormed, hfollows⟩ := h.wellFormed.step host call
  refine ⟨hwellFormed, fun version hversion => ?_⟩
  rcases List.mem_append.mp hversion with hold | hnew
  · exact (h.revision_lt version hold).trans_le hfollows.sequence_le
  · obtain ⟨entry, hentry, rfl⟩ := List.mem_map.mp hnew
    exact hwellFormed.revision_lt _ _ (KeyedTable.mem_selectWhere.mp hentry).1

end PublicationLedger

/-- What a staged item is stored as. -/
def DatasetPublicationItemInput.row (item : DatasetPublicationItemInput) :
    DatasetPublicationItem :=
  { payload := item.payload, itemCount := item.count, checksum := item.checksum }

/-- A call that writes other content for a version that has become active: staging items it
does not store that way, or activating it again under a manifest with other items. -/
def RewritesActivated (ledger : PublicationLedger) : DatabaseCall → Prop
  | .stagePublicationItems publicationId items =>
    (StageableItems (items.map (·.name)) ∧ (items.map (·.name)).Nodup) ∧
      ∃ row, ledger.db.publications.find publicationId = some row ∧
        (publicationId, row.revision) ∈ ledger.activated ∧
        ∃ item ∈ items, ledger.db.items.find (publicationId, item.name) ≠ some item.row
  | .activatePublication _ input =>
    ReceiptFits input ledger.db ∧
      ∃ row run, ActivationAllowed input ledger.db row run ∧
        (input.publicationId, row.revision) ∈ ledger.activated ∧
        row.manifest.map (·.items) ≠ some input.manifest.items
  | _ => False

section Content

variable {db later : Database} {version : ℕ × ℕ}

/-- Content depends on the row and on the stored items of its publication alone. -/
theorem content_congr
    (hrow : ((later.publications.find version.1).map fun row =>
        (row.revision, row.manifest.map (·.items))) =
      (db.publications.find version.1).map fun row =>
        (row.revision, row.manifest.map (·.items)))
    (hitems : ∀ name, later.items.find (version.1, name) = db.items.find (version.1, name)) :
    later.content version = db.content version := by
  unfold Database.content
  simp only [hitems]
  cases hlater : later.publications.find version.1 <;>
    cases hdb : db.publications.find version.1 <;> simp_all [Option.filter]

/-- The content of a row that is found. -/
theorem content_of_find {id revision : ℕ} {row : DatasetPublication}
    (h : db.publications.find id = some row) (hrevision : row.revision = revision) :
    db.content (id, revision) = some
      { manifestItems := row.manifest.map (·.items)
        stored := fun name => db.items.find (id, name) } := by
  simp [Database.content, h, hrevision]

/-- Unchanged content is kept. -/
theorem KeepsContent.of_eq (h : later.content version = db.content version) :
    KeepsContent db later version :=
  fun _ hcontent => h ▸ hcontent

/-- A transaction keeps the content when what it writes does. -/
theorem KeepsContent.commit {body : Database → Except RepositoryError Database}
    (h : ∀ written, body db = .ok written → KeepsContent db written version) :
    KeepsContent db (commit body db) version := by
  cases hresult : body db with
  | ok written => exact commit_of_ok hresult ▸ h written hresult
  | error error => exact .of_eq (by rw [commit_of_error hresult])

/-- Content is kept over consecutive changes. -/
theorem KeepsContent.trans {middle : Database} (h : KeepsContent db middle version)
    (h' : KeepsContent middle later version) : KeepsContent db later version :=
  fun content hcontent => h content (h' content hcontent)

/-- Without a row under its identifier and revision there is no content. -/
theorem KeepsContent.of_no_row
    (h : ∀ row, later.publications.find version.1 = some row → row.revision ≠ version.2) :
    KeepsContent db later version := by
  intro content hcontent
  obtain ⟨row, hrow, -⟩ := Option.map_eq_some_iff.mp hcontent
  obtain ⟨hfind, hrevision⟩ := Option.filter_eq_some_iff.mp hrow
  exact absurd (by simpa using hrevision) (h row hfind)

/-- Publications that are removed take their items along; the others keep theirs. -/
theorem KeepsContent.cleanupExpired (now : ℕ) (db : Database) (version : ℕ × ℕ) :
    KeepsContent db (cleanupExpired now db) version := by
  have hexpired : ∀ row, version.1 ∈ expiredPublications now db →
      db.publications.find version.1 = some row → row.Expired now := by
    intro row hmem hrow
    obtain ⟨entry, hentry, hid⟩ := List.mem_map.mp hmem
    have hselected := KeyedTable.mem_selectSorted.mp (List.mem_of_mem_take hentry)
    obtain rfl : entry.2 = row := Option.some.inj (hselected.1.symm.trans (hid ▸ hrow))
    exact hselected.2
  by_cases hremoved : version.1 ∈ expiredPublications now db
  · refine .of_no_row fun row hrow => ?_
    obtain ⟨hfind, hkept⟩ := KeyedTable.find_of_find_deleteWhere hrow
    exact absurd ⟨hremoved, hexpired row hremoved hfind⟩ hkept
  · refine .of_eq (content_congr ?_ fun name => ?_)
    · exact congrArg _ (KeyedTable.find_deleteWhere_of_not fun _ _ hselected =>
        hremoved hselected.1)
    · exact KeyedTable.find_deleteWhere_of_not fun _ _ hselected => hremoved hselected

/-- A new staging row has a revision no earlier version has. -/
theorem KeepsContent.preparePublication {db : Database} (now : ℕ)
    (input : PreparePublicationInput) (hversion : version.2 < db.nextRevision) :
    KeepsContent db (preparePublication now input db).1 version := by
  unfold LetletmeData.preparePublication
  split
  · refine (KeepsContent.cleanupExpired now db version).trans ?_
    rcases insertStaging_spec now input (LetletmeData.cleanupExpired now db) with h | ⟨hnone, h⟩
    · rw [h]
      exact .of_eq rfl
    · by_cases hid : version.1 = input.publicationId
      · refine .of_no_row fun row hrow => ?_
        rw [h, hid, KeyedTable.find_insertAbsent_self hnone] at hrow
        obtain rfl := Option.some.inj hrow
        exact hversion.ne'
      · refine .of_eq (content_congr ?_ fun _ => by rw [h])
        rw [h, KeyedTable.find_insertAbsent]
        simp [hid]
  · exact .of_eq rfl

/-- Closing a staging row keeps its manifest and its items. -/
theorem KeepsContent.closeStaging (publicationId : ℕ)
    {write : DatasetPublication → DatasetPublication} (allowed : List SyncRunStatus)
    (runStatus : SyncRunStatus) (row : DatasetPublication) (db : Database)
    (hwrite : ∀ stored, (write stored).revision = stored.revision ∧
      (write stored).manifest = stored.manifest) :
    KeepsContent db (closeStaging publicationId write allowed runStatus row db) version := by
  refine .of_eq (content_congr ?_ fun _ => rfl)
  have hfind : (db.publications.updateWhere
      (fun id stored => id = publicationId ∧ stored.status = .staging) write).find version.1 = _ :=
    KeyedTable.find_updateWhere _ _ _
  simp only [LetletmeData.closeStaging, Database.moveRun, hfind, Option.map_map]
  refine Option.map_congr fun stored _ => ?_
  simp only [Function.comp_apply]
  split
  · rw [(hwrite stored).1, (hwrite stored).2]
  · rfl

/-- Staged items are found under their names, beside what was stored under other names. -/
theorem find_stagedItems {publicationId : ℕ} {items : List DatasetPublicationItemInput}
    (hdistinct : (items.map (·.name)).Nodup) (table : KeyedTable (ℕ × String) DatasetPublicationItem)
    (key : ℕ × String) :
    (items.foldl (fun table item => table.upsert (publicationId, item.name) item.row) table).find
        key =
      ((items.find? fun item => (publicationId, item.name) = key).map (·.row)).or
        (table.find key) := by
  induction items generalizing table with
  | nil => simp
  | cons item rest ih =>
    obtain ⟨hfresh, hrest⟩ := List.nodup_cons.mp hdistinct
    rw [List.foldl_cons, ih hrest, KeyedTable.find_upsert, List.find?_cons]
    by_cases hkey : key = (publicationId, item.name)
    · have hnone : (rest.find? fun other => (publicationId, other.name) = key) = none := by
        refine List.find?_eq_none.mpr fun other hother heq => hfresh ?_
        have hname : other.name = item.name := by simpa [hkey] using heq
        exact List.mem_map.mpr ⟨other, hother, hname⟩
      rw [hkey] at hnone ⊢
      rw [hnone]
      simp
    · simp [hkey, Ne.symm hkey]

/-- A staged item is found under its name. -/
theorem find_stagedItems_of_mem {publicationId : ℕ} {items : List DatasetPublicationItemInput}
    (hdistinct : (items.map (·.name)).Nodup)
    (table : KeyedTable (ℕ × String) DatasetPublicationItem) {item : DatasetPublicationItemInput}
    (hitem : item ∈ items) :
    (items.foldl (fun table item => table.upsert (publicationId, item.name) item.row) table).find
      (publicationId, item.name) = some item.row := by
  rw [find_stagedItems hdistinct]
  cases hfind : items.find? fun other =>
      (publicationId, other.name) = (publicationId, item.name) with
  | none => exact absurd (decide_eq_true rfl) (List.find?_eq_none.mp hfind item hitem)
  | some other =>
    have hname : other.name = item.name := by simpa using List.find?_some hfind
    obtain rfl : other = item :=
      List.inj_on_of_nodup_map hdistinct (List.mem_of_find?_eq_some hfind) hitem hname
    rfl

/-- Staging leaves every stored item in place exactly when it stages what is stored. -/
theorem find_stagedItems_eq_iff (publicationId : ℕ) {items : List DatasetPublicationItemInput}
    (hdistinct : (items.map (·.name)).Nodup)
    (table : KeyedTable (ℕ × String) DatasetPublicationItem) :
    (∀ name, (items.foldl (fun table item => table.upsert (publicationId, item.name) item.row)
        table).find (publicationId, name) = table.find (publicationId, name)) ↔
      ∀ item ∈ items, table.find (publicationId, item.name) = some item.row := by
  constructor
  · intro hsame item hitem
    rw [← hsame item.name]
    exact find_stagedItems_of_mem hdistinct table hitem
  · intro hstored name
    rw [find_stagedItems hdistinct]
    cases hfind : items.find? fun other => (publicationId, other.name) = (publicationId, name) with
    | none => rfl
    | some other =>
      have hname : other.name = name := by simpa using List.find?_some hfind
      rw [← hname, hstored other (List.mem_of_find?_eq_some hfind)]
      rfl

/-- Items that are staged for the first time prove a manifest that lists them. -/
theorem itemProof_of_stagedItems {items : List DatasetPublicationItemInput}
    {input : ActivatePublicationInput} (hdistinct : (items.map (·.name)).Nodup)
    (hnone : ∀ name, db.items.find (input.publicationId, name) = none)
    (hlisted : (input.manifest.items.map fun item => (item.name, item.count, item.sha256)) =
      items.map fun item => (item.name, item.count, item.checksum))
    (hlater : later.items = items.foldl
      (fun table item => table.upsert (input.publicationId, item.name) item.row) db.items) :
    input.ItemProof later := by
  constructor
  · let stored := later.items.selectWhere fun key _ => key.1 = input.publicationId
    have hkeys : (stored.map Prod.fst).Nodup :=
      later.items.distinct.sublist (List.filter_sublist.map Prod.fst)
    have hnames : ((stored.map Prod.fst).map Prod.snd).Nodup := by
      refine hkeys.map_on fun left hleft right hright hname => ?_
      obtain ⟨leftEntry, hleftEntry, rfl⟩ := List.mem_map.mp hleft
      obtain ⟨rightEntry, hrightEntry, rfl⟩ := List.mem_map.mp hright
      refine Prod.ext ?_ hname
      exact (KeyedTable.mem_selectWhere.mp hleftEntry).2.trans
        (KeyedTable.mem_selectWhere.mp hrightEntry).2.symm
    have hsame : ∀ name, name ∈ (stored.map Prod.fst).map Prod.snd ↔
        name ∈ items.map (·.name) := by
      intro name
      constructor
      · intro hname
        obtain ⟨key, hkey, rfl⟩ := List.mem_map.mp hname
        obtain ⟨⟨⟨id, name⟩, row⟩, hentry, rfl⟩ := List.mem_map.mp hkey
        obtain ⟨hfind, rfl⟩ := KeyedTable.mem_selectWhere.mp hentry
        rw [hlater, find_stagedItems hdistinct, hnone, Option.or_none] at hfind
        obtain ⟨item, hitem, -⟩ := Option.map_eq_some_iff.mp hfind
        refine List.mem_map.mpr ⟨item, List.mem_of_find?_eq_some hitem, ?_⟩
        simpa using List.find?_some hitem
      · intro hname
        obtain ⟨item, hitem, rfl⟩ := List.mem_map.mp hname
        refine List.mem_map.mpr ⟨(input.publicationId, item.name), ?_, rfl⟩
        refine List.mem_map.mpr ⟨((input.publicationId, item.name), item.row), ?_, rfl⟩
        refine KeyedTable.mem_selectWhere.mpr ⟨?_, rfl⟩
        rw [hlater]
        exact find_stagedItems_of_mem hdistinct db.items hitem
    have hlength := ((List.perm_ext_iff_of_nodup hnames hdistinct).mpr hsame).length_eq
    have hlisted' := congrArg List.length hlisted
    simp only [List.length_map] at hlength hlisted'
    exact hlength.trans hlisted'.symm
  · intro listed hmem
    have hproof : (listed.name, listed.count, listed.sha256) ∈
        items.map fun item => (item.name, item.count, item.checksum) :=
      hlisted ▸ List.mem_map_of_mem hmem
    obtain ⟨item, hitem, heq⟩ := List.mem_map.mp hproof
    obtain ⟨hname, hcount, hchecksum⟩ : item.name = listed.name ∧ item.count = listed.count ∧
        item.checksum = listed.sha256 := by simpa using heq
    refine ⟨item.row, ?_, hcount, hchecksum⟩
    rw [hlater, ← hname]
    exact find_stagedItems_of_mem hdistinct db.items hitem

/-- Staging succeeds on an accepted item list for a known publication, and only then. -/
theorem stagePublicationItems_eq_ok {publicationId : ℕ}
    {items : List DatasetPublicationItemInput} {written : Database} :
    stagePublicationItems publicationId items db = .ok written ↔
      (StageableItems (items.map (·.name)) ∧ (items.map (·.name)).Nodup) ∧
        db.publications.find publicationId ≠ none ∧
        written = { db with
          items := items.foldl
            (fun table item => table.upsert (publicationId, item.name) item.row) db.items } := by
  simp only [stagePublicationItems, throwIf_bind_eq_ok, pure, Except.pure, Except.ok.injEq,
    not_or, not_not, DatasetPublicationItemInput.row]
  exact and_congr_right fun _ => and_congr_right fun _ => eq_comm

end Content

namespace PublicationLedger

variable {ledger : PublicationLedger} {host : HostFunctions}

/-- A call keeps what was active when it keeps the content of every recorded version. -/
theorem keepsActivated_step_iff {call : DatabaseCall} :
    ledger.KeepsActivated (ledger.step host call) ↔
      ∀ version ∈ ledger.activated,
        KeepsContent ledger.db (databaseStep host ledger.db call) version :=
  ⟨fun h => h.content, fun h => ⟨List.subset_append_left _ _, h⟩⟩

/-- Staging keeps active content exactly when it rewrites none. -/
theorem keepsActivated_stage_iff {publicationId : ℕ} {items : List DatasetPublicationItemInput} :
    ledger.KeepsActivated (ledger.step host (.stagePublicationItems publicationId items)) ↔
      ¬ RewritesActivated ledger (.stagePublicationItems publicationId items) := by
  rw [keepsActivated_step_iff]
  cases hresult : stagePublicationItems publicationId items ledger.db with
  | error error =>
    have hdb : databaseStep host ledger.db (.stagePublicationItems publicationId items) =
        ledger.db := commit_of_error hresult
    rw [hdb]
    refine iff_of_true (fun _ _ => .of_eq rfl) ?_
    rintro ⟨haccepted, row, hrow, -⟩
    rw [stagePublicationItems_eq_ok.mpr ⟨haccepted, by simp [hrow], rfl⟩] at hresult
    cases hresult
  | ok written =>
    have hdb : databaseStep host ledger.db (.stagePublicationItems publicationId items) =
        written := commit_of_ok hresult
    obtain ⟨haccepted, hknown, rfl⟩ := stagePublicationItems_eq_ok.mp hresult
    rw [hdb]
    have hsame := find_stagedItems_eq_iff publicationId haccepted.2
      ledger.db.items
    constructor
    · rintro hkeeps ⟨-, row, hrow, hactivated, item, hitem, hdiffers⟩
      refine hdiffers (hsame.mp (fun name => ?_) item hitem)
      -- the recorded row still has content, so its stored items are the earlier ones
      have hcontent := hkeeps _ hactivated _ (content_of_find hrow rfl)
      rw [content_of_find hrow rfl] at hcontent
      exact (congrFun (congrArg PublicationContent.stored (Option.some.inj hcontent)) name).symm
    · intro hnot version hversion
      by_cases hid : version.1 = publicationId
      · by_cases hrow : ∃ row, ledger.db.publications.find version.1 = some row ∧
            row.revision = version.2
        · obtain ⟨row, hrow, hrevision⟩ := hrow
          refine .of_eq (content_congr rfl ?_)
          rw [hid]
          refine hsame.mpr fun item hitem => ?_
          by_contra hdiffers
          refine hnot ⟨haccepted, row, hid ▸ hrow, ?_, item, hitem, hdiffers⟩
          rwa [hrevision, ← hid]
        · exact .of_no_row fun row hfind hrevision => hrow ⟨row, hfind, hrevision⟩
      · refine .of_eq (content_congr rfl fun name => ?_)
        simp only [find_stagedItems haccepted.2]
        rw [List.find?_eq_none.mpr (by simp [Ne.symm hid])]
        rfl

/-- An activation keeps active content exactly when it rewrites none. -/
theorem keepsActivated_activate_iff {now : ℕ} {input : ActivatePublicationInput} :
    ledger.KeepsActivated (ledger.step host (.activatePublication now input)) ↔
      ¬ RewritesActivated ledger (.activatePublication now input) := by
  rw [keepsActivated_step_iff]
  cases hresult : activatePublication now input ledger.db with
  | error error =>
    have hdb : databaseStep host ledger.db (.activatePublication now input) = ledger.db :=
      commit_of_error hresult
    rw [hdb]
    refine iff_of_true (fun _ _ => .of_eq rfl) ?_
    rintro ⟨hfits, row, run, hallowed, -⟩
    obtain ⟨outbox, houtbox⟩ := insertReceipt_eq_ok.mpr hfits
    rw [activatePublication_eq_ok.mpr ⟨⟨row, run, hallowed⟩, outbox, houtbox, rfl⟩] at hresult
    exact nomatch hresult
  | ok written =>
    have hdb : databaseStep host ledger.db (.activatePublication now input) = written :=
      commit_of_ok hresult
    obtain ⟨⟨target, run, hallowed⟩, outbox, houtbox, rfl⟩ := activatePublication_eq_ok.mp hresult
    have hfits : ReceiptFits input ledger.db := insertReceipt_eq_ok.mp ⟨outbox, houtbox⟩
    rw [hdb]
    have hmanifest : ∀ id row, id ≠ input.publicationId →
        (activatedRow now input id row).manifest = row.manifest := by
      intro id row hid
      rw [activatedRow, if_neg hid]
      split <;> rfl
    constructor
    · rintro hkeeps ⟨-, row, run', hallowed', hactivated, hdiffers⟩
      have htarget : (activatedPublications now input ledger.db).find input.publicationId =
          some (activatedRow now input input.publicationId row) := by
        rw [find_activatedPublications, hallowed'.target_found, Option.map_some]
      have hcontent := hkeeps _ hactivated _
        (content_of_find htarget (revision_activatedRow _ _))
      rw [content_of_find hallowed'.target_found rfl] at hcontent
      refine hdiffers ((congrArg PublicationContent.manifestItems
        (Option.some.inj hcontent)).trans ?_)
      simp [activatedRow]
    · intro hnot version hversion
      by_cases hid : version.1 = input.publicationId
      · by_cases hrevision : target.revision = version.2
        · refine .of_eq (content_congr ?_ fun _ => rfl)
          have hsame : target.manifest.map (·.items) = some input.manifest.items := by
            by_contra hdiffers
            refine hnot ⟨hfits, target, run, hallowed, ?_, hdiffers⟩
            rwa [hrevision, ← hid]
          simp [find_activatedPublications, hid, hallowed.target_found, activatedRow, hsame]
        · refine .of_no_row fun row hrow => ?_
          simp only [find_activatedPublications, hid, hallowed.target_found, Option.map_some,
            Option.some.injEq] at hrow
          simpa [← hrow] using hrevision
      · refine .of_eq (content_congr ?_ fun _ => rfl)
        simp only [find_activatedPublications, Option.map_map]
        refine Option.map_congr fun row _ => ?_
        simp [hmanifest version.1 row hid]

/-- On a consistent ledger, a call keeps active content exactly when it rewrites none. -/
theorem Consistent.keepsActivated_iff (h : ledger.Consistent) (host : HostFunctions)
    (call : DatabaseCall) :
    ledger.KeepsActivated (ledger.step host call) ↔ ¬ RewritesActivated ledger call := by
  have hframe : ∀ {db later : Database}, later.publications = db.publications →
      later.items = db.items → ∀ version, KeepsContent db later version := by
    intro db later hpublications hitems version
    exact .of_eq (content_congr (by rw [hpublications]) fun _ => by rw [hitems])
  cases call with
  | stagePublicationItems publicationId items => exact keepsActivated_stage_iff
  | activatePublication now input => exact keepsActivated_activate_iff
  | preparePublication now input =>
    refine iff_of_true (keepsActivated_step_iff.mpr fun version hversion => ?_) id
    exact .preparePublication now input (h.revision_lt version hversion)
  | failPublication now publicationId =>
    refine iff_of_true (keepsActivated_step_iff.mpr fun version _ => ?_) id
    refine .commit fun written hwritten => ?_
    rcases failPublication_spec hwritten with rfl | ⟨row, rfl⟩
    · exact .of_eq rfl
    · exact .closeStaging _ _ _ _ _ fun _ => ⟨rfl, rfl⟩
  | skipPublication now publicationId =>
    refine iff_of_true (keepsActivated_step_iff.mpr fun version _ => ?_) id
    refine .commit fun written hwritten => ?_
    rcases skipPublication_spec hwritten with rfl | ⟨row, rfl⟩
    · exact .of_eq rfl
    · exact .closeStaging _ _ _ _ _ fun _ => ⟨rfl, rfl⟩
  | startRun runId input =>
    refine iff_of_true (keepsActivated_step_iff.mpr fun version _ => ?_) id
    refine .commit fun written hwritten => ?_
    rcases startRun_spec hwritten with rfl | ⟨-, rfl⟩
    · exact .of_eq rfl
    · exact hframe rfl rfl version
  | finishRun runId status publicationId =>
    refine iff_of_true (keepsActivated_step_iff.mpr fun version _ => ?_) id
    refine .commit fun written hwritten => ?_
    obtain ⟨run, -, -, rfl⟩ := finishRun_spec hwritten
    exact hframe rfl rfl version
  | claimOutbox dbNow owner limit leaseMs publicationId =>
    refine iff_of_true (keepsActivated_step_iff.mpr fun version _ => ?_) id
    refine .commit fun written hwritten => ?_
    obtain ⟨outbox, rfl⟩ := claimedTables_spec hwritten
    exact hframe rfl rfl version
  | markOutboxDelivered now outboxId owner =>
    refine iff_of_true (keepsActivated_step_iff.mpr fun version _ => ?_) id
    simp only [databaseStep, markDataPublicationOutboxDelivered]
    split
    · exact hframe rfl rfl version
    · exact .of_eq rfl
  | markOutboxReconciled now publicationId =>
    refine iff_of_true (keepsActivated_step_iff.mpr fun version _ => ?_) id
    simp only [databaseStep, markDataPublicationOutboxReconciled]
    split
    · exact hframe rfl rfl version
    · exact .of_eq rfl
  | failRun | markOutboxStage | releaseOutbox | failOutbox =>
    exact iff_of_true (keepsActivated_step_iff.mpr fun version _ => hframe rfl rfl version) id

/-- Over every stretch of every history, publications that have become active keep their item
set, payloads and hashes exactly when no step stages other items for one of them or activates
one of them again under a manifest with other items. -/
theorem activated_content_kept_iff (host : HostFunctions) (seasons : List ℕ)
    (events : List (ℕ × ℕ)) (calls : List DatabaseCall) :
    (∀ before stretch after, calls = before ++ stretch ++ after →
      KeepsActivated (runSteps (step host) (.initial seasons events) before)
        (runSteps (step host) (.initial seasons events) (before ++ stretch))) ↔
      EveryStep (step host) (fun ledger call => ¬ RewritesActivated ledger call)
        (.initial seasons events) calls := by
  rw [← everyStep_iff_forall_stretch KeepsActivated.refl KeepsActivated.trans]
  exact everyStep_congr (fun ledger call (h : ledger.Consistent) => h.step host call)
    (fun _ call h => h.keepsActivated_iff host call) _ _ (.initial seasons events)

/-- Another empty context, written with a blank. -/
def otherContext : DatasetPublicationItemInput :=
  { emptyContext with
    payload := { canonicalJson := "{ }", stringify := "{ }", postgresJsonbCanonicalJson := "{ }" } }

/-- Staging the items of an active context once more replaces its payload. -/
theorem restaged_context_rewritten :
    ¬ KeepsActivated
      (runSteps (step contextHost) (.initial [2025] [])
        (stageContext (contextId 1) 1 ++
          [.activatePublication 0 (activateContext (contextId 1) 1 1 (some 1))]))
      (runSteps (step contextHost) (.initial [2025] [])
        (stageContext (contextId 1) 1 ++
          [.activatePublication 0 (activateContext (contextId 1) 1 1 (some 1))] ++
          [.stagePublicationItems (contextId 1) [otherContext]])) := by
  intro h
  have hactivated : (contextId 1, 1) ∈ (runSteps (step contextHost) (.initial [2025] [])
      (stageContext (contextId 1) 1 ++
        [.activatePublication 0 (activateContext (contextId 1) 1 1 (some 1))])).activated := by
    decide
  have hcontent := h.content _ hactivated _ rfl
  have hpayload := congrArg (fun content => (content.bind (·.stored "context")).map
    (·.payload.stringify)) hcontent
  revert hpayload
  decide

end PublicationLedger

end LetletmeData
