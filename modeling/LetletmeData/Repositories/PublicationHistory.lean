import LetletmeData.Library.Runs
import LetletmeData.Repositories.PublicationCalls

/-!
# The history of publications

A scope is a slot that shows its active publication, and revisions rank what it shows. Every
call keeps at most one publication active in a scope and lets the slot only advance; a retired
or failed row stays what it is until it is removed. An identifier may be prepared again after
the removal, under a newer revision.
-/

namespace LetletmeData

open LetletmeData.Library

/-- A publication that is over. -/
def PublicationStatus.Closed (status : PublicationStatus) : Prop :=
  status = .retired ∨ status = .failed

instance (status : PublicationStatus) : Decidable status.Closed :=
  inferInstanceAs (Decidable (_ ∨ _))

/-- The identifier and revision that a scope shows as active. -/
def Database.activeVersion (db : Database) (scope : PublicationScope) : Option (ℕ × ℕ) :=
  (db.activeIn scope).head?.map fun entry => (entry.1, entry.2.revision)

/-- Revisions come from the sequence, and no two active publications share a scope. -/
structure Database.WellFormed (db : Database) : Prop where
  revision_lt : ∀ id row, db.publications.find id = some row → row.revision < db.nextRevision
  one_active : ∀ id id' row row', db.publications.find id = some row →
    db.publications.find id' = some row' → row.status = .active → row'.status = .active →
    row.scope = row'.scope → id = id'

/-- A row is still the same publication, and still over if it was. -/
structure DatasetPublication.Continues (row row' : DatasetPublication) : Prop where
  revision_eq : row'.revision = row.revision
  scope_eq : row'.scope = row.scope
  closed_status : row.status.Closed → row'.status = row.status

/-- Later tables follow earlier ones: rows continue or are newer than anything before, and the
active versions only advance. -/
structure Follows (db later : Database) : Prop where
  sequence_le : db.nextRevision ≤ later.nextRevision
  rows : ∀ id row', later.publications.find id = some row' →
    (∃ row, db.publications.find id = some row ∧ row.Continues row') ∨
      db.nextRevision ≤ row'.revision
  active : Advances Prod.snd db.activeVersion later.activeVersion

/-- Well-formed tables that follow earlier ones. -/
structure Database.LeadsTo (db later : Database) : Prop where
  wellFormed : later.WellFormed
  follows : Follows db later

/-- A row continues itself. -/
theorem DatasetPublication.Continues.refl (row : DatasetPublication) : row.Continues row :=
  ⟨rfl, rfl, fun _ => rfl⟩

/-- Tables follow themselves. -/
theorem Follows.refl (db : Database) : Follows db db :=
  ⟨le_rfl, fun _ row' h => .inl ⟨row', h, .refl row'⟩, .refl _⟩

/-- Histories compose. -/
theorem Follows.trans (first second third : Database) (h : Follows first second)
    (h' : Follows second third) : Follows first third := by
  refine ⟨h.sequence_le.trans h'.sequence_le, fun id last hlast => ?_, h.active.trans h'.active⟩
  rcases h'.rows id last hlast with ⟨middle, hmiddle, hsecond⟩ | hnew
  · rcases h.rows id middle hmiddle with ⟨row, hrow, hfirst⟩ | hnew
    · refine .inl ⟨row, hrow, hsecond.revision_eq.trans hfirst.revision_eq,
        hsecond.scope_eq.trans hfirst.scope_eq, fun hclosed => ?_⟩
      have hmiddleStatus := hfirst.closed_status hclosed
      exact (hsecond.closed_status (hmiddleStatus ▸ hclosed)).trans hmiddleStatus
    · exact .inr (hsecond.revision_eq ▸ hnew)
  · exact .inr (h.sequence_le.trans hnew)

namespace Database.WellFormed

variable {db later : Database}

/-- The empty tables are well formed. -/
theorem initial (seasons : List ℕ) (events : List (ℕ × ℕ)) :
    (Database.initial seasons events).WellFormed := by
  constructor <;> simp [Database.initial]

/-- The version a scope shows is its active row's. -/
theorem mem_activeVersion (h : db.WellFormed) {scope : PublicationScope} {id revision : ℕ} :
    (id, revision) ∈ db.activeVersion scope ↔
      ∃ row, (id, row) ∈ db.activeIn scope ∧ row.revision = revision := by
  unfold activeVersion
  constructor
  · intro hmem
    obtain ⟨entry, hentry, heq⟩ := Option.map_eq_some_iff.mp hmem
    obtain ⟨rfl, rfl⟩ := Prod.ext_iff.mp heq
    exact ⟨entry.2, List.mem_of_head? hentry, rfl⟩
  · rintro ⟨row, hrow, rfl⟩
    cases hhead : (db.activeIn scope).head? with
    | none => simp [List.head?_eq_none_iff.mp hhead] at hrow
    | some entry =>
      obtain ⟨hfind, hscope, hactive⟩ := mem_activeIn.mp hrow
      obtain ⟨hfind', hscope', hactive'⟩ := mem_activeIn.mp (List.mem_of_head? hhead)
      have hid := h.one_active _ _ _ _ hfind hfind' hactive hactive' (hscope.trans hscope'.symm)
      obtain rfl : row = entry.2 := Option.some.inj (hfind.symm.trans (hid ▸ hfind'))
      simp [hid]

/-- No scope has two active publications. -/
theorem length_activeIn_le_one (h : db.WellFormed) (scope : PublicationScope) :
    (db.activeIn scope).length ≤ 1 := by
  have hdistinct : ((db.activeIn scope).map Prod.fst).Nodup :=
    db.publications.distinct.sublist (List.filter_sublist.map Prod.fst)
  match hactive : db.activeIn scope with
  | [] => simp
  | [_] => simp
  | first :: second :: rest =>
    have hfirst : first ∈ db.activeIn scope := by simp [hactive]
    have hsecond : second ∈ db.activeIn scope := by simp [hactive]
    obtain ⟨hfind, hscope, hstatus⟩ := mem_activeIn.mp hfirst
    obtain ⟨hfind', hscope', hstatus'⟩ := mem_activeIn.mp hsecond
    have hid := h.one_active _ _ _ _ hfind hfind' hstatus hstatus' (hscope.trans hscope'.symm)
    rw [hactive] at hdistinct
    simp [hid] at hdistinct

/-- Keeping every active row active in its scope advances the slots. -/
theorem advances_of_keeps_active (h : db.WellFormed) (h' : later.WellFormed)
    (hkeeps : ∀ id row, db.publications.find id = some row → row.status = .active →
      ∃ row', later.publications.find id = some row' ∧ row'.status = .active ∧
        row'.scope = row.scope ∧ row'.revision = row.revision) :
    Advances Prod.snd db.activeVersion later.activeVersion := by
  rintro scope ⟨id, revision⟩ hversion
  obtain ⟨row, hrow, rfl⟩ := h.mem_activeVersion.mp hversion
  obtain ⟨hfind, hscope, hactive⟩ := mem_activeIn.mp hrow
  obtain ⟨row', hfind', hactive', hscope', hrevision⟩ := hkeeps id row hfind hactive
  refine ⟨_, h'.mem_activeVersion.mpr ⟨row', ?_, hrevision⟩, .inl rfl⟩
  exact mem_activeIn.mpr ⟨hfind', hscope'.trans hscope, hactive'⟩

/-- Calls that leave the publications leave their history. -/
theorem follows_of_publications_eq (h : db.WellFormed)
    (hpublications : later.publications = db.publications)
    (hsequence : db.nextRevision ≤ later.nextRevision) :
    db.LeadsTo later := by
  have hlater : later.WellFormed :=
    ⟨fun id row hrow => (h.revision_lt id row (hpublications ▸ hrow)).trans_le hsequence,
      by rw [hpublications]; exact h.one_active⟩
  refine ⟨hlater, hsequence, fun id row' hrow' => ?_, h.advances_of_keeps_active hlater ?_⟩
  · exact .inl ⟨row', hpublications ▸ hrow', .refl row'⟩
  · exact fun id row hrow hactive => ⟨row, hpublications ▸ hrow, hactive, rfl, rfl⟩

/-- Removing expired publications, which are over, is seen in no slot. -/
theorem cleanupExpired (h : db.WellFormed) (now : ℕ) :
    db.LeadsTo (cleanupExpired now db) := by
  have hfind : ∀ id row', (LetletmeData.cleanupExpired now db).publications.find id = some row' →
      db.publications.find id = some row' :=
    fun id row' hrow' => (KeyedTable.find_of_find_deleteWhere hrow').1
  have hlater : (LetletmeData.cleanupExpired now db).WellFormed :=
    ⟨fun id row hrow => h.revision_lt id row (hfind id row hrow),
      fun id id' row row' hrow hrow' =>
        h.one_active id id' row row' (hfind id row hrow) (hfind id' row' hrow')⟩
  refine ⟨hlater, le_rfl, fun id row' hrow' => .inl ⟨row', hfind id row' hrow', .refl row'⟩,
    h.advances_of_keeps_active hlater fun id row hrow hactive => ⟨row, ?_, hactive, rfl, rfl⟩⟩
  rw [← hrow]
  refine KeyedTable.find_deleteWhere_of_not fun old hold hselected => ?_
  obtain rfl : row = old := Option.some.inj (hrow.symm.trans hold)
  rcases hselected.2.2 with hclosed | hclosed <;> exact nomatch hactive.symm.trans hclosed

/-- A staging row with the next revision is new to every slot. -/
theorem insertStaging (h : db.WellFormed) (now : ℕ) (input : PreparePublicationInput) :
    db.LeadsTo (insertStaging now input db).1 := by
  rcases insertStaging_spec now input db with heq | ⟨hnone, heq⟩
  · rw [heq]
    exact h.follows_of_publications_eq rfl (Nat.le_succ _)
  · have hfind : ∀ id row', (LetletmeData.insertStaging now input db).1.publications.find id =
        some row' → db.publications.find id = some row' ∨
          row' = stagingRow now db.nextRevision input := by
      intro id row' hrow'
      rw [heq, KeyedTable.find_insertAbsent] at hrow'
      rcases Option.or_eq_some_iff.mp hrow' with hold | ⟨-, hnew⟩
      · exact .inl hold
      · split at hnew
        · exact .inr (Option.some.inj hnew).symm
        · exact nomatch hnew
    have hlater : (LetletmeData.insertStaging now input db).1.WellFormed := by
      constructor
      · intro id row hrow
        rw [heq]
        rcases hfind id row hrow with hold | rfl
        · exact (h.revision_lt id row hold).trans (Nat.lt_succ_self _)
        · exact Nat.lt_succ_self _
      · intro id id' row row' hrow hrow' hactive hactive' hscope
        rcases hfind id row hrow with hold | rfl
        · rcases hfind id' row' hrow' with hold' | rfl
          · exact h.one_active id id' row row' hold hold' hactive hactive' hscope
          · exact nomatch hactive'
        · exact nomatch hactive
    refine ⟨hlater, ?_, fun id row' hrow' => ?_, h.advances_of_keeps_active hlater ?_⟩
    · rw [heq]
      exact Nat.le_succ _
    · rcases hfind id row' hrow' with hold | rfl
      · exact .inl ⟨row', hold, .refl row'⟩
      · exact .inr le_rfl
    · intro id row hrow hactive
      refine ⟨row, ?_, hactive, rfl, rfl⟩
      rw [heq]
      exact KeyedTable.find_insertAbsent_of_find hrow

/-- Preparing a publication cleans up and then inserts at most a staging row. -/
theorem preparePublication (h : db.WellFormed) (now : ℕ) (input : PreparePublicationInput) :
    db.LeadsTo (preparePublication now input db).1 := by
  unfold LetletmeData.preparePublication
  split
  · obtain ⟨hcleaned, hfollows⟩ := h.cleanupExpired now
    obtain ⟨hinserted, hfollows'⟩ := hcleaned.insertStaging now input
    exact ⟨hinserted, hfollows.trans _ _ _ hfollows'⟩
  · exact ⟨h, .refl db⟩

/-- Closing a staging row changes no active one. -/
theorem closeStaging (h : db.WellFormed) (publicationId : ℕ)
    {write : DatasetPublication → DatasetPublication} (allowed : List SyncRunStatus)
    (runStatus : SyncRunStatus) (row : DatasetPublication)
    (hwrite : ∀ stored, (write stored).revision = stored.revision ∧
      (write stored).scope = stored.scope ∧ (write stored).status ≠ .active) :
    db.LeadsTo (closeStaging publicationId write allowed runStatus row db) := by
  set later := LetletmeData.closeStaging publicationId write allowed runStatus row db with hlater
  have hfind : ∀ id, later.publications.find id = (db.publications.find id).map fun stored =>
      if id = publicationId ∧ stored.status = .staging then write stored else stored :=
    fun id => KeyedTable.find_updateWhere _ _ id
  have hback : ∀ id row', later.publications.find id = some row' →
      ∃ stored, db.publications.find id = some stored ∧ stored.Continues row' ∧
        (row'.status = .active → stored.status = .active) := by
    intro id row' hrow'
    rw [hfind] at hrow'
    obtain ⟨stored, hstored, rfl⟩ := Option.map_eq_some_iff.mp hrow'
    refine ⟨stored, hstored, ?_⟩
    obtain ⟨hrevision, hscope, hactive⟩ := hwrite stored
    split
    next hselected =>
      refine ⟨⟨hrevision, hscope, fun hclosed => ?_⟩, fun h => absurd h hactive⟩
      rcases hclosed with hclosed | hclosed <;> rw [hselected.2] at hclosed <;> exact nomatch hclosed
    · exact ⟨.refl stored, fun hactive => hactive⟩
  have hwellFormed : later.WellFormed := by
    constructor
    · intro id row' hrow'
      obtain ⟨stored, hstored, hcontinues, -⟩ := hback id row' hrow'
      exact hcontinues.revision_eq ▸ h.revision_lt id stored hstored
    · intro id id' row row' hrow hrow' hactive hactive' hscope
      obtain ⟨stored, hstored, hcontinues, hstatus⟩ := hback id row hrow
      obtain ⟨stored', hstored', hcontinues', hstatus'⟩ := hback id' row' hrow'
      exact h.one_active id id' stored stored' hstored hstored' (hstatus hactive)
        (hstatus' hactive') (hcontinues.scope_eq ▸ hcontinues'.scope_eq ▸ hscope)
  refine ⟨hwellFormed, le_rfl, fun id row' hrow' => ?_,
    h.advances_of_keeps_active hwellFormed fun id stored hstored hactive => ?_⟩
  · obtain ⟨stored, hstored, hcontinues, -⟩ := hback id row' hrow'
    exact .inl ⟨stored, hstored, hcontinues⟩
  · refine ⟨stored, ?_, hactive, rfl, rfl⟩
    rw [hfind, hstored]
    simp [hactive]

end Database.WellFormed

section Activation

variable {db : Database} {input : ActivatePublicationInput} {now : ℕ}

/-- The row an activation leaves under an identifier. -/
def activatedRow (now : ℕ) (input : ActivatePublicationInput) (id : ℕ)
    (row : DatasetPublication) : DatasetPublication :=
  if id = input.publicationId then
    { row with status := .active, manifest := some input.manifest, expiresAt := none }
  else if row.scope = input.scope ∧ row.status = .active then
    { row with status := .retired, expiresAt := some (now + twentyFourHours) }
  else row

/-- An activation rewrites every row in place. -/
theorem find_activatedPublications (id : ℕ) :
    (activatedPublications now input db).find id =
      (db.publications.find id).map (activatedRow now input id) := by
  rw [activatedPublications, KeyedTable.find_updateWhere, KeyedTable.find_updateWhere,
    Option.map_map]
  refine Option.map_congr fun row _ => ?_
  by_cases hid : id = input.publicationId <;> simp [activatedRow, hid]

/-- Activated rows keep their revision. -/
@[simp] theorem revision_activatedRow (id : ℕ) (row : DatasetPublication) :
    (activatedRow now input id row).revision = row.revision := by
  unfold activatedRow
  split_ifs <;> rfl

/-- Activated rows keep their scope. -/
@[simp] theorem scope_activatedRow (id : ℕ) (row : DatasetPublication) :
    (activatedRow now input id row).scope = row.scope := by
  unfold activatedRow
  split_ifs <;> rfl

/-- After an activation a row is active when it is the target, or was active elsewhere. -/
theorem status_activatedRow_eq_active {id : ℕ} {row : DatasetPublication} :
    (activatedRow now input id row).status = .active ↔
      id = input.publicationId ∨ (row.status = .active ∧ row.scope ≠ input.scope) := by
  unfold activatedRow
  split_ifs with hid hactive
  · simp [hid]
  · simp [hid, hactive.1]
  · simp only [hid, false_or]
    tauto

/-- An activation closes no row that was over, and opens none. -/
theorem ActivationAllowed.continues {target : DatasetPublication} {run : SyncRun}
    (h : ActivationAllowed input db target run) {id : ℕ} {row : DatasetPublication}
    (hrow : db.publications.find id = some row) : row.Continues (activatedRow now input id row) := by
  refine ⟨revision_activatedRow id row, scope_activatedRow id row, fun hclosed => ?_⟩
  unfold activatedRow
  split_ifs with hid hactive
  · obtain rfl : target = row := Option.some.inj (h.target_found.symm.trans (hid ▸ hrow))
    rcases h.open_status with hopen | hopen <;> rcases hclosed with hclosed | hclosed <;>
      exact nomatch hopen.symm.trans hclosed
  · rcases hclosed with hclosed | hclosed <;> exact nomatch hactive.2.symm.trans hclosed
  · rfl

/-- An activation replaces what its scope shows by a higher revision, or keeps it. -/
theorem Database.WellFormed.activatePublication (h : db.WellFormed)
    {target : DatasetPublication} {run : SyncRun} (hallowed : ActivationAllowed input db target run)
    {later : Database} (hpublications : later.publications = activatedPublications now input db)
    (hsequence : later.nextRevision = db.nextRevision) : db.LeadsTo later := by
  have hfind : ∀ id, later.publications.find id =
      (db.publications.find id).map (activatedRow now input id) := by
    intro id
    rw [hpublications, find_activatedPublications]
  have hback : ∀ id row', later.publications.find id = some row' →
      ∃ row, db.publications.find id = some row ∧ row' = activatedRow now input id row := by
    intro id row' hrow'
    rw [hfind] at hrow'
    obtain ⟨row, hrow, heq⟩ := Option.map_eq_some_iff.mp hrow'
    exact ⟨row, hrow, heq.symm⟩
  have htarget : later.publications.find input.publicationId =
      some (activatedRow now input input.publicationId target) := by
    rw [hfind, hallowed.target_found, Option.map_some]
  have hwellFormed : later.WellFormed := by
    constructor
    · intro id row' hrow'
      obtain ⟨row, hrow, rfl⟩ := hback id row' hrow'
      rw [revision_activatedRow, hsequence]
      exact h.revision_lt id row hrow
    · -- two rows active afterwards are both the target, or both were active in another scope
      intro id id' row row' hrow hrow' hactive hactive' hscope
      obtain ⟨old, hold, rfl⟩ := hback id row hrow
      obtain ⟨old', hold', rfl⟩ := hback id' row' hrow'
      rw [scope_activatedRow, scope_activatedRow] at hscope
      have hscopeOf : ∀ other stored, db.publications.find other = some stored →
          other = input.publicationId → stored.scope = input.scope := by
        rintro other stored hstored rfl
        obtain rfl : target = stored :=
          Option.some.inj (hallowed.target_found.symm.trans hstored)
        exact hallowed.scope_eq
      rcases status_activatedRow_eq_active.mp hactive with hid | ⟨hwas, hother⟩
      · rcases status_activatedRow_eq_active.mp hactive' with hid' | ⟨-, hother'⟩
        · exact hid.trans hid'.symm
        · exact absurd (hscope.symm.trans (hscopeOf id old hold hid)) hother'
      · rcases status_activatedRow_eq_active.mp hactive' with hid' | ⟨hwas', -⟩
        · exact absurd (hscope.trans (hscopeOf id' old' hold' hid')) hother
        · exact h.one_active id id' old old' hold hold' hwas hwas' hscope
  refine ⟨hwellFormed, hsequence.ge, fun id row' hrow' => ?_, ?_⟩
  · obtain ⟨row, hrow, rfl⟩ := hback id row' hrow'
    exact .inl ⟨row, hrow, hallowed.continues hrow⟩
  · rintro scope ⟨id, revision⟩ hversion
    obtain ⟨row, hrow, rfl⟩ := h.mem_activeVersion.mp hversion
    obtain ⟨hrowFind, hscope, hactive⟩ := Database.mem_activeIn.mp hrow
    by_cases hkept : id = input.publicationId ∨ scope ≠ input.scope
    · -- the shown row is the target already, or in a scope the activation does not touch
      refine ⟨(id, row.revision), ?_, .inl rfl⟩
      refine hwellFormed.mem_activeVersion.mpr ⟨activatedRow now input id row, ?_, by simp⟩
      refine Database.mem_activeIn.mpr ⟨by rw [hfind, hrowFind, Option.map_some], by simpa, ?_⟩
      rw [status_activatedRow_eq_active, hscope]
      exact hkept.imp_right fun hother => ⟨hactive, hother⟩
    · obtain ⟨hid, hsame⟩ : id ≠ input.publicationId ∧ scope = input.scope := by
        simpa using hkept
      refine ⟨(input.publicationId, target.revision), ?_, .inr ?_⟩
      · refine hwellFormed.mem_activeVersion.mpr ⟨_, Database.mem_activeIn.mpr
          ⟨htarget, ?_, status_activatedRow_eq_active.mpr (.inl rfl)⟩, revision_activatedRow _ _⟩
        rw [scope_activatedRow, hallowed.scope_eq, hsame]
      · -- the target is not superseded by the row it retires
        by_contra hnewer
        exact hallowed.not_superseded
          ⟨(id, row), Database.mem_activeIn.mpr ⟨hrowFind, hscope.trans hsame, hactive⟩, hid,
            not_lt.mp hnewer⟩

end Activation

/-- Every call keeps the tables well formed and follows what was there before. -/
theorem Database.WellFormed.step {db : Database} (h : db.WellFormed) (host : HostFunctions)
    (call : DatabaseCall) : db.LeadsTo (databaseStep host db call) := by
  have hsame : ∀ later : Database, later.publications = db.publications →
      later.nextRevision = db.nextRevision → db.LeadsTo later :=
    fun later hpublications hsequence =>
      h.follows_of_publications_eq hpublications hsequence.ge
  have hself : db.LeadsTo db := ⟨h, .refl db⟩
  cases call with
  | preparePublication now input => exact h.preparePublication now input
  | activatePublication now input =>
    refine commit_induction hself fun written hwritten => ?_
    obtain ⟨⟨target, run, hallowed⟩, outbox, -, rfl⟩ := activatePublication_eq_ok.mp hwritten
    exact h.activatePublication hallowed rfl rfl
  | failPublication now publicationId =>
    refine commit_induction hself fun written hwritten => ?_
    rcases failPublication_spec hwritten with rfl | ⟨row, rfl⟩
    · exact hself
    · exact h.closeStaging _ _ _ _ fun stored => ⟨rfl, rfl, nofun⟩
  | skipPublication now publicationId =>
    refine commit_induction hself fun written hwritten => ?_
    rcases skipPublication_spec hwritten with rfl | ⟨row, rfl⟩
    · exact hself
    · exact h.closeStaging _ _ _ _ fun stored => ⟨rfl, rfl, nofun⟩
  | startRun runId input =>
    refine commit_induction hself fun written hwritten => ?_
    rcases startRun_spec hwritten with rfl | ⟨-, rfl⟩
    · exact hself
    · exact hsame _ rfl rfl
  | finishRun runId status publicationId =>
    refine commit_induction hself fun written hwritten => ?_
    obtain ⟨run, -, -, rfl⟩ := finishRun_spec hwritten
    exact hsame _ rfl rfl
  | stagePublicationItems publicationId items =>
    refine commit_induction hself fun written hwritten => ?_
    obtain ⟨stored, rfl⟩ := stagePublicationItems_spec hwritten
    exact hsame _ rfl rfl
  | claimOutbox dbNow owner limit leaseMs publicationId =>
    refine commit_induction hself fun written hwritten => ?_
    obtain ⟨outbox, rfl⟩ := claimedTables_spec hwritten
    exact hsame _ rfl rfl
  | markOutboxDelivered now outboxId owner =>
    simp only [databaseStep, markDataPublicationOutboxDelivered]
    split
    · exact hsame _ rfl rfl
    · exact hself
  | markOutboxReconciled now publicationId =>
    simp only [databaseStep, markDataPublicationOutboxReconciled]
    split
    · exact hsame _ rfl rfl
    · exact hself
  | failRun | markOutboxStage | releaseOutbox | failOutbox => exact hsame _ rfl rfl

/-- Tables reached by any calls are well formed. -/
theorem wellFormed_runSteps (host : HostFunctions) {db : Database} (h : db.WellFormed)
    (calls : List DatabaseCall) : (runSteps (databaseStep host) db calls).WellFormed :=
  runSteps_invariant (fun _ call hdb => (hdb.step host call).wellFormed) db calls h

/-- Tables follow every earlier point of their history. -/
theorem follows_runSteps (host : HostFunctions) {db : Database} (h : db.WellFormed)
    (calls : List DatabaseCall) : Follows db (runSteps (databaseStep host) db calls) :=
  EveryStep.related_ends Follows.refl Follows.trans
    (everyStep_of_invariant (fun _ call hdb => (hdb.step host call).wellFormed)
      (fun _ call hdb => (hdb.step host call).follows) db calls h)

/-- Between any two points of a history of the tables: at most one publication is active in a
scope, its revision rises whenever it changes, a retired or failed publication stays so until
its identifier is prepared anew under a newer revision, and an activation that throws leaves
the tables as they are. -/
theorem publicationHistory_linear (host : HostFunctions) (seasons : List ℕ)
    (events : List (ℕ × ℕ)) (before stretch : List DatabaseCall) :
    let earlier := runSteps (databaseStep host) (.initial seasons events) before
    let later := runSteps (databaseStep host) (.initial seasons events) (before ++ stretch)
    (∀ scope, (later.activeIn scope).length ≤ 1) ∧
      (∀ scope id row, (id, row) ∈ earlier.activeIn scope →
        ∃ id' row', (id', row') ∈ later.activeIn scope ∧
          ((id' = id ∧ row'.revision = row.revision) ∨ row.revision < row'.revision)) ∧
      (∀ id row row', earlier.publications.find id = some row → row.status.Closed →
        later.publications.find id = some row' →
          (row'.revision = row.revision ∧ row'.status = row.status) ∨
            row.revision < row'.revision) ∧
      ∀ now input error, activatePublication now input later = .error error →
        databaseStep host later (.activatePublication now input) = later := by
  intro earlier later
  have hwellFormed : earlier.WellFormed :=
    wellFormed_runSteps host (.initial seasons events) before
  have hsplit : later = runSteps (databaseStep host) earlier stretch := runSteps_append _ _ _ _
  have hwellFormed' : later.WellFormed := hsplit ▸ wellFormed_runSteps host hwellFormed stretch
  have hfollows : Follows earlier later := hsplit ▸ follows_runSteps host hwellFormed stretch
  refine ⟨hwellFormed'.length_activeIn_le_one, ?_, ?_, ?_⟩
  · intro scope id row hrow
    obtain ⟨⟨id', revision⟩, hversion, hadvance⟩ := hfollows.active scope (id, row.revision)
      (hwellFormed.mem_activeVersion.mpr ⟨row, hrow, rfl⟩)
    obtain ⟨row', hrow', rfl⟩ := hwellFormed'.mem_activeVersion.mp hversion
    exact ⟨id', row', hrow', by simpa using hadvance⟩
  · intro id row row' hrow hclosed hrow'
    rcases hfollows.rows id row' hrow' with ⟨old, hold, hcontinues⟩ | hnew
    · obtain rfl : row = old := Option.some.inj (hrow.symm.trans hold)
      exact .inl ⟨hcontinues.revision_eq, hcontinues.closed_status hclosed⟩
    · exact .inr ((hwellFormed.revision_lt id row hrow).trans_le hnew)
  · intro now input error herror
    exact commit_of_error herror

/-- The history of one context identifier that fails and is prepared and activated anew. -/
def repreparedContext : List DatabaseCall :=
  stageContext (contextId 1) 2 ++
    [.activatePublication 0 (activateContext (contextId 1) 2 2 (some 1))]

/-- The identifier of a failed context is active again later on. -/
theorem failed_context_active_again :
    ((runSteps (databaseStep contextHost) (.initial [2025] [])
        (stageContext (contextId 1) 1 ++ [.failPublication 0 (contextId 1)])).publications.find
          (contextId 1)).map (·.status) = some .failed ∧
      ((runSteps (databaseStep contextHost) (.initial [2025] [])
        (stageContext (contextId 1) 1 ++ [.failPublication 0 (contextId 1)] ++
          repreparedContext)).publications.find (contextId 1)).map (·.status) = some .active := by
  decide

end LetletmeData
