import LetletmeData.Library.Runs
import LetletmeData.Services.TournamentOfficialH2H

/-!
# The permanence of locked schedules

The hash of a schedule identifies its regular matches, so a publication that a locked tournament
accepts brings the pairings that are stored already. Everything else that it writes are the rows it
built from the snapshot with that hash.
-/

namespace LetletmeData

open LetletmeData.Library

/-- What the mirror relies on of SHA-256: digests are nonempty texts, and two schedules hashed in a
run have the same digest only if they are the same text. -/
structure Sha256Behaves (sha256 : String → String) (calls : List OfficialH2HCall) : Prop where
  nonempty : ∀ text, sha256 text ≠ ""
  collisionFree : ∀ left ∈ calls, ∀ right ∈ calls,
    sha256 (scheduleText left.sourceMatches) = sha256 (scheduleText right.sourceMatches) →
      scheduleText left.sourceMatches = scheduleText right.sourceMatches

/-- The event and the sides of a regular match. -/
structure OfficialPairing where
  eventId : ℕ
  homeEntryId : Option ℕ
  awayEntryId : Option ℕ
  deriving DecidableEq

/-- The stored pairing of an official match. -/
def OfficialH2HTables.pairing (tables : OfficialH2HTables) (tournamentId officialMatchId : ℕ) :
    Option OfficialPairing :=
  (tables.battleResults.find ⟨tournamentId, officialMatchId⟩).map fun row =>
    ⟨row.values.eventId, row.values.homeEntryId, row.values.awayEntryId⟩

/-- The schedule of a tournament is locked. -/
def OfficialH2HTables.ScheduleLocked (tables : OfficialH2HTables) (tournamentId : ℕ) : Prop :=
  ∃ row, tables.tournaments.find tournamentId = some row ∧ row.officialScheduleLockedAt ≠ none

/-- Locked tournaments stay locked, and keep their pairings. -/
def LocksKept (before after : OfficialH2HTables) : Prop :=
  ∀ tournamentId, before.ScheduleLocked tournamentId →
    after.ScheduleLocked tournamentId ∧
      ∀ officialMatchId, after.pairing tournamentId officialMatchId =
        before.pairing tournamentId officialMatchId

/-- A publication built by a call has passed its validation, belongs to the tournament and carries
the stored hash. -/
def PassedLockedHash (sha256 : String → String) (tables : OfficialH2HTables) (tournamentId : ℕ)
    (call : OfficialH2HCall) (publication : OfficialH2HPublication) : Prop :=
  call.tournament.id = tournamentId ∧
    buildOfficialH2HPublication sha256 call = .ok publication ∧
    ∃ row, tables.tournaments.find tournamentId = some row ∧
      row.officialScheduleHash = some publication.scheduleHash

/-- Stored results stay, or take the values of a row of a publication that has passed. -/
def ResultsFollow {Values : Type} (passed : OfficialH2HPublication → Prop)
    (rows : OfficialH2HPublication → List (ℕ × Values)) (tournamentId : ℕ)
    (before after : KeyedTable OfficialMatchKey (OfficialResultRow Values)) : Prop :=
  ∀ officialMatchId stored, before.find ⟨tournamentId, officialMatchId⟩ = some stored →
    after.find ⟨tournamentId, officialMatchId⟩ = some stored ∨
      ∃ publication values, passed publication ∧ (officialMatchId, values) ∈ rows publication ∧
        ∃ seasonId, after.find ⟨tournamentId, officialMatchId⟩ =
          some ⟨seasonId, values, publication.checkedAt⟩

/-- What a call may do to the results of a locked tournament. -/
def LockedResultsFollow (sha256 : String → String) (tables : OfficialH2HTables)
    (call : OfficialH2HCall) : Prop :=
  ∀ tournamentId, tables.ScheduleLocked tournamentId →
    let passed := PassedLockedHash sha256 tables tournamentId call
    let after := officialH2HStep sha256 tables call
    ResultsFollow passed (·.battleRows) tournamentId tables.battleResults after.battleResults ∧
      ResultsFollow passed (·.knockoutRows) tournamentId tables.knockoutResults
        after.knockoutResults


/-- Nothing happens to the locks when nothing happens. -/
theorem LocksKept.refl (tables : OfficialH2HTables) : LocksKept tables tables :=
  fun _ hlocked => ⟨hlocked, fun _ => rfl⟩

/-- Locks are kept over several stretches. -/
theorem LocksKept.trans {first second third : OfficialH2HTables} (hfirst : LocksKept first second)
    (hsecond : LocksKept second third) : LocksKept first third := by
  intro tournamentId hlocked
  obtain ⟨hmiddle, hsame⟩ := hfirst tournamentId hlocked
  obtain ⟨hlast, hsame'⟩ := hsecond tournamentId hmiddle
  exact ⟨hlast, fun officialMatchId => (hsame' officialMatchId).trans (hsame officialMatchId)⟩

/-! ### Hashed schedules -/

/-- The scalar of an entry identifies it. -/
theorem entryScalar_injective : Function.Injective entryScalar := by
  intro left right h
  cases left with
  | none =>
    cases right with
    | none => rfl
    | some entry => exact absurd h (by simp [entryScalar])
  | some entry =>
    cases right with
    | none => exact absurd h (by simp [entryScalar])
    | some other => exact congrArg some (JsonScalar.number.inj h)

/-- What is hashed of a match contains its identifier, its event and its sides. -/
theorem pairing_of_scheduleValues {left right : OfficialH2HMatch}
    (h : scheduleValues left = scheduleValues right) :
    left.id = right.id ∧ left.event = right.event ∧ left.entry1 = right.entry1 ∧
      left.entry2 = right.entry2 := by
  simp only [scheduleValues, List.cons.injEq, JsonScalar.number.injEq] at h
  obtain ⟨haway, hevent, hhome, -, hid, -, -⟩ := h
  exact ⟨hid, hevent, entryScalar_injective hhome, entryScalar_injective haway⟩

/-- Schedules with the same text pair the same matches. -/
theorem exists_match_of_scheduleText {left right : List OfficialH2HMatch}
    (h : scheduleText left = scheduleText right) {m : OfficialH2HMatch}
    (hm : m ∈ regularMatches right) :
    ∃ other ∈ regularMatches left, other.id = m.id ∧ other.event = m.event ∧
      other.entry1 = m.entry1 ∧ other.entry2 = m.entry2 := by
  have hlength : ∀ sourceMatches : List OfficialH2HMatch,
      ∀ values ∈ (regularMatches sourceMatches).map scheduleValues,
        values.length = scheduleFields.length := by
    intro sourceMatches values hvalues
    obtain ⟨item, -, hitem⟩ := List.mem_map.mp hvalues
    rw [← hitem]
    rfl
  have hvalues : (regularMatches left).map scheduleValues =
      (regularMatches right).map scheduleValues :=
    jsonRecords_injective scheduleFields (hlength left) (hlength right) h
  have hmem : scheduleValues m ∈ (regularMatches left).map scheduleValues := by
    rw [hvalues]
    exact List.mem_map_of_mem hm
  obtain ⟨other, hother, hsame⟩ := List.mem_map.mp hmem
  exact ⟨other, hother, pairing_of_scheduleValues hsame⟩

/-! ### One sync -/

/-- What a publication takes over from the snapshot. -/
theorem buildOfficialH2HPublication_eq_ok {sha256 : String → String} {call : OfficialH2HCall}
    {publication : OfficialH2HPublication}
    (h : buildOfficialH2HPublication sha256 call = .ok publication) :
    publication.scheduleHash = sha256 (scheduleText call.sourceMatches) ∧
      publication.battleRows =
        (regularMatches call.sourceMatches).map (officialBattleRow call.checkedAt) := by
  obtain ⟨-, -, h⟩ := bind_eq_ok.mp h
  obtain ⟨placed, -, h⟩ := bind_eq_ok.mp h
  obtain rfl := Except.ok.inj h
  exact ⟨rfl, rfl⟩

/-- A sync that succeeds publishes what it built. -/
theorem syncOfficialH2H_eq_ok {sha256 : String → String} {call : OfficialH2HCall}
    {tables written : OfficialH2HTables} (h : syncOfficialH2H sha256 call tables = .ok written) :
    ∃ publication current, buildOfficialH2HPublication sha256 call = .ok publication ∧
      OfficialH2HPublished call.season call.tournament.id publication tables written current := by
  obtain ⟨-, -, h⟩ := bind_eq_ok.mp h
  obtain ⟨publication, hbuild, h⟩ := bind_eq_ok.mp h
  obtain ⟨current, hpublished⟩ := publishOfficialH2H_eq_ok h
  exact ⟨publication, current, hbuild, hpublished⟩

section Published

variable {sha256 : String → String} {call : OfficialH2HCall} {publication : OfficialH2HPublication}
  {tables written : OfficialH2HTables} {current : OfficialTournamentRow}

/-- The regular matches of the snapshot are stored with their pairings. -/
theorem OfficialH2HPublished.pairing
    (h : OfficialH2HPublished call.season call.tournament.id publication tables written current)
    (hbuild : buildOfficialH2HPublication sha256 call = .ok publication) {m : OfficialH2HMatch}
    (hm : m ∈ regularMatches call.sourceMatches) :
    written.pairing call.tournament.id m.id = some ⟨m.event, m.entry1, m.entry2⟩ := by
  have hrow : officialBattleRow call.checkedAt m ∈ publication.battleRows := by
    rw [(buildOfficialH2HPublication_eq_ok hbuild).2]
    exact List.mem_map_of_mem hm
  have hstored : ∃ seasonId, written.battleResults.find ⟨call.tournament.id, m.id⟩ =
      some ⟨seasonId, (officialBattleRow call.checkedAt m).2, publication.checkedAt⟩ := by
    rw [h.battleResults]
    exact find_foldl_upsert_of_mem h.battleDistinct hrow
  obtain ⟨seasonId, hfind⟩ := hstored
  rw [OfficialH2HTables.pairing, hfind]
  rfl

/-- The pairings of other matches stay. -/
theorem OfficialH2HPublished.pairing_of_other
    (h : OfficialH2HPublished call.season call.tournament.id publication tables written current)
    (hbuild : buildOfficialH2HPublication sha256 call = .ok publication)
    {tournamentId officialMatchId : ℕ}
    (hother : tournamentId ≠ call.tournament.id ∨
      ∀ m ∈ regularMatches call.sourceMatches, m.id ≠ officialMatchId) :
    written.pairing tournamentId officialMatchId = tables.pairing tournamentId officialMatchId := by
  have hnot : tournamentId ≠ call.tournament.id ∨
      officialMatchId ∉ publication.battleRows.map Prod.fst := by
    refine hother.imp_right fun hmatches hmem => ?_
    rw [(buildOfficialH2HPublication_eq_ok hbuild).2, List.map_map] at hmem
    obtain ⟨m, hm, hid⟩ := List.mem_map.mp hmem
    exact hmatches m hm hid
  rw [OfficialH2HTables.pairing, h.battleResults, find_foldl_upsert_of_not_mem hnot,
    OfficialH2HTables.pairing]

/-- The row of the tournament takes the hash and keeps its lock. -/
theorem OfficialH2HPublished.find_tournament
    (h : OfficialH2HPublished call.season call.tournament.id publication tables written current) :
    ∃ row, written.tournaments.find call.tournament.id = some row ∧
      row.officialScheduleHash = some publication.scheduleHash ∧
      (current.officialScheduleLockedAt ≠ none → row.officialScheduleLockedAt ≠ none) := by
  rw [h.tournaments, h.stored, Option.map_some, if_pos ⟨rfl, h.seasonId⟩]
  refine ⟨_, rfl, rfl, fun hlocked => ?_⟩
  simp [hlocked]

/-- The rows of other tournaments stay. -/
theorem OfficialH2HPublished.find_of_other
    (h : OfficialH2HPublished call.season call.tournament.id publication tables written current)
    {tournamentId : ℕ} (hother : tournamentId ≠ call.tournament.id) :
    written.tournaments.find tournamentId = tables.tournaments.find tournamentId := by
  rw [h.tournaments]
  cases tables.tournaments.find tournamentId with
  | none => rfl
  | some row => rw [Option.map_some, if_neg fun hsame => hother hsame.1]

end Published

/-! ### Runs -/

/-- Every locked tournament stores the hash and the pairings of a schedule of the run. -/
def SchedulesStored (sha256 : String → String) (calls : List OfficialH2HCall)
    (tables : OfficialH2HTables) : Prop :=
  ∀ tournamentId row, tables.tournaments.find tournamentId = some row →
    row.officialScheduleLockedAt ≠ none →
      ∃ call ∈ calls,
        row.officialScheduleHash = some (sha256 (scheduleText call.sourceMatches)) ∧
        ∀ m ∈ regularMatches call.sourceMatches,
          tables.pairing tournamentId m.id = some ⟨m.event, m.entry1, m.entry2⟩

section Steps

variable {sha256 : String → String} {calls : List OfficialH2HCall} {tables : OfficialH2HTables}
  {call : OfficialH2HCall}

/-- A sync stores its own schedule and leaves the others. -/
theorem SchedulesStored.step (h : SchedulesStored sha256 calls tables) (hcall : call ∈ calls) :
    SchedulesStored sha256 calls (officialH2HStep sha256 tables call) := by
  refine commit_induction h fun written hsync => ?_
  obtain ⟨publication, current, hbuild, hpublished⟩ := syncOfficialH2H_eq_ok hsync
  intro tournamentId row hrow hlocked
  by_cases hsame : tournamentId = call.tournament.id
  · subst hsame
    obtain ⟨stored, hstored, hhash, -⟩ := hpublished.find_tournament
    obtain rfl := Option.some.inj (hstored.symm.trans hrow)
    refine ⟨call, hcall, ?_, fun m hm => hpublished.pairing hbuild hm⟩
    rw [hhash, (buildOfficialH2HPublication_eq_ok hbuild).1]
  · rw [hpublished.find_of_other hsame] at hrow
    obtain ⟨earlier, hmem, hhash, hpairings⟩ := h tournamentId row hrow hlocked
    refine ⟨earlier, hmem, hhash, fun m hm => ?_⟩
    rw [hpublished.pairing_of_other hbuild (Or.inl hsame)]
    exact hpairings m hm

/-- A publication that a locked tournament accepts carries the stored hash. -/
theorem SchedulesStored.hash_of_published (hsha : Sha256Behaves sha256 calls)
    (h : SchedulesStored sha256 calls tables) {publication : OfficialH2HPublication}
    {written : OfficialH2HTables} {current : OfficialTournamentRow}
    (hpublished : OfficialH2HPublished call.season call.tournament.id publication tables written
      current)
    (hlocked : current.officialScheduleLockedAt ≠ none) :
    current.officialScheduleHash = some publication.scheduleHash := by
  obtain ⟨earlier, -, hhash, -⟩ := h _ current hpublished.stored hlocked
  rw [hhash, hpublished.hash hlocked _ hhash (hsha.nonempty _)]

/-- A sync keeps the locks. -/
theorem SchedulesStored.locksKept (hsha : Sha256Behaves sha256 calls)
    (h : SchedulesStored sha256 calls tables) (hcall : call ∈ calls) :
    LocksKept tables (officialH2HStep sha256 tables call) := by
  refine commit_induction (LocksKept.refl tables) fun written hsync tournamentId hlocked => ?_
  obtain ⟨publication, current, hbuild, hpublished⟩ := syncOfficialH2H_eq_ok hsync
  obtain ⟨row, hrow, hrowLocked⟩ := hlocked
  by_cases hsame : tournamentId = call.tournament.id
  · subst hsame
    obtain rfl := Option.some.inj (hpublished.stored.symm.trans hrow)
    obtain ⟨stored, hstored, -, hkept⟩ := hpublished.find_tournament
    refine ⟨⟨stored, hstored, hkept hrowLocked⟩, fun officialMatchId => ?_⟩
    obtain ⟨earlier, hmem, hhash, hpairings⟩ := h _ _ hrow hrowLocked
    -- the stored hash is the hash of the snapshot, so both schedules are the same
    have hdigest : sha256 (scheduleText earlier.sourceMatches) =
        sha256 (scheduleText call.sourceMatches) := by
      rw [← (buildOfficialH2HPublication_eq_ok hbuild).1]
      exact Option.some.inj
        (hhash.symm.trans (h.hash_of_published hsha hpublished hrowLocked))
    have htext := hsha.collisionFree earlier hmem call hcall hdigest
    by_cases hregular : ∃ m ∈ regularMatches call.sourceMatches, m.id = officialMatchId
    · obtain ⟨m, hm, hid⟩ := hregular
      obtain ⟨other, hother, hotherId, hevent, hhome, haway⟩ :=
        exists_match_of_scheduleText htext hm
      rw [← hid, hpublished.pairing hbuild hm, ← hotherId, hpairings other hother, hevent, hhome,
        haway]
    · exact hpublished.pairing_of_other hbuild
        (Or.inr fun m hm hid => hregular ⟨m, hm, hid⟩)
  · refine ⟨⟨row, ?_, hrowLocked⟩, fun _ => hpublished.pairing_of_other hbuild (Or.inl hsame)⟩
    rw [hpublished.find_of_other hsame, hrow]

/-- Upserted results follow the rows of a publication. -/
theorem resultsFollow_foldl_upsert {Values : Type} {season tournamentId : ℕ}
    {publication : OfficialH2HPublication} {passed : OfficialH2HPublication → Prop}
    {rows : OfficialH2HPublication → List (ℕ × Values)}
    {table : KeyedTable OfficialMatchKey (OfficialResultRow Values)}
    (hpassed : passed publication) (hdistinct : ((rows publication).map Prod.fst).Nodup) :
    ResultsFollow passed rows tournamentId table
      ((rows publication).foldl
        (upsertOfficialResult season tournamentId publication.checkedAt) table) := by
  intro officialMatchId stored hstored
  refine (find_foldl_upsert hdistinct officialMatchId).imp (fun hsame => hsame.trans hstored) ?_
  intro hrow
  obtain ⟨values, hmem, hfind⟩ := hrow
  exact ⟨publication, values, hpassed, hmem, hfind⟩

/-- The results of another tournament stay. -/
theorem resultsFollow_of_other {Values : Type} {season other tournamentId checkedAt : ℕ}
    {rows : List (ℕ × Values)} {passed : OfficialH2HPublication → Prop}
    {pick : OfficialH2HPublication → List (ℕ × Values)}
    {table : KeyedTable OfficialMatchKey (OfficialResultRow Values)} (h : tournamentId ≠ other) :
    ResultsFollow passed pick tournamentId table
      (rows.foldl (upsertOfficialResult season other checkedAt) table) := by
  intro officialMatchId stored hstored
  rw [find_foldl_upsert_of_not_mem (Or.inl h)]
  exact Or.inl hstored

/-- The results of a locked tournament follow the publications that carry its hash. -/
theorem SchedulesStored.resultsFollow (hsha : Sha256Behaves sha256 calls)
    (h : SchedulesStored sha256 calls tables) : LockedResultsFollow sha256 tables call := by
  intro tournamentId hlocked
  dsimp only
  rw [officialH2HStep]
  cases hsync : syncOfficialH2H sha256 call tables with
  | error error =>
    rw [commit_of_error hsync]
    exact ⟨fun _ _ hstored => Or.inl hstored, fun _ _ hstored => Or.inl hstored⟩
  | ok written =>
    obtain ⟨publication, current, hbuild, hpublished⟩ := syncOfficialH2H_eq_ok hsync
    rw [commit_of_ok hsync, hpublished.battleResults, hpublished.knockoutResults]
    by_cases hsame : tournamentId = call.tournament.id
    · subst hsame
      obtain ⟨row, hrow, hrowLocked⟩ := hlocked
      obtain rfl := Option.some.inj (hpublished.stored.symm.trans hrow)
      have hpassed : PassedLockedHash sha256 tables call.tournament.id call publication :=
        ⟨rfl, hbuild, _, hrow, h.hash_of_published hsha hpublished hrowLocked⟩
      exact ⟨resultsFollow_foldl_upsert hpassed hpublished.battleDistinct,
        resultsFollow_foldl_upsert hpassed hpublished.knockoutDistinct⟩
    · exact ⟨resultsFollow_of_other hsame, resultsFollow_of_other hsame⟩

end Steps

/-- Once a schedule is locked, every later state stores the same pairings; the stored results of a
locked tournament change only to the rows of a valid publication with the locked hash, and a sync
that throws changes nothing. -/
theorem officialH2HSchedule_permanent (sha256 : String → String) (tables : OfficialH2HTables)
    (calls : List OfficialH2HCall) (hsha : Sha256Behaves sha256 calls)
    (hunlocked : ∀ tournamentId, ¬ tables.ScheduleLocked tournamentId) :
    (∀ before stretch after, calls = before ++ stretch ++ after →
      ∀ tournamentId,
        (runSteps (officialH2HStep sha256) tables before).ScheduleLocked tournamentId →
          ∀ officialMatchId,
            (runSteps (officialH2HStep sha256) tables (before ++ stretch)).pairing tournamentId
                officialMatchId =
              (runSteps (officialH2HStep sha256) tables before).pairing tournamentId
                officialMatchId) ∧
      EveryStep (officialH2HStep sha256) (LockedResultsFollow sha256) tables calls ∧
      EveryStep (officialH2HStep sha256)
        (fun tables call => ∀ error, syncOfficialH2H sha256 call tables = .error error →
          officialH2HStep sha256 tables call = tables) tables calls := by
  have hinitial : SchedulesStored sha256 calls tables :=
    fun tournamentId row hrow hlocked => absurd ⟨row, hrow, hlocked⟩ (hunlocked tournamentId)
  have hguard : EveryStep (officialH2HStep sha256) (fun _ call => call ∈ calls) tables calls :=
    everyStep_of_forall_mem tables fun _ hcall => hcall
  have hstep : ∀ tables call, SchedulesStored sha256 calls tables → call ∈ calls →
      SchedulesStored sha256 calls (officialH2HStep sha256 tables call) :=
    fun _ _ hstored hcall => hstored.step hcall
  refine ⟨?_, ?_, ?_⟩
  · have hkept : EveryStep (officialH2HStep sha256)
        (fun tables call => LocksKept tables (officialH2HStep sha256 tables call)) tables calls :=
      EveryStep.of_guard hstep (fun _ _ hstored hcall => hstored.locksKept hsha hcall)
        hinitial hguard
    intro before stretch after hsplit tournamentId hlocked
    have hstretch : LocksKept (runSteps (officialH2HStep sha256) tables before)
        (runSteps (officialH2HStep sha256) tables (before ++ stretch)) :=
      (everyStep_iff_forall_stretch LocksKept.refl (fun _ _ _ => LocksKept.trans) tables calls).mp
        hkept before stretch after hsplit
    exact (hstretch tournamentId hlocked).2
  · exact EveryStep.of_guard hstep (fun _ _ hstored _ => hstored.resultsFollow hsha) hinitial hguard
  · exact everyStep_of_invariant (fun _ _ (_ : True) => trivial)
      (fun _ _ _ _ herror => commit_of_error herror) tables calls trivial

/-! ### A schedule of one match -/

/-- The match of entries 1 and 2. -/
def openingMatch (points1 points2 : Option ℤ) : OfficialH2HMatch where
  id := 11
  event := 1
  entry1 := some 1
  points1 := points1
  win1 := none
  draw1 := none
  loss1 := none
  total1 := none
  entry2 := some 2
  points2 := points2
  win2 := none
  draw2 := none
  loss2 := none
  total2 := none
  winner := none
  isKnockout := none
  isBye := none
  knockoutName := none
  tiebreak := none
  sourceOrder := 0

/-- A sync of the tournament of entries 1 and 2. -/
def openingSync (checkedAt : ℕ) (points1 points2 : Option ℤ) : OfficialH2HCall where
  season := 1
  tournament := ⟨7, some 1, some 1, none, none, none⟩
  entryIds := [1, 2]
  sourceMatches := [openingMatch points1 points2]
  standings := []
  currentGroups := [1, 2].map fun entryId =>
    (⟨7, 1, entryId⟩, ⟨"A", entryId, some 1, some 1, 0, none, 0, 0, 0, 0, 0, 0, 0, none, none⟩)
  totalsByEntry := []
  checkedAt := checkedAt
  refused := fun _ => none

/-- The tournament before its first sync. -/
def openingTables : OfficialH2HTables where
  tournaments := KeyedTable.empty.upsert 7 ⟨1, none, none, none⟩
  battleResults := KeyedTable.empty
  knockoutResults := KeyedTable.empty
  groups := KeyedTable.empty
  brackets := KeyedTable.empty

/-- The digest of the schedule, and the digest of the empty text for any other. -/
def openingSha256 (text : String) : String :=
  if text = "[\x7b\"awayEntryId\":2,\"eventId\":1,\"homeEntryId\":1,\"isBye\":false," ++
      "\"officialMatchId\":11,\"sourceOrder\":0\x7d]" then
    "93fbd5c928ec9fae1d4de80554786260f8ec6a0231c1bb453d1555a9c448112a"
  else "e3b0c44298fc1c149afbf4c8996fb92427ae41e4649b934ca495991b7852b855"

/-- The first sync locks the match, and the result that the second one brings keeps its pairing. -/
theorem officialH2HSchedule_permanent_opening :
    let step := officialH2HStep openingSha256
    let first := openingSync 1 none none
    let second := openingSync 2 (some 60) (some 50)
    (runSteps step openingTables [first]).ScheduleLocked 7 ∧
      (runSteps step openingTables [first, second]).pairing 7 11 = some ⟨1, some 1, some 2⟩ ∧
      EveryStep step (LockedResultsFollow openingSha256) openingTables [first, second] := by
  intro step first second
  have htext : ∀ call ∈ [first, second],
      scheduleText call.sourceMatches = scheduleText first.sourceMatches := by
    decide +kernel
  have hsha : Sha256Behaves openingSha256 [first, second] := by
    constructor
    · intro text
      unfold openingSha256
      split <;> decide
    · intro left hleft right hright _
      rw [htext left hleft, htext right hright]
  have hunlocked : ∀ tournamentId, ¬ openingTables.ScheduleLocked tournamentId := by
    rintro tournamentId ⟨row, hrow, hlocked⟩
    rw [openingTables, KeyedTable.find_upsert] at hrow
    split at hrow
    · exact hlocked (congrArg OfficialTournamentRow.officialScheduleLockedAt
        (Option.some.inj hrow)).symm
    · exact absurd hrow (by simp)
  have hfirst : (runSteps step openingTables [first]).pairing 7 11 = some ⟨1, some 1, some 2⟩ := by
    decide +kernel
  have hlocked : (runSteps step openingTables [first]).ScheduleLocked 7 := by
    have hfind : ((runSteps step openingTables [first]).tournaments.find 7).bind
        (·.officialScheduleLockedAt) = some 1 := by
      decide +kernel
    obtain ⟨row, hrow, hat⟩ := Option.bind_eq_some_iff.mp hfind
    exact ⟨row, hrow, by rw [hat]; exact Option.some_ne_none 1⟩
  have hpermanent := officialH2HSchedule_permanent openingSha256 openingTables [first, second] hsha
    hunlocked
  refine ⟨hlocked, ?_, hpermanent.2.1⟩
  rw [← hfirst]
  exact hpermanent.1 [first] [second] [] rfl 7 hlocked 11

end LetletmeData
