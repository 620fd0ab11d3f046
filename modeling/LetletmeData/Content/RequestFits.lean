import LetletmeData.Content.RecurringRuns

/-!
# Requests that fit their schedule

Between the claim of a run and its end nothing else writes the checkpoint and the validator of the
schedule, and a run that fails leaves them as they are. So what a request has in common with its
schedule when it is new holds until its run ends, and holds again when the request is retried.
-/

namespace LetletmeData

open LetletmeData.Library

variable {Payload Report : Type}

/-- The runs of a schedule: only the newest can be open, and it is exactly then that it holds the
lease. The requests that are open or will be retried fit the schedule. -/
structure RequestsFit
    (fits : Option ScheduleCheckpoint → HttpValidator → RunRequest Payload → Prop)
    (tables : RecurringTables Payload Report) : Prop where
  onlyNewest : ∀ run ∈ tables.runs.tail, ¬ run.status.Open
  leaseHeld : ∀ run ∈ tables.runs.head?, run.status.Open →
    tables.schedule.leaseOwner = some run.runId
  leaseOpen : ∀ owner, tables.schedule.leaseOwner = some owner →
    tables.schedule.leaseExpiresAt ≠ none ∧
      ∃ run ∈ tables.runs.head?, run.runId = owner ∧ run.status.Open
  openFits : ∀ run ∈ tables.runs.head?, run.status.Open →
    fits tables.schedule.checkpoint tables.schedule.validator run.request
  retryFits : 0 < tables.schedule.failureStreak → tables.schedule.failureStreak < 3 →
    ∀ run, tables.runs.find? (fun run => run.status = .failed) = some run →
      fits tables.schedule.checkpoint tables.schedule.validator run.request

/-- No run of the schedule is open, and nothing leases it. -/
def RecurringTables.Idle (tables : RecurringTables Payload Report) : Prop :=
  tables.schedule.leaseOwner = none ∧ ∀ run ∈ tables.runs, ¬ run.status.Open

/-- A schedule row with the same checkpoint, validator, bootstrap and failures. -/
structure SourceSchedule.SameProgress (before after : SourceSchedule) : Prop where
  checkpoint : after.checkpoint = before.checkpoint
  validator : after.validator = before.validator
  bootstrapCompletedAt : after.bootstrapCompletedAt = before.bootstrapCompletedAt
  failureStreak : after.failureStreak = before.failureStreak

/-- The request of a claimed run is the new one or that of the run that failed last. -/
def ClaimedRequest (fresh : RunRequest Payload) (tables : RecurringTables Payload Report)
    (request : RunRequest Payload) : Prop :=
  request = fresh ∨
    0 < tables.schedule.failureStreak ∧ tables.schedule.failureStreak < 3 ∧
      ∃ run, tables.runs.find? (fun run => run.status = .failed) = some run ∧ run.request = request

/-- A run that a claim has added to the table. -/
structure NewRun (tables : RecurringTables Payload Report) (run : AcquisitionRun Payload Report) :
    Prop where
  runId : run.runId = tables.runs.length
  report : run.report = none

/-- What a claim of an idle schedule writes: its row, or a new run as well, which holds the lease
or was deferred. -/
inductive ClaimWritten (fresh : RunRequest Payload) (tables : RecurringTables Payload Report) :
    RecurringTables Payload Report → Prop
  | schedule {schedule : SourceSchedule} (hsame : tables.schedule.SameProgress schedule)
      (hlease : schedule.leaseOwner = none) : ClaimWritten fresh tables { tables with schedule }
  | deferred {schedule : SourceSchedule} {run : AcquisitionRun Payload Report}
      (hsame : tables.schedule.SameProgress schedule) (hlease : schedule.leaseOwner = none)
      (hnew : NewRun tables run) (hrequest : ClaimedRequest fresh tables run.request)
      (hstatus : run.status = .budgetDeferred) :
      ClaimWritten fresh tables { tables with schedule, runs := run :: tables.runs }
  | leased {schedule : SourceSchedule} {run : AcquisitionRun Payload Report}
      (hsame : tables.schedule.SameProgress schedule)
      (hlease : schedule.leaseOwner = some run.runId ∧ schedule.leaseExpiresAt ≠ none)
      (hnew : NewRun tables run) (hrequest : ClaimedRequest fresh tables run.request)
      (hstatus : run.status = .pending) :
      ClaimWritten fresh tables { tables with schedule, runs := run :: tables.runs }

/-- What persisting a result has checked and written: the run that it ends is the newest, and the
others stay as they are. -/
structure ResultPersisted (runId : ℕ) (dbNow : ℤ) (result : RecurringResult Report)
    (tables written : RecurringTables Payload Report) (run : AcquisitionRun Payload Report)
    (rest : List (AcquisitionRun Payload Report)) : Prop where
  openRun : tables.openRun runId = some run
  running : run.status = .running
  due : dbNow ≤ result.nextDueAt
  before : tables.runs = run :: rest
  closed : ∀ other ∈ rest, ¬ other.status.Open
  runs : written.runs =
    run.ended result.status result.checkpoint.isSome (some result.report) :: rest
  gaps : written.gaps = result.gap.toList ++ tables.gaps
  checkpoint : written.schedule.checkpoint = result.checkpoint.or tables.schedule.checkpoint
  validator : written.schedule.validator = result.validator.getD tables.schedule.validator
  bootstrapCompletedAt : written.schedule.bootstrapCompletedAt =
    if result.bootstrapCompleted then some dbNow else tables.schedule.bootstrapCompletedAt
  failureStreak : written.schedule.failureStreak = 0
  leaseOwner : written.schedule.leaseOwner = none

/-! ### The open run -/

section Open

variable {fits : Option ScheduleCheckpoint → HttpValidator → RunRequest Payload → Prop}
  {tables : RecurringTables Payload Report} {runId : ℕ} {run : AcquisitionRun Payload Report}

/-- Runs that have ended are not rewritten. -/
theorem updateOpenRun_of_closed {runs : List (AcquisitionRun Payload Report)}
    (write : AcquisitionRun Payload Report → AcquisitionRun Payload Report)
    (h : ∀ run ∈ runs, ¬ run.status.Open) : updateOpenRun runId write runs = runs := by
  induction runs with
  | nil => rfl
  | cons first rest ih =>
    have hfirst : ¬ first.status.Open := h first List.mem_cons_self
    have hrest := ih fun run hrun => h run (List.mem_cons_of_mem _ hrun)
    rw [updateOpenRun] at hrest ⊢
    rw [List.map_cons, if_neg fun hsame => hfirst hsame.2, hrest]

/-- An open run is the newest one, and the only one that an end rewrites. -/
theorem RequestsFit.openRun (h : RequestsFit fits tables) (hopen : tables.openRun runId = some run) :
    ∃ rest, tables.runs = run :: rest ∧ run.runId = runId ∧ run.status.Open ∧
      (∀ other ∈ rest, ¬ other.status.Open) ∧
      ∀ write, updateOpenRun runId write tables.runs = write run :: rest := by
  have hfound : run.runId = runId ∧ run.status.Open := by
    have hsome := List.find?_some hopen
    exact of_decide_eq_true hsome
  have hmem : run ∈ tables.runs := List.mem_of_find?_eq_some hopen
  have honly := h.onlyNewest
  cases hruns : tables.runs with
  | nil =>
    rw [hruns] at hmem
    exact absurd hmem List.not_mem_nil
  | cons first rest =>
    rw [hruns] at hmem honly
    have hfirst : run = first := by
      cases List.mem_cons.mp hmem with
      | inl hsame => exact hsame
      | inr hrest => exact absurd hfound.2 (honly run hrest)
    subst hfirst
    refine ⟨rest, rfl, hfound.1, hfound.2, honly, fun write => ?_⟩
    have hrest : updateOpenRun runId write rest = rest := updateOpenRun_of_closed write honly
    rw [updateOpenRun] at hrest ⊢
    rw [List.map_cons, if_pos hfound, hrest]

/-- When the newest run of the schedule is closed and the lease released, the requests fit on. -/
theorem RequestsFit.of_closed (hclosed : ∀ run ∈ tables.runs, ¬ run.status.Open)
    (hlease : tables.schedule.leaseOwner = none)
    (hretry : 0 < tables.schedule.failureStreak → tables.schedule.failureStreak < 3 →
      ∀ run, tables.runs.find? (fun run => run.status = .failed) = some run →
        fits tables.schedule.checkpoint tables.schedule.validator run.request) :
    RequestsFit fits tables where
  onlyNewest := fun run hrun => hclosed run (List.mem_of_mem_tail hrun)
  leaseHeld := fun run hrun hopen => absurd hopen (hclosed run (List.mem_of_mem_head? hrun))
  leaseOpen := by
    intro owner howner
    rw [hlease] at howner
    exact absurd howner.symm (Option.some_ne_none owner)
  openFits := fun run hrun hopen => absurd hopen (hclosed run (List.mem_of_mem_head? hrun))
  retryFits := hretry

/-- A schedule that nothing leases has no open run. -/
theorem RequestsFit.idle (h : RequestsFit fits tables) (hlease : tables.schedule.leaseOwner = none) :
    tables.Idle := by
  refine ⟨hlease, fun run hrun hopen => ?_⟩
  have honly := h.onlyNewest
  have hheld := h.leaseHeld
  cases hruns : tables.runs with
  | nil =>
    rw [hruns] at hrun
    exact absurd hrun List.not_mem_nil
  | cons first rest =>
    rw [hruns] at hrun honly hheld
    cases List.mem_cons.mp hrun with
    | inl hfirst =>
      subst hfirst
      rw [hlease] at hheld
      exact absurd (hheld run rfl hopen).symm (Option.some_ne_none run.runId)
    | inr hrest => exact honly run hrest hopen

end Open

/-! ### Failures -/

section Failures

variable {fits : Option ScheduleCheckpoint → HttpValidator → RunRequest Payload → Prop}
  {tables : RecurringTables Payload Report} {runId : ℕ} {run : AcquisitionRun Payload Report}
  (profile : AcquisitionProfile) (dbNow retryDelay : ℤ) (reason : String)

/-- A failure that does not give its window up leaves the checkpoint and declares nothing. -/
theorem failRecurringRun_of_not_exhausted {profile : AcquisitionProfile}
    (h : ¬ ExhaustedXWindow profile tables.schedule) :
    (failRecurringRun profile runId dbNow retryDelay reason tables).schedule.checkpoint =
        tables.schedule.checkpoint ∧
      (failRecurringRun profile runId dbNow retryDelay reason tables).gaps = tables.gaps := by
  constructor <;> simp [failRecurringRun, h]

/-- After a failure the requests fit, and the schedule is idle. -/
theorem RequestsFit.failRecurringRun (h : RequestsFit fits tables)
    (hopen : tables.openRun runId = some run) :
    RequestsFit fits (failRecurringRun profile runId dbNow retryDelay reason tables) ∧
      (failRecurringRun profile runId dbNow retryDelay reason tables).Idle := by
  obtain ⟨rest, hruns, -, hwasOpen, hrest, hwrite⟩ := h.openRun hopen
  have hwritten : (LetletmeData.failRecurringRun profile runId dbNow retryDelay reason
      tables).runs = run.ended (if ExhaustedXWindow profile tables.schedule then .gap else .failed)
        (ExhaustedXWindow profile tables.schedule) none :: rest := hwrite _
  have hclosed : ∀ other ∈ (LetletmeData.failRecurringRun profile runId dbNow retryDelay reason
      tables).runs, ¬ other.status.Open := by
    intro other hother
    rw [hwritten] at hother
    cases List.mem_cons.mp hother with
    | inl hfirst =>
      rw [hfirst]
      dsimp only [AcquisitionRun.ended]
      split <;> simp [RunStatus.Open]
    | inr hlater => exact hrest other hlater
  refine ⟨RequestsFit.of_closed hclosed rfl fun _ hstreak other hother => ?_, rfl, hclosed⟩
  -- two failures give nothing up, so the run that failed is the one to retry
  have hnot : ¬ ExhaustedXWindow profile tables.schedule :=
    fun hexhausted => absurd hexhausted.1 (Nat.not_le_of_lt hstreak)
  rw [hwritten, if_neg hnot] at hother
  obtain rfl := Option.some.inj hother
  rw [(failRecurringRun_of_not_exhausted dbNow retryDelay reason hnot).1]
  have hhead : run ∈ tables.runs.head? := by
    rw [hruns]
    rfl
  exact h.openFits run hhead hwasOpen

end Failures

/-! ### Claims -/

section Claims

variable {fits : Option ScheduleCheckpoint → HttpValidator → RunRequest Payload → Prop}
  {tables written : RecurringTables Payload Report} {profile : AcquisitionProfile}
  {payload : ℤ → SourceSchedule → Payload} {facts : ClaimFacts} {dbNow : ℤ}

/-- The owner of the lease is the open run. -/
theorem RequestsFit.openRun_of_leaseOwner (h : RequestsFit fits tables) {owner : ℕ}
    (howner : tables.schedule.leaseOwner = some owner) :
    ∃ run, tables.openRun owner = some run := by
  obtain ⟨-, run, hrun, hid, hopen⟩ := h.leaseOpen owner howner
  refine ⟨run, ?_⟩
  cases hruns : tables.runs with
  | nil =>
    rw [hruns] at hrun
    exact absurd hrun.symm (Option.some_ne_none run)
  | cons first rest =>
    rw [hruns] at hrun
    obtain rfl := Option.some.inj hrun
    simp [RecurringTables.openRun, hruns, hid, hopen]

/-- The recovery of an expired lease leaves the tables as they are or fails the open run. -/
theorem RequestsFit.recoverExpiredLease_eq (h : RequestsFit fits tables)
    (profile : AcquisitionProfile) (dbNow : ℤ) :
    recoverExpiredLease profile dbNow tables = tables ∨
      ∃ owner run, tables.openRun owner = some run ∧
        recoverExpiredLease profile dbNow tables =
          LetletmeData.failRecurringRun profile owner dbNow 0 "RETRY_EXHAUSTED_LEASE_EXPIRED"
            tables := by
  unfold recoverExpiredLease
  cases hexpired : tables.schedule.expiredOwner dbNow with
  | none => exact Or.inl rfl
  | some owner =>
    obtain ⟨run, hopen⟩ :=
      h.openRun_of_leaseOwner (Option.eq_some_of_filter_eq_some hexpired)
    exact Or.inr ⟨owner, run, hopen, rfl⟩

/-- A schedule that can be claimed is idle once an expired lease is recovered. -/
theorem RequestsFit.recoverExpiredLease (h : RequestsFit fits tables)
    (profile : AcquisitionProfile) (hdue : tables.schedule.Due dbNow) :
    RequestsFit fits (recoverExpiredLease profile dbNow tables) ∧
      (recoverExpiredLease profile dbNow tables).Idle := by
  unfold LetletmeData.recoverExpiredLease
  cases hexpired : tables.schedule.expiredOwner dbNow with
  | none =>
    refine ⟨h, h.idle ?_⟩
    cases howner : tables.schedule.leaseOwner with
    | none => rfl
    | some owner =>
      obtain ⟨hsome, -⟩ := h.leaseOpen owner howner
      obtain ⟨expiresAt, hexpires⟩ := Option.ne_none_iff_exists'.mp hsome
      have hpassed : ∃ expiresAt ∈ tables.schedule.leaseExpiresAt, expiresAt ≤ dbNow :=
        ⟨expiresAt, hexpires, hdue.2.1 expiresAt hexpires⟩
      rw [SourceSchedule.expiredOwner, howner, Option.filter_some,
        if_pos (decide_eq_true hpassed)] at hexpired
      exact absurd hexpired (Option.some_ne_none owner)
  | some owner =>
    obtain ⟨run, hopen⟩ :=
      h.openRun_of_leaseOwner (Option.eq_some_of_filter_eq_some hexpired)
    exact h.failRecurringRun profile dbNow 0 "RETRY_EXHAUSTED_LEASE_EXPIRED" hopen

/-- The request of a claimed run. -/
theorem claimedRequest_of_eq_ok {fresh request : RunRequest Payload}
    (h : retryRequest facts fresh tables = .ok request) : ClaimedRequest fresh tables request := by
  unfold retryRequest at h
  split at h
  · rename_i hstreak
    split at h
    · exact Or.inl (Except.ok.inj h).symm
    · rename_i retry hretry
      obtain ⟨-, h⟩ := throwIf_bind_eq_ok.mp h
      exact Or.inr ⟨hstreak.1, hstreak.2, retry, hretry, Except.ok.inj h⟩
  · exact Or.inl (Except.ok.inj h).symm

/-- What a new run writes. -/
theorem claimRun_eq_ok {circuit : CircuitState}
    (h : claimRun profile payload facts dbNow circuit tables = .ok written) :
    ClaimWritten (freshRequest profile payload facts.phase dbNow tables.schedule) tables written := by
  unfold claimRun at h
  obtain ⟨-, h⟩ := throwIf_bind_eq_ok.mp h
  obtain ⟨request, hrequest, h⟩ := bind_eq_ok.mp h
  have hclaimed := claimedRequest_of_eq_ok hrequest
  dsimp only at h
  split at h
  · obtain rfl := Except.ok.inj h
    exact .deferred ⟨rfl, rfl, rfl, rfl⟩ rfl ⟨rfl, rfl⟩ hclaimed rfl
  · obtain rfl := Except.ok.inj h
    exact .leased ⟨rfl, rfl, rfl, rfl⟩ ⟨rfl, Option.some_ne_none _⟩ ⟨rfl, rfl⟩ hclaimed rfl

/-- What a claim writes. -/
theorem RequestsFit.claimDueFormalRun_eq_ok (h : RequestsFit fits tables)
    (hclaim : claimDueFormalRun profile payload facts dbNow tables = .ok written) :
    written = tables ∨ tables.schedule.Due dbNow ∧
      ClaimWritten
        (freshRequest profile payload facts.phase dbNow
          (LetletmeData.recoverExpiredLease profile dbNow tables).schedule)
        (LetletmeData.recoverExpiredLease profile dbNow tables) written := by
  unfold claimDueFormalRun at hclaim
  split at hclaim
  · exact Or.inl (Except.ok.inj hclaim).symm
  · rename_i hdue
    rw [not_not] at hdue
    have hidle : (LetletmeData.recoverExpiredLease profile dbNow tables).Idle :=
      (h.recoverExpiredLease profile hdue).2
    refine Or.inr ⟨hdue, ?_⟩
    dsimp only at hclaim
    split at hclaim
    · obtain rfl := Except.ok.inj hclaim
      exact .schedule ⟨rfl, rfl, rfl, rfl⟩ hidle.1
    split at hclaim
    · obtain rfl := Except.ok.inj hclaim
      exact .schedule ⟨rfl, rfl, rfl, rfl⟩ rfl
    split at hclaim
    · obtain rfl := Except.ok.inj hclaim
      exact .schedule ⟨rfl, rfl, rfl, rfl⟩ rfl
    exact claimRun_eq_ok hclaim

/-- When a new request fits, the requests fit after a claim writes it. -/
theorem ClaimWritten.requestsFit {fresh : RunRequest Payload}
    (hwritten : ClaimWritten fresh tables written) (h : RequestsFit fits tables)
    (hidle : tables.Idle)
    (hfresh : fits tables.schedule.checkpoint tables.schedule.validator fresh) :
    RequestsFit fits written := by
  have hclaimed : ∀ request, ClaimedRequest fresh tables request →
      fits tables.schedule.checkpoint tables.schedule.validator request := by
    intro request hrequest
    cases hrequest with
    | inl hnew => exact hnew ▸ hfresh
    | inr hretry =>
      obtain ⟨hpos, hlt, run, hrun, hrequest⟩ := hretry
      exact hrequest ▸ h.retryFits hpos hlt run hrun
  cases hwritten with
  | schedule hsame hlease =>
    refine RequestsFit.of_closed hidle.2 hlease ?_
    dsimp only
    rw [hsame.checkpoint, hsame.validator, hsame.failureStreak]
    exact h.retryFits
  | @deferred schedule run hsame hlease hnew hrequest hstatus =>
    refine RequestsFit.of_closed ?_ hlease ?_
    · intro other hother
      cases List.mem_cons.mp hother with
      | inl hfirst =>
        rw [hfirst, hstatus]
        simp [RunStatus.Open]
      | inr hlater => exact hidle.2 other hlater
    · dsimp only
      rw [hsame.checkpoint, hsame.validator, hsame.failureStreak]
      intro hpos hlt other hother
      rw [List.find?_cons_of_neg (by rw [hstatus]; simp)] at hother
      exact h.retryFits hpos hlt other hother
  | @leased schedule run hsame hlease hnew hrequest hstatus =>
    have hopen : run.status.Open := Or.inl hstatus
    constructor
    · exact hidle.2
    · intro other hother _
      obtain rfl := Option.some.inj hother
      exact hlease.1
    · intro owner howner
      refine ⟨hlease.2, run, rfl, ?_, hopen⟩
      exact Option.some.inj (hlease.1.symm.trans howner)
    · intro other hother _
      obtain rfl := Option.some.inj hother
      dsimp only
      rw [hsame.checkpoint, hsame.validator]
      exact hclaimed run.request hrequest
    · dsimp only
      rw [hsame.checkpoint, hsame.validator, hsame.failureStreak]
      intro hpos hlt other hother
      rw [List.find?_cons_of_neg (by rw [hstatus]; simp)] at hother
      exact h.retryFits hpos hlt other hother

end Claims

/-! ### Starts and ends -/

section Ends

variable {fits : Option ScheduleCheckpoint → HttpValidator → RunRequest Payload → Prop}
  {tables written : RecurringTables Payload Report} {runId : ℕ}
  {run : AcquisitionRun Payload Report} {dbNow : ℤ}

/-- A run that is found and open is the open run. -/
theorem RecurringTables.openRun_of_find
    (hfind : tables.runs.find? (fun run => run.runId = runId) = some run) (hopen : run.status.Open) :
    tables.openRun runId = some run := by
  obtain ⟨hid, before, after, hruns, hbefore⟩ := List.find?_eq_some_iff_append.mp hfind
  refine List.find?_eq_some_iff_append.mpr ⟨?_, before, after, hruns, fun other hother => ?_⟩
  · exact decide_eq_true ⟨of_decide_eq_true hid, hopen⟩
  · have hne := hbefore other hother
    simp only [Bool.not_eq_eq_eq_not, Bool.not_true, decide_eq_false_iff_not] at hne ⊢
    exact fun hsame => hne hsame.1

/-- A start marks the newest run as running, or changes nothing. -/
theorem RequestsFit.beginFormalRun_eq_ok (h : RequestsFit fits tables)
    (hbegin : beginFormalRun runId dbNow tables = .ok written) :
    written = tables ∨ ∃ run rest, tables.runs = run :: rest ∧ run.status = .pending ∧
      (∀ other ∈ rest, ¬ other.status.Open) ∧
      written = { tables with runs := { run with status := .running } :: rest } := by
  unfold beginFormalRun at hbegin
  split at hbegin
  · exact absurd hbegin (by simp)
  · rename_i run hfind
    split at hbegin
    · exact Or.inl (Except.ok.inj hbegin).symm
    · rename_i hstatus
      rw [not_not] at hstatus
      split at hbegin
      · exact absurd hbegin (by simp)
      · have hopen := RecurringTables.openRun_of_find hfind (Or.inl hstatus)
        obtain ⟨rest, hruns, -, -, hrest, hwrite⟩ := h.openRun hopen
        obtain rfl := Except.ok.inj hbegin
        rw [hwrite]
        exact Or.inr ⟨run, rest, hruns, hstatus, hrest, rfl⟩

/-- The requests fit after a start. -/
theorem RequestsFit.beginFormalRun (h : RequestsFit fits tables)
    (hbegin : LetletmeData.beginFormalRun runId dbNow tables = .ok written) :
    RequestsFit fits written := by
  cases h.beginFormalRun_eq_ok hbegin with
  | inl hsame => rwa [hsame]
  | inr hstarted =>
    obtain ⟨run, rest, hruns, hstatus, hrest, hwritten⟩ := hstarted
    have hhead : run ∈ tables.runs.head? := by
      rw [hruns]
      rfl
    have hopen : run.status.Open := Or.inl hstatus
    subst hwritten
    constructor
    · exact hrest
    · intro other hother _
      obtain rfl := Option.some.inj hother
      exact h.leaseHeld run hhead hopen
    · intro owner howner
      obtain ⟨hexpires, other, hother, hid, -⟩ := h.leaseOpen owner howner
      obtain rfl := Option.some.inj (hhead.symm.trans hother)
      exact ⟨hexpires, _, rfl, hid, Or.inr rfl⟩
    · intro other hother _
      obtain rfl := Option.some.inj hother
      exact h.openFits run hhead hopen
    · intro hpos hlt other hother
      have hskip : tables.runs.find? (fun run => run.status = .failed) = some other := by
        rw [hruns, List.find?_cons_of_neg (by rw [hstatus]; simp)]
        rwa [List.find?_cons_of_neg (by simp)] at hother
      exact h.retryFits hpos hlt other hskip

/-- What persisting a result checks and writes. -/
theorem RequestsFit.persistRecurringResult_eq_ok (h : RequestsFit fits tables)
    {result : RecurringResult Report}
    (hpersist : persistRecurringResult runId dbNow result tables = .ok written) :
    ∃ run rest, ResultPersisted runId dbNow result tables written run rest := by
  unfold persistRecurringResult at hpersist
  obtain ⟨hrunning, hpersist⟩ := throwIf_bind_eq_ok.mp hpersist
  obtain ⟨hdue, hpersist⟩ := throwIf_bind_eq_ok.mp hpersist
  rw [not_not] at hrunning
  obtain ⟨run, hopen, hstatus⟩ := hrunning
  obtain ⟨rest, hruns, -, -, hrest, hwrite⟩ := h.openRun hopen
  obtain rfl := Except.ok.inj hpersist
  exact ⟨run, rest,
    { openRun := hopen
      running := hstatus
      due := Int.not_lt.mp hdue
      before := hruns
      closed := hrest
      runs := hwrite _
      gaps := rfl
      checkpoint := rfl
      validator := rfl
      bootstrapCompletedAt := rfl
      failureStreak := rfl
      leaseOwner := rfl }⟩

/-- The requests fit after a result. -/
theorem RequestsFit.persistRecurringResult (h : RequestsFit fits tables)
    {result : RecurringResult Report} (hstatus : ¬ result.status.Open)
    (hpersist : LetletmeData.persistRecurringResult runId dbNow result tables = .ok written) :
    RequestsFit fits written := by
  obtain ⟨run, rest, hwritten⟩ := h.persistRecurringResult_eq_ok hpersist
  refine RequestsFit.of_closed ?_ hwritten.leaseOwner
    fun hpos => absurd hwritten.failureStreak (Nat.ne_of_gt hpos)
  intro other hother
  rw [hwritten.runs] at hother
  cases List.mem_cons.mp hother with
  | inl hfirst =>
    rw [hfirst]
    exact hstatus
  | inr hlater => exact hwritten.closed other hlater

end Ends

end LetletmeData
