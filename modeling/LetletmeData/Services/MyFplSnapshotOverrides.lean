import LetletmeData.Library.Runs
import LetletmeData.Services.MyFplSnapshotPublication

/-!
# Final overrides of My FPL snapshots

A capture makes its publication the only active one of its event. The keys of accepted overrides
stay unique while their publications are kept, but a repeated key is recognised only when it is
that of the active publication: when no other override was accepted since.
-/

namespace LetletmeData

open LetletmeData.Library

variable {call : MyFplSnapshotCall} {override : MyFplOverride} {content : MyFplSnapshotContent}
  {revision : ℕ} {tables written : MyFplTables} {db : MyFplDatabase}

/-! ### What a capture writes -/

section Switching

variable {key : MyFplRevision} {row : MyFplSnapshotPublication} {now : ℕ}
  {seen stored : KeyedTable MyFplRevision MyFplSnapshotPublication}
  {inserted switched : RowsSeen MyFplRevision MyFplSnapshotPublication}

/-- The rows after a publication has become the active one of its scope. -/
structure SwitchesTo (key : MyFplRevision) (row : MyFplSnapshotPublication) (now : ℕ)
    (seen stored after : KeyedTable MyFplRevision MyFplSnapshotPublication) : Prop where
  fresh : stored.find key = none
  unused : ∀ other old, stored.find other = some old → other.scope = key.scope →
    row.idempotencyKey ≠ none → old.idempotencyKey ≠ row.idempotencyKey
  current : ∀ other old, seen.find other = some old → other.scope = key.scope →
    old.active = true → other ≠ key → stored.find other = some old
  cleared : ∀ other old, stored.find other = some old → other.scope = key.scope →
    old.active = true → other ≠ key → seen.find other = some old
  published : after.find key = some { row with active := true, updatedAt := now }
  others : ∀ other new, other ≠ key → after.find other = some new →
    (other.scope = key.scope → new.active = false) ∧ ∃ old, stored.find other = some old ∧
      (new = old ∨ new = { old with active := false, updatedAt := now })
  elsewhere : ∀ other, other.scope ≠ key.scope → after.find other = stored.find other

/-- An inserted publication is new, and so is its key. -/
theorem insertMyFplPublication_eq_ok
    (h : insertMyFplPublication key row ⟨seen, stored⟩ = .ok inserted) :
    stored.find key = none ∧
      (∀ other old, stored.find other = some old → other.scope = key.scope →
        row.idempotencyKey ≠ none → old.idempotencyKey ≠ row.idempotencyKey) ∧
      inserted = ⟨seen.upsert key row, stored.insertAbsent key row⟩ := by
  unfold insertMyFplPublication at h
  rw [throwIf_bind_eq_ok, throwIf_bind_eq_ok, not_not] at h
  obtain ⟨hfresh, hunused, hinserted⟩ := h
  cases hinserted
  refine ⟨hfresh, fun other old hold hscope hkey heq => hunused ⟨hkey, ?_⟩, rfl⟩
  exact List.ne_nil_of_mem (KeyedTable.mem_selectWhere.mpr ⟨hold, hscope, heq⟩)

/-- The switch after an insertion. -/
theorem switchesTo_of_switch (hinactive : row.active = false)
    (hinsert : insertMyFplPublication key row ⟨seen, stored⟩ = .ok inserted)
    (hswitch : switchActivePublication key now inserted = .ok switched) :
    SwitchesTo key row now seen stored switched.stored := by
  obtain ⟨hfresh, hunused, rfl⟩ := insertMyFplPublication_eq_ok hinsert
  obtain ⟨cleared, hclear, hswitch⟩ := bind_eq_ok.mp hswitch
  obtain ⟨marked, hmark, hswitch⟩ := bind_eq_ok.mp hswitch
  rw [throwIf_bind_eq_ok, not_not] at hswitch
  obtain ⟨hunique, hdelete⟩ := hswitch
  obtain ⟨hcurrent, hclearedSeen, hcleared⟩ := RowsSeen.updateWhere_eq_ok hclear
  obtain ⟨_, hmarkedSeen, hmarked⟩ := RowsSeen.updateWhere_eq_ok hmark
  obtain ⟨_, _, hafter⟩ := RowsSeen.deleteWhere_eq_ok hdelete
  have hseenKey : marked.seen.find key = some { row with active := true, updatedAt := now } := by
    simp [hmarkedSeen, hclearedSeen, KeyedTable.find_updateWhere, KeyedTable.find_upsert, hinactive]
  -- only the inserted row was marked, and no row of another scope was touched before
  have hother : ∀ other, other ≠ key → marked.stored.find other = cleared.stored.find other := by
    intro other hne
    have hunseen : ¬ cleared.Sees (fun other _ => other = key) other := by
      rintro ⟨_, _, heq⟩
      exact hne heq
    simp [hmarked, KeyedTable.find_updateWhere, hunseen]
  have hinsertedOther : ∀ other, other ≠ key →
      (stored.insertAbsent key row).find other = stored.find other := by
    intro other hne
    simp [KeyedTable.find_insertAbsent, hne]
  refine ⟨hfresh, hunused, fun other old hold hscope hactive hne => ?_,
    fun other old hold hscope hactive hne => ?_, ?_, fun other new hne hnew => ?_,
    fun other hscope => ?_⟩
  · have hseen : (seen.upsert key row).find other = some old := by
      rw [KeyedTable.find_upsert, if_neg hne, hold]
    rw [← hinsertedOther other hne]
    exact hcurrent other old hseen ⟨hscope, hactive⟩
  · -- an active row that was not seen would still be active beside the new one
    by_contra hunseen
    have hnot : ¬ RowsSeen.Sees ⟨seen.upsert key row, stored.insertAbsent key row⟩
        (fun other row => other.scope = key.scope ∧ row.active = true) other := by
      rintro ⟨found, hfound, hselected⟩
      have hstored := hcurrent other found hfound hselected
      rw [hinsertedOther other hne, hold] at hstored
      rw [KeyedTable.find_upsert, if_neg hne, ← Option.some.inj hstored] at hfound
      exact hunseen hfound
    have hkept : marked.stored.find other = some old := by
      rw [hother other hne, hcleared, KeyedTable.find_updateWhere, hinsertedOther other hne, hold]
      simp [hnot]
    have hmem : (other, old) ∈ marked.stored.selectWhere fun other row =>
        other.scope = key.scope ∧ row.active = true ∧ other ≠ key :=
      KeyedTable.mem_selectWhere.mpr ⟨hkept, hscope, hactive, hne⟩
    rw [hunique] at hmem
    exact List.not_mem_nil hmem
  · have hsees : cleared.Sees (fun other _ => other = key) key := by
      refine ⟨row, ?_, rfl⟩
      simp [hclearedSeen, KeyedTable.find_updateWhere, KeyedTable.find_upsert, hinactive]
    have hunseen : ¬ RowsSeen.Sees ⟨seen.upsert key row, stored.insertAbsent key row⟩
        (fun other row => other.scope = key.scope ∧ row.active = true) key := by
      rintro ⟨found, hfound, hselected⟩
      rw [KeyedTable.find_upsert, if_pos rfl] at hfound
      rw [← Option.some.inj hfound, hinactive] at hselected
      exact Bool.false_ne_true hselected.2
    have hmarkedKey : marked.stored.find key =
        some { row with active := true, updatedAt := now } := by
      simp [hmarked, hcleared, KeyedTable.find_updateWhere, hsees, hunseen,
        KeyedTable.find_insertAbsent_self hfresh]
    rw [hafter, KeyedTable.find_deleteWhere_of_not, hmarkedKey]
    rintro _ _ ⟨found, hfound, hselected⟩
    rw [hseenKey] at hfound
    rw [← Option.some.inj hfound] at hselected
    exact Bool.false_ne_true hselected.2.1.symm
  · rw [hafter] at hnew
    have hfound := (KeyedTable.find_of_find_deleteWhere hnew).1
    constructor
    · intro hscope
      by_contra hactive
      rw [Bool.not_eq_false] at hactive
      have hmem : (other, new) ∈ marked.stored.selectWhere fun other row =>
          other.scope = key.scope ∧ row.active = true ∧ other ≠ key :=
        KeyedTable.mem_selectWhere.mpr ⟨hfound, hscope, hactive, hne⟩
      rw [hunique] at hmem
      exact List.not_mem_nil hmem
    · rw [hother other hne, hcleared, KeyedTable.find_updateWhere] at hfound
      obtain ⟨old, hold, hnew⟩ := Option.map_eq_some_iff.mp hfound
      refine ⟨old, (hinsertedOther other hne).symm.trans hold, ?_⟩
      split at hnew
      next => exact Or.inr hnew.symm
      next => exact Or.inl hnew.symm
  · have hne : other ≠ key := fun heq => hscope (heq ▸ rfl)
    have hunseen : ¬ RowsSeen.Sees ⟨seen.upsert key row, stored.insertAbsent key row⟩
        (fun other row => other.scope = key.scope ∧ row.active = true) other := by
      rintro ⟨_, _, hselected⟩
      exact hscope hselected.1
    rw [hafter, KeyedTable.find_deleteWhere_of_not, hother other hne, hcleared]
    · simp [KeyedTable.find_updateWhere, hunseen, hinsertedOther other hne]
    · rintro _ _ ⟨_, _, hselected⟩
      exact hscope hselected.1

end Switching

/-- The options of a capture that are accepted: a key is that of a complete final override. -/
theorem overrideMetadata_eq_ok (h : overrideMetadata call = .ok override) :
    override.idempotencyKey = trimmedOrNull call.idempotencyKey ∧
      (override.idempotencyKey ≠ none → call.kind = .final ∧ override.Complete) := by
  unfold overrideMetadata at h
  dsimp only at h
  rw [throwIf_bind_eq_ok, throwIf_bind_eq_ok] at h
  obtain ⟨hfinal, hcomplete, hoverride⟩ := h
  cases hoverride
  refine ⟨rfl, fun hkey => ?_⟩
  have hgiven : ([call.actor, call.reason, call.idempotencyKey].filter (·.isSome)).length ≠ 0 := by
    have hsome : call.idempotencyKey.isSome = true := by
      cases hnone : call.idempotencyKey with
      | none => exact absurd (by simp [trimmedOrNull, hnone]) hkey
      | some key => rfl
    rw [Ne, List.length_eq_zero_iff]
    exact List.ne_nil_of_mem (List.mem_filter.mpr ⟨by simp, hsome⟩)
  constructor
  · by_contra hkind
    exact hfinal ⟨hgiven, Or.inl hkind⟩
  · by_contra hincomplete
    exact hcomplete ⟨hgiven, Or.inl hincomplete⟩

/-- What a capture leaves in the tables. -/
theorem publishCapture_eq_ok {seen : KeyedTable MyFplRevision MyFplSnapshotPublication}
    (h : publishCapture call override content revision seen tables = .ok written) :
    SwitchesTo ⟨call.scope, revision⟩ (newMyFplPublication call override content) call.now seen
        tables.publications written.publications ∧
      ∀ id receipt, written.outbox.find id = some receipt →
        written.publications.find receipt.key ≠ none ∧
          (tables.outbox.find id = some receipt ∨
            (receipt.key = ⟨call.scope, revision⟩ ∧
              receipt.manifest = myFplManifest call.season.seasonCode ⟨call.scope, revision⟩
                (newMyFplPublication call override content))) := by
  obtain ⟨inserted, hinsert, h⟩ := bind_eq_ok.mp h
  obtain ⟨_, _, h⟩ := bind_eq_ok.mp h
  obtain ⟨published, hswitch, h⟩ := bind_eq_ok.mp h
  cases h
  refine ⟨switchesTo_of_switch rfl hinsert hswitch, fun id receipt hfind => ?_⟩
  obtain ⟨hfound, hkept⟩ := KeyedTable.find_of_find_deleteWhere hfind
  refine ⟨hkept, ?_⟩
  split at hfound
  next =>
    rw [KeyedTable.find_insertAbsent] at hfound
    cases hold : tables.outbox.find id with
    | some old =>
      rw [hold, Option.some_or] at hfound
      exact Or.inl hfound
    | none =>
      rw [hold, Option.none_or] at hfound
      split at hfound
      next => exact Or.inr (Option.some.inj hfound ▸ ⟨rfl, rfl⟩)
      next => cases hfound
  next => exact Or.inl hfound

/-! ### The active publication -/

/-- No scope has two active publications. -/
def OneActivePublication (publications : KeyedTable MyFplRevision MyFplSnapshotPublication) :
    Prop :=
  ∀ first second row row', publications.find first = some row →
    publications.find second = some row' → row.active = true → row'.active = true →
    first.scope = second.scope → first = second

section Active

variable {scope : MyFplScope} {publications : KeyedTable MyFplRevision MyFplSnapshotPublication}
  {active : MyFplRevision × MyFplSnapshotPublication}

/-- The loaded publication is active. -/
theorem active_of_loadActivePublication (h : loadActivePublication scope publications = some active) :
    publications.find active.1 = some active.2 ∧ active.1.scope = scope ∧
      active.2.active = true :=
  KeyedTable.mem_selectSorted.mp (List.mem_of_head? h)

/-- The one active publication of a scope is loaded. -/
theorem loadActivePublication_of_active (active : MyFplRevision × MyFplSnapshotPublication)
    (hone : OneActivePublication publications) (hfind : publications.find active.1 = some active.2) (hactive : active.2.active = true) :
    loadActivePublication active.1.scope publications = some active := by
  cases hload : loadActivePublication active.1.scope publications with
  | none =>
    have hmem : active ∈ publications.selectSorted
        (fun key row => key.scope = active.1.scope ∧ row.active = true)
        fun left right => right.1.revision ≤ left.1.revision :=
      KeyedTable.mem_selectSorted.mpr ⟨hfind, rfl, hactive⟩
    rw [List.head?_eq_none_iff.mp hload] at hmem
    exact absurd hmem List.not_mem_nil
  | some loaded =>
    obtain ⟨hfound, hscope, hloaded⟩ := active_of_loadActivePublication hload
    have hkey := hone _ _ _ _ hfound hfind hloaded hactive hscope
    rw [hkey, hfind] at hfound
    rw [Prod.ext hkey (Option.some.inj hfound).symm]

/-- A switch leaves one active publication in each scope. -/
theorem SwitchesTo.oneActive {key : MyFplRevision} {row : MyFplSnapshotPublication} {now : ℕ}
    {seen stored after : KeyedTable MyFplRevision MyFplSnapshotPublication}
    (hswitch : SwitchesTo key row now seen stored after) (hone : OneActivePublication stored) :
    OneActivePublication after := by
  intro first second row₁ row₂ hfirst hsecond hactive₁ hactive₂ hscope
  by_cases hkey : first.scope = key.scope
  · -- in the scope of the switch only the new publication is active
    have honly : ∀ other found, after.find other = some found → other.scope = key.scope →
        found.active = true → other = key := by
      intro other found hfound hother hactive
      by_contra hne
      have hinactive := (hswitch.others other found hne hfound).1 hother
      exact Bool.false_ne_true (hinactive.symm.trans hactive)
    rw [honly first row₁ hfirst hkey hactive₁, honly second row₂ hsecond (hscope ▸ hkey) hactive₂]
  · rw [hswitch.elsewhere first hkey] at hfirst
    rw [hswitch.elsewhere second (hscope ▸ hkey)] at hsecond
    exact hone first second row₁ row₂ hfirst hsecond hactive₁ hactive₂ hscope

end Active

/-! ### Histories of captures -/

/-- One capture after the other. -/
def captureStep (db : MyFplDatabase) (call : MyFplSnapshotCall) : MyFplDatabase :=
  (captureMyFplSnapshot db call).1

/-- The key of an override of the scope that the capture accepts. -/
def acceptedOverride (scope : MyFplScope) (db : MyFplDatabase) (call : MyFplSnapshotCall) :
    Option String :=
  match (captureMyFplSnapshot db call).2 with
  | .ok (.published _) => if call.scope = scope then trimmedOrNull call.idempotencyKey else none
  | _ => none

/-- The keys of the accepted overrides of a history, in order. -/
def acceptedOverrideKeys (scope : MyFplScope) : MyFplDatabase → List MyFplSnapshotCall → List String
  | _, [] => []
  | db, call :: rest =>
    (acceptedOverride scope db call).toList ++
      acceptedOverrideKeys scope (captureStep db call) rest

/-- A capture either publishes or leaves the tables. -/
theorem captureMyFplSnapshot_cases (db : MyFplDatabase) (call : MyFplSnapshotCall) :
    (∃ override content tables, overrideMetadata call = .ok override ∧
        decideCapture call override db.tables.publications = .ok (.publish content) ∧
        publishCapture call override content db.nextRevision db.tables.publications db.tables =
          .ok tables ∧
        captureMyFplSnapshot db call =
          (⟨tables, db.nextRevision + 1⟩, .ok (.published ⟨call.scope, db.nextRevision⟩))) ∨
      ((captureStep db call).tables = db.tables ∧
        ∀ scope, acceptedOverride scope db call = none) := by
  unfold captureStep acceptedOverride captureMyFplSnapshot
  cases hoverride : overrideMetadata call with
  | error error => exact Or.inr ⟨rfl, fun _ => rfl⟩
  | ok override =>
    dsimp only
    cases hdecision : decideCapture call override db.tables.publications with
    | error error => exact Or.inr ⟨rfl, fun _ => rfl⟩
    | ok decision =>
      cases decision with
      | noop active => exact Or.inr ⟨rfl, fun _ => rfl⟩
      | publish content =>
        dsimp only
        cases hpublish : publishCapture call override content db.nextRevision
            db.tables.publications db.tables with
        | error error => exact Or.inr ⟨rfl, fun _ => rfl⟩
        | ok tables => exact Or.inl ⟨override, content, tables, rfl, hdecision, hpublish, rfl⟩

/-- A capture goes on to publish when the active publication does not make it a no-op. -/
theorem decideCapture_eq_publish
    {publications : KeyedTable MyFplRevision MyFplSnapshotPublication}
    (h : decideCapture call override publications = .ok (.publish content)) :
    ∀ active, loadActivePublication call.scope publications = some active →
      ¬ CaptureIsNoop call override active.2 := by
  intro active hactive hnoop
  obtain ⟨_, _, h⟩ := bind_eq_ok.mp h
  rw [hactive, Option.filter_some, if_pos (decide_eq_true hnoop)] at h
  cases h

/-- A capture is a no-op when its event is ready and the active publication makes it one. -/
theorem decideCapture_eq_noop
    {publications : KeyedTable MyFplRevision MyFplSnapshotPublication}
    {active : MyFplRevision × MyFplSnapshotPublication} :
    decideCapture call override publications = .ok (.noop active) ↔
      checkMyFplEvent call = .ok () ∧ loadActivePublication call.scope publications = some active ∧
        CaptureIsNoop call override active.2 := by
  unfold decideCapture
  rw [bind_eq_ok]
  constructor
  · intro ⟨_, hcheck, h⟩
    refine ⟨hcheck, ?_⟩
    split at h
    next found hfound =>
      cases h
      obtain ⟨hload, hnoop⟩ := Option.filter_eq_some_iff.mp hfound
      exact ⟨hload, of_decide_eq_true hnoop⟩
    next =>
      obtain ⟨_, _, hpublish⟩ := map_eq_ok.mp h
      cases hpublish
  · intro ⟨hcheck, hload, hnoop⟩
    refine ⟨(), hcheck, ?_⟩
    rw [hload, Option.filter_some, if_pos (decide_eq_true hnoop)]
    rfl

/-- Keys belong to final publications, and once an override was accepted the active publication
has the key of the last one. -/
structure OverrideHistory (scope : MyFplScope) (keys : List String)
    (publications : KeyedTable MyFplRevision MyFplSnapshotPublication) : Prop where
  one : OneActivePublication publications
  final : ∀ key row, publications.find key = some row → row.idempotencyKey ≠ none →
    row.kind = .final
  shown : keys ≠ [] → ∃ active : MyFplRevision × MyFplSnapshotPublication,
    publications.find active.1 = some active.2 ∧ active.1.scope = scope ∧ active.2.active = true ∧ active.2.idempotencyKey = keys.getLast?

variable {scope : MyFplScope} {keys : List String}

/-- Publishing keeps the history, with the key of the override if there is one. -/
theorem OverrideHistory.publish (hhistory : OverrideHistory scope keys db.tables.publications)
    (hoverride : overrideMetadata call = .ok override)
    (hdecision : decideCapture call override db.tables.publications = .ok (.publish content))
    (hpublish : publishCapture call override content db.nextRevision db.tables.publications
      db.tables = .ok tables) :
    OverrideHistory scope
      (keys ++ if call.scope = scope then override.idempotencyKey.toList else [])
      tables.publications := by
  obtain ⟨hswitch, _⟩ := publishCapture_eq_ok hpublish
  obtain ⟨_, hcomplete⟩ := overrideMetadata_eq_ok hoverride
  refine ⟨hswitch.oneActive hhistory.one, fun key row hfind hkey => ?_, fun hkeys => ?_⟩
  · by_cases hnew : key = ⟨call.scope, db.nextRevision⟩
    · rw [hnew, hswitch.published] at hfind
      rw [← Option.some.inj hfind] at hkey ⊢
      exact (hcomplete hkey).1
    · obtain ⟨_, old, hold, hrow⟩ := hswitch.others key row hnew hfind
      cases hrow with
      | inl hsame => exact hsame ▸ hhistory.final key old hold (hsame ▸ hkey)
      | inr hcleared =>
        rw [hcleared] at hkey ⊢
        exact hhistory.final key old hold hkey
  · by_cases hscope : call.scope = scope
    · rw [if_pos hscope] at hkeys ⊢
      cases hkey : override.idempotencyKey with
      | some key =>
        refine ⟨(_, _), hswitch.published, hscope, rfl, ?_⟩
        simp [newMyFplPublication, hkey]
      | none =>
        -- without a key the capture would have been a no-op
        rw [hkey, Option.toList_none, List.append_nil] at hkeys
        obtain ⟨active, hfind, hactiveScope, hactive, hlast⟩ := hhistory.shown hkeys
        have hsome : active.2.idempotencyKey ≠ none := by
          rw [hlast, Ne, List.getLast?_eq_none_iff]
          exact hkeys
        have hload := loadActivePublication_of_active _ hhistory.one hfind hactive
        rw [hactiveScope, ← hscope] at hload
        exact absurd (Or.inl ⟨hhistory.final _ _ hfind hsome, Or.inl fun h => h.2.2 hkey⟩)
          (decideCapture_eq_publish hdecision active hload)
    · rw [if_neg hscope, List.append_nil] at hkeys ⊢
      obtain ⟨active, hfind, hactiveScope, hactive, hlast⟩ := hhistory.shown hkeys
      refine ⟨active, ?_, hactiveScope, hactive, hlast⟩
      rw [hswitch.elsewhere active.1 (hactiveScope ▸ Ne.symm hscope), hfind]

/-- Every capture keeps the history. -/
theorem OverrideHistory.capture (hhistory : OverrideHistory scope keys db.tables.publications)
    (call : MyFplSnapshotCall) :
    OverrideHistory scope (keys ++ (acceptedOverride scope db call).toList)
      (captureStep db call).tables.publications := by
  cases captureMyFplSnapshot_cases db call with
  | inl hpublished =>
    obtain ⟨override, content, tables, hoverride, hdecision, hpublish, hcapture⟩ := hpublished
    have hkept := hhistory.publish hoverride hdecision hpublish
    rw [(overrideMetadata_eq_ok hoverride).1] at hkept
    unfold acceptedOverride captureStep
    rw [hcapture]
    dsimp only
    by_cases hscope : call.scope = scope
    · rwa [if_pos hscope] at hkept ⊢
    · rwa [if_neg hscope] at hkept ⊢
  | inr hkept =>
    rw [hkept.1, hkept.2 scope, Option.toList_none, List.append_nil]
    exact hhistory

/-- After any captures the active publication has the key of the last accepted override. -/
theorem overrideHistory_runSteps (calls : List MyFplSnapshotCall)
    (hhistory : OverrideHistory scope keys db.tables.publications) :
    OverrideHistory scope (keys ++ acceptedOverrideKeys scope db calls)
      (runSteps captureStep db calls).tables.publications := by
  induction calls generalizing db keys with
  | nil =>
    rw [acceptedOverrideKeys, List.append_nil]
    exact hhistory
  | cons call rest ih =>
    rw [acceptedOverrideKeys, ← List.append_assoc]
    exact ih (hhistory.capture call)

/-- A repeated override is a no-op exactly when its options are accepted, its event is ready and no
override under another key was accepted since. -/
theorem repeatedOverride_noop_iff (calls : List MyFplSnapshotCall) (request : MyFplSnapshotCall)
    (key : String) (hkey : trimmedOrNull request.idempotencyKey = some key)
    (hused : key ∈ acceptedOverrideKeys request.scope .initial calls) :
    (∃ active publication, captureMyFplSnapshot (runSteps captureStep .initial calls) request =
        (runSteps captureStep .initial calls, .ok (.noop active publication))) ↔
      (∃ override, overrideMetadata request = .ok override) ∧ checkMyFplEvent request = .ok () ∧
        (acceptedOverrideKeys request.scope .initial calls).getLast? = some key := by
  have hinitial : OverrideHistory request.scope [] MyFplDatabase.initial.tables.publications :=
    ⟨fun _ _ _ _ h => (Option.some_ne_none _ h.symm).elim,
      fun _ _ h => (Option.some_ne_none _ h.symm).elim, fun h => absurd rfl h⟩
  have hhistory := overrideHistory_runSteps calls hinitial
  rw [List.nil_append] at hhistory
  generalize runSteps captureStep .initial calls = db at hhistory ⊢
  obtain ⟨shown, hfind, hscope, hactive, hlast⟩ := hhistory.shown (List.ne_nil_of_mem hused)
  have hload := loadActivePublication_of_active _ hhistory.one hfind hactive
  rw [hscope] at hload
  -- the active publication has a key, so it is a final one
  have hfinal : shown.2.kind = .final := by
    refine hhistory.final _ _ hfind ?_
    rw [hlast, Ne, List.getLast?_eq_none_iff]
    exact List.ne_nil_of_mem hused
  unfold captureMyFplSnapshot
  cases hoverride : overrideMetadata request with
  | error error =>
    constructor
    · intro ⟨_, _, h⟩
      cases h
    · intro ⟨⟨_, h⟩, _⟩
      cases h
  | ok override =>
    have hsame : override.idempotencyKey = some key :=
      (overrideMetadata_eq_ok hoverride).1.trans hkey
    have hcomplete : override.Complete :=
      ((overrideMetadata_eq_ok hoverride).2 (hsame ▸ Option.some_ne_none key)).2
    have hnoop : CaptureIsNoop request override shown.2 ↔
        (acceptedOverrideKeys request.scope .initial calls).getLast? = some key := by
      rw [← hlast, CaptureIsNoop, hsame]
      simp [hfinal, hcomplete]
    dsimp only
    constructor
    · intro ⟨active, publication, h⟩
      refine ⟨⟨override, rfl⟩, ?_⟩
      split at h
      next => cases h
      next found hdecision =>
        obtain ⟨hcheck, hfound, hisNoop⟩ := decideCapture_eq_noop.mp hdecision
        rw [hload] at hfound
        rw [← Option.some.inj hfound] at hisNoop
        exact ⟨hcheck, hnoop.mp hisNoop⟩
      next =>
        have hresult := congrArg Prod.snd h
        split at hresult
        next => cases hresult
        next => cases hresult
    · intro ⟨_, hcheck, hkeys⟩
      have hdecision := decideCapture_eq_noop.mpr ⟨hcheck, hload, hnoop.mpr hkeys⟩
      rw [hdecision]
      exact ⟨shown.1, shown.2, rfl⟩

/-- A final override of event 7 under a key. -/
def exampleOverride (key : String) (outboxId : String) : MyFplSnapshotCall where
  season := season2526
  eventId := 7
  kind := .final
  snapshotDate := "2025-10-06"
  now := 1000
  actor := some "operator"
  reason := some "late correction"
  idempotencyKey := some key
  event := some { finished := true, dataChecked := true, deadlineTime := some 1 }
  content := .ok ⟨2, 0, 1, 900, "ab"⟩
  childRows := .ok ()
  dateText := fun text => text
  outboxId := outboxId

/-- The key that was accepted last is recognised when it is repeated. -/
theorem lastOverride_repeated :
    ∃ active publication,
      captureMyFplSnapshot (runSteps captureStep .initial
          [exampleOverride "k1" "a", exampleOverride "k2" "b"]) (exampleOverride " k2" "c") =
        (runSteps captureStep .initial [exampleOverride "k1" "a", exampleOverride "k2" "b"],
          .ok (.noop active publication)) :=
  (repeatedOverride_noop_iff [exampleOverride "k1" "a", exampleOverride "k2" "b"]
    (exampleOverride " k2" "c") "k2" (by decide +kernel) (by decide +kernel)).mpr
    ⟨⟨⟨some "operator", some "late correction", some "k2"⟩, by rfl⟩, by rfl, by decide +kernel⟩

/-- The key accepted before it makes the repeated request fail. -/
theorem earlierOverride_fails :
    "k1" ∈ acceptedOverrideKeys ⟨2025, 7⟩ .initial
        [exampleOverride "k1" "a", exampleOverride "k2" "b"] ∧
      (captureMyFplSnapshot (runSteps captureStep .initial
        [exampleOverride "k1" "a", exampleOverride "k2" "b"]) (exampleOverride "k1" "c")).2 =
          .error "my_fpl_snapshot_publications_idempotency_key" := by
  constructor
  · decide +kernel
  · rfl

end LetletmeData
