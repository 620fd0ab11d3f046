import Mathlib.Algebra.BigOperators.Group.List.Basic
import Mathlib.Tactic.Abel
import LetletmeData.Library.KeyedTables

/-!
# Ledgers

A table of entries, each with an account, is summed up in counters of the accounts. When an entry
is added or rewritten, the counter of its account must move by what the entry's part moves; then
every counter stays the sum of the parts.
-/

namespace LetletmeData.Library

variable {Key Row : Type*} {M : Type*} [AddCommGroup M]

namespace KeyedTable

/-- The sum of a weight over the rows. -/
def total (table : KeyedTable Key Row) (weight : Row → M) : M :=
  (table.entries.map fun entry => weight entry.2).sum

variable [DecidableEq Key] {table : KeyedTable Key Row} {key : Key} {row : Row}

/-- The total is the weight of one row and that of the others. -/
theorem total_eq_add (h : table.find key = some row) (weight : Row → M) :
    table.total weight = weight row + (table.deleteWhere fun other _ => other = key).total weight := by
  have hperm := (perm_deleteWhere_key h).map fun entry => weight entry.2
  rw [total, hperm.sum_eq]
  rfl

/-- Without a row it does not matter what was written to it. -/
theorem deleteWhere_updateWhere_key (table : KeyedTable Key Row) (key : Key) (write : Row → Row) :
    (table.updateWhere (fun other _ => other = key) write).deleteWhere (fun other _ => other = key) =
      table.deleteWhere fun other _ => other = key := by
  refine ext_entries ?_
  unfold deleteWhere updateWhere
  dsimp only
  induction table.entries with
  | nil => rfl
  | cons entry rest ih =>
    by_cases hkey : entry.1 = key
    · simpa [List.filter_cons, hkey] using ih
    · simpa [List.filter_cons, hkey] using ih

/-- Rewriting a row moves the total by what its weight moves. -/
theorem total_updateWhere (h : table.find key = some row) (write : Row → Row) (weight : Row → M) :
    (table.updateWhere (fun other _ => other = key) write).total weight =
      table.total weight + (weight (write row) - weight row) := by
  have hwritten : (table.updateWhere (fun other _ => other = key) write).find key =
      some (write row) := by
    rw [find_updateWhere, h]
    simp
  rw [total_eq_add hwritten, total_eq_add h, deleteWhere_updateWhere_key]
  abel

/-- Inserting a row adds its weight. -/
theorem total_insertAbsent (h : table.find key = none) (weight : Row → M) :
    (table.insertAbsent key row).total weight = table.total weight + weight row := by
  have habsent : key ∉ table.entries.map Prod.fst := find_eq_none_iff.mp h
  rw [total, insertAbsent, dif_neg habsent]
  simp [total]

end KeyedTable

section Balances

variable {AccountKey Account EntryKey Entry : Type*} [DecidableEq AccountKey] [DecidableEq EntryKey]

/-- The counter of every account is the sum of the parts the entries have in it. -/
def Balances (part : AccountKey → Entry → M) (counter : Account → M)
    (accounts : KeyedTable AccountKey Account) (entries : KeyedTable EntryKey Entry) : Prop :=
  ∀ key account, accounts.find key = some account → counter account = entries.total (part key)

variable {part : AccountKey → Entry → M} {counter : Account → M}
  {accounts : KeyedTable AccountKey Account} {entries : KeyedTable EntryKey Entry}

/-- An entry is rewritten and its account adjusted by as much. -/
theorem Balances.rewrite (h : Balances part counter accounts entries) {accountOf : Entry → AccountKey}
    (hpart : ∀ key entry, accountOf entry ≠ key → part key entry = 0) {id : EntryKey} {entry : Entry}
    (hentry : entries.find id = some entry) {write : Entry → Entry}
    (haccount : accountOf (write entry) = accountOf entry) {adjust : Account → Account}
    (hadjust : ∀ account, counter (adjust account) = counter account +
      (part (accountOf entry) (write entry) - part (accountOf entry) entry)) :
    Balances part counter (accounts.updateWhere (fun key _ => key = accountOf entry) adjust)
      (entries.updateWhere (fun key _ => key = id) write) := by
  intro key account haccounts
  rw [KeyedTable.find_updateWhere] at haccounts
  obtain ⟨old, hold, hnew⟩ := Option.map_eq_some_iff.mp haccounts
  rw [KeyedTable.total_updateWhere hentry]
  by_cases hkey : key = accountOf entry
  · rw [if_pos hkey] at hnew
    rw [← hnew, hadjust, h key old hold, hkey]
  · rw [if_neg hkey] at hnew
    rw [← hnew, h key old hold, hpart key entry (Ne.symm hkey),
      hpart key (write entry) (by rw [haccount]; exact Ne.symm hkey), sub_zero, add_zero]

/-- An entry is added and its account adjusted by its part. -/
theorem Balances.insert (h : Balances part counter accounts entries) {accountOf : Entry → AccountKey}
    (hpart : ∀ key entry, accountOf entry ≠ key → part key entry = 0) {id : EntryKey} {entry : Entry}
    (hnew : entries.find id = none) {adjust : Account → Account}
    (hadjust : ∀ account, counter (adjust account) = counter account +
      part (accountOf entry) entry) :
    Balances part counter (accounts.updateWhere (fun key _ => key = accountOf entry) adjust)
      (entries.insertAbsent id entry) := by
  intro key account haccounts
  rw [KeyedTable.find_updateWhere] at haccounts
  obtain ⟨old, hold, hadjusted⟩ := Option.map_eq_some_iff.mp haccounts
  rw [KeyedTable.total_insertAbsent hnew]
  by_cases hkey : key = accountOf entry
  · rw [if_pos hkey] at hadjusted
    rw [← hadjusted, hadjust, h key old hold, hkey]
  · rw [if_neg hkey] at hadjusted
    rw [← hadjusted, h key old hold, hpart key entry (Ne.symm hkey), add_zero]

omit [DecidableEq EntryKey] in
/-- An account that no entry belongs to is opened with an empty counter. -/
theorem Balances.openAccount (h : Balances part counter accounts entries) {key : AccountKey}
    {account : Account} (hcounter : counter account = 0)
    (hunused : ∀ entry ∈ entries.entries, part key entry.2 = 0) :
    Balances part counter (accounts.insertAbsent key account) entries := by
  intro other found hfound
  rw [KeyedTable.find_insertAbsent] at hfound
  cases hother : accounts.find other with
  | some old =>
    rw [hother, Option.some_or] at hfound
    exact h other found (hother.trans hfound)
  | none =>
    rw [hother, Option.none_or] at hfound
    split at hfound
    next heq =>
      rw [← Option.some.inj hfound, hcounter, heq, KeyedTable.total,
        List.map_congr_left hunused]
      simp
    next => exact absurd hfound.symm (Option.some_ne_none found)

omit [DecidableEq EntryKey] in
/-- What the counters do not count may be written to an account. -/
theorem Balances.adjust (h : Balances part counter accounts entries)
    {selected : AccountKey → Account → Prop} [∀ key account, Decidable (selected key account)]
    {adjust : Account → Account} (hadjust : ∀ account, counter (adjust account) = counter account) :
    Balances part counter (accounts.updateWhere selected adjust) entries := by
  intro key account haccounts
  rw [KeyedTable.find_updateWhere] at haccounts
  obtain ⟨old, hold, hnew⟩ := Option.map_eq_some_iff.mp haccounts
  rw [← hnew, ← h key old hold]
  split
  next => exact hadjust old
  next => rfl

end Balances

end LetletmeData.Library
