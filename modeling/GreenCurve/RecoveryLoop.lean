import GreenCurve.RecoveryLedger
import Mathlib.Data.Finset.Card
import Mathlib.Data.List.Perm.Subperm

/-! # What the ledger hides

A recording that finds all sixteen places taken by entries that still count keeps the first
fifteen of them and drops the newest one.  As long as that does not happen the ledger holds
every key whose first recording is still in the window, and the count sees it; it never
counts a key twice or an entry of another boot.  Once newer entries have been dropped for
older ones, the older ones leave the window and the loop is no longer seen. -/

namespace GreenCurve.RecoveryLedger

variable {history earlier : List Recording} {r f : Recording} {ledger : Ledger}
  {clock : AwakeClock}

/-! ## First recordings -/

/-- The recordings that are the first of their key. -/
def firsts : List Recording → List Recording
  | [] => []
  | r :: earlier =>
    if r.key.valid ∧ r.key ∉ earlier.map Recording.key then r :: firsts earlier
    else firsts earlier

theorem firsts_cons_of_known (h : r.key ∈ earlier.map Recording.key) :
    firsts (r :: earlier) = firsts earlier := if_neg fun hnew => hnew.2 h

theorem firsts_cons_of_invalid (h : ¬ r.key.valid = true) :
    firsts (r :: earlier) = firsts earlier := if_neg fun hnew => h hnew.1

theorem firsts_subset (history : List Recording) : ∀ f ∈ firsts history, f ∈ history := by
  induction history with
  | nil => exact fun f hf => hf
  | cons r earlier ih =>
    intro f hf
    rw [firsts] at hf
    split_ifs at hf with hnew
    · rcases List.mem_cons.mp hf with rfl | hf
      · exact List.mem_cons_self
      · exact List.mem_cons_of_mem r (ih f hf)
    · exact List.mem_cons_of_mem r (ih f hf)

theorem recent_iff {e : LedgerEntry} :
    e.recent clock = true ↔ e.bootIdentity = clock.bootIdentity ∧
      e.awakeTime100ns ≤ clock.awakeTime100ns ∧
      (clock.awakeTime100ns - e.awakeTime100ns) / 10000 ≤ RECOVERY_LOOP_WINDOW_MS := by
  simp only [LedgerEntry.recent, Bool.and_eq_true, decide_eq_true_eq, and_assoc]

/-- What is recent now was recent at the recording before. -/
theorem recent_before (h : Orderly (r :: earlier)) (hf : f ∈ earlier)
    (hrecent : f.entry.recent r.clock = true) :
    ∀ last ∈ earlier.head?, f.entry.recent last.clock = true := by
  intro last hlast
  obtain ⟨hboot, hle, hwindow⟩ := recent_iff.mp hrecent
  have hsame : last.clock.bootIdentity = r.clock.bootIdentity := (h.1 f hf hboot).2 last hlast
  have hlastle : last.clock.awakeTime100ns ≤ r.clock.awakeTime100ns :=
    (h.1 last (List.mem_of_mem_head? hlast) hsame).1
  have hfle : f.clock.awakeTime100ns ≤ last.clock.awakeTime100ns := by
    obtain ⟨rest, rfl⟩ := List.head?_eq_some_iff.mp hlast
    rcases List.mem_cons.mp hf with rfl | hrest
    · exact le_refl _
    · exact (h.2.1 f hrest (hboot.trans hsame.symm)).1
  refine recent_iff.mpr ⟨hboot.trans hsame.symm, hfle, le_trans ?_ hwindow⟩
  exact Nat.div_le_div_right (Nat.sub_le_sub_right hlastle _)

/-! ## One recording -/

/-- **A recording drops an entry that still counts**: its key is new to the ledger, and all
places are taken by entries of the boot in the window. -/
def DropsRecent (ledger : Ledger) (r : Recording) : Prop :=
  r.key.valid = true ∧ r.key ∉ ledger.entries.map LedgerEntry.key ∧
    ledger.entries.countP (LedgerEntry.recent r.clock) = SERVICE_RECOVERY_LEDGER_MAX

/-- Without a drop every entry that counts is kept. -/
theorem mem_extended (hkey : r.key.valid = true) (hroom : ¬ DropsRecent ledger r)
    (hnew : r.key ∉ ledger.entries.map LedgerEntry.key) {e : LedgerEntry} (he : e ∈ ledger.entries)
    (hrecent : e.recent r.clock = true) : e ∈ (ledger.extended r hkey).entries := by
  have hcount : ledger.entries.countP (LedgerEntry.recent r.clock) ≠ SERVICE_RECOVERY_LEDGER_MAX :=
    fun hfull => hroom ⟨hkey, hnew, hfull⟩
  have hle : ledger.entries.countP (LedgerEntry.recent r.clock) ≤ SERVICE_RECOVERY_LEDGER_MAX :=
    List.countP_le_length.trans ledger.bounded
  refine List.mem_append_left _ ?_
  rw [compactEntries_eq, List.take_of_length_le]
  · exact List.mem_filter.mpr ⟨he, hrecent⟩
  · rw [← List.countP_eq_length_filter]
    exact Nat.le_pred_of_lt (lt_of_le_of_ne hle hcount)

theorem compactEntries_sublist (ledger : Ledger) (r : Recording) :
    (compactEntries r.clock (SERVICE_RECOVERY_LEDGER_MAX - 1) ledger.entries).Sublist
      ledger.entries := by
  rw [compactEntries_eq]
  exact (List.take_sublist _ _).trans List.filter_sublist

theorem extended_nodup (hkey : r.key.valid = true)
    (hnodup : (ledger.entries.map LedgerEntry.key).Nodup)
    (hnew : r.key ∉ ledger.entries.map LedgerEntry.key) :
    ((ledger.extended r hkey).entries.map LedgerEntry.key).Nodup := by
  have hsub := (compactEntries_sublist ledger r).map LedgerEntry.key
  show ((_ ++ [r.entry]).map LedgerEntry.key).Nodup
  rw [List.map_append, List.nodup_append]
  refine ⟨hsub.nodup hnodup, List.nodup_singleton _, fun key hmem key' hmem' => ?_⟩
  rw [List.map_singleton, List.mem_singleton] at hmem'
  rintro rfl
  rw [hmem'] at hmem
  exact hnew (hsub.subset hmem)

/-- What a recording makes of the ledger. -/
def Ledger.record (ledger : Ledger) (r : Recording) : Ledger :=
  if h : r.key.valid = true ∧ r.key ∉ ledger.entries.map LedgerEntry.key then
    ledger.extended r h.1
  else ledger

/-- The store holds a ledger that can be read. -/
def Holds (s : RecoveryStore) (ledger : Ledger) : Prop :=
  s.ledgerWriteFailed = false ∧ serviceLoadRecoveryLedger s = (some ledger, s)

theorem alreadyRecorded_iff {keys : List EvidenceKey} {key : EvidenceKey} :
    serviceRecoveryEvidenceAlreadyRecorded keys key = true ↔ key.valid = true ∧ key ∈ keys := by
  simp [serviceRecoveryEvidenceAlreadyRecorded]

theorem Holds.record {s : RecoveryStore} (h : Holds s ledger) (r : Recording) :
    Holds (serviceRecordRecoveryEvidence s true r).1 (ledger.record r) := by
  obtain ⟨hwrite, hload⟩ := h
  unfold serviceRecordRecoveryEvidence Ledger.record
  by_cases hkey : r.key.valid = true
  · simp only [hkey, dif_pos, hwrite, Bool.false_eq_true, if_false, hload, alreadyRecorded_iff,
      true_and, if_true]
    by_cases hknown : r.key ∈ ledger.entries.map LedgerEntry.key
    · rw [if_pos hknown, dif_neg (not_not_intro hknown)]
      exact ⟨hwrite, hload⟩
    · rw [if_neg hknown, dif_pos hknown]
      exact ⟨rfl, rfl⟩
  · rw [dif_neg hkey, dif_neg fun hnew => hkey hnew.1]
    exact ⟨hwrite, hload⟩

/-- The ledger after some recordings. -/
def ledgerAfter : List Recording → Ledger
  | [] => .empty
  | r :: earlier => (ledgerAfter earlier).record r

/-- What the ledger holds of any history: every key once, each with one of its recordings. -/
structure Kept (history : List Recording) (ledger : Ledger) : Prop where
  nodup : (ledger.entries.map LedgerEntry.key).Nodup
  origin : ∀ e ∈ ledger.entries, ∃ r ∈ history, r.key.valid = true ∧ r.entry = e

theorem Kept.key_mem (h : Kept history ledger) {key : EvidenceKey}
    (hkey : key ∈ ledger.entries.map LedgerEntry.key) : key ∈ history.map Recording.key := by
  obtain ⟨e, he, rfl⟩ := List.mem_map.mp hkey
  obtain ⟨r, hr, -, rfl⟩ := h.origin e he
  exact List.mem_map.mpr ⟨r, hr, rfl⟩

theorem Kept.record (h : Kept earlier ledger) (r : Recording) :
    Kept (r :: earlier) (ledger.record r) := by
  unfold Ledger.record
  split_ifs with hnew
  · refine ⟨extended_nodup hnew.1 h.nodup hnew.2, fun e he => ?_⟩
    rcases List.mem_append.mp he with he | he
    · obtain ⟨r', hr', horigin⟩ := h.origin e ((compactEntries_sublist ledger r).subset he)
      exact ⟨r', List.mem_cons_of_mem r hr', horigin⟩
    · exact ⟨r, List.mem_cons_self, hnew.1, (List.mem_singleton.mp he).symm⟩
  · refine ⟨h.nodup, fun e he => ?_⟩
    obtain ⟨r', hr', horigin⟩ := h.origin e he
    exact ⟨r', List.mem_cons_of_mem r hr', horigin⟩

/-- Every first recording in the window, as seen from the newest one, is in the ledger. -/
def Complete (history : List Recording) (ledger : Ledger) : Prop :=
  ∀ last ∈ history.head?, ∀ f ∈ firsts history,
    f.entry.recent last.clock = true → f.entry ∈ ledger.entries

theorem Complete.record (h : Complete earlier ledger) (hkept : Kept earlier ledger)
    (horderly : Orderly (r :: earlier)) (hroom : ¬ DropsRecent ledger r) :
    Complete (r :: earlier) (ledger.record r) := by
  intro last hlast f hf hrecent
  obtain rfl : r = last := Option.some.inj hlast
  have hbefore : f ∈ firsts earlier → f.entry ∈ ledger.entries := by
    intro hfirst
    have hmem := firsts_subset earlier f hfirst
    obtain ⟨newest, hnewest⟩ : ∃ newest, earlier.head? = some newest := by
      cases earlier with
      | nil => cases hmem
      | cons newest rest => exact ⟨newest, rfl⟩
    exact h newest hnewest f hfirst (recent_before horderly hmem hrecent newest hnewest)
  unfold Ledger.record
  split_ifs with hnew
  · rw [firsts] at hf
    split_ifs at hf with hfirst
    · rcases List.mem_cons.mp hf with rfl | hf
      · exact List.mem_append_right _ (List.mem_singleton.mpr rfl)
      · exact mem_extended hnew.1 hroom hnew.2 (hbefore hf) hrecent
    · exact mem_extended hnew.1 hroom hnew.2 (hbefore hf) hrecent
  · refine hbefore ?_
    by_cases hkey : r.key.valid = true
    · have hknown : r.key ∈ ledger.entries.map LedgerEntry.key :=
        not_not.mp fun hfresh => hnew ⟨hkey, hfresh⟩
      rwa [firsts_cons_of_known (hkept.key_mem hknown)] at hf
    · rwa [firsts_cons_of_invalid hkey] at hf

/-- The entries that count at a time. -/
def counted (ledger : Ledger) (clock : AwakeClock) : List LedgerEntry :=
  ledger.entries.filter (LedgerEntry.recent clock)

/-- The keys whose first recording was on the boot and is in the window. -/
def recentFirsts (history : List Recording) (clock : AwakeClock) : Nat :=
  (firsts history).countP fun f => f.entry.recent clock

/-- The distinct keys that were recorded on the boot within the window. -/
def distinctRecent (history : List Recording) (clock : AwakeClock) : Finset EvidenceKey :=
  ((history.filter fun r => r.key.valid && r.entry.recent clock).map Recording.key).toFinset

/-- The count that is reported for a history. -/
def reported (history : List Recording) (clock : AwakeClock) : Nat :=
  (serviceCountRecentRestarts (storeAfter history) clock).1

/-- **A sound count**: it sees a loop, up to the threshold that locks; it counts no key
twice and no entry of another boot; and it counts no more keys than there were. -/
structure Sound (history : List Recording) (clock : AwakeClock) : Prop where
  sees : min MAX_RECOVERIES_BEFORE_BACKOFF (recentFirsts history clock) ≤ reported history clock
  counts : reported history clock = (counted (ledgerAfter history) clock).length
  once : ((counted (ledgerAfter history) clock).map LedgerEntry.key).Nodup
  sameBoot : ∀ e ∈ counted (ledgerAfter history) clock, e.bootIdentity = clock.bootIdentity
  distinct : reported history clock ≤ (distinctRecent history clock).card

/-- A recovery some seconds after the start of a boot. -/
def recovery (key : UInt64) (seconds : Nat) : Recording where
  key := ⟨1, key⟩
  clock :=
    { bootIdentity := ⟨0, 1⟩
      awakeTime100ns := seconds * 10000000 + 1
      bootValid := by decide
      timePositive := Nat.succ_ne_zero _ }

end GreenCurve.RecoveryLedger
