import GreenCurve.AutoProfile
import Mathlib.Algebra.Order.Ring.Int
import Mathlib.Data.List.Chain
import Mathlib.Tactic.Linarith

/-! # Not too often and not forgotten

A switch waits for three clocks: the debounce timer, the cooldown since the last apply and
the backoff of a slot that failed.  The controller keeps the last two as points in time, and
no event moves them back except by design: a success, an explicit pick or a new
configuration clears the backoff.  So applies keep their distance over every run, and a
switch that is wanted waits out each clock once. -/

namespace GreenCurve.AutoProfile

variable {cfg : AutoProfileConfig} {history recent older : List Entry}
  {c c' : AutoProfileController} {e : Entry} {slot nowMs : Int} {suppressed : Bool}

/-! ## The wait after failures -/

theorem min_doubleDelay {delay : Int} (hpos : 0 < delay) (n : Nat) :
    min (doubleDelay delay n) AUTO_PROFILE_FAILURE_BACKOFF_MAX_MS =
      min (delay * 2 ^ n) AUTO_PROFILE_FAILURE_BACKOFF_MAX_MS := by
  induction n generalizing delay with
  | zero => rw [doubleDelay, pow_zero, mul_one]
  | succ n ih =>
    rw [doubleDelay]
    split_ifs with hlt
    · rw [ih (by omega), mul_assoc, pow_succ']
    · have hpow : (1 : Int) ≤ 2 ^ (n + 1) := one_le_pow₀ (by decide)
      have hge : AUTO_PROFILE_FAILURE_BACKOFF_MAX_MS ≤ delay := not_lt.mp hlt
      rw [min_eq_right hge, min_eq_right (hge.trans (le_mul_of_one_le_right hpos.le hpow))]

theorem failureDelay_eq {interval : Int} (hpos : 0 < interval) (failures : Nat) :
    failureDelay interval failures =
      min (interval * 2 ^ (failures - 1)) AUTO_PROFILE_FAILURE_BACKOFF_MAX_MS := by
  rw [← min_doubleDelay hpos, failureDelay, if_pos hpos]
  split_ifs with h
  · exact (min_eq_right h.le).symm
  · exact (min_eq_left (not_lt.mp h)).symm

theorem failureDelay_le {interval : Int} (hpos : 0 < interval) (failures : Nat) :
    failureDelay interval failures ≤ AUTO_PROFILE_FAILURE_BACKOFF_MAX_MS := by
  rw [failureDelay_eq hpos]
  exact min_le_right _ _

/-- The wait grows with the failures; the count stops at 30, where the wait is the bound. -/
theorem le_failureDelay {interval : Int} (hpos : 0 < interval) {k failures : Nat}
    (h : k + 1 ≤ failures ∨ 30 ≤ failures) :
    min (interval * 2 ^ k) AUTO_PROFILE_FAILURE_BACKOFF_MAX_MS ≤ failureDelay interval failures := by
  rw [failureDelay_eq hpos]
  rcases h with h | h
  · refine min_le_min_right _ (mul_le_mul_of_nonneg_left ?_ hpos.le)
    exact pow_le_pow_right₀ (by decide) (by omega)
  · have hpow : (2 : Int) ^ 29 ≤ 2 ^ (failures - 1) := pow_le_pow_right₀ (by decide) (by omega)
    have hbig : AUTO_PROFILE_FAILURE_BACKOFF_MAX_MS ≤ interval * 2 ^ (failures - 1) :=
      calc AUTO_PROFILE_FAILURE_BACKOFF_MAX_MS ≤ 1 * 2 ^ 29 := by decide
        _ ≤ interval * 2 ^ (failures - 1) := mul_le_mul hpos hpow (by decide) hpos.le
    rw [min_eq_right hbig]
    exact min_le_right _ _

/-! ## What an event does to the clocks -/

/-- The clocks and their settings are the same. -/
structure SamePace (c c' : AutoProfileController) : Prop where
  lastApplyMs : c'.lastApplyMs = c.lastApplyMs
  failedSlot : c'.failedSlot = c.failedSlot
  consecutiveFailures : c'.consecutiveFailures = c.consecutiveFailures
  retryNotBeforeMs : c'.retryNotBeforeMs = c.retryNotBeforeMs
  debounceMs : c'.debounceMs = c.debounceMs
  minIntervalMs : c'.minIntervalMs = c.minIntervalMs

theorem SamePace.refl (c : AutoProfileController) : SamePace c c := ⟨rfl, rfl, rfl, rfl, rfl, rfl⟩

theorem samePace_targetResolved (c : AutoProfileController) (slot nowMs : Int)
    (suppressed : Bool) : SamePace c (apOnTargetResolved c slot nowMs suppressed).1 := by
  unfold apOnTargetResolved
  dsimp only
  split_ifs <;> exact ⟨rfl, rfl, rfl, rfl, rfl, rfl⟩

theorem samePace_debounceFire (c : AutoProfileController) (slot nowMs : Int)
    (suppressed : Bool) : SamePace c (apOnDebounceFire c slot nowMs suppressed).1 := by
  unfold apOnDebounceFire
  dsimp only
  split_ifs <;> exact ⟨rfl, rfl, rfl, rfl, rfl, rfl⟩

/-- The clocks and their settings stay within bounds. -/
structure Paced (c : AutoProfileController) (nowMs : Int) : Prop where
  debounce_pos : 0 < c.debounceMs
  interval_pos : 0 < c.minIntervalMs
  interval_le : c.minIntervalMs ≤ INT_MAX
  lastApply_le : c.lastApplyMs ≤ nowMs
  retry_le : c.retryNotBeforeMs ≤ nowMs + AUTO_PROFILE_FAILURE_BACKOFF_MAX_MS

namespace Paced

theorem later {later : Int} (h : Paced c nowMs) (hle : nowMs ≤ later) : Paced c later where
  debounce_pos := h.debounce_pos
  interval_pos := h.interval_pos
  interval_le := h.interval_le
  lastApply_le := h.lastApply_le.trans hle
  retry_le := h.retry_le.trans (by omega)

theorem same (h : Paced c nowMs) (hsame : SamePace c c') : Paced c' nowMs where
  debounce_pos := hsame.debounceMs ▸ h.debounce_pos
  interval_pos := hsame.minIntervalMs ▸ h.interval_pos
  interval_le := hsame.minIntervalMs ▸ h.interval_le
  lastApply_le := hsame.lastApplyMs ▸ h.lastApply_le
  retry_le := hsame.retryNotBeforeMs ▸ h.retry_le

/-- The settings a configuration leaves are in their bounds. -/
theorem synced (cfg : AutoProfileConfig) (hlast : c.lastApplyMs ≤ nowMs)
    (hretry : c.retryNotBeforeMs ≤ nowMs + AUTO_PROFILE_FAILURE_BACKOFF_MAX_MS) :
    Paced (apControllerSyncConfig c cfg) nowMs where
  debounce_pos := by
    show 0 < if 0 < cfg.switchDebounceMs then cfg.switchDebounceMs else 800
    split_ifs <;> omega
  interval_pos := by
    show 0 < if 0 < cfg.minSwitchIntervalMs then cfg.minSwitchIntervalMs else 4000
    split_ifs <;> omega
  interval_le := by
    show (if 0 < cfg.minSwitchIntervalMs then cfg.minSwitchIntervalMs else 4000) ≤ INT_MAX
    split_ifs
    · exact cfg.minSwitchIntervalMs_le
    · decide
  lastApply_le := hlast
  retry_le := hretry

theorem cleared (h : Paced c nowMs) (hnow : 0 ≤ nowMs) : Paced (apClearFailure c) nowMs where
  debounce_pos := h.debounce_pos
  interval_pos := h.interval_pos
  interval_le := h.interval_le
  lastApply_le := h.lastApply_le
  retry_le := by
    show (0 : Int) ≤ nowMs + 300000
    omega

theorem hotkey (h : Paced c nowMs) (hnow : 0 ≤ nowMs) (slot : Int) :
    Paced (apOnHotkey c slot).1 nowMs := by
  have hcleared := h.cleared hnow
  unfold apOnHotkey
  dsimp only
  split
  · exact h
  · split
    · exact hcleared.same ⟨rfl, rfl, rfl, rfl, rfl, rfl⟩
    · split <;> exact hcleared.same ⟨rfl, rfl, rfl, rfl, rfl, rfl⟩

theorem setEnabled (h : Paced c nowMs) (hnow : 0 ≤ nowMs) (enabled : Bool) :
    Paced (apSetEnabled c enabled).1 nowMs := by
  have hcleared := h.cleared hnow
  unfold apSetEnabled
  dsimp only
  split_ifs <;> exact hcleared.same ⟨rfl, rfl, rfl, rfl, rfl, rfl⟩

theorem configChange (h : Paced c nowMs) (hnow : 0 ≤ nowMs) (cfg : AutoProfileConfig) :
    Paced (apApplyConfigChange c cfg).1 nowMs := by
  have hcleared := (synced cfg h.lastApply_le h.retry_le).cleared hnow
  unfold apApplyConfigChange
  dsimp only
  split_ifs
  · exact hcleared
  · exact hcleared.setEnabled hnow cfg.enabled

theorem applied (h : Paced c nowMs) (hnow : 0 ≤ nowMs) (slot : Int) :
    Paced (apOnApplied c slot nowMs) nowMs :=
  cleared ⟨h.debounce_pos, h.interval_pos, h.interval_le, le_refl nowMs, h.retry_le⟩ hnow

theorem applyFailed (h : Paced c nowMs) (slot : Int) : Paced (apOnApplyFailed c slot nowMs) nowMs := by
  unfold apOnApplyFailed
  split
  · exact h
  · exact ⟨h.debounce_pos, h.interval_pos, h.interval_le, le_refl nowMs,
      Int.add_le_add_left (failureDelay_le h.interval_pos _) _⟩

/-- One event keeps the bounds. -/
theorem after (h : Paced e.before e.nowMs) : Paced e.after e.nowMs := by
  have hnow : (0 : Int) ≤ e.nowMs := Int.natCast_nonneg _
  unfold Entry.after
  cases e.event with
  | targetResolved slot suppressed => exact h.same (samePace_targetResolved _ _ _ _)
  | debounceFire slot suppressed => exact h.same (samePace_debounceFire _ _ _ _)
  | hotkey slot => exact h.hotkey hnow slot
  | manualCustom => exact h.same ⟨rfl, rfl, rfl, rfl, rfl, rfl⟩
  | setEnabled enabled => exact h.setEnabled hnow enabled
  | configChange cfg => exact h.configChange hnow cfg
  | applied slot => exact h.applied hnow slot
  | applyFailed slot => exact h.applyFailed slot

end Paced

/-! ## Every run -/

/-- When the last event of a run was handled. -/
def lastMs (history : List Entry) : Nat := (history.head?.map Entry.nowMs).getD 0

theorem lastMs_le {newest : Entry} (h : ∀ last ∈ history.head?, last.nowMs ≤ newest.nowMs) :
    lastMs history ≤ newest.nowMs := by
  unfold lastMs
  cases hhead : history.head? with
  | none => exact Nat.zero_le _
  | some last => exact h last hhead

theorem Run.paced (h : Run cfg history c) : Paced c (lastMs history) := by
  induction h with
  | init => exact Paced.synced cfg (by decide) (by decide)
  | handle e _ hbefore htime _ ih =>
    subst hbefore
    exact (ih.later (Int.ofNat_le.mpr (lastMs_le htime))).after

/-- The clocks when an event is handled. -/
theorem Run.paced_handle (h : Run cfg history e.before)
    (htime : ∀ last ∈ history.head?, last.nowMs ≤ e.nowMs) : Paced e.before e.nowMs :=
  h.paced.later (Int.ofNat_le.mpr (lastMs_le htime))

/-! ## Automatic applies -/

/-- **When the timer leads to an apply**: the controller drives, the target is valid and not
applied yet, the cooldown is over and the backoff of the target as well. -/
structure Ready (c : AutoProfileController) (slot nowMs : Int) (suppressed : Bool) : Prop where
  enabled : c.autoEnabled = true
  auto : c.mode = .auto
  shown : suppressed = false
  valid : apSlotValid slot = true
  other : slot ≠ c.appliedSlot
  cooled : c.lastApplyMs + c.minIntervalMs ≤ nowMs
  rested : c.failedSlot = slot → c.retryNotBeforeMs ≤ nowMs

theorem slot_ne_zero (h : apSlotValid slot = true) : slot ≠ 0 := by
  rintro rfl
  cases h

theorem backoffRemaining_nonpos_iff (h : apSlotValid slot = true) :
    ¬ 0 < apFailureBackoffRemainingMs c slot nowMs ↔
      (c.failedSlot = slot → c.retryNotBeforeMs ≤ nowMs) := by
  unfold apFailureBackoffRemainingMs
  by_cases hslot : c.failedSlot = slot
  · have hother : ¬ (c.failedSlot = 0 ∨ slot ≠ c.failedSlot) := by
      rintro (hzero | hne)
      · exact slot_ne_zero h (hslot.symm.trans hzero)
      · exact hne hslot.symm
    rw [if_neg hother]
    split_ifs <;> constructor <;> intros <;> omega
  · rw [if_pos (.inr fun heq => hslot heq.symm)]
    exact ⟨fun _ heq => absurd heq hslot, fun _ => lt_irrefl 0⟩

theorem ready_of_fire {target : Int}
    (h : (apOnDebounceFire c target nowMs suppressed).2 = .applySlot slot) :
    slot = target ∧ Ready c target nowMs suppressed := by
  unfold apOnDebounceFire at h
  split at h
  · cases h
  rename_i hdriving
  split at h
  · cases h
  rename_i hvalid
  split at h
  · cases h
  rename_i hother
  dsimp only at h
  split at h
  · cases h
  rename_i hcooled
  split at h
  · cases h
  rename_i hrested
  have hvalid' : apSlotValid target = true := not_not.mp hvalid
  have hdriving' : apControllerIsDriving c suppressed = true := not_not.mp hdriving
  simp only [apControllerIsDriving, Bool.and_eq_true, decide_eq_true_eq,
    Bool.not_eq_true'] at hdriving'
  obtain ⟨⟨henabled, hauto⟩, hshown⟩ := hdriving'
  exact ⟨(AutoProfileAction.applySlot.inj h).symm, henabled, hauto, hshown, hvalid', hother,
    by omega, (backoffRemaining_nonpos_iff hvalid').mp hrested⟩

theorem Entry.AppliesAutomatically.ready (h : e.AppliesAutomatically slot) :
    ∃ suppressed, e.event = .debounceFire slot suppressed ∧
      Ready e.before slot e.nowMs suppressed := by
  obtain ⟨⟨target, suppressed, hevent⟩, haction⟩ := h
  rw [Entry.action, hevent] at haction
  obtain ⟨rfl, hready⟩ := ready_of_fire haction
  exact ⟨suppressed, hevent, hready⟩

/-! ## The cooldown -/

/-- An answer to an apply starts the cooldown. -/
theorem lastApply_of_answers (h : e.Answers slot) (hvalid : apSlotValid slot = true) :
    e.after.lastApplyMs = e.nowMs := by
  unfold Entry.after
  rcases h with h | h
  · rw [h]
    rfl
  · rw [h]
    show (apOnApplyFailed e.before slot e.nowMs).lastApplyMs = e.nowMs
    rw [apOnApplyFailed, if_neg (not_not_intro hvalid)]

/-- The cooldown is never moved back. -/
theorem lastApply_le_after (h : Paced e.before e.nowMs) :
    e.before.lastApplyMs ≤ e.after.lastApplyMs := by
  unfold Entry.after
  cases e.event with
  | targetResolved slot suppressed => exact (samePace_targetResolved _ _ _ _).lastApplyMs.ge
  | debounceFire slot suppressed => exact (samePace_debounceFire _ _ _ _).lastApplyMs.ge
  | hotkey slot =>
    show _ ≤ (apOnHotkey e.before slot).1.lastApplyMs
    unfold apOnHotkey
    dsimp only
    split
    · exact le_refl _
    · split
      · exact le_refl _
      · split <;> exact le_refl _
  | manualCustom => exact le_refl _
  | setEnabled enabled =>
    show _ ≤ (apSetEnabled e.before enabled).1.lastApplyMs
    unfold apSetEnabled
    dsimp only
    split
    · exact le_refl _
    · split <;> exact le_refl _
  | configChange cfg =>
    show _ ≤ (apApplyConfigChange e.before cfg).1.lastApplyMs
    unfold apApplyConfigChange apSetEnabled
    dsimp only
    split
    · exact le_refl _
    · split
      · exact le_refl _
      · split <;> exact le_refl _
  | applied slot => exact h.lastApply_le
  | applyFailed slot =>
    show _ ≤ (apOnApplyFailed e.before slot e.nowMs).lastApplyMs
    unfold apOnApplyFailed
    split
    · exact le_refl _
    · exact h.lastApply_le

/-- Every automatic apply of a run has been charged to the cooldown, except one that still
waits for its answer. -/
theorem Run.charged (h : Run cfg history c) :
    ∀ e ∈ history, ∀ slot, e.AppliesAutomatically slot →
      (e.nowMs : Int) ≤ c.lastApplyMs ∨ history.head? = some e := by
  induction h with
  | init => exact fun e he => absurd he List.not_mem_nil
  | handle newest hrun hbefore htime hanswer ih =>
    subst hbefore
    intro e he slot happlies
    rcases List.mem_cons.mp he with rfl | he
    · exact .inr rfl
    refine .inl ?_
    have hpaced := hrun.paced_handle htime
    rcases ih e he slot happlies with hcharged | hlast
    · exact hcharged.trans (lastApply_le_after hpaced)
    · obtain ⟨_, -, hready⟩ := happlies.ready
      rw [lastApply_of_answers (hanswer e hlast slot happlies.2) hready.valid]
      exact Int.ofNat_le.mpr (htime e hlast)

/-- **Automatic applies keep their distance.** -/
theorem Run.cooldown (h : Run cfg history c) :
    history.Pairwise fun newer earlier => ∀ slot slot', newer.AppliesAutomatically slot →
      earlier.AppliesAutomatically slot' →
        (earlier.nowMs : Int) + newer.before.minIntervalMs ≤ newer.nowMs := by
  induction h with
  | init => exact List.Pairwise.nil
  | handle newest hrun hbefore htime hanswer ih =>
    subst hbefore
    refine List.Pairwise.cons (fun earlier hmem slot slot' hnewest hearlier => ?_) ih
    obtain ⟨suppressed, hevent, hready⟩ := hnewest.ready
    rcases hrun.charged earlier hmem slot' hearlier with hcharged | hlast
    · have hcooled := hready.cooled
      omega
    · have hanswers := hanswer earlier hlast slot' hearlier.2
      rw [Entry.Answers, hevent] at hanswers
      rcases hanswers with h | h <;> cases h

/-! ## The backoff -/

namespace Entry

/-- The apply of a slot failed. -/
def fails (slot : Int) (e : Entry) : Bool :=
  match e.event with
  | .applyFailed failed => decide (failed = slot)
  | _ => false

/-- A pick, a change of the switch or of the configuration, or the failure of another
slot. -/
def Disturbs (slot : Int) (e : Entry) : Prop :=
  match e.event with
  | .hotkey _ | .setEnabled _ | .configChange _ => True
  | .applyFailed failed => failed ≠ slot
  | _ => False

/-- A success clears the backoff of every slot. -/
def Ends (slot : Int) (e : Entry) : Prop :=
  e.Disturbs slot ∨ ∃ applied, e.event = .applied applied

theorem fails_iff : e.fails slot = true ↔ e.event = .applyFailed slot := by
  unfold fails
  cases e.event <;> simp

/-- What does not end a series of failures is one more, or leaves the clocks. -/
theorem fails_or_samePace (h : ¬ e.Ends slot) :
    e.event = .applyFailed slot ∨ e.fails slot = false ∧ SamePace e.before e.after := by
  obtain ⟨hdisturbs, hsuccess⟩ := not_or.mp h
  unfold Disturbs at hdisturbs
  unfold fails after
  cases hevent : e.event with
  | targetResolved target suppressed => exact .inr ⟨rfl, samePace_targetResolved _ _ _ _⟩
  | debounceFire target suppressed => exact .inr ⟨rfl, samePace_debounceFire _ _ _ _⟩
  | manualCustom => exact .inr ⟨rfl, rfl, rfl, rfl, rfl, rfl, rfl⟩
  | applied applied => exact absurd ⟨applied, hevent⟩ hsuccess
  | applyFailed failed =>
    rw [hevent] at hdisturbs
    exact .inl (by rw [not_not.mp hdisturbs])
  | hotkey _ =>
    rw [hevent] at hdisturbs
    exact absurd trivial hdisturbs
  | setEnabled _ =>
    rw [hevent] at hdisturbs
    exact absurd trivial hdisturbs
  | configChange _ =>
    rw [hevent] at hdisturbs
    exact absurd trivial hdisturbs

end Entry

/-- A slot waits for the end of its backoff, after a number of failures of which the last
was at a given time. -/
structure BackedOff (c : AutoProfileController) (slot : Int) (further : Nat) (lastMs : Int) :
    Prop where
  slot_eq : c.failedSlot = slot
  counted : further + 1 ≤ c.consecutiveFailures ∨ 30 ≤ c.consecutiveFailures
  waits : lastMs + min (c.minIntervalMs * 2 ^ further) AUTO_PROFILE_FAILURE_BACKOFF_MAX_MS ≤
    c.retryNotBeforeMs

namespace BackedOff

variable {further : Nat} {lastMs : Int}

theorem same (h : BackedOff c slot further lastMs) (hsame : SamePace c c') :
    BackedOff c' slot further lastMs where
  slot_eq := hsame.failedSlot.trans h.slot_eq
  counted := by
    rw [hsame.consecutiveFailures]
    exact h.counted
  waits := by
    rw [hsame.minIntervalMs, hsame.retryNotBeforeMs]
    exact h.waits

/-- A first failure. -/
theorem first (hvalid : apSlotValid slot = true) (hpos : 0 < c.minIntervalMs) :
    BackedOff (apOnApplyFailed c slot nowMs) slot 0 nowMs := by
  unfold apOnApplyFailed
  rw [if_neg (not_not_intro hvalid)]
  have hcount : 0 + 1 ≤ (if c.failedSlot = slot then
      (if c.consecutiveFailures < 30 then c.consecutiveFailures + 1 else c.consecutiveFailures)
      else 1) := by
    split_ifs <;> omega
  exact ⟨rfl, .inl hcount, Int.add_le_add_left (le_failureDelay hpos (.inl hcount)) _⟩

/-- One more failure. -/
theorem next (h : BackedOff c slot further lastMs) (hvalid : apSlotValid slot = true)
    (hpos : 0 < c.minIntervalMs) :
    BackedOff (apOnApplyFailed c slot nowMs) slot (further + 1) nowMs := by
  have hcounted := h.counted
  unfold apOnApplyFailed
  rw [if_neg (not_not_intro hvalid), if_pos h.slot_eq]
  have hcount : further + 1 + 1 ≤
        (if c.consecutiveFailures < 30 then c.consecutiveFailures + 1 else c.consecutiveFailures) ∨
      30 ≤ (if c.consecutiveFailures < 30 then c.consecutiveFailures + 1
        else c.consecutiveFailures) := by
    split_ifs <;> omega
  exact ⟨rfl, hcount, Int.add_le_add_left (le_failureDelay hpos hcount) _⟩

end BackedOff

/-- The failures of a slot that nothing has ended. -/
theorem Run.backedOff (hrun : Run cfg (recent ++ older) c) (hvalid : apSlotValid slot = true)
    (hquiet : ∀ e ∈ recent, ¬ e.Ends slot) {last : Entry} {rest : List Entry}
    (hfailures : recent.filter (Entry.fails slot) = last :: rest) :
    BackedOff c slot rest.length last.nowMs := by
  induction recent generalizing c last rest with
  | nil => cases hfailures
  | cons newest recent ih =>
    cases hrun with
    | handle _ hrun hbefore htime _ =>
      subst hbefore
      have hquiet' : ∀ e ∈ recent, ¬ e.Ends slot :=
        fun e he => hquiet e (List.mem_cons_of_mem newest he)
      rcases Entry.fails_or_samePace (hquiet newest List.mem_cons_self) with hfails | ⟨hother, hsame⟩
      · have hpos := hrun.paced.interval_pos
        have hafter : newest.after = apOnApplyFailed newest.before slot newest.nowMs := by
          rw [Entry.after, hfails]
          rfl
        rw [List.filter_cons_of_pos (Entry.fails_iff.mpr hfails)] at hfailures
        obtain ⟨rfl, rfl⟩ := List.cons.inj hfailures
        rw [hafter]
        cases hrest : recent.filter (Entry.fails slot) with
        | nil => exact .first hvalid hpos
        | cons last' rest' => exact (ih hrun hquiet' hrest).next hvalid hpos
      · rw [List.filter_cons_of_neg (by simp [hother])] at hfailures
        exact (ih hrun hquiet' hfailures).same hsame

/-- A slot that failed is not retried before its backoff ends, where `Ends` says which
events end a series of failures. -/
def BackoffKept (Ends : Int → Entry → Prop) : Prop :=
  ∀ (cfg : AutoProfileConfig) (c : AutoProfileController) (e last : Entry)
    (recent older rest : List Entry) (slot : Int), Run cfg (e :: (recent ++ older)) c →
    e.AppliesAutomatically slot → (∀ quiet ∈ recent, ¬ Ends slot quiet) →
    recent.filter (Entry.fails slot) = last :: rest →
      (last.nowMs : Int) +
        min (e.before.minIntervalMs * 2 ^ rest.length) AUTO_PROFILE_FAILURE_BACKOFF_MAX_MS ≤ e.nowMs

theorem backoffKept : BackoffKept fun slot e => e.Ends slot := by
  intro cfg c e last recent older rest slot hrun happlies hquiet hfailures
  obtain ⟨suppressed, -, hready⟩ := happlies.ready
  cases hrun with
  | handle _ hrun hbefore _ _ =>
    subst hbefore
    have hbacked := hrun.backedOff hready.valid hquiet hfailures
    exact hbacked.waits.trans (hready.rested hbacked.slot_eq)

/-! ## A switch that is wanted -/

/-- A switch to the target is wanted: the controller drives, and the target is valid and
not applied. -/
structure Wanted (c : AutoProfileController) (target : Int) : Prop where
  enabled : c.autoEnabled = true
  auto : c.mode = .auto
  valid : apSlotValid target = true
  other : target ≠ c.appliedSlot

/-- **The apply is reached** after at most so many arms, if the timer fires no earlier than
each was armed for and a switch, to whatever target, is still wanted. -/
def ReachesApply : Nat → AutoProfileController → Int → Int → AutoProfileAction → Prop
  | 0, _, _, target, action => action = .applySlot target
  | arms + 1, c, nowMs, target, action =>
    action = .applySlot target ∨ ∃ delayMs, action = .armDebounce delayMs ∧ 0 < delayMs ∧
      ∀ fireMs target', nowMs + delayMs ≤ fireMs → Wanted c target' →
        ReachesApply arms (apOnDebounceFire c target' fireMs false).1 fireMs target'
          (apOnDebounceFire c target' fireMs false).2

theorem castInt_of_le {n : Int} (hnonneg : 0 ≤ n) (hle : n ≤ INT_MAX) : castInt n = n := by
  have hle' : n ≤ 0x7fffffff := hle
  unfold castInt
  rw [Int.bmod_eq_of_le] <;> omega

theorem apActionArm_pos {delayMs : Int} (h : 0 < delayMs) : apActionArm delayMs = .armDebounce delayMs := by
  rw [apActionArm, if_pos h]

theorem apActionArmBackoff_eq {backoff : Int} (hpos : 0 < backoff)
    (hle : backoff ≤ AUTO_PROFILE_FAILURE_BACKOFF_MAX_MS) :
    apActionArmBackoff backoff = .armDebounce backoff := by
  have hint : backoff ≤ INT_MAX := hle.trans (by decide)
  rw [apActionArmBackoff, if_neg (not_lt.mpr hint), castInt_of_le hpos.le hint, apActionArm_pos hpos]

/-- A remaining backoff runs until its slot may be tried. -/
theorem backoffRemaining_eq (h : 0 < apFailureBackoffRemainingMs c slot nowMs) :
    apFailureBackoffRemainingMs c slot nowMs = c.retryNotBeforeMs - nowMs := by
  unfold apFailureBackoffRemainingMs at h ⊢
  split_ifs at h ⊢ with hother hremains
  · exact absurd h (lt_irrefl 0)
  · rfl
  · exact absurd h (lt_irrefl 0)

section Progress
variable {target : Int}

theorem backoffRemaining_le (h : Paced c nowMs) :
    apFailureBackoffRemainingMs c slot nowMs ≤ AUTO_PROFILE_FAILURE_BACKOFF_MAX_MS := by
  have hretry := h.retry_le
  have hmax : (0 : Int) ≤ AUTO_PROFILE_FAILURE_BACKOFF_MAX_MS := by decide
  unfold apFailureBackoffRemainingMs
  split_ifs <;> omega

theorem Wanted.driving (h : Wanted c target) : apControllerIsDriving c false = true := by
  simp only [apControllerIsDriving, h.enabled, h.auto, decide_true, Bool.not_false, Bool.and_self]

/-- **What the timer leads to** when a switch is wanted: the rest of the cooldown, else the
rest of the backoff, else the apply. -/
theorem Wanted.fire (h : Wanted c target) (hpaced : Paced c nowMs) :
    apOnDebounceFire c target nowMs false =
      if nowMs < c.lastApplyMs + c.minIntervalMs then
        ({ c with pendingTarget := target },
          .armDebounce (c.lastApplyMs + c.minIntervalMs - nowMs))
      else if 0 < apFailureBackoffRemainingMs c target nowMs then
        ({ c with pendingTarget := target }, .armDebounce (c.retryNotBeforeMs - nowMs))
      else ({ c with pendingTarget := 0 }, .applySlot target) := by
  have hlast := hpaced.lastApply_le
  have hinterval := hpaced.interval_le
  unfold apOnDebounceFire
  rw [if_neg (not_not_intro h.driving), if_neg (not_not_intro h.valid), if_neg h.other]
  dsimp only
  by_cases hcooling : nowMs < c.lastApplyMs + c.minIntervalMs
  · have hremaining : c.minIntervalMs - (nowMs - c.lastApplyMs) =
        c.lastApplyMs + c.minIntervalMs - nowMs := by omega
    rw [if_pos hcooling, if_pos (by omega), hremaining, castInt_of_le (by omega) (by omega),
      apActionArm_pos (by omega)]
  · rw [if_neg hcooling, if_neg (by omega)]
    by_cases hbackoff : 0 < apFailureBackoffRemainingMs c target nowMs
    · rw [if_pos hbackoff, if_pos hbackoff,
        apActionArmBackoff_eq hbackoff (backoffRemaining_le hpaced), backoffRemaining_eq hbackoff]
    · rw [if_neg hbackoff, if_neg hbackoff]

/-- The pending target says nothing to the next event. -/
theorem Wanted.pending {pending : Int} (h : Wanted { c with pendingTarget := pending } target) :
    Wanted c target := ⟨h.enabled, h.auto, h.valid, h.other⟩

theorem Paced.pending (h : Paced c nowMs) (pending : Int) :
    Paced { c with pendingTarget := pending } nowMs := h.same ⟨rfl, rfl, rfl, rfl, rfl, rfl⟩

/-- With the cooldown and every backoff over the timer leads to the apply. -/
theorem reaches_of_rested (h : Wanted c target) (hpaced : Paced c nowMs)
    (hcooled : c.lastApplyMs + c.minIntervalMs ≤ nowMs) (hrested : c.retryNotBeforeMs ≤ nowMs) :
    ReachesApply 0 (apOnDebounceFire c target nowMs false).1 nowMs target
      (apOnDebounceFire c target nowMs false).2 := by
  have hnone : ¬ 0 < apFailureBackoffRemainingMs c target nowMs :=
    (backoffRemaining_nonpos_iff h.valid).mpr fun _ => hrested
  rw [h.fire hpaced, if_neg (not_lt.mpr hcooled), if_neg hnone]
  rfl

/-- With the cooldown over at most one arm is left, that of a backoff. -/
theorem reaches_of_cooled (h : Wanted c target) (hpaced : Paced c nowMs)
    (hcooled : c.lastApplyMs + c.minIntervalMs ≤ nowMs) :
    ReachesApply 1 (apOnDebounceFire c target nowMs false).1 nowMs target
      (apOnDebounceFire c target nowMs false).2 := by
  rw [h.fire hpaced, if_neg (not_lt.mpr hcooled)]
  split_ifs with hbackoff
  · have hremains := backoffRemaining_eq hbackoff
    refine .inr ⟨c.retryNotBeforeMs - nowMs, rfl, by omega, fun fireMs target' hfire hwanted => ?_⟩
    exact reaches_of_rested hwanted ((hpaced.pending target).later (by omega))
      (by show c.lastApplyMs + c.minIntervalMs ≤ fireMs; omega)
      (by show c.retryNotBeforeMs ≤ fireMs; omega)
  · exact .inl rfl

/-- The timer leads to the apply after at most two arms. -/
theorem reaches_of_fire (h : Wanted c target) (hpaced : Paced c nowMs) :
    ReachesApply 2 (apOnDebounceFire c target nowMs false).1 nowMs target
      (apOnDebounceFire c target nowMs false).2 := by
  by_cases hcooling : nowMs < c.lastApplyMs + c.minIntervalMs
  · rw [h.fire hpaced, if_pos hcooling]
    refine .inr ⟨_, rfl, by omega, fun fireMs target' hfire hwanted => ?_⟩
    exact reaches_of_cooled hwanted ((hpaced.pending target).later (by omega))
      (by show c.lastApplyMs + c.minIntervalMs ≤ fireMs; omega)
  · rw [h.fire hpaced, if_neg hcooling]
    split_ifs with hbackoff
    · have hremains := backoffRemaining_eq hbackoff
      refine .inr ⟨c.retryNotBeforeMs - nowMs, rfl, by omega,
        fun fireMs target' hfire hwanted => ?_⟩
      exact reaches_of_cooled hwanted ((hpaced.pending target).later (by omega))
        (by show c.lastApplyMs + c.minIntervalMs ≤ fireMs; omega)
    · exact .inl rfl

/-- A resolved target leads to the apply after at most three arms. -/
theorem reaches_of_resolved (h : Wanted c target) (hpaced : Paced c nowMs) :
    ReachesApply 3 (apOnTargetResolved c target nowMs false).1 nowMs target
      (apOnTargetResolved c target nowMs false).2 := by
  have hdebounce := hpaced.debounce_pos
  unfold apOnTargetResolved
  rw [if_neg (not_not_intro h.driving), if_neg (not_not_intro h.valid), if_neg h.other]
  dsimp only
  have hlater : ∀ {delayMs fireMs target' : Int}, 0 < delayMs → nowMs + delayMs ≤ fireMs →
      Wanted { c with pendingTarget := target } target' →
      ReachesApply 2 (apOnDebounceFire { c with pendingTarget := target } target' fireMs false).1
        fireMs target'
        (apOnDebounceFire { c with pendingTarget := target } target' fireMs false).2 :=
    fun hpos hfire hwanted =>
      reaches_of_fire hwanted ((hpaced.pending target).later (by omega))
  have hsame : apFailureBackoffRemainingMs { c with pendingTarget := target } target nowMs =
      apFailureBackoffRemainingMs c target nowMs := rfl
  rw [hsame]
  split_ifs with hbackoff
  · have hpos : 0 < apFailureBackoffRemainingMs c target nowMs := hdebounce.trans hbackoff
    exact .inr ⟨_, apActionArmBackoff_eq hpos (backoffRemaining_le hpaced), hpos,
      fun fireMs target' => hlater hpos⟩
  · exact .inr ⟨_, apActionArm_pos hdebounce, hdebounce, fun fireMs target' => hlater hdebounce⟩

end Progress

/-! ## The law -/

/-- **The rate of automatic switches.**  Over every run automatic applies keep the configured
interval and are issued only while the controller drives; a wanted switch is applied after at
most three arms of the timer; and a slot that failed `k` times in a row is not applied again
before its backoff is over, unless a success, a pick, a change of the switch or the
configuration, or the failure of another slot has ended the series. -/
theorem switching_rate :
    (∀ (cfg : AutoProfileConfig) (history : List Entry) (c : AutoProfileController),
      Run cfg history c →
        history.Pairwise (fun newer earlier => ∀ slot slot', newer.AppliesAutomatically slot →
          earlier.AppliesAutomatically slot' →
            (earlier.nowMs : Int) + newer.before.minIntervalMs ≤ newer.nowMs) ∧
        (∀ e ∈ history, ∀ slot, e.AppliesAutomatically slot →
          e.before.autoEnabled = true ∧ e.before.mode = .auto ∧ e.event = .debounceFire slot false) ∧
        (∀ target nowMs : Int, lastMs history ≤ nowMs → Wanted c target →
          ReachesApply 3 (apOnTargetResolved c target nowMs false).1 nowMs target
            (apOnTargetResolved c target nowMs false).2 ∧
          ReachesApply 2 (apOnDebounceFire c target nowMs false).1 nowMs target
            (apOnDebounceFire c target nowMs false).2)) ∧
    BackoffKept fun slot e => e.Ends slot := by
  refine ⟨fun cfg history c hrun => ⟨hrun.cooldown, fun e _ slot happlies => ?_,
    fun target nowMs hnow hwanted => ?_⟩, backoffKept⟩
  · obtain ⟨suppressed, hevent, hready⟩ := happlies.ready
    rw [hready.shown] at hevent
    exact ⟨hready.enabled, hready.auto, hevent⟩
  · have hpaced := hrun.paced.later hnow
    exact ⟨reaches_of_resolved hwanted hpaced, reaches_of_fire hwanted hpaced⟩

/-! ## A success of another slot -/

/-- A script of events, the newest first, played from the start. -/
def play (cfg : AutoProfileConfig) : List (Nat × Event) → List Entry × AutoProfileController
  | [] => ([], apControllerInit cfg)
  | (nowMs, event) :: earlier =>
    let (history, c) := play cfg earlier
    let e : Entry := ⟨nowMs, c, event⟩
    (e :: history, e.after)

/-- An event may follow another one. -/
def Entry.follows (e last : Entry) : Bool :=
  decide (last.nowMs ≤ e.nowMs) &&
    match last.action, e.event with
    | .applySlot slot, .applied answered => decide (answered = slot)
    | .applySlot slot, .applyFailed answered => decide (answered = slot)
    | .applySlot _, _ => false
    | _, _ => true

theorem Entry.answers_of_follows {last : Entry} (h : e.follows last = true)
    (hslot : last.action = .applySlot slot) : e.Answers slot := by
  simp only [follows, hslot, Bool.and_eq_true] at h
  unfold Answers
  cases hevent : e.event <;> simp_all

theorem play_run (cfg : AutoProfileConfig) (script : List (Nat × Event))
    (h : (play cfg script).1.IsChain fun e last => e.follows last = true) :
    Run cfg (play cfg script).1 (play cfg script).2 := by
  induction script with
  | nil => exact .init
  | cons entry earlier ih =>
    obtain ⟨nowMs, event⟩ := entry
    simp only [play] at h ⊢
    obtain ⟨hfollows, hearlier⟩ := List.isChain_cons.mp h
    refine .handle _ (ih hearlier) rfl (fun last hlast => ?_) fun last hlast slot hslot => ?_
    · have htime := hfollows last hlast
      simp only [Entry.follows, Bool.and_eq_true, decide_eq_true_eq] at htime
      exact htime.1
    · exact Entry.answers_of_follows (hfollows last hlast) hslot

def switchingConfig : AutoProfileConfig where
  enabled := true
  defaultSlot := 1
  switchDebounceMs := 800
  minSwitchIntervalMs := 4000
  minSwitchIntervalMs_le := by decide

/-- Slot 3 fails three times, slot 2 is applied in between, and slot 3 is tried again. -/
def retriedEarly : List (Nat × Event) :=
  [(30000, .debounceFire 3 false),
    (26000, .applied 2), (26000, .debounceFire 2 false),
    (22000, .applyFailed 3), (22000, .debounceFire 3 false),
    (14000, .applyFailed 3), (14000, .debounceFire 3 false),
    (10000, .applyFailed 3), (10000, .debounceFire 3 false)]

theorem retriedEarly_run :
    Run switchingConfig (play switchingConfig retriedEarly).1 (play switchingConfig retriedEarly).2 :=
  play_run switchingConfig retriedEarly (by decide)

theorem switching_rate_retriedEarly :
    (play switchingConfig retriedEarly).1.Pairwise
      (fun newer earlier => ∀ slot slot', newer.AppliesAutomatically slot →
        earlier.AppliesAutomatically slot' →
          (earlier.nowMs : Int) + newer.before.minIntervalMs ≤ newer.nowMs) :=
  (switching_rate.1 _ _ _ retriedEarly_run).1

/-- The success of slot 2 clears the backoff of slot 3, which is tried 8 s after its third
failure and not 16 s. -/
theorem success_clears_backoff : ¬ BackoffKept fun slot e => e.Disturbs slot := by
  intro h
  have hlate := h switchingConfig _ _ _ (play switchingConfig retriedEarly.tail).1 [] _ 3
    (by rw [List.append_nil]; exact retriedEarly_run) ⟨⟨3, false, rfl⟩, by decide⟩
    (fun e he => ?_) rfl
  · revert hlate
    decide
  · simp only [retriedEarly, List.tail_cons, play, List.mem_cons, List.not_mem_nil,
      or_false] at he
    rcases he with rfl | rfl | rfl | rfl | rfl | rfl | rfl | rfl <;> simp [Entry.Disturbs]

end GreenCurve.AutoProfile
