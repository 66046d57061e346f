import GreenCurve.FixedWindow
import GreenCurve.RestoreGuard

/-! # The resume rate limit

Each standby-resume request is counted and then decided.  The guard keeps the low 32 bits of
the monotonic clock; its specification is the fixed-window counter on the whole clock.

The two agree except where the clock has wrapped while the window stood open.  A window is only
rolled by a request, so one that was opened a whole number of wraps ago looks as if it had just
been opened: the first request after seven quiet weeks can then be refused.  What never fails is
the other direction, that no window holds more than twice the budget. -/

namespace GreenCurve

/-- The window and the budget as numbers. -/
abbrev resumeWindowMs : Nat := 60000
abbrev maxResumePerWindow : Nat := 8

/-- One resume request on the monotonic clock: noted, then decided. -/
def resumeRequest (guard : LinuxAutoRestoreGuard) (nowMs : Nat) :
    LinuxAutoRestoreVerdict × LinuxAutoRestoreGuard :=
  let low := UInt32.ofNat nowMs
  let noted := linuxAutoRestoreNoteResumeAttempt guard low
  (linuxAutoRestoreDecide noted .resume false low, noted)

/-- A sequence of resume requests, each with its verdict. -/
def resumeRequests (guard : LinuxAutoRestoreGuard) : List Nat → List (Nat × LinuxAutoRestoreVerdict)
  | [] => []
  | now :: times =>
    (now, (resumeRequest guard now).1) :: resumeRequests (resumeRequest guard now).2 times

/-- When the guard takes its window for over, by the gap on the whole clock. -/
def wrappedDue (gap : Nat) : Bool := decide (resumeWindowMs ≤ gap % 2 ^ 32)

theorem wrappedDue_le {gap : Nat} (h : wrappedDue gap = true) : resumeWindowMs ≤ gap :=
  (of_decide_eq_true h).trans (Nat.mod_le _ _)

/-- The verdict a count stands for. -/
def verdictOf (entry : Nat × Nat) : Nat × LinuxAutoRestoreVerdict :=
  (entry.1, if entry.2 ≤ maxResumePerWindow then .allow else .denyResumeRateLimited)

/-- The specification: the same counter on the whole clock. -/
def resumeRequestsSpec (w : FixedWindow) (times : List Nat) :
    List (Nat × LinuxAutoRestoreVerdict) :=
  (w.run (FixedWindow.timely resumeWindowMs) times).map verdictOf

/-! ## The guard refines the wrapped counter -/

/-- The guard's counter saturates, and its window start is the low half of the real one. -/
structure CountsAs (guard : LinuxAutoRestoreGuard) (w : FixedWindow) : Prop where
  clear : guard.lockedOut = false
  count : guard.resumeAttempts.toNat = min w.count (2 ^ 32 - 1)
  opened : guard.resumeWindowStartMs = UInt32.ofNat w.opened ∨ w.count = 0

theorem CountsAs.zero {guard : LinuxAutoRestoreGuard} (hclear : guard.lockedOut = false)
    (hcount : guard.resumeAttempts = 0) : CountsAs guard ⟨0, 0⟩ :=
  ⟨hclear, by simp [hcount], .inr rfl⟩

theorem toNat_sub_ofNat {opened now : Nat} (h : opened ≤ now) :
    (UInt32.ofNat now - UInt32.ofNat opened).toNat = (now - opened) % 2 ^ 32 := by
  rw [UInt32.toNat_sub, UInt32.toNat_ofNat', UInt32.toNat_ofNat']
  omega

section Refinement
variable {guard : LinuxAutoRestoreGuard} {w : FixedWindow}

theorem CountsAs.attempts_eq_zero (h : CountsAs guard w) :
    guard.resumeAttempts = 0 ↔ w.count = 0 := by
  have hcount := h.count
  rw [← UInt32.toNat_inj, UInt32.toNat_zero, hcount]
  omega

/-- **Noting a request is one request of the wrapped counter.** -/
theorem CountsAs.noteResumeAttempt (h : CountsAs guard w) {now : Nat} (hnow : w.opened ≤ now) :
    CountsAs (linuxAutoRestoreNoteResumeAttempt guard (UInt32.ofNat now))
      (w.request wrappedDue now) := by
  have hroll : (guard.resumeAttempts = 0 ∨
      UInt32.ofNat now - guard.resumeWindowStartMs ≥ LINUX_AUTO_RESTORE_RESUME_WINDOW_MS) ↔
      (w.count = 0 ∨ wrappedDue (now - w.opened) = true) := by
    rw [h.attempts_eq_zero]
    rcases h.opened with hopened | hzero
    · rw [hopened, ge_iff_le, UInt32.le_iff_toNat_le, toNat_sub_ofNat hnow]
      simp only [wrappedDue, decide_eq_true_eq]
      exact Iff.rfl
    · simp [hzero]
  have hcount := h.count
  unfold linuxAutoRestoreNoteResumeAttempt FixedWindow.request
  by_cases hdue : w.count = 0 ∨ wrappedDue (now - w.opened) = true
  · simp only [if_pos hdue, if_pos (hroll.mpr hdue)]
    exact ⟨h.clear, rfl, .inl rfl⟩
  · simp only [if_neg hdue, if_neg (mt hroll.mp hdue)]
    split
    · rename_i hlt
      have hlt : guard.resumeAttempts.toNat < 2 ^ 32 - 1 := UInt32.lt_iff_toNat_lt.mp hlt
      refine ⟨h.clear, ?_, .inl (h.opened.resolve_right fun hzero => hdue (.inl hzero))⟩
      simp only [UInt32.toNat_add, UInt32.toNat_one]
      omega
    · rename_i hlt
      have hlt : ¬guard.resumeAttempts.toNat < 2 ^ 32 - 1 := fun h =>
        hlt (UInt32.lt_iff_toNat_lt.mpr h)
      refine ⟨h.clear, ?_, .inl (h.opened.resolve_right fun hzero => hdue (.inl hzero))⟩
      simp only
      omega

/-- After a request the window is not over, so the verdict is the count's. -/
theorem CountsAs.resumeRequest_verdict (h : CountsAs guard w) {now : Nat} (hnow : w.opened ≤ now) :
    (resumeRequest guard now).1 = (verdictOf (now, (w.request wrappedDue now).count)).2 := by
  have hnoted := h.noteResumeAttempt hnow
  have hpos := @FixedWindow.request_count_pos wrappedDue w now
  have hcount := hnoted.count
  have hne : ¬(linuxAutoRestoreNoteResumeAttempt guard (UInt32.ofNat now)).resumeAttempts = 0 := by
    rw [hnoted.attempts_eq_zero]
    omega
  have hopen : ¬UInt32.ofNat now -
      (linuxAutoRestoreNoteResumeAttempt guard (UInt32.ofNat now)).resumeWindowStartMs ≥
      LINUX_AUTO_RESTORE_RESUME_WINDOW_MS := by
    rw [hnoted.opened.resolve_right (by omega)]
    unfold FixedWindow.request
    split
    · rw [sub_self]
      decide
    · rename_i hdue
      rw [ge_iff_le, UInt32.le_iff_toNat_le, toNat_sub_ofNat hnow]
      exact fun hle => hdue (.inr (decide_eq_true hle))
  have hbudget : (linuxAutoRestoreNoteResumeAttempt guard (UInt32.ofNat now)).resumeAttempts >
      LINUX_AUTO_RESTORE_MAX_RESUME_PER_WINDOW ↔
      ¬(w.request wrappedDue now).count ≤ maxResumePerWindow := by
    rw [gt_iff_lt, UInt32.lt_iff_toNat_lt, hcount]
    change 8 < min (w.request wrappedDue now).count (2 ^ 32 - 1) ↔
      ¬(w.request wrappedDue now).count ≤ 8
    omega
  simp only [resumeRequest, linuxAutoRestoreDecide, linuxAutoRestoreResumeBudgetSpent, hnoted.clear,
    if_neg hne, if_neg hopen, verdictOf]
  by_cases hle : (w.request wrappedDue now).count ≤ maxResumePerWindow
  · simp [hle, mt hbudget.mp (not_not.mpr hle), linuxAutoRestoreTriggerIsStart]
  · simp [hle, hbudget.mpr hle, linuxAutoRestoreTriggerIsStart]

/-- **A run of requests is a run of the wrapped counter.** -/
theorem CountsAs.resumeRequests_eq (h : CountsAs guard w) {times : List Nat}
    (hsorted : times.Pairwise (· ≤ ·)) (hfrom : ∀ t ∈ times, w.opened ≤ t) :
    resumeRequests guard times = (w.run wrappedDue times).map verdictOf := by
  induction times generalizing guard w with
  | nil => rfl
  | cons now times ih =>
    obtain ⟨hnext, hsorted⟩ := List.pairwise_cons.mp hsorted
    obtain ⟨hnow, hfrom⟩ := List.forall_mem_cons.mp hfrom
    have hopened : ∀ t ∈ times, (w.request wrappedDue now).opened ≤ t := by
      unfold FixedWindow.request
      split
      · exact hnext
      · exact hfrom
    rw [resumeRequests, FixedWindow.run, List.map_cons]
    rw [show (now, (resumeRequest guard now).1) = verdictOf (now, (w.request wrappedDue now).count)
      from Prod.ext rfl (h.resumeRequest_verdict hnow)]
    rw [show resumeRequests (resumeRequest guard now).2 times =
      ((w.request wrappedDue now).run wrappedDue times).map verdictOf
      from ih (h.noteResumeAttempt hnow) hsorted hopened]

end Refinement

theorem countP_map_verdictOf (entries : List (Nat × Nat)) (u : Nat) :
    (entries.map verdictOf).countP (fun r =>
        decide (u ≤ r.1 ∧ r.1 < u + resumeWindowMs ∧ r.2 = .allow)) =
      entries.countP (FixedWindow.admittedIn maxResumePerWindow u (u + resumeWindowMs)) := by
  rw [List.countP_map]
  refine List.countP_congr fun entry _ => ?_
  simp only [Function.comp, verdictOf, FixedWindow.admittedIn, decide_eq_true_eq]
  split <;> rename_i hle <;> simp [hle]

/-- No request of the run comes a whole number of clock wraps, and less than a window more,
after the request that opened the window. -/
def Unaliased (times : List Nat) : Prop :=
  FixedWindow.Agree wrappedDue (FixedWindow.timely resumeWindowMs) ⟨0, 0⟩ times

/-- **The resume rate limit is its specification while no window is aliased.**  From a clear
guard no window ever holds more than twice the budget; and in a run without an aliased window
every verdict is the one of the counter on the whole clock, and a request with a quiet window
before it is allowed. -/
theorem resume_limit_unaliased (guard : LinuxAutoRestoreGuard) (hclear : guard.lockedOut = false)
    (hzero : guard.resumeAttempts = 0) (times : List Nat) (hsorted : times.Pairwise (· ≤ ·)) :
    (∀ u, (resumeRequests guard times).countP (fun r =>
        decide (u ≤ r.1 ∧ r.1 < u + resumeWindowMs ∧ r.2 = .allow)) ≤ 2 * maxResumePerWindow) ∧
    (Unaliased times →
      resumeRequests guard times = resumeRequestsSpec ⟨0, 0⟩ times ∧
      ∀ before now rest, times = before ++ now :: rest →
        (∀ t ∈ before, t + resumeWindowMs ≤ now) →
        (resumeRequests guard times)[before.length]? = some (now, .allow)) := by
  have hrun := (CountsAs.zero hclear hzero).resumeRequests_eq hsorted fun _ _ => Nat.zero_le _
  constructor
  · intro u
    rw [hrun, countP_map_verdictOf]
    exact FixedWindow.countP_admittedIn_le (fun _ => wrappedDue_le) le_rfl hsorted
  · intro hagree
    have hspec : resumeRequests guard times = resumeRequestsSpec ⟨0, 0⟩ times := by
      rw [hrun, FixedWindow.run_congr hagree, resumeRequestsSpec]
    refine ⟨hspec, fun before now rest htimes hquiet => ?_⟩
    have hfirst := FixedWindow.request_of_quiet (w := ⟨0, 0⟩) rfl hquiet
    have hlength : (FixedWindow.run (FixedWindow.timely resumeWindowMs) ⟨0, 0⟩ before).length =
        before.length := by
      rw [← List.length_map Prod.fst, FixedWindow.run_times]
    rw [hspec, resumeRequestsSpec, htimes, FixedWindow.run_append, FixedWindow.run,
      List.getElem?_map, ← hlength, List.getElem?_append_right le_rfl, Nat.sub_self, hfirst]
    rfl

/-- Nine requests at once and one more an hour later. -/
theorem resume_limit_unaliased_burst :
    resumeRequests {} [0, 0, 0, 0, 0, 0, 0, 0, 0, 3600000] =
      resumeRequestsSpec ⟨0, 0⟩ [0, 0, 0, 0, 0, 0, 0, 0, 0, 3600000] :=
  ((resume_limit_unaliased {} rfl rfl [0, 0, 0, 0, 0, 0, 0, 0, 0, 3600000] (by decide)).2
    (by simp [Unaliased, FixedWindow.Agree, FixedWindow.request, wrappedDue,
      FixedWindow.timely])).1

/-- Nine requests at once and one more exactly one wrap of the clock later: nobody asked for
seven weeks, and the request is refused. -/
theorem resume_limit_aliased :
    resumeRequests {} [0, 0, 0, 0, 0, 0, 0, 0, 0, 2 ^ 32] ≠
      resumeRequestsSpec ⟨0, 0⟩ [0, 0, 0, 0, 0, 0, 0, 0, 0, 2 ^ 32] ∧
    (resumeRequests {} [0, 0, 0, 0, 0, 0, 0, 0, 0, 2 ^ 32])[9]? =
      some (2 ^ 32, .denyResumeRateLimited) := by
  decide +kernel

end GreenCurve
