import Mathlib.Data.List.Sort
import Mathlib.Tactic.Common

/-! # Fixed-window counters

A counter that opens a window at the first request and counts until the window is over.
Every request is counted, also one that is refused, and a window is only rolled by a request.

When a window is over is a parameter `due` of the gap since it was opened.  A counter that may
roll late, but never early, still admits no more than two windows' worth in any one window;
a counter that rolls in time also admits every request that has a quiet window before it. -/

structure FixedWindow where
  count : Nat
  opened : Nat
  deriving DecidableEq, Repr

namespace FixedWindow

/-- Count one request. -/
def request (due : Nat → Bool) (w : FixedWindow) (now : Nat) : FixedWindow :=
  if w.count = 0 ∨ due (now - w.opened) then ⟨1, now⟩ else ⟨w.count + 1, w.opened⟩

/-- The count that each request of a sequence finds itself at. -/
def run (due : Nat → Bool) (w : FixedWindow) : List Nat → List (Nat × Nat)
  | [] => []
  | now :: times => (now, (w.request due now).count) :: run due (w.request due now) times

/-- The counter after a sequence of requests. -/
def after (due : Nat → Bool) (w : FixedWindow) : List Nat → FixedWindow
  | [] => w
  | now :: times => after due (w.request due now) times

/-- A window is over once it has lasted its length. -/
def timely (window gap : Nat) : Bool := decide (window ≤ gap)

/-- No request of the sequence sees the two rules disagree. -/
def Agree (due due' : Nat → Bool) (w : FixedWindow) : List Nat → Prop
  | [] => True
  | now :: times => (w.count = 0 ∨ due (now - w.opened) = due' (now - w.opened)) ∧
      Agree due due' (w.request due' now) times

section Runs
variable {due due' : Nat → Bool} {w : FixedWindow} {window limit : Nat}

theorem request_congr {now : Nat}
    (h : w.count = 0 ∨ due (now - w.opened) = due' (now - w.opened)) :
    w.request due now = w.request due' now := by
  unfold request
  rcases h with hzero | hsame
  · rw [if_pos (.inl hzero), if_pos (.inl hzero)]
  · rw [hsame]

/-- **Rules that never disagree count alike.** -/
theorem run_congr {times : List Nat} (h : Agree due due' w times) :
    run due w times = run due' w times := by
  induction times generalizing w with
  | nil => rfl
  | cons now times ih => rw [run, run, request_congr h.1, ih h.2]

theorem run_append (before rest : List Nat) :
    run due w (before ++ rest) = run due w before ++ run due (after due w before) rest := by
  induction before generalizing w with
  | nil => rfl
  | cons now before ih => rw [List.cons_append, run, ih, run, after, List.cons_append]

theorem run_times (due : Nat → Bool) (w : FixedWindow) (times : List Nat) :
    (run due w times).map Prod.fst = times := by
  induction times generalizing w with
  | nil => rfl
  | cons now times ih => rw [run, List.map_cons, ih]

theorem time_mem_of_mem_run {times : List Nat} {entry : Nat × Nat} (h : entry ∈ run due w times) :
    entry.1 ∈ times := by
  rw [← run_times due w times]
  exact List.mem_map_of_mem h

theorem request_count_pos (now : Nat) : 0 < (w.request due now).count := by
  unfold request
  split <;> simp

/-- An open window was opened by one of the requests. -/
theorem opened_mem_after (due : Nat → Bool) (w : FixedWindow) (before : List Nat) :
    (after due w before).opened = w.opened ∨ (after due w before).opened ∈ before := by
  induction before generalizing w with
  | nil => exact .inl rfl
  | cons now before ih =>
    rw [after]
    rcases ih (w.request due now) with hsame | hmem
    · rw [hsame]
      unfold request
      split
      · exact .inr List.mem_cons_self
      · exact .inl rfl
    · exact .inr (List.mem_cons_of_mem _ hmem)

/-- **After a quiet window a request is the first of its own.** -/
theorem request_of_quiet {before : List Nat} {now : Nat} (hfresh : w.count = 0)
    (hquiet : ∀ t ∈ before, t + window ≤ now) :
    ((after (timely window) w before).request (timely window) now).count = 1 := by
  cases before with
  | nil => simp [after, request, hfresh]
  | cons first before =>
    have hopened : (after (timely window) w (first :: before)).opened ∈ first :: before := by
      rw [after]
      rcases opened_mem_after (timely window) (w.request (timely window) first) before with
        hsame | hmem
      · rw [hsame, request, if_pos (.inl hfresh)]
        exact List.mem_cons_self
      · exact List.mem_cons_of_mem _ hmem
    have hgap := hquiet _ hopened
    rw [request, if_pos (.inr (decide_eq_true (by omega)))]

/-! ## What one window admits -/

/-- The entry was admitted, within `[u, v)`. -/
def admittedIn (limit u v : Nat) (entry : Nat × Nat) : Bool :=
  decide (u ≤ entry.1 ∧ entry.1 < v ∧ entry.2 ≤ limit)

theorem countP_admittedIn_eq_zero {u v : Nat} {times : List Nat} (h : ∀ t ∈ times, v ≤ t) :
    (run due w times).countP (admittedIn limit u v) = 0 := by
  rw [List.countP_eq_zero]
  intro entry hentry
  have := h _ (time_mem_of_mem_run hentry)
  simp only [admittedIn, decide_eq_true_eq]
  omega

variable (hdue : ∀ gap, due gap = true → window ≤ gap)
include hdue

/-- Until its window is over, a counter admits what is left of its limit. -/
theorem countP_admittedIn_open {u v : Nat} (hv : v ≤ w.opened + window) (hopen : w.count ≠ 0)
    {times : List Nat} (hsorted : times.Pairwise (· ≤ ·)) (hfrom : ∀ t ∈ times, w.opened ≤ t) :
    (run due w times).countP (admittedIn limit u v) ≤ limit - w.count := by
  induction times generalizing w with
  | nil => exact Nat.zero_le _
  | cons now times ih =>
    obtain ⟨hnext, hsorted⟩ := List.pairwise_cons.mp hsorted
    obtain ⟨hnow, hfrom⟩ := List.forall_mem_cons.mp hfrom
    by_cases hlate : v ≤ now
    · have hall : ∀ t ∈ now :: times, v ≤ t :=
        List.forall_mem_cons.mpr ⟨hlate, fun t ht => hlate.trans (hnext t ht)⟩
      rw [countP_admittedIn_eq_zero hall]
      exact Nat.zero_le _
    · -- Before its end the window is not rolled, so the request is counted on.
      have hroll : ¬due (now - w.opened) = true := fun hdueNow => by
        have := hdue _ hdueNow
        omega
      have hstep : w.request due now = ⟨w.count + 1, w.opened⟩ := by
        rw [request, if_neg (by simp [hopen, hroll])]
      rw [run, hstep, List.countP_cons]
      have hrest := ih (w := ⟨w.count + 1, w.opened⟩) hv (Nat.succ_ne_zero _) hsorted hfrom
      simp only [admittedIn, decide_eq_true_eq] at hrest ⊢
      split <;> omega

/-- From the start of a window on, one more window may be opened. -/
theorem countP_admittedIn_from {u v : Nat} (hv : v ≤ u + window) {times : List Nat}
    (hsorted : times.Pairwise (· ≤ ·)) (hfrom : ∀ t ∈ times, u ≤ t) :
    (run due w times).countP (admittedIn limit u v) ≤ (limit - w.count) + limit := by
  induction times generalizing w with
  | nil => exact Nat.zero_le _
  | cons now times ih =>
    obtain ⟨hnext, hsorted⟩ := List.pairwise_cons.mp hsorted
    obtain ⟨hnow, hfrom⟩ := List.forall_mem_cons.mp hfrom
    rw [run, List.countP_cons]
    unfold request
    split
    · have hrest : (run due ⟨1, now⟩ times).countP (admittedIn limit u v) ≤ limit - 1 :=
        countP_admittedIn_open hdue (by simp only; omega) Nat.one_ne_zero hsorted hnext
      simp only [admittedIn, decide_eq_true_eq] at hrest ⊢
      split <;> omega
    · have hrest := ih (w := ⟨w.count + 1, w.opened⟩) hsorted hfrom
      simp only [admittedIn, decide_eq_true_eq] at hrest ⊢
      split <;> omega

/-- **No window admits more than twice the limit**, however late windows are rolled. -/
theorem countP_admittedIn_le {u v : Nat} (hv : v ≤ u + window) {times : List Nat}
    (hsorted : times.Pairwise (· ≤ ·)) :
    (run due w times).countP (admittedIn limit u v) ≤ 2 * limit := by
  induction times generalizing w with
  | nil => exact Nat.zero_le _
  | cons now times ih =>
    obtain ⟨hnext, hsorted'⟩ := List.pairwise_cons.mp hsorted
    by_cases hearly : now < u
    · rw [run, List.countP_cons, if_neg (by simp only [admittedIn, decide_eq_true_eq]; omega)]
      exact ih hsorted'
    · have hall : ∀ t ∈ now :: times, u ≤ t :=
        List.forall_mem_cons.mpr ⟨by omega, fun t ht => (by omega : u ≤ now).trans (hnext t ht)⟩
      calc (run due w (now :: times)).countP (admittedIn limit u v)
          ≤ (limit - w.count) + limit := countP_admittedIn_from hdue hv hsorted hall
        _ ≤ 2 * limit := by omega

end Runs

end FixedWindow
