import Mathlib.Data.List.Induction
import Mathlib.Order.Basic

/-! # Deterministic event machines

A machine reacts to one event at a time with a new state and a decision.  A run
is driven by an infinite event sequence; a finite run is one of its prefixes, so
a statement about every position of every sequence is a statement about every
finite run.  The results are the arguments a latch calls for: a predicate every
step preserves holds from the first state on which it holds, a predicate that is
lost or gained between two positions is lost or gained at one particular event,
and the past-time operator `Since` unfolds one event at a time. -/

/-- A machine reacting to events of type `ε` with decisions of type `δ`. -/
structure EventMachine (σ ε δ : Type*) where
  initial : σ
  step : σ → ε → σ × δ

namespace EventMachine

variable {σ ε δ : Type*} (M : EventMachine σ ε δ) (ev : Nat → ε)

/-- The state before the `n`-th event. -/
def stateAt : Nat → σ
  | 0 => M.initial
  | n + 1 => (M.step (stateAt n) (ev n)).1

/-- A predicate that every step keeps holds from its first state on. -/
theorem stable {I : σ → Prop} (hstep : ∀ s e, I s → I (M.step s e).1) {i k : Nat}
    (hik : i ≤ k) (hi : I (M.stateAt ev i)) : I (M.stateAt ev k) := by
  induction hik with
  | refl => exact hi
  | step _ ih => exact hstep _ _ ih

/-- An inductive invariant holds before every event. -/
theorem invariant {I : σ → Prop} (h0 : I M.initial)
    (hstep : ∀ s e, I s → I (M.step s e).1) (n : Nat) : I (M.stateAt ev n) :=
  M.stable ev hstep (Nat.zero_le n) h0

/-! ## Finite runs and simulation -/

/-- The state after a finite list of events. -/
def run (s : σ) (es : List ε) : σ := es.foldl (fun s e => (M.step s e).1) s

/-- The decisions a finite list of events is answered with. -/
def answers (s : σ) : List ε → List δ
  | [] => []
  | e :: es => (M.step s e).2 :: answers (M.step s e).1 es

theorem run_append (s : σ) (es es' : List ε) :
    M.run s (es ++ es') = M.run (M.run s es) es' :=
  List.foldl_append

theorem answers_append (s : σ) (es es' : List ε) :
    M.answers s (es ++ es') = M.answers s es ++ M.answers (M.run s es) es' := by
  induction es generalizing s with
  | nil => rfl
  | cons e es ih => exact congrArg _ (ih _)

section Simulation
variable {τ : Type*} {M} {N : EventMachine τ ε δ} {allowed : List ε → Prop}
  {R : List ε → σ → τ → Prop}

/-- A history-indexed simulation: along an allowed history, related states answer
the next event alike and stay related. -/
structure Simulates (M : EventMachine σ ε δ) (N : EventMachine τ ε δ)
    (allowed : List ε → Prop) (R : List ε → σ → τ → Prop) : Prop where
  initial : R [] M.initial N.initial
  step : ∀ done e s t, allowed (done ++ [e]) → R done s t →
    (M.step s e).2 = (N.step t e).2 ∧ R (done ++ [e]) (M.step s e).1 (N.step t e).1

theorem Simulates.run (h : Simulates M N allowed R)
    (hclosed : ∀ es es', allowed (es ++ es') → allowed es) {es : List ε} (hes : allowed es) :
    R es (M.run M.initial es) (N.run N.initial es) := by
  induction es using List.reverseRecOn with
  | nil => exact h.initial
  | append_singleton es e ih =>
    rw [run_append, run_append]
    exact (h.step es e _ _ hes (ih (hclosed es [e] hes))).2

/-- **Machines related by a simulation answer every allowed history alike.** -/
theorem Simulates.answers_eq (h : Simulates M N allowed R)
    (hclosed : ∀ es es', allowed (es ++ es') → allowed es) {es : List ε} (hes : allowed es) :
    M.answers M.initial es = N.answers N.initial es := by
  induction es using List.reverseRecOn with
  | nil => rfl
  | append_singleton es e ih =>
    have hbefore := hclosed es [e] hes
    rw [answers_append, answers_append, ih hbefore]
    exact congrArg (fun d => _ ++ [d]) (h.step es e _ _ hes (h.run hclosed hbefore)).1

end Simulation

end EventMachine

/-! ## Crossings and the past -/

namespace Crossing

variable {Q : Nat → Prop} {i k : Nat}

/-- What holds at `i` and not at `k` is lost at one particular step. -/
theorem exists_exit (hik : i ≤ k) (hi : Q i) (hk : ¬ Q k) :
    ∃ j, i ≤ j ∧ j < k ∧ Q j ∧ ¬ Q (j + 1) := by
  induction hik with
  | refl => exact absurd hi hk
  | @step k hik ih =>
    by_cases hq : Q k
    · exact ⟨k, hik, Nat.lt_succ_self k, hq, hk⟩
    · obtain ⟨j, hij, hjk, hj⟩ := ih hq
      exact ⟨j, hij, Nat.lt_succ_of_lt hjk, hj⟩

end Crossing

/-- `start` happened before `n`, and nothing after it up to `n` was a `stop`. -/
def Since (start stop : Nat → Prop) (n : Nat) : Prop :=
  ∃ i, i < n ∧ start i ∧ ∀ j, i < j → j < n → ¬ stop j

namespace Since

variable {start stop : Nat → Prop} {n : Nat}

theorem not_zero : ¬ Since start stop 0 := fun ⟨_, hi, _⟩ => Nat.not_lt_zero _ hi

/-- One event later: either it started now, or it had started and was not
stopped now. -/
theorem succ_iff : Since start stop (n + 1) ↔ start n ∨ (Since start stop n ∧ ¬ stop n) := by
  constructor
  · rintro ⟨i, hin, hi, hopen⟩
    rcases Nat.lt_succ_iff_lt_or_eq.mp hin with hlt | rfl
    · exact .inr ⟨⟨i, hlt, hi, fun j hij hjn => hopen j hij (Nat.lt_succ_of_lt hjn)⟩,
        hopen n hlt (Nat.lt_succ_self n)⟩
    · exact .inl hi
  · rintro (hn | ⟨⟨i, hin, hi, hopen⟩, hn⟩)
    · exact ⟨n, Nat.lt_succ_self n, hn, fun j hnj hjn => by omega⟩
    · refine ⟨i, Nat.lt_succ_of_lt hin, hi, ?_⟩
      intro j hij hjn
      rcases Nat.lt_succ_iff_lt_or_eq.mp hjn with hlt | rfl
      · exact hopen j hij hlt
      · exact hn

end Since
