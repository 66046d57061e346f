import Mathlib.Tactic.Common

/-! # Flows over callbacks

A flow calls back into an implementation it knows nothing about.  Each callback
may read and change the implementation's state and answers what it likes; the
flow records the call with its answer, newest first.  What holds of the trace
whatever the answers are holds for every implementation. -/

namespace GreenCurve

/-- The state of an implementation and the calls it has answered. -/
structure Traced (σ ε : Type) where
  state : σ
  trace : List ε

/-- A flow of calls `ε` over implementations with states `σ`. -/
abbrev Flow (σ ε : Type) : Type → Type := StateM (Traced σ ε)

namespace Flow

variable {σ ε α β : Type}

/-- Call back for an answer. -/
def call (f : σ → α × σ) (log : α → ε) : Flow σ ε α := fun w =>
  ((f w.state).1, { state := (f w.state).2, trace := log (f w.state).1 :: w.trace })

/-- Call back for an effect. -/
def tell (f : σ → σ) (log : ε) : Flow σ ε Unit := fun w =>
  ((), { state := f w.state, trace := log :: w.trace })

/-- The calls of a flow started in `s`. -/
def calls (m : Flow σ ε α) (s : σ) : List ε := (m { state := s, trace := [] }).2.trace

/-- Started after the calls `past`, the flow returns in `Q` whatever is answered. -/
def Ensures (m : Flow σ ε α) (Q : α → List ε → Prop) (past : List ε) : Prop :=
  ∀ s, Q (m { state := s, trace := past }).1 (m { state := s, trace := past }).2.trace

section Rules
variable {m : Flow σ ε α} {f : α → Flow σ ε β} {Q : α → List ε → Prop}
  {R : β → List ε → Prop} {past : List ε}

theorem ensures_pure {a : α} (h : Q a past) : Ensures (pure a : Flow σ ε α) Q past :=
  fun _ => h

theorem ensures_bind (h : Ensures m (fun a past => Ensures (f a) R past) past) :
    Ensures (m >>= f) R past :=
  fun s => h s _

theorem ensures_call {g : σ → α × σ} {log : α → ε} (h : ∀ a, Q a (log a :: past)) :
    Ensures (call g log) Q past :=
  fun _ => h _

theorem ensures_tell {g : σ → σ} {log : ε} {Q : Unit → List ε → Prop} (h : Q () (log :: past)) :
    Ensures (tell g log) Q past :=
  fun _ => h

/-- A call and what follows it. -/
theorem ensures_call_bind {g : σ → α × σ} {log : α → ε}
    (h : ∀ a, Ensures (f a) R (log a :: past)) : Ensures (call g log >>= f) R past :=
  ensures_bind (ensures_call h)

theorem ensures_tell_bind {g : σ → σ} {log : ε} {f : Unit → Flow σ ε β}
    (h : Ensures (f ()) R (log :: past)) : Ensures (tell g log >>= f) R past :=
  ensures_bind (ensures_tell h)

theorem Ensures.mono {Q' : α → List ε → Prop} (h : Ensures m Q past)
    (hQ : ∀ a trace, Q a trace → Q' a trace) : Ensures m Q' past :=
  fun s => hQ _ _ (h s)

theorem Ensures.calls {P : List ε → Prop} (h : Ensures m (fun _ => P) []) (s : σ) : P (calls m s) :=
  h s

end Rules

end Flow

/-- Every call of the kind `trigger` comes after one of the kind `guard`. -/
def Guarded {ε : Type} (trigger guard : ε → Prop) : List ε → Prop
  | [] => True
  | newest :: past => (trigger newest → ∃ call ∈ past, guard call) ∧ Guarded trigger guard past

section Guarded
variable {ε : Type} {trigger guard : ε → Prop} {later past : List ε}

theorem guarded_of_forall_not (h : ∀ call ∈ past, ¬ trigger call) : Guarded trigger guard past := by
  induction past with
  | nil => trivial
  | cons newest past ih =>
    obtain ⟨hnewest, hpast⟩ := List.forall_mem_cons.mp h
    exact ⟨fun htrigger => absurd htrigger hnewest, ih hpast⟩

/-- Calls made since are guarded by a guard there was, or are of no kind to guard. -/
theorem Guarded.append (hpast : Guarded trigger guard past)
    (h : (∃ call ∈ past, guard call) ∨ ∀ call ∈ later, ¬ trigger call) :
    Guarded trigger guard (later ++ past) := by
  induction later with
  | nil => exact hpast
  | cons newest later ih =>
    rcases h with ⟨call, hmem, hcall⟩ | hnot
    · exact ⟨fun _ => ⟨call, List.mem_append_right later hmem, hcall⟩, ih (.inl ⟨call, hmem, hcall⟩)⟩
    · obtain ⟨hnewest, hlater⟩ := List.forall_mem_cons.mp hnot
      exact ⟨fun htrigger => absurd htrigger hnewest, ih (.inr hlater)⟩

/-- The only call of a kind, with a guard in its past. -/
theorem guarded_sole {call : ε} (hlater : ∀ call ∈ later, ¬ trigger call)
    (hguard : ∃ call ∈ past, guard call) (hpast : ∀ call ∈ past, ¬ trigger call) :
    Guarded trigger guard (later ++ call :: past) :=
  Guarded.append ⟨fun _ => hguard, guarded_of_forall_not hpast⟩ (.inr hlater)

end Guarded

end GreenCurve
