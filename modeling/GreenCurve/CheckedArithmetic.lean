import Mathlib.Data.UInt

/-! # Checks on unsigned numbers

A checker computes on 64-bit numbers and refuses what it does not like.  Its unsigned
operations wrap silently, so each is recorded (`Operation`), of the runs that end in a
refusal as well.  `Ensures` says that no operation of a run wrapped and what an accepted
run gives; `Returns` says that a run is accepted. -/

namespace GreenCurve.Checked

inductive Operation where
  | add (a b : UInt64)
  | sub (a b : UInt64)
  | mul (a b : UInt64)

/-- The operation does not wrap. -/
def Operation.Exact : Operation → Prop
  | add a b => (a + b).toNat = a.toNat + b.toNat
  | sub a b => (a - b).toNat + b.toNat = a.toNat
  | mul a b => (a * b).toNat = a.toNat * b.toNat

end Checked

/-- A run of a checker: what it answers and the operations it did. -/
structure Checked (ε α : Type) where
  result : Except ε α
  operations : List Checked.Operation

namespace Checked
variable {ε α β : Type}

instance : Monad (Checked ε) where
  pure a := ⟨.ok a, []⟩
  bind x f :=
    match x.result with
    | .ok a => ⟨(f a).result, x.operations ++ (f a).operations⟩
    | .error e => ⟨.error e, x.operations⟩

def refuse (c : Prop) [Decidable c] (e : ε) : Checked ε Unit := ⟨if c then .error e else .ok (), []⟩

def add (a b : UInt64) : Checked ε UInt64 := ⟨.ok (a + b), [.add a b]⟩

def sub (a b : UInt64) : Checked ε UInt64 := ⟨.ok (a - b), [.sub a b]⟩

def mul (a b : UInt64) : Checked ε UInt64 := ⟨.ok (a * b), [.mul a b]⟩

/-! ## No operation wraps -/

/-- No operation wraps, and an accepted run gives what `P` holds of. -/
structure Ensures (x : Checked ε α) (P : α → Prop) : Prop where
  exact : ∀ op ∈ x.operations, op.Exact
  accepted : ∀ a, x.result = .ok a → P a

theorem ensures_pure {P : α → Prop} {a : α} (h : P a) : Ensures (pure a : Checked ε α) P where
  exact := fun _ hop => nomatch hop
  accepted := by
    rintro _ ⟨⟩
    exact h

theorem Ensures.mono {x : Checked ε α} {P Q : α → Prop} (h : Ensures x P) (hPQ : ∀ a, P a → Q a) :
    Ensures x Q where
  exact := h.exact
  accepted := fun a ha => hPQ a (h.accepted a ha)

theorem Ensures.bind {x : Checked ε α} {f : α → Checked ε β} {P : α → Prop} {Q : β → Prop}
    (hx : Ensures x P) (hf : ∀ a, P a → Ensures (f a) Q) : Ensures (x >>= f) Q := by
  obtain ⟨result, operations⟩ := x
  cases result with
  | error e => exact ⟨hx.exact, fun _ hb => nomatch hb⟩
  | ok a =>
    have ha := hf a (hx.accepted a rfl)
    refine ⟨fun op hop => ?_, ha.accepted⟩
    rcases List.mem_append.mp hop with hop | hop
    · exact hx.exact op hop
    · exact ha.exact op hop

theorem ensures_refuse {c : Prop} [Decidable c] {e : ε} : Ensures (refuse c e) fun _ => ¬c where
  exact := fun _ hop => nomatch hop
  accepted := by
    intro _ h hc
    rw [refuse, if_pos hc] at h
    cases h

theorem ensures_add {a b : UInt64} (h : a.toNat + b.toNat < 2 ^ 64) :
    Ensures (add a b : Checked ε UInt64) fun r => r.toNat = a.toNat + b.toNat := by
  have hexact : (a + b).toNat = a.toNat + b.toNat := by
    rw [UInt64.toNat_add, Nat.mod_eq_of_lt h]
  refine ⟨fun op hop => ?_, ?_⟩
  · rw [List.mem_singleton.mp hop]
    exact hexact
  · rintro _ ⟨⟩
    exact hexact

theorem ensures_sub {a b : UInt64} (h : b ≤ a) :
    Ensures (sub a b : Checked ε UInt64) fun r => r.toNat + b.toNat = a.toNat := by
  have hexact : (a - b).toNat + b.toNat = a.toNat := by
    rw [UInt64.toNat_sub_of_le a b h]
    exact Nat.sub_add_cancel (UInt64.le_iff_toNat_le.mp h)
  refine ⟨fun op hop => ?_, ?_⟩
  · rw [List.mem_singleton.mp hop]
    exact hexact
  · rintro _ ⟨⟩
    exact hexact

theorem ensures_mul {a b : UInt64} (h : a.toNat * b.toNat < 2 ^ 64) :
    Ensures (mul a b : Checked ε UInt64) fun r => r.toNat = a.toNat * b.toNat := by
  have hexact : (a * b).toNat = a.toNat * b.toNat := by
    rw [UInt64.toNat_mul, Nat.mod_eq_of_lt h]
  refine ⟨fun op hop => ?_, ?_⟩
  · rw [List.mem_singleton.mp hop]
    exact hexact
  · rintro _ ⟨⟩
    exact hexact

/-! ## Accepted runs -/

def Returns (x : Checked ε α) (a : α) : Prop := x.result = .ok a

theorem returns_pure (a : α) : Returns (pure a : Checked ε α) a := rfl

theorem Returns.bind {x : Checked ε α} {f : α → Checked ε β} {a : α} {b : β} (hx : Returns x a)
    (hf : Returns (f a) b) : Returns (x >>= f) b := by
  obtain ⟨result, operations⟩ := x
  obtain rfl : result = .ok a := hx
  exact hf

theorem returns_refuse {c : Prop} [Decidable c] {e : ε} (h : ¬c) : Returns (refuse c e) () :=
  if_neg h

theorem returns_add (a b : UInt64) : Returns (add a b : Checked ε UInt64) (a + b) := rfl

theorem returns_sub (a b : UInt64) : Returns (sub a b : Checked ε UInt64) (a - b) := rfl

theorem returns_mul (a b : UInt64) : Returns (mul a b : Checked ε UInt64) (a * b) := rfl

end Checked

end GreenCurve
