import Mathlib.Order.Lattice
import Mathlib.Algebra.Order.Monoid.Defs
import Mathlib.Tactic.Ring

/-! # Linear token buckets

A bucket stores a level and the time it was computed for, and gains `rate` tokens
a tick up to `burst`.  What matters is its level at later times; storing a newer
level changes none of them, so a bucket may be refilled as often or as rarely as
one likes. -/

structure TokenBucket where
  tokens : Nat
  anchor : Nat
  deriving DecidableEq, Repr

namespace TokenBucket

variable (burst rate : Nat)

/-- The level at time `t`. -/
def level (b : TokenBucket) (t : Nat) : Nat := min burst (b.tokens + rate * (t - b.anchor))

/-- Store the level at `now`. -/
def refillTo (b : TokenBucket) (now : Nat) : TokenBucket := ⟨b.level burst rate now, now⟩

/-- Take `cost` tokens, or all of them when there are fewer. -/
def spend (b : TokenBucket) (cost : Nat) : TokenBucket := ⟨b.tokens - cost, b.anchor⟩

variable {burst rate} {b b' : TokenBucket} {now t cost : Nat}

/-- **Refilling is path independent**: no later level changes. -/
theorem level_refillTo (ha : b.anchor ≤ now) (ht : now ≤ t) :
    (b.refillTo burst rate now).level burst rate t = b.level burst rate t := by
  have hsum : rate * (t - b.anchor) = rate * (now - b.anchor) + rate * (t - now) := by
    rw [← Nat.mul_add]
    congr 1
    omega
  simp only [refillTo, level, hsum]
  omega

/-- The level after a charge depends only on the level it found. -/
theorem level_spend :
    ((b.refillTo burst rate now).spend cost).level burst rate t =
      min burst (b.level burst rate now - cost + rate * (t - now)) := rfl

/-- A bucket left alone for long enough is full. -/
theorem level_of_idle (h : burst ≤ rate * (t - b.anchor)) : b.level burst rate t = burst := by
  simp only [level]
  omega

end TokenBucket
