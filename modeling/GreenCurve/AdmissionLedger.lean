import GreenCurve.Admission
import Mathlib.Tactic.Ring

/-! # The unbounded admission ledger

The ledger keeps one account for each identity for ever: two token buckets and the
end of the last hold.  It is what the admission table is for; the table only bounds
the memory. -/

namespace GreenCurve

/-! ## The ledger -/

/-- Tokens a millisecond of the bucket a request class is metered on. -/
def ratePerMs (cls : ServiceIpcRequestClass) : Nat := if cls = .handoff then 1 else 20

theorem perSecondMilli_eq (cls : ServiceIpcRequestClass) :
    perSecondMilli cls = 1000 * ratePerMs cls := by
  unfold perSecondMilli ratePerMs
  split <;> rfl

/-- An hour, and the idle window, refill any bucket. -/
theorem burst_le_hour (cls : ServiceIpcRequestClass) :
    burstMilli cls ≤ 3600 * 1000 * ratePerMs cls := by
  unfold burstMilli ratePerMs
  split <;> decide

theorem burst_le_expiry (cls : ServiceIpcRequestClass) :
    burstMilli cls ≤ ratePerMs cls * SERVICE_IPC_IDLE_EXPIRY_MS := by
  unfold burstMilli ratePerMs
  split <;> decide

theorem cost_le_burst (cls : ServiceIpcRequestClass) : 1000 ≤ burstMilli cls := by
  unfold burstMilli
  split <;> decide

/-- The level a bucket of the class has at time `t`. -/
def levelOf (cls : ServiceIpcRequestClass) (b : TokenBucket) (t : Nat) : Nat :=
  b.level (burstMilli cls) (ratePerMs cls) t

/-- What the ledger keeps for one identity. -/
structure Account where
  normal : TokenBucket
  handoff : TokenBucket
  holdEnd : Nat
  deriving DecidableEq, Repr

namespace Account

/-- The account of an identity never seen before. -/
def fresh : Account :=
  ⟨⟨SERVICE_IPC_BUCKET_BURST_MILLI, 0⟩, ⟨SERVICE_IPC_HANDOFF_RESERVE_MILLI, 0⟩, 0⟩

def bucket (a : Account) (cls : ServiceIpcRequestClass) : TokenBucket :=
  if cls = .handoff then a.handoff else a.normal

def setBucket (a : Account) (cls : ServiceIpcRequestClass) (b : TokenBucket) : Account :=
  if cls = .handoff then { a with handoff := b } else { a with normal := b }

/-- Refused while the hold runs, otherwise admitted on one token. -/
def decide (a : Account) (cls : ServiceIpcRequestClass) (nowMs : Nat) :
    ServiceIpcAdmissionDecision :=
  if nowMs < a.holdEnd then .rejectedRate
  else if 1000 ≤ levelOf cls (a.bucket cls) nowMs then .admitted
  else .rejectedRate

def charge (a : Account) (cls : ServiceIpcRequestClass) (costMilli nowMs : Nat) : Account :=
  a.setBucket cls
    (((a.bucket cls).refillTo (burstMilli cls) (ratePerMs cls) nowMs).spend costMilli)

def hold (a : Account) (untilMs : Nat) : Account := { a with holdEnd := max a.holdEnd untilMs }

end Account

/-- One account for every identity. -/
abbrev AdmissionLedger := ServiceIpcThrottleKey → Account

/-! ## Buckets and accounts -/

namespace ServiceIpcBucket

/-- The bucket as a level with the time it was computed for. -/
def toToken (b : ServiceIpcBucket) : TokenBucket := ⟨b.tokensMilli, b.lastRefillMs⟩

/-- On a clock that does not wrap or go back, `refill` stores the current level. -/
theorem toToken_refill {b : ServiceIpcBucket} {nowMs : Nat} (cls : ServiceIpcRequestClass)
    (hnow : nowMs < 2 ^ 63) (hb : b.lastRefillMs ≤ nowMs) :
    (b.refill nowMs (burstMilli cls) (perSecondMilli cls)).toToken =
      b.toToken.refillTo (burstMilli cls) (ratePerMs cls) nowMs := by
  have hcmp : serviceIpcTimeAtOrAfter nowMs b.lastRefillMs = true :=
    (timeAtOrAfter_iff hnow (by omega)).mpr hb
  have hhour := burst_le_hour cls
  simp only [refill, hcmp, subTicks_eq hnow hb, perSecondMilli_eq, toToken, TokenBucket.refillTo,
    TokenBucket.level, Bool.not_true, Bool.false_eq_true, if_false, TokenBucket.mk.injEq, and_true]
  generalize nowMs - b.lastRefillMs = elapsed
  have hdiv : ∀ n, n * (1000 * ratePerMs cls) / 1000 = ratePerMs cls * n := by
    intro n
    rw [show n * (1000 * ratePerMs cls) = 1000 * (ratePerMs cls * n) by ring,
      Nat.mul_div_cancel_left _ (by decide)]
  simp only [hdiv]
  by_cases hcap : elapsed > 3600 * 1000
  · have hfull : burstMilli cls ≤ ratePerMs cls * elapsed :=
      hhour.trans (by rw [Nat.mul_comm]; exact Nat.mul_le_mul_left _ hcap.le)
    have hfull' : burstMilli cls ≤ ratePerMs cls * (3600 * 1000) := by rwa [Nat.mul_comm]
    rw [if_pos hcap]
    grind
  · rw [if_neg hcap]
    rcases Nat.eq_zero_or_pos elapsed with rfl | hpos
    · grind
    · grind

theorem toToken_spend (b : ServiceIpcBucket) (cost : Nat) :
    (b.spend cost).toToken = b.toToken.spend cost := by
  unfold spend toToken TokenBucket.spend
  split
  · simp only [TokenBucket.mk.injEq, and_true]
    omega
  · rfl

end ServiceIpcBucket

namespace ServiceIpcIdentitySlot

variable (slot : ServiceIpcIdentitySlot) (cls : ServiceIpcRequestClass) (b : ServiceIpcBucket)

/-- When the slot's hold ends; `0` without a hold. -/
def holdEnd : Nat := if slot.holdActive then slot.holdUntilMs else 0

@[simp] theorem setBucket_used : (slot.setBucket cls b).used = slot.used := by
  unfold setBucket; split <;> rfl

@[simp] theorem setBucket_hash : (slot.setBucket cls b).hash = slot.hash := by
  unfold setBucket; split <;> rfl

@[simp] theorem setBucket_key : (slot.setBucket cls b).key = slot.key := by
  unfold setBucket; split <;> rfl

@[simp] theorem setBucket_lastSeenMs : (slot.setBucket cls b).lastSeenMs = slot.lastSeenMs := by
  unfold setBucket; split <;> rfl

@[simp] theorem setBucket_holdEnd : (slot.setBucket cls b).holdEnd = slot.holdEnd := by
  unfold setBucket; split <;> rfl

theorem setBucket_bucket (cls' : ServiceIpcRequestClass) :
    (slot.setBucket cls b).bucket cls' =
      if (cls = .handoff ↔ cls' = .handoff) then b else slot.bucket cls' := by
  unfold setBucket bucket
  by_cases h : cls = .handoff <;> by_cases h' : cls' = .handoff <;> simp [h, h']

end ServiceIpcIdentitySlot

theorem Account.setBucket_bucket (a : Account) (cls cls' : ServiceIpcRequestClass)
    (b : TokenBucket) :
    (a.setBucket cls b).bucket cls' =
      if (cls = .handoff ↔ cls' = .handoff) then b else a.bucket cls' := by
  unfold setBucket bucket
  by_cases h : cls = .handoff <;> by_cases h' : cls' = .handoff <;> simp [h, h']

theorem Account.setBucket_holdEnd (a : Account) (cls : ServiceIpcRequestClass) (b : TokenBucket) :
    (a.setBucket cls b).holdEnd = a.holdEnd := by
  unfold setBucket; split <;> rfl

/-- The two buckets are metered alike when their classes share a bucket. -/
theorem levelOf_congr {cls cls' : ServiceIpcRequestClass}
    (h : cls = .handoff ↔ cls' = .handoff) (b : TokenBucket) (t : Nat) :
    levelOf cls' b t = levelOf cls b t := by
  simp only [levelOf, burstMilli, ratePerMs, h]

end GreenCurve
