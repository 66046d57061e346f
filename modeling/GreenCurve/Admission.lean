import GreenCurve.ProbeTable
import GreenCurve.TokenBucket
import Mathlib.Data.List.FinRange
import Mathlib.Data.UInt

/-! # The bounded admission table

The per-identity admission policy of the service transports: a fixed-size
open-addressed table whose slots hold two token buckets and a time-based refusal.
Clock values are 64-bit tick counts, compared and added modulo `2 ^ 64` as the
code does; token levels never leave their bucket's burst. -/

namespace GreenCurve

/-! ## Tunables -/

abbrev SERVICE_IPC_TABLE_SLOTS : Nat := 128

abbrev SERVICE_IPC_BUCKET_BURST_MILLI : Nat := 80 * 1000
abbrev SERVICE_IPC_REFILL_PER_SECOND_MILLI : Nat := 20 * 1000

abbrev SERVICE_IPC_HANDOFF_RESERVE_MILLI : Nat := 8 * 1000
abbrev SERVICE_IPC_HANDOFF_REFILL_PER_SECOND_MILLI : Nat := 1 * 1000

abbrev SERVICE_IPC_COST_SUCCESS : UInt32 := 1
abbrev SERVICE_IPC_COST_TRANSPORT_FAULT : UInt32 := 10

abbrev SERVICE_IPC_IDLE_EXPIRY_MS : Nat := 60 * 1000

abbrev SERVICE_IPC_ANON_BUDGET_MAX : Nat := 32
abbrev SERVICE_IPC_ANON_REFILL_PER_SECOND_MILLI : Nat := 1 * 1000

abbrev SERVICE_IPC_KEY_SID_BYTES : Nat := 184

/-! ## Clock values -/

/-- Addition on the 64-bit tick counter. -/
def addTicks (a b : Nat) : Nat := (a + b) % 2 ^ 64

/-- Subtraction on the 64-bit tick counter. -/
def subTicks (a b : Nat) : Nat := (a + 2 ^ 64 - b) % 2 ^ 64

/-- `(long long)(a - b) >= 0`. -/
def serviceIpcTimeAtOrAfter (a b : Nat) : Bool := decide (subTicks a b < 2 ^ 63)

theorem addTicks_eq {a b : Nat} (h : a + b < 2 ^ 63) : addTicks a b = a + b := by
  rw [addTicks, Nat.mod_eq_of_lt (by omega)]

theorem subTicks_eq {a b : Nat} (ha : a < 2 ^ 63) (h : b ≤ a) : subTicks a b = a - b := by
  rw [subTicks]
  omega

/-- Below the wrap the comparison is the ordinary one. -/
theorem timeAtOrAfter_iff {a b : Nat} (ha : a < 2 ^ 63) (hb : b < 2 ^ 63) :
    serviceIpcTimeAtOrAfter a b = true ↔ b ≤ a := by
  rw [serviceIpcTimeAtOrAfter, decide_eq_true_iff, subTicks]
  omega

/-! ## Identities -/

/-- A throttle identity.  `sid` is the text before the terminating NUL. -/
structure ServiceIpcThrottleKey where
  valid : Bool := false
  sessionId : UInt32 := 0
  authenticationId : UInt64 := 0
  sid : List UInt8 := []
  deriving DecidableEq, Repr

namespace ServiceIpcThrottleKey

def fill (session : UInt32) (authId : UInt64) (sidText : List UInt8) : ServiceIpcThrottleKey :=
  let text := sidText.takeWhile (· != 0)
  if text.isEmpty then {}
  else
    { valid := true
      sessionId := session
      authenticationId := authId
      sid := text.take (SERVICE_IPC_KEY_SID_BYTES - 1) }

def equals (key other : ServiceIpcThrottleKey) : Bool :=
  key.valid && other.valid && key.sessionId == other.sessionId &&
    key.authenticationId == other.authenticationId && key.sid == other.sid

theorem equals_iff {key other : ServiceIpcThrottleKey} :
    key.equals other = true ↔ key = other ∧ key.valid = true := by
  obtain ⟨v, s, a, t⟩ := key
  obtain ⟨v', s', a', t'⟩ := other
  cases v <;> cases v' <;> simp [equals, and_assoc]

end ServiceIpcThrottleKey

/-- One FNV-1a step. -/
def fnvStep (hash : UInt32) (byte : UInt8) : UInt32 := (hash ^^^ byte.toUInt32) * 16777619

/-- FNV-1a over the packed identity: the whole zero-padded `sid` array, the
session and authentication ids byte by byte, and one byte for the NUL. -/
def serviceIpcKeyHash (key : ServiceIpcThrottleKey) : UInt32 :=
  if !key.valid then 0
  else
    let padded := key.sid ++ List.replicate (SERVICE_IPC_KEY_SID_BYTES - key.sid.length) 0
    let hash := padded.foldl fnvStep 2166136261
    let hash := (List.range 4).foldl
      (fun h i => fnvStep h ((key.sessionId >>> (8 * i).toUInt32).toUInt8)) hash
    let hash := (List.range 8).foldl
      (fun h i => fnvStep h ((key.authenticationId >>> (8 * i).toUInt64).toUInt8)) hash
    let hash := fnvStep hash 0xFF
    if hash ≠ 0 then hash else 1

inductive ServiceIpcRequestClass where
  | normal | handoff | lifecycle | bulkOutput | unknown
  deriving DecidableEq, Repr

/-! ## Buckets and slots -/

structure ServiceIpcBucket where
  tokensMilli : Nat := 0
  lastRefillMs : Nat := 0
  deriving DecidableEq, Repr

namespace ServiceIpcBucket

/-- A clock that went backwards keeps the tokens and moves the anchor; the
multiplication window is capped at an hour. -/
def refill (b : ServiceIpcBucket) (nowMs burstMilli perSecondMilli : Nat) : ServiceIpcBucket :=
  if !serviceIpcTimeAtOrAfter nowMs b.lastRefillMs then { b with lastRefillMs := nowMs }
  else
    let elapsedMs := subTicks nowMs b.lastRefillMs
    let tokens :=
      if elapsedMs > 0 ∧ b.tokensMilli < burstMilli then
        let elapsedMs := if elapsedMs > 3600 * 1000 then 3600 * 1000 else elapsedMs
        let tokens := b.tokensMilli + elapsedMs * perSecondMilli / 1000
        if tokens > burstMilli then burstMilli else tokens
      else if b.tokensMilli > burstMilli then burstMilli
      else b.tokensMilli
    { tokensMilli := tokens, lastRefillMs := nowMs }

/-- A charge the bucket cannot cover empties it. -/
def spend (b : ServiceIpcBucket) (costMilli : Nat) : ServiceIpcBucket :=
  if b.tokensMilli < costMilli then { b with tokensMilli := 0 }
  else { b with tokensMilli := b.tokensMilli - costMilli }

end ServiceIpcBucket

inductive ServiceIpcAdmissionDecision where
  | admitted | rejectedRate | rejectedCapacity
  deriving DecidableEq, Repr

structure ServiceIpcIdentitySlot where
  used : Bool := false
  hash : UInt32 := 0
  lastSeenMs : Nat := 0
  key : ServiceIpcThrottleKey := {}
  normalBucket : ServiceIpcBucket := {}
  handoffBucket : ServiceIpcBucket := {}
  holdActive : Bool := false
  holdUntilMs : Nat := 0
  deriving DecidableEq, Repr

/-- The slot index of the table. -/
abbrev SlotIndex := Fin SERVICE_IPC_TABLE_SLOTS

structure ServiceIpcAdmissionTable where
  slots : SlotIndex → ServiceIpcIdentitySlot
  anonymousBucket : ServiceIpcBucket

section

theorem neZero_slots : NeZero SERVICE_IPC_TABLE_SLOTS := ⟨by decide⟩

attribute [local instance] neZero_slots

/-- The slots a loop starting at `keyHash & mask` visits, in order. -/
def probeSequence (keyHash : UInt32) : List SlotIndex :=
  (List.finRange SERVICE_IPC_TABLE_SLOTS).map (Fin.ofNat SERVICE_IPC_TABLE_SLOTS keyHash.toNat + ·)

end

namespace ServiceIpcIdentitySlot

/-- The resident test of both loops. -/
def isFor (slot : ServiceIpcIdentitySlot) (key : ServiceIpcThrottleKey) (keyHash : UInt32) : Bool :=
  slot.hash == keyHash && slot.key.equals key

def expired (slot : ServiceIpcIdentitySlot) (nowMs : Nat) : Bool :=
  serviceIpcTimeAtOrAfter nowMs (addTicks slot.lastSeenMs SERVICE_IPC_IDLE_EXPIRY_MS)

/-- The bucket a request class is metered on. -/
def bucket (slot : ServiceIpcIdentitySlot) (cls : ServiceIpcRequestClass) : ServiceIpcBucket :=
  if cls = .handoff then slot.handoffBucket else slot.normalBucket

def setBucket (slot : ServiceIpcIdentitySlot) (cls : ServiceIpcRequestClass)
    (b : ServiceIpcBucket) : ServiceIpcIdentitySlot :=
  if cls = .handoff then { slot with handoffBucket := b } else { slot with normalBucket := b }

end ServiceIpcIdentitySlot

/-- The burst of the bucket a request class is metered on. -/
def burstMilli (cls : ServiceIpcRequestClass) : Nat :=
  if cls = .handoff then SERVICE_IPC_HANDOFF_RESERVE_MILLI else SERVICE_IPC_BUCKET_BURST_MILLI

def perSecondMilli (cls : ServiceIpcRequestClass) : Nat :=
  if cls = .handoff then SERVICE_IPC_HANDOFF_REFILL_PER_SECOND_MILLI
  else SERVICE_IPC_REFILL_PER_SECOND_MILLI

/-! ## The table -/

namespace ServiceIpcAdmissionTable

variable (table : ServiceIpcAdmissionTable)

/-- Zeroed memory but for the anonymous bucket. -/
def zeroed (anonymousBucket : ServiceIpcBucket) : ServiceIpcAdmissionTable where
  slots _ := {}
  anonymousBucket := anonymousBucket

def reset (nowMs : Nat) : ServiceIpcAdmissionTable :=
  zeroed ⟨SERVICE_IPC_ANON_BUDGET_MAX * 1000, nowMs⟩

def setSlot (i : SlotIndex) (slot : ServiceIpcIdentitySlot) : ServiceIpcAdmissionTable :=
  { table with slots := Function.update table.slots i slot }

/-- The loop of `find`: up to the first unused slot. -/
def findFrom (key : ServiceIpcThrottleKey) (keyHash : UInt32) : List SlotIndex → Option SlotIndex
  | [] => none
  | i :: rest =>
    if !(table.slots i).used then none
    else if (table.slots i).isFor key keyHash then some i
    else findFrom key keyHash rest

def find (key : ServiceIpcThrottleKey) (keyHash : UInt32) : Option SlotIndex :=
  if !key.valid then none else table.findFrom key keyHash (probeSequence keyHash)

def install (i : SlotIndex) (key : ServiceIpcThrottleKey) (keyHash : UInt32) (nowMs : Nat) :
    ServiceIpcAdmissionTable :=
  let slot := table.slots i
  let slot : ServiceIpcIdentitySlot :=
    if slot.used && slot.isFor key keyHash then slot
    else
      { key := key
        hash := keyHash
        normalBucket := ⟨SERVICE_IPC_BUCKET_BURST_MILLI, 0⟩
        handoffBucket := ⟨SERVICE_IPC_HANDOFF_RESERVE_MILLI, 0⟩ }
  table.setSlot i
    { slot with
      used := true
      lastSeenMs := nowMs
      normalBucket := { slot.normalBucket with lastRefillMs := nowMs }
      handoffBucket := { slot.handoffBucket with lastRefillMs := nowMs } }

/-- The loop of `acquire`: the resident slot is only touched; otherwise the first
expired slot of the chain is reused, then its first unused slot, then the least
recently seen one. -/
def acquireFrom (key : ServiceIpcThrottleKey) (keyHash : UInt32) (nowMs : Nat) :
    List SlotIndex → Option SlotIndex → Option SlotIndex →
      Option (ServiceIpcAdmissionTable × SlotIndex)
  | [], evictCandidate, expiredCandidate =>
    (expiredCandidate <|> evictCandidate).map fun i => (table.install i key keyHash nowMs, i)
  | i :: rest, evictCandidate, expiredCandidate =>
    let slot := table.slots i
    if !slot.used then
      let target := expiredCandidate.getD i
      some (table.install target key keyHash nowMs, target)
    else if slot.isFor key keyHash then
      some (table.setSlot i { slot with lastSeenMs := nowMs }, i)
    else
      let expiredCandidate :=
        if slot.expired nowMs && expiredCandidate.isNone then some i else expiredCandidate
      let evictCandidate :=
        match evictCandidate with
        | none => some i
        | some j =>
          if serviceIpcTimeAtOrAfter (table.slots j).lastSeenMs slot.lastSeenMs then some i
          else some j
      acquireFrom key keyHash nowMs rest evictCandidate expiredCandidate

def acquire (key : ServiceIpcThrottleKey) (keyHash : UInt32) (nowMs : Nat) :
    Option (ServiceIpcAdmissionTable × SlotIndex) :=
  if !key.valid then none
  else table.acquireFrom key keyHash nowMs (probeSequence keyHash) none none

end ServiceIpcAdmissionTable

/-! ## Decide, charge, hold -/

def serviceIpcDecideAdmission (table : ServiceIpcAdmissionTable) (key : ServiceIpcThrottleKey)
    (cls : ServiceIpcRequestClass) (nowMs : Nat) :
    ServiceIpcAdmissionTable × ServiceIpcAdmissionDecision :=
  if cls = .unknown then (table, .rejectedCapacity)
  else if !key.valid then (table, .admitted)
  else
    match table.find key (serviceIpcKeyHash key) with
    | none => (table, .admitted)
    | some i =>
      let slot := table.slots i
      if slot.expired nowMs then (table, .admitted)
      else if slot.holdActive && !serviceIpcTimeAtOrAfter nowMs slot.holdUntilMs then
        (table, .rejectedRate)
      else
        -- a lapsed hold is dropped before the bucket is read
        let slot := { slot with holdActive := false }
        let needed := SERVICE_IPC_COST_SUCCESS.toNat * 1000
        let bucket := (slot.bucket cls).refill nowMs (burstMilli cls) (perSecondMilli cls)
        (table.setSlot i (slot.setBucket cls bucket),
          if bucket.tokensMilli ≥ needed then .admitted else .rejectedRate)

def serviceIpcCharge (table : ServiceIpcAdmissionTable) (key : ServiceIpcThrottleKey)
    (cls : ServiceIpcRequestClass) (costTokens : UInt32) (nowMs : Nat) :
    ServiceIpcAdmissionTable :=
  if costTokens = 0 then table
  else
    let costMilli := costTokens.toNat * 1000
    if !key.valid then
      { table with
        anonymousBucket :=
          (table.anonymousBucket.refill nowMs (SERVICE_IPC_ANON_BUDGET_MAX * 1000)
            SERVICE_IPC_ANON_REFILL_PER_SECOND_MILLI).spend costMilli }
    else
      match table.acquire key (serviceIpcKeyHash key) nowMs with
      | none => table
      | some (table, i) =>
        let slot := table.slots i
        let bucket := (slot.bucket cls).refill nowMs (burstMilli cls) (perSecondMilli cls)
        table.setSlot i (slot.setBucket cls (bucket.spend costMilli))

def serviceIpcHold (table : ServiceIpcAdmissionTable) (key : ServiceIpcThrottleKey)
    (untilMs nowMs : Nat) : ServiceIpcAdmissionTable :=
  if !key.valid || untilMs == nowMs || !serviceIpcTimeAtOrAfter untilMs nowMs then table
  else
    match table.acquire key (serviceIpcKeyHash key) nowMs with
    | none => table
    | some (table, i) =>
      let slot := table.slots i
      if slot.holdActive && serviceIpcTimeAtOrAfter slot.holdUntilMs untilMs then table
      else table.setSlot i { slot with holdActive := true, holdUntilMs := untilMs }

end GreenCurve
