import Mathlib.Data.List.Basic

/-! # The recovery ledger

Driver recoveries are counted across restarts of the service in one file of sixteen places.
An entry carries the key of its evidence, so that two observations of one recovery are one
entry, and the boot and the awake time at which it was recorded.  Recording a new key
rewrites the file with the entries of the current boot that are still in the window and the
new one; a ledger that cannot be read or written locks automatic restores. -/

namespace GreenCurve.RecoveryLedger

abbrev RECOVERY_LOOP_WINDOW_MS : Nat := 300000
abbrev MAX_RECOVERIES_BEFORE_BACKOFF : Nat := 3
abbrev SERVICE_RECOVERY_LEDGER_MAX : Nat := 16

/-- `ServiceRecoveryEvidenceKey`. -/
structure EvidenceKey where
  high : UInt64
  low : UInt64
deriving DecidableEq, Repr

/-- `service_recovery_evidence_key_valid`. -/
def EvidenceKey.valid (key : EvidenceKey) : Bool := decide (key.high ≠ 0) || decide (key.low ≠ 0)

/-- `ServiceBootIdentity`. -/
structure BootIdentity where
  high : UInt64
  low : UInt64
deriving DecidableEq, Repr

/-- `service_boot_identity_valid`. -/
def BootIdentity.valid (boot : BootIdentity) : Bool :=
  decide (boot.high ≠ 0) || decide (boot.low ≠ 0)

/-- What the queries of the boot and of its awake time answer: the boot is never all zero,
and neither is the time. -/
structure AwakeClock where
  bootIdentity : BootIdentity
  awakeTime100ns : Nat
  bootValid : bootIdentity.valid = true
  timePositive : awakeTime100ns ≠ 0
deriving DecidableEq, Repr

/-- `ServiceRecoveryLedgerEntry`; the one kind of evidence is a driver recovery. -/
structure LedgerEntry where
  key : EvidenceKey
  bootIdentity : BootIdentity
  awakeTime100ns : Nat
deriving DecidableEq, Repr

/-- What `service_read_recovery_ledger_file` asks of an entry. -/
def LedgerEntry.wellFormed (e : LedgerEntry) : Bool :=
  e.key.valid && e.bootIdentity.valid && decide (e.awakeTime100ns ≠ 0)

/-- `ServiceRecoveryLedger`: at most sixteen entries, every one well-formed. -/
structure Ledger where
  entries : List LedgerEntry
  bounded : entries.length ≤ SERVICE_RECOVERY_LEDGER_MAX
  wellFormed : ∀ e ∈ entries, e.wellFormed = true

/-- `service_initialize_empty_recovery_ledger`. -/
def Ledger.empty : Ledger where
  entries := []
  bounded := Nat.zero_le _
  wellFormed := fun _ he => absurd he List.not_mem_nil

/-! ## Counting -/

/-- An entry of the boot, no later than now and no older than the window. -/
def LedgerEntry.recent (clock : AwakeClock) (e : LedgerEntry) : Bool :=
  decide (e.bootIdentity = clock.bootIdentity) &&
    decide (e.awakeTime100ns ≤ clock.awakeTime100ns) &&
    decide ((clock.awakeTime100ns - e.awakeTime100ns) / 10000 ≤ RECOVERY_LOOP_WINDOW_MS)

/-- `service_count_recent_recovery_clock_entries`. -/
def serviceCountRecentRecoveryClockEntries (entries : List (BootIdentity × Nat))
    (currentBootIdentity : BootIdentity) (currentAwakeTime100ns windowMs : Nat) : Nat :=
  if ¬currentBootIdentity.valid ∨ currentAwakeTime100ns = 0 then 0
  else
    entries.countP fun e =>
      decide (e.1 = currentBootIdentity) && decide (e.2 ≠ 0) &&
        decide (e.2 ≤ currentAwakeTime100ns) &&
        decide ((currentAwakeTime100ns - e.2) / 10000 ≤ windowMs)

/-- `service_count_recent_recovery_entries`. -/
def serviceCountRecentRecoveryEntries (ledger : Ledger) (clock : AwakeClock) : Nat :=
  serviceCountRecentRecoveryClockEntries
    (ledger.entries.map fun e => (e.bootIdentity, e.awakeTime100ns))
    clock.bootIdentity clock.awakeTime100ns RECOVERY_LOOP_WINDOW_MS

/-! ## The file -/

inductive LedgerFile where
  | absent
  | unreadable
  | stored (ledger : Ledger)

/-- The obsolete history file, which has no boot identity. -/
inductive OldHistory where
  | absent
  | empty
  | ambiguous
deriving DecidableEq, Repr

/-- What the recordings read and write. -/
structure RecoveryStore where
  ledgerFile : LedgerFile := .absent
  oldHistory : OldHistory := .absent
  ledgerWriteFailed : Bool := false
  lockedOut : Bool := false

/-- `service_latch_auto_restore_lockout`. -/
def RecoveryStore.latch (s : RecoveryStore) : RecoveryStore := { s with lockedOut := true }

/-- `service_load_recovery_ledger`: without a ledger an obsolete history must be absent or
empty, and an empty one is removed. -/
def serviceLoadRecoveryLedger (s : RecoveryStore) : Option Ledger × RecoveryStore :=
  match s.ledgerFile with
  | .stored ledger => (some ledger, s)
  | .unreadable => (none, s)
  | .absent =>
    match s.oldHistory with
    | .absent => (some .empty, s)
    | .empty => (some .empty, { s with oldHistory := .absent })
    | .ambiguous => (none, s)

/-- `service_count_recent_restarts`: a ledger that cannot be read counts as spam. -/
def serviceCountRecentRestarts (s : RecoveryStore) (clock : AwakeClock) : Nat × RecoveryStore :=
  if s.ledgerWriteFailed then (MAX_RECOVERIES_BEFORE_BACKOFF, s)
  else
    match serviceLoadRecoveryLedger s with
    | (none, s) => (MAX_RECOVERIES_BEFORE_BACKOFF, s.latch)
    | (some ledger, s) => (serviceCountRecentRecoveryEntries ledger clock, s)

/-! ## Recording -/

/-- One observation of a driver recovery. -/
structure Recording where
  key : EvidenceKey
  clock : AwakeClock
deriving DecidableEq, Repr

/-- The entry of a recording. -/
def Recording.entry (r : Recording) : LedgerEntry where
  key := r.key
  bootIdentity := r.clock.bootIdentity
  awakeTime100ns := r.clock.awakeTime100ns

/-- `service_recovery_evidence_already_recorded`. -/
def serviceRecoveryEvidenceAlreadyRecorded (keys : List EvidenceKey) (candidate : EvidenceKey) :
    Bool :=
  candidate.valid && keys.contains candidate

/-- The entries that still count, from the first one on, as long as there is room. -/
def compactEntries (clock : AwakeClock) : Nat → List LedgerEntry → List LedgerEntry
  | _, [] => []
  | 0, _ :: _ => []
  | room + 1, e :: rest =>
    if e.recent clock then e :: compactEntries clock room rest
    else compactEntries clock (room + 1) rest

theorem compactEntries_eq (clock : AwakeClock) (room : Nat) (entries : List LedgerEntry) :
    compactEntries clock room entries = (entries.filter (LedgerEntry.recent clock)).take room := by
  induction entries generalizing room with
  | nil => simp [compactEntries]
  | cons e rest ih =>
    cases room with
    | zero => simp [compactEntries]
    | succ room =>
      rw [compactEntries]
      by_cases hrecent : e.recent clock = true
      · rw [if_pos hrecent, List.filter_cons_of_pos hrecent, List.take_succ_cons, ih]
      · rw [if_neg hrecent, List.filter_cons_of_neg hrecent, ih]

/-- The ledger a new key is recorded in: one place is kept for it. -/
def Ledger.extended (ledger : Ledger) (r : Recording) (hkey : r.key.valid = true) : Ledger where
  entries := compactEntries r.clock (SERVICE_RECOVERY_LEDGER_MAX - 1) ledger.entries ++ [r.entry]
  bounded := by
    rw [compactEntries_eq, List.length_append, List.length_take, List.length_singleton]
    exact Nat.succ_le_succ (Nat.min_le_left _ _)
  wellFormed := by
    intro e he
    rcases List.mem_append.mp he with he | he
    · rw [compactEntries_eq] at he
      exact ledger.wellFormed e (List.mem_of_mem_filter (List.mem_of_mem_take he))
    · rw [List.mem_singleton.mp he]
      simp [LedgerEntry.wellFormed, Recording.entry, hkey, r.clock.bootValid, r.clock.timePositive]

/-- `service_record_recovery_evidence`; `committed` says whether the new ledger could be
stored. -/
def serviceRecordRecoveryEvidence (s : RecoveryStore) (committed : Bool) (r : Recording) :
    RecoveryStore × Bool :=
  if hkey : r.key.valid = true then
    if s.ledgerWriteFailed then (s, false)
    else
      match serviceLoadRecoveryLedger s with
      | (none, s) => (s.latch, false)
      | (some ledger, s) =>
        if serviceRecoveryEvidenceAlreadyRecorded (ledger.entries.map LedgerEntry.key) r.key then
          (s, true)
        else if committed then ({ s with ledgerFile := .stored (ledger.extended r hkey) }, true)
        else (s.latch, false)
  else (s, false)

/-! ## Runs -/

/-- The store after some recordings, the newest first, every one of them stored. -/
def storeAfter : List Recording → RecoveryStore
  | [] => {}
  | r :: earlier => (serviceRecordRecoveryEvidence (storeAfter earlier) true r).1

/-- **Recordings in order**: within a boot the awake time does not go back, and a boot that
has ended does not return. -/
def Orderly : List Recording → Prop
  | [] => True
  | r :: earlier =>
    (∀ e ∈ earlier, e.clock.bootIdentity = r.clock.bootIdentity →
      e.clock.awakeTime100ns ≤ r.clock.awakeTime100ns ∧
        ∀ last ∈ earlier.head?, last.clock.bootIdentity = r.clock.bootIdentity) ∧
    Orderly earlier

end GreenCurve.RecoveryLedger
