import GreenCurve.Daemon
import Mathlib.Data.List.Basic

/-! # The operations a daemon remembers

A ring of sixteen records, one an operation id.  A mutation begins only under an id the
ring does not hold, and its record is completed with the status of the answer.  Another
operation can push a record out of the ring and changes nothing else about it. -/

namespace GreenCurve

inductive ServiceResponseStatus where
  | ok
  | error
  | versionMismatch
  | staleState
  deriving DecidableEq, Repr

abbrev SERVICE_OPERATION_HISTORY_CAPACITY : Nat := 16

structure ServiceOperationRecord where
  operationId : UInt64 := 0
  state : ServiceOperationState := .none
  responseStatus : ServiceResponseStatus := .ok
  deriving DecidableEq, Repr

structure ServiceOperationTracker where
  records : List ServiceOperationRecord :=
    List.replicate SERVICE_OPERATION_HISTORY_CAPACITY {}
  nextRecord : Nat := 0

inductive ServiceOperationBeginResult where
  | invalid
  | started (tracker : ServiceOperationTracker)
  | duplicate (existing : ServiceOperationRecord)

namespace ServiceOperationTracker

variable (t : ServiceOperationTracker) (id : UInt64)

/-- `service_operation_find`. -/
def find : Option ServiceOperationRecord :=
  if id = 0 then none else t.records.find? (·.operationId = id)

/-- `service_operation_begin`. -/
def begin : ServiceOperationBeginResult :=
  if id = 0 then .invalid
  else
    match t.find id with
    | some existing => .duplicate existing
    | none =>
      let index := t.nextRecord % SERVICE_OPERATION_HISTORY_CAPACITY
      .started
        { records := t.records.set index ⟨id, .inProgress, .error⟩
          nextRecord := (index + 1) % SERVICE_OPERATION_HISTORY_CAPACITY }

/-- The record with the status of its answer. -/
def completed (record : ServiceOperationRecord) (status : ServiceResponseStatus) :
    ServiceOperationRecord :=
  if record.state ≠ .inProgress then record
  else
    { record with
      state := if status = .ok then .succeeded else .failed
      responseStatus := status }

/-- `service_operation_complete`: the first record of the id, if it is in progress. -/
def complete (status : ServiceResponseStatus) : ServiceOperationTracker :=
  if id = 0 then t
  else
    let first := t.records.findIdx (·.operationId = id)
    { t with records := t.records.modify first (completed · status) }

end ServiceOperationTracker

namespace ServiceOperationTracker

variable {t t' : ServiceOperationTracker} {id other : UInt64} {status : ServiceResponseStatus}

/-- Every record the ring holds of an operation. -/
def All (t : ServiceOperationTracker) (id : UInt64) (p : ServiceOperationRecord → Prop) : Prop :=
  ∀ record ∈ t.records, record.operationId = id → p record

theorem All.find {p : ServiceOperationRecord → Prop} (h : t.All id p)
    {record : ServiceOperationRecord} (hfind : t.find id = some record) : p record := by
  unfold ServiceOperationTracker.find at hfind
  split at hfind
  · cases hfind
  · exact h record (List.mem_of_find?_eq_some hfind) (by simpa using List.find?_some hfind)

theorem find_of_all_false (h : t.All id fun _ => False) : t.find id = none := by
  cases hfind : t.find id with
  | none => rfl
  | some record => exact (h.find hfind).elim

theorem begin_started (h : t.begin id = .started t') :
    id ≠ 0 ∧ t.find id = none ∧ ∃ index next,
      t' = ⟨t.records.set index ⟨id, .inProgress, .error⟩, next⟩ := by
  unfold ServiceOperationTracker.begin at h
  split at h
  · cases h
  · rename_i hid
    split at h
    · cases h
    · rename_i hfind
      obtain rfl := ServiceOperationBeginResult.started.inj h
      exact ⟨hid, hfind, _, _, rfl⟩

/-- Another operation only pushes records out. -/
theorem All.begin {p : ServiceOperationRecord → Prop} (h : t.All id p) (hne : other ≠ id)
    (hbegin : t.begin other = .started t') : t'.All id p := by
  obtain ⟨-, -, index, next, rfl⟩ := begin_started hbegin
  intro record hrecord hid
  rcases List.mem_or_eq_of_mem_set hrecord with hmem | rfl
  · exact h record hmem hid
  · exact absurd hid hne

theorem operationId_completed (record : ServiceOperationRecord) (status : ServiceResponseStatus) :
    (completed record status).operationId = record.operationId := by
  unfold completed
  split <;> rfl

theorem mem_modify {α : Type} {f : α → α} {l : List α} {k : Nat} {a : α} (h : a ∈ l.modify k f) :
    (∃ j, j ≠ k ∧ l[j]? = some a) ∨ ∃ b, l[k]? = some b ∧ a = f b := by
  obtain ⟨j, hj⟩ := List.mem_iff_getElem?.mp h
  rw [List.getElem?_modify] at hj
  by_cases hk : k = j
  · subst hk
    simp only [if_true] at hj
    obtain ⟨b, hb, rfl⟩ := Option.map_eq_some_iff.mp hj
    exact .inr ⟨b, hb, rfl⟩
  · simp only [hk, if_false] at hj
    exact .inl ⟨j, Ne.symm hk, by simpa using hj⟩

theorem All.complete {p : ServiceOperationRecord → Prop} (h : t.All id p) (hne : other ≠ id)
    (status : ServiceResponseStatus) : (t.complete other status).All id p := by
  unfold ServiceOperationTracker.complete
  split
  · exact h
  · intro record hrecord hid
    rcases mem_modify hrecord with ⟨j, -, hj⟩ | ⟨before, hbefore, rfl⟩
    · exact h record (List.mem_of_getElem? hj) hid
    · have hfirst : before.operationId = other := by
        have hlt := (List.getElem?_eq_some_iff.mp hbefore).1
        have hat := List.findIdx_getElem (w := hlt)
        rw [← (List.getElem?_eq_some_iff.mp hbefore).2]
        simpa using hat
      rw [operationId_completed, hfirst] at hid
      exact absurd hid hne

/-- An operation that the ring did not hold, begun and completed, is held with the status
of its answer. -/
theorem all_complete_begin (hfresh : t.All id fun _ => False) (hbegin : t.begin id = .started t')
    (status : ServiceResponseStatus) :
    (t'.complete id status).All id fun record =>
      record.responseStatus = status ∧
        record.state = if status = .ok then .succeeded else .failed := by
  obtain ⟨hid, -, index, next, rfl⟩ := begin_started hbegin
  have hplace : ∀ (j : Nat) (record : ServiceOperationRecord),
      (t.records.set index ⟨id, .inProgress, .error⟩)[j]? = some record →
        record.operationId = id → j = index ∧ record = ⟨id, .inProgress, .error⟩ := by
    intro j record hj hrecord
    rw [List.getElem?_set] at hj
    split at hj
    · rename_i hindex
      split at hj
      · exact ⟨hindex.symm, (Option.some.inj hj).symm⟩
      · cases hj
    · exact (hfresh record (List.mem_of_getElem? hj) hrecord).elim
  unfold ServiceOperationTracker.complete
  rw [if_neg hid]
  intro record hrecord hrecordId
  rcases mem_modify hrecord with ⟨j, hj, hget⟩ | ⟨before, hbefore, rfl⟩
  · -- The first record of the id is the one that was begun, so no other is left.
    obtain ⟨hindex, -⟩ := hplace j record hget hrecordId
    have hlt : List.findIdx (·.operationId = id) (t.records.set index ⟨id, .inProgress, .error⟩) <
        (t.records.set index ⟨id, .inProgress, .error⟩).length :=
      List.findIdx_lt_length_of_exists ⟨record, List.mem_of_getElem? hget, by simpa using hrecordId⟩
    have hfirst := List.findIdx_getElem (w := hlt)
    have hsame := hplace _ _ (List.getElem?_eq_getElem hlt) (by simpa using hfirst)
    exact absurd (hindex.trans hsame.1.symm) hj
  · rw [operationId_completed] at hrecordId
    obtain ⟨-, rfl⟩ := hplace _ before hbefore hrecordId
    exact ⟨rfl, rfl⟩

end ServiceOperationTracker

end GreenCurve
