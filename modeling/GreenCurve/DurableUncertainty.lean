import GreenCurve.UnsettledRecord

/-! # Uncertainty that outlives the daemon

An operation that wrote the hardware and could not prove its rollback leaves a state
file without a committed intent, if the last call on that file succeeded.  The one
exception is a Reset of a settled intent whose record could not be removed: it puts the
intent back as committed and then finds that the hardware did not roll back. -/

namespace GreenCurve

open CrashM

/-! ## What an operation did -/

/-- The outcome of a hardware operation or of its rollback. -/
def DaemonAction.isHardwareOutcome : DaemonAction → Bool
  | .mutated _ => true
  | .rolledBack _ => true
  | _ => false

/-- The hardware was written and its rollback is not proven. -/
def UnprovenWrite (actions : List DaemonAction) : Prop :=
  ∃ result : LinuxMutationResult, .mutated result ∈ actions ∧
    if result.success then .rolledBack false ∈ actions
    else result.anyWrite = true ∧ result.rollbackSucceeded = false

/-- Whether a call on the state file succeeded. -/
def recordCall : DaemonAction → Option Bool
  | .stateStored _ ok => some ok
  | .stateRemoved ok => some ok
  | _ => none

def landsRecord (landed : Bool) (action : DaemonAction) : Bool := (recordCall action).getD landed

/-- The last call on the state file succeeded. -/
def recordLanded (actions : List DaemonAction) : Bool := actions.foldl landsRecord false

/-- No hardware operation has ended yet. -/
def Fresh (w : DaemonWorld) : Prop := ∀ action ∈ w.trace, action.isHardwareOutcome = false

/-- Nothing was written whose rollback is not proven. -/
def Proven (w : DaemonWorld) : Prop := ¬ UnprovenWrite w.trace

/-- The state file holds no committed intent, if the last call on it succeeded. -/
def Downgraded (w : DaemonWorld) : Prop := recordLanded w.trace = true → NotActive w.disk.state

/-- How every operation should end. -/
def EndsDurably (w : DaemonWorld) : Prop := Proven w ∨ Downgraded w

section Predicates
variable {w : DaemonWorld}

/-- The bookkeeping touches neither the state file nor the log. -/
theorem bookkeeping_of_state (p : DaemonFile LinuxDaemonStateRecord → List DaemonAction → Prop) :
    Bookkeeping fun w => p w.disk.state w.trace where
  fan _ _ h := h
  fanMarker _ _ h := h
  gpuReady _ _ h := h
  uncertain _ h := h
  lockout _ _ h := h
  guardStored _ h := h

theorem fresh_bookkeeping : Bookkeeping Fresh :=
  bookkeeping_of_state fun _ actions => ∀ action ∈ actions, action.isHardwareOutcome = false

theorem proven_bookkeeping : Bookkeeping Proven :=
  bookkeeping_of_state fun _ actions => ¬ UnprovenWrite actions

theorem downgraded_bookkeeping : Bookkeeping Downgraded :=
  bookkeeping_of_state fun file actions => recordLanded actions = true → NotActive file

theorem Fresh.log (h : Fresh w) {action : DaemonAction} (ha : action.isHardwareOutcome = false) :
    Fresh (w.log action) := by
  intro a hmem
  rcases List.mem_append.mp hmem with hmem | hmem
  · exact h a hmem
  · rw [List.mem_singleton.mp hmem]
    exact ha

theorem Fresh.not_mutated (h : Fresh w) (result : LinuxMutationResult) :
    .mutated result ∉ w.trace :=
  fun hmem => nomatch h _ hmem

theorem Fresh.not_rolledBack (h : Fresh w) (ok : Bool) : .rolledBack ok ∉ w.trace :=
  fun hmem => nomatch h _ hmem

theorem Fresh.proven (h : Fresh w) : Proven w :=
  fun ⟨result, hmem, _⟩ => h.not_mutated result hmem

theorem mem_log_iff {a action : DaemonAction} (hne : a ≠ action) :
    a ∈ (w.log action).trace ↔ a ∈ w.trace := by
  show a ∈ w.trace ++ [action] ↔ a ∈ w.trace
  rw [List.mem_append, List.mem_singleton, or_iff_left hne]

/-- Only the outcome of a hardware operation can make a write unproven. -/
theorem Proven.log (h : Proven w) {action : DaemonAction}
    (ha : action.isHardwareOutcome = false) : Proven (w.log action) := by
  rintro ⟨result, hmem, hrest⟩
  have hmutated : DaemonAction.mutated result ≠ action := fun heq => nomatch heq ▸ ha
  have hrolledBack : DaemonAction.rolledBack false ≠ action := fun heq => nomatch heq ▸ ha
  refine h ⟨result, (mem_log_iff hmutated).mp hmem, ?_⟩
  split
  · rename_i hsuccess
    rw [if_pos hsuccess] at hrest
    exact (mem_log_iff hrolledBack).mp hrest
  · rename_i hfailure
    rwa [if_neg hfailure] at hrest

/-- An operation that succeeded, or failed without leaving anything unproven. -/
theorem Fresh.mutated (h : Fresh w) {result : LinuxMutationResult}
    (hresult : result.success = true ∨ result.anyWrite = false ∨
      result.rollbackSucceeded = true) : Proven (w.log (.mutated result)) := by
  rintro ⟨result', hmem, hrest⟩
  have hold : DaemonAction.mutated result' ∉ w.trace := h.not_mutated result'
  obtain rfl : result' = result := by
    by_contra hne
    exact hold ((mem_log_iff fun heq => hne (by injection heq)).mp hmem)
  split at hrest
  · exact h.not_rolledBack false ((mem_log_iff (by simp)).mp hrest)
  · rename_i hfailure
    rcases hresult with hsuccess | hwrite | hrollback
    · exact hfailure hsuccess
    · exact nomatch hwrite.symm.trans hrest.1
    · exact nomatch hrollback.symm.trans hrest.2

theorem Proven.rolledBack (h : Proven w) : Proven (w.log (.rolledBack true)) := by
  rintro ⟨result, hmem, hrest⟩
  refine h ⟨result, (mem_log_iff (by simp)).mp hmem, ?_⟩
  split
  · rename_i hsuccess
    rw [if_pos hsuccess] at hrest
    exact (mem_log_iff (by simp)).mp hrest
  · rename_i hfailure
    rwa [if_neg hfailure] at hrest

theorem fresh_stores : StoreKeeping (fun _ => True) Fresh where
  store w record ok _ h := by
    cases ok with
    | true => exact Fresh.log (w := w.setState (.record record)) h rfl
    | false => exact h.log rfl
  remove w ok h := by
    cases ok with
    | true => exact Fresh.log (w := w.setState .absent) h rfl
    | false => exact h.log rfl
  discard _ _ h := h

theorem proven_stores : StoreKeeping (fun _ => True) Proven where
  store w record ok _ h := by
    cases ok with
    | true => exact Proven.log (w := w.setState (.record record)) h rfl
    | false => exact h.log rfl
  remove w ok h := by
    cases ok with
    | true => exact Proven.log (w := w.setState .absent) h rfl
    | false => exact h.log rfl
  discard _ _ h := h

theorem recordLanded_log (actions : List DaemonAction) (action : DaemonAction) :
    recordLanded (actions ++ [action]) = landsRecord (recordLanded actions) action :=
  List.foldl_append

/-- Whatever was there before, the record is downgraded or the store failed. -/
theorem downgraded_store (w : DaemonWorld) {record : LinuxDaemonStateRecord}
    (h : record.state ≠ .active) (ok : Bool) : Downgraded (w.storeState record ok) := by
  cases ok with
  | true => exact fun _ => notActive_record h
  | false =>
    intro hlanded
    exact nomatch (recordLanded_log w.trace _).symm.trans hlanded

theorem downgraded_remove (w : DaemonWorld) (ok : Bool) : Downgraded (w.removeState ok) := by
  cases ok with
  | true => exact fun _ => notActive_absent
  | false =>
    intro hlanded
    exact nomatch (recordLanded_log w.trace _).symm.trans hlanded

theorem downgraded_leaveUncertain (desired : DesiredSettings) :
    Ensures (leaveUncertain desired) (fun _ => Downgraded) (fun _ => True) w := by
  refine ensures_bind (ensures_storeRecord trivial fun stored => ?_)
  exact (downgraded_bookkeeping.enterUncertainState _ (downgraded_store w
    (uncertain_ne_active _ rfl) stored)).mono
    (fun _ _ h => h) fun _ _ => trivial

theorem proven_leaveUncertain (desired : DesiredSettings) :
    Keeps Proven Proven (leaveUncertain desired) :=
  proven_stores.leaveUncertain proven_bookkeeping (fun _ _ => trivial) desired

theorem proven_restoreCommitted (wasUncertain : Bool) (previous : Option DesiredSettings)
    (captured : Option LinuxDaemonStateRecord) :
    Keeps Proven Proven (restoreCommittedRecord wasUncertain previous captured) :=
  proven_stores.restoreCommittedRecord (fun _ _ => trivial) fun _ _ _ => trivial

end Predicates

/-! ## The ends of the three operations -/

section Operations
variable {w : DaemonWorld}

/-- After a hardware operation: it is proven, or it failed unproven. -/
theorem proven_or_unproven (h : Fresh w) (result : LinuxMutationResult) :
    Proven (w.log (.mutated result)) ∨ (result.success = false ∧
      (result.rollbackSucceeded || !result.anyWrite) = false) := by
  by_cases hok : result.success = true ∨ result.anyWrite = false ∨ result.rollbackSucceeded = true
  · exact .inl (h.mutated hok)
  · right
    simpa [not_or, and_comm] using hok

/-- How an operation ends: a committed one is proven. -/
abbrev EndsOrCommits (committed : Bool) (w : DaemonWorld) : Prop :=
  if committed then Proven w else EndsDurably w

theorem keeps_anything_restoreCommitted (wasUncertain : Bool) (previous : Option DesiredSettings)
    (captured : Option LinuxDaemonStateRecord) :
    Keeps (fun _ => True) (fun _ => True)
      (restoreCommittedRecord wasUncertain previous captured) :=
  StoreKeeping.restoreCommittedRecord (P := fun _ => True)
    ⟨fun _ _ _ _ _ => trivial, fun _ _ _ => trivial, fun _ _ _ => trivial⟩
    (fun _ _ => trivial) fun _ _ _ => trivial

theorem durable_settleApply (wasUncertain : Bool) (previous : Option DesiredSettings)
    (captured : Option LinuxDaemonStateRecord) (committed : DesiredSettings) (operationId : UInt64)
    (mutation : LinuxMutationResult)
    (h : Proven w ∨ (mutation.success = false ∧
      (mutation.rollbackSucceeded || !mutation.anyWrite) = false)) :
    Ensures (settleApply wasUncertain previous captured committed operationId mutation)
      EndsOrCommits (fun _ => True) w := by
  have hdies : ∀ w, Proven w → True := fun _ _ => trivial
  unfold settleApply
  split
  · rename_i hsuccess
    have hproven : Proven w := h.resolve_right fun hfailed =>
      nomatch hsuccess.symm.trans hfailed.1
    refine ensures_bind (ensures_storeRecord trivial fun stored => ?_)
    have hstored := proven_stores.store w
      ⟨.active, committed, operationId, .succeeded⟩ stored trivial hproven
    split
    · exact ensures_bind (ensures_modify (ensures_pure (hstored.log rfl)))
    refine ensures_bind (ensures_restoreSnapshot trivial fun rollbackOk => ?_)
    cases rollbackOk with
    | true =>
      refine (proven_restoreCommitted _ _ _).ensures_bind hstored.rolledBack hdies
        fun recordOk w h => ?_
      refine Keeps.ensures_bind (Keeps.when ((proven_stores.storeRecord trivial).bind
        fun _ => keeps_pure ())) h hdies fun _ w h => ?_
      exact (Keeps.when proven_bookkeeping.enterUncertainState).ensures_bind h hdies
        fun _ w h => ensures_pure (.inl h)
    | false =>
      refine (keeps_anything_restoreCommitted _ _ _).ensures_bind trivial (fun _ h => h)
        fun recordOk w _ => ?_
      refine ensures_bind (ensures_bind (ensures_storeRecord trivial fun stored =>
        ensures_pure ?_))
      exact (Keeps.when downgraded_bookkeeping.enterUncertainState).ensures_bind
        (downgraded_store w (uncertain_ne_active _ rfl) stored) (fun _ _ => trivial)
        fun _ w h => ensures_pure (.inr h)
  · split
    · rename_i hfailure hrolledBack
      have hproven : Proven w := h.resolve_right fun hfailed =>
        nomatch hrolledBack.symm.trans hfailed.2
      refine (proven_restoreCommitted _ _ _).ensures_bind hproven hdies fun recordOk w h => ?_
      exact (Keeps.when (proven_leaveUncertain committed)).ensures_bind h hdies
        fun _ w h => ensures_pure (.inl h)
    · exact ensures_bind ((downgraded_leaveUncertain committed).mono
        (fun _ w h => ensures_pure (.inr h)) fun _ h => h)

/-- A record that was uncertain, or that was not there, is not put back as committed. -/
theorem downgraded_restoreCommitted {wasUncertain : Bool} {previous : Option DesiredSettings}
    (hwas : wasUncertain = true ∨ previous = none) (captured : Option LinuxDaemonStateRecord) :
    Ensures (restoreCommittedRecord wasUncertain previous captured) (fun _ => Downgraded)
      (fun _ => True) w := by
  unfold restoreCommittedRecord linuxFailedOperationRecord
  cases wasUncertain with
  | true =>
    cases captured with
    | none => exact ensures_storeRecord trivial fun ok => downgraded_store w (by simp) ok
    | some record =>
      exact ensures_storeRecord trivial fun ok =>
        downgraded_store w (uncertain_ne_active _ rfl) ok
  | false =>
    obtain rfl : previous = none := hwas.resolve_left (by decide)
    exact ensures_stateRemove trivial fun ok => downgraded_remove w ok

/-- A Reset reached the hardware, could not remove the record and could not roll the
hardware back. -/
def ResetLost (actions : List DaemonAction) : Prop :=
  (∃ result : LinuxMutationResult, .mutated result ∈ actions ∧ result.success = true) ∧
    .stateRemoved false ∈ actions ∧ .rolledBack false ∈ actions

theorem ResetLost.log {actions : List DaemonAction} (h : ResetLost actions)
    (action : DaemonAction) : ResetLost (actions ++ [action]) := by
  obtain ⟨⟨result, hmutated, hsuccess⟩, hremoved, hrolledBack⟩ := h
  exact ⟨⟨result, List.mem_append_left _ hmutated, hsuccess⟩, List.mem_append_left _ hremoved,
    List.mem_append_left _ hrolledBack⟩

theorem resetLost_bookkeeping : Bookkeeping fun w => ResetLost w.trace :=
  bookkeeping_of_state fun _ actions => ResetLost actions

theorem resetLost_stores : StoreKeeping (fun _ => True) fun w => ResetLost w.trace where
  store w record ok _ h := by cases ok <;> exact h.log _
  remove w ok h := by cases ok <;> exact h.log _
  discard _ _ h := h

/-- How a Reset ends: durably, unless it is lost over a settled intent. -/
abbrev EndsReset (wasUncertain : Bool) (previous : Option DesiredSettings) (committed : Bool)
    (w : DaemonWorld) : Prop :=
  EndsOrCommits committed w ∨
    (committed = false ∧ wasUncertain = false ∧ previous ≠ none ∧ ResetLost w.trace)

theorem durable_settleReset (wasUncertain : Bool) (previous : Option DesiredSettings)
    (captured : Option LinuxDaemonStateRecord) (mutation : LinuxMutationResult)
    (hmutated : .mutated mutation ∈ w.trace)
    (h : Proven w ∨ (mutation.success = false ∧
      (mutation.rollbackSucceeded || !mutation.anyWrite) = false)) :
    Ensures (settleReset wasUncertain previous captured mutation)
      (EndsReset wasUncertain previous) (fun _ => True) w := by
  have hdies : ∀ w, Proven w → True := fun _ _ => trivial
  unfold settleReset
  split
  · rename_i hsuccess
    have hproven : Proven w := h.resolve_right fun hfailed =>
      nomatch hsuccess.symm.trans hfailed.1
    refine ensures_bind (ensures_stateRemove trivial fun removed => ?_)
    have hremoved := proven_stores.remove w removed hproven
    cases removed with
    | true => exact ensures_bind (ensures_modify (ensures_pure (.inl (hremoved.log rfl))))
    | false =>
      refine ensures_bind (ensures_restoreSnapshot trivial fun rollbackOk => ?_)
      cases rollbackOk with
      | true =>
        refine (proven_restoreCommitted _ _ _).ensures_bind hremoved.rolledBack hdies
          fun recordOk w h => ?_
        exact (Keeps.when proven_bookkeeping.enterUncertainState).ensures_bind h hdies
          fun _ w h => ensures_pure (.inl (.inl h))
      | false =>
        by_cases hwas : wasUncertain = true ∨ previous = none
        · refine ensures_bind ((downgraded_restoreCommitted hwas captured).mono
            (fun recordOk w h => ?_) fun _ h => h)
          exact (Keeps.when downgraded_bookkeeping.enterUncertainState).ensures_bind h
            (fun _ _ => trivial) fun _ w h => ensures_pure (.inl (.inr h))
        · obtain ⟨hsettled, hprevious⟩ := not_or.mp hwas
          have hlost : ResetLost ((w.removeState false).log (.rolledBack false)).trace :=
            ⟨⟨mutation, List.mem_append_left _ (List.mem_append_left _ hmutated), hsuccess⟩,
              List.mem_append_left _ (List.mem_append_right _ (List.mem_singleton_self _)),
              List.mem_append_right _ (List.mem_singleton_self _)⟩
          have hkeep : Keeps (fun w => ResetLost w.trace) (fun w => ResetLost w.trace)
              (restoreCommittedRecord wasUncertain previous captured) :=
            resetLost_stores.restoreCommittedRecord (fun _ _ => trivial) fun _ _ _ => trivial
          refine hkeep.ensures_bind hlost (fun _ _ => trivial) fun recordOk w h => ?_
          exact (Keeps.when resetLost_bookkeeping.enterUncertainState).ensures_bind h
            (fun _ _ => trivial) fun _ w h =>
              ensures_pure (.inr ⟨rfl, Bool.eq_false_iff.mpr hsettled, hprevious, h⟩)
  · split
    · exact ensures_bind ((downgraded_leaveUncertain {}).mono
        (fun _ w h => ensures_pure (.inl (.inr h))) fun _ h => h)
    · rename_i hfailure hrolledBack
      have hproven : Proven w := h.resolve_right fun hfailed => by
        simp [hfailed.2] at hrolledBack
      refine (proven_restoreCommitted _ _ _).ensures_bind hproven hdies fun recordOk w h => ?_
      exact (Keeps.when (proven_leaveUncertain {})).ensures_bind h hdies
        fun _ w h => ensures_pure (.inl (.inl h))

theorem durable_failAutomaticRestore (committed : DesiredSettings) :
    Ensures (failAutomaticRestore committed) (fun _ => EndsDurably) (fun _ => True) w := by
  have hdies : ∀ w, Downgraded w → True := fun _ _ => trivial
  refine ensures_bind (ensures_storeRecord trivial fun stored => ?_)
  refine downgraded_bookkeeping.enterUncertainState.ensures_bind
    (downgraded_store w (uncertain_ne_active _ rfl) stored) hdies fun _ w h => ?_
  exact downgraded_bookkeeping.noteAutomaticFailure.ensures_bind h hdies
    fun _ w h => ensures_pure (.inr h)

theorem durable_settleAutomaticRestore (committed : DesiredSettings)
    (mutation : LinuxMutationResult) (h : mutation.success = true → Proven w) :
    Ensures (settleAutomaticRestore committed mutation) (fun _ => EndsDurably) (fun _ => True)
      w := by
  unfold settleAutomaticRestore
  split
  · exact durable_failAutomaticRestore committed
  rename_i hsuccess
  refine ensures_bind (ensures_storeRecord trivial fun stored => ?_)
  have hstored := proven_stores.store w ⟨.active, committed, 0, .none⟩ stored trivial
    (h (by simpa using hsuccess))
  split
  · exact ensures_bind (ensures_restoreSnapshot trivial fun _ =>
      durable_failAutomaticRestore committed)
  · refine ensures_bind (ensures_modify ?_)
    exact (Keeps.when proven_bookkeeping.retire).ensures_bind
      (show Proven (DaemonWorld.setActive _ _) from hstored) (fun _ _ => trivial)
      fun _ w h => ensures_pure (.inl h)

theorem proven_success : Keeps Proven (fun _ => True) autoRestoreNoteExplicitSuccess :=
  keeps_explicitSuccess fun w cleared h _ => ⟨trivial,
    Proven.log (w := (w.setGuard cleared).storeGuard) h rfl⟩

theorem Fresh.endsDurably (h : Fresh w) : EndsDurably w := .inl h.proven

theorem durable_apply (d : DesiredSettings) (operationId : UInt64) (h : Fresh w) :
    Ensures (handleApply d operationId) (fun _ => EndsDurably) (fun _ => True) w := by
  refine fresh_stores.handleApply fresh_bookkeeping (fun _ _ => trivial)
    (fun _ h => h.endsDurably) (fun _ _ => trivial) h fun captured w h => ?_
  refine ensures_bind (ensures_modify ?_)
  have hissued : Fresh (w.log (.explicitWrite d)) := h.log rfl
  refine ensures_bind (ensures_mutateHardware trivial fun mutation => ?_)
  refine ensures_bind ((durable_settleApply _ _ _ _ _ mutation
    (proven_or_unproven hissued mutation)).mono (fun committed w h => ?_) fun _ h => h)
  cases committed with
  | true =>
    exact (proven_bookkeeping.finishApply (fun _ _ h => h) (fun _ _ => trivial) proven_success d _
      w h).mono (fun _ _ h => .inl h) fun _ h => h
  | false => exact ensures_pure h

/-- A Reset that took a settled intent for committed again, although the hardware kept
what the Reset wrote. -/
def LosesReset (before : DaemonMemory) (actions : List DaemonAction) : Prop :=
  before.stateUncertain = false ∧ before.activeDesired ≠ none ∧ ResetLost actions

theorem durable_reset (operationId : UInt64) (h : Fresh w) :
    Ensures (handleReset operationId)
      (fun _ w' => EndsDurably w' ∨ LosesReset w.memory w'.trace) (fun _ => True) w := by
  refine fresh_stores.handleReset (fun _ _ => trivial) (fun _ h => .inl h.endsDurably)
    (fun _ _ => trivial) h fun captured w' h => ?_
  refine ensures_bind (ensures_modify ?_)
  have hissued : Fresh (w'.log (.explicitWrite {})) := h.log rfl
  refine ensures_bind (ensures_mutateHardware trivial fun mutation => ?_)
  refine ensures_bind ((durable_settleReset _ _ _ mutation
    (List.mem_append_right _ (List.mem_singleton_self _))
    (proven_or_unproven hissued mutation)).mono (fun committed w' h => ?_) fun _ h => h)
  cases committed with
  | true =>
    have hproven : Proven w' := h.resolve_right fun hlost => nomatch hlost.1
    exact (proven_bookkeeping.finishReset (fun _ _ h => h) (fun _ _ => trivial) proven_success
      w' hproven).mono (fun _ _ h => .inl (.inl h)) fun _ h => h
  | false => exact ensures_pure (h.imp_right And.right)

theorem durable_automaticRestore (trigger : LinuxAutoRestoreTrigger) (intent : DesiredSettings)
    (h : Fresh w) :
    Ensures (daemonAutomaticRestoreWrite trigger intent) (fun _ => EndsDurably) (fun _ => True)
      w := by
  refine ensures_automaticRestoreWrite (I := Fresh) (J := Fresh) ⟨?_, ?_, ?_⟩ ⟨?_, ?_⟩
    fresh_bookkeeping fresh_bookkeeping (fun _ h => h.endsDurably) (fun _ _ => trivial) intent h
  · exact fun _ _ h => h
  · exact fun _ _ _ h _ => h
  · exact fun _ _ _ h _ => ⟨trivial, h⟩
  · exact fun _ h => h.endsDurably
  · intro w request committed h _
    have hissued : Fresh (w.log (.automaticWrite trigger request)) := h.log rfl
    exact ensures_bind (ensures_mutateHardware trivial fun mutation =>
      durable_settleAutomaticRestore committed mutation fun hsuccess =>
        hissued.mutated (.inl hsuccess))

theorem durable_resumeRestore (h : Fresh w) :
    Ensures daemonHandleResumeRestore (fun _ => EndsDurably) (fun _ => True) w := by
  refine ensures_bind (ensures_get ?_)
  split
  · exact ensures_pure h.endsDurably
  · exact ensures_bind ((durable_automaticRestore .resume _ h).mono
      (fun _ _ h => ensures_pure h) fun _ h => h)

/-- A task other than a Reset ends durably. -/
theorem durable_task (task : DaemonTask) (h : Fresh w) :
    Ensures task.program (fun _ w' => EndsDurably w' ∨
      ((∃ operationId, task = .reset operationId) ∧ LosesReset w.memory w'.trace))
      (fun _ => True) w := by
  have hends : ∀ {m : DaemonM Unit}, Ensures m (fun _ => EndsDurably) (fun _ => True) w →
      Ensures m (fun _ w' => EndsDurably w' ∨
        ((∃ operationId, task = .reset operationId) ∧ LosesReset w.memory w'.trace))
        (fun _ => True) w :=
    fun hm => hm.mono (fun _ _ h => .inl h) fun _ h => h
  have hkept : ∀ {m : DaemonM Unit}, Keeps Fresh Fresh m →
      Ensures m (fun _ => EndsDurably) (fun _ => True) w :=
    fun hm => (hm w h).mono (fun _ _ h => h.endsDurably) fun _ _ => trivial
  cases task with
  | apply desired operationId => exact hends (durable_apply desired operationId h)
  | reset operationId =>
    exact (durable_reset operationId h).mono
      (fun _ _ h => h.imp_right fun hlost => ⟨⟨operationId, rfl⟩, hlost⟩) fun _ h => h
  | resumeRestore => exact hends (durable_resumeRestore h)
  | setStartupPolicy record =>
    exact hends (hkept (PolicyKeeping.setStartupPolicy ⟨fun _ _ h => h, fun _ _ h => h⟩ record))
  | retryBackend => exact hends (hkept fresh_bookkeeping.retryBackendForRead)
  | deferredHandback => exact hends (hkept fresh_bookkeeping.resumeDeferredHandback)
  | fanLockout =>
    exact hends (hkept (fresh_stores.fanWorkerLockout fresh_bookkeeping fun _ _ => trivial))

/-! ### The start -/

/-- No program but the one that sets it changes the startup policy. -/
theorem policy_automaticRestore (policy : LinuxDaemonStartupRecord)
    (trigger : LinuxAutoRestoreTrigger) (intent : DesiredSettings) :
    Keeps (fun w => w.memory.startupPolicy = policy) (fun _ => True)
      (daemonAutomaticRestoreWrite trigger intent) := by
  have hb : Bookkeeping fun w => w.memory.startupPolicy = policy :=
    { fan := fun _ _ h => h, fanMarker := fun _ _ h => h, gpuReady := fun _ _ h => h,
      uncertain := fun _ h => h, lockout := fun _ _ h => h, guardStored := fun _ h => h }
  have hr : RecordKeeping fun w => w.memory.startupPolicy = policy :=
    { state := fun _ _ h => h, active := fun _ _ h => h, log := fun _ _ _ h => h }
  exact hr.automaticRestoreWrite hb ⟨fun _ _ h => h, fun _ _ _ h _ => h,
    fun _ _ _ h _ => ⟨trivial, h⟩⟩ hb (fun _ _ => trivial) (fun _ h => h) (fun _ _ h _ => h) intent

/-- What the start reads of the state file has no consequence under another policy. -/
theorem durable_restoreLast_idle (h : EndsDurably w)
    (hmode : w.memory.startupPolicy.mode ≠ .restoreLast) :
    Ensures restoreLastAtStart (fun _ => EndsDurably) (fun _ => True) w := by
  have hs : StoreKeeping (fun _ => False)
      fun w => EndsDurably w ∧ w.memory.startupPolicy.mode ≠ .restoreLast :=
    { store := fun _ _ _ h _ => h.elim
      remove := fun w ok h => ⟨.inr (downgraded_remove w ok), by cases ok <;> exact h.2⟩
      discard := fun _ _ h => ⟨.inr fun _ => notActive_absent, h.2⟩ }
  refine ensures_bind ((hs.stateLoad w ⟨h, hmode⟩).mono (fun result w h => ?_) fun _ _ => trivial)
  cases result with
  | missing => exact ensures_pure h.1
  | removed => exact ensures_pure h.1
  | ioError => exact ensures_modify h.1
  | loaded saved =>
    refine ensures_bind (ensures_get ?_)
    rw [if_pos h.2]
    exact ensures_pure h.1

theorem durable_restoreLastAtStart (h : Fresh w) :
    Ensures restoreLastAtStart (fun _ => EndsDurably) (fun _ => True) w := by
  refine ensures_bind ((fresh_stores.stateLoad w h).mono (fun result w h => ?_) fun _ _ => trivial)
  cases result with
  | missing => exact ensures_pure h.endsDurably
  | removed => exact ensures_pure h.endsDurably
  | ioError => exact ensures_modify h.endsDurably
  | loaded saved =>
    refine ensures_bind (ensures_get ?_)
    split
    · exact ensures_pure h.endsDurably
    split
    · exact ensures_modify h.endsDurably
    · exact ensures_bind ((durable_automaticRestore .bootRestoreLast _ h).mono
        (fun _ _ h => ensures_pure h) fun _ h => h)

/-- A start issues one unattended write at most. -/
theorem durable_run (reads : StartReads) (h : Fresh w) :
    Ensures (linuxDaemonRun reads) (fun _ => EndsDurably) (fun _ => True) w := by
  refine fresh_bookkeeping.run (fun _ _ => trivial) trivial (fun _ => h) (fun w h => ?_)
    fun _ _ => trivial
  generalize loadStartupPolicyAtBoot w.disk.startup reads.policyReadable = policy
  have hset : Fresh (w.setPolicy policy) := h
  refine ensures_bind (ensures_get ?_)
  unfold CrashM.when
  split
  · rename_i hprofile
    have hkept := (durable_automaticRestore .bootProfile policy.desired hset).and
      (policy_automaticRestore policy .bootProfile policy.desired _ rfl)
    refine ensures_bind (hkept.mono (fun _ w h => ensures_pure ?_) fun _ _ => trivial)
    refine durable_restoreLast_idle h.1 ?_
    have hmode : policy.mode = .profile := eq_of_beq hprofile
    rw [h.2, hmode]
    decide
  · exact ensures_pure (durable_restoreLastAtStart hset)

/-! ### No replay under a profile policy -/

def DaemonAction.isReplay : DaemonAction → Bool
  | .automaticWrite trigger _ => trigger != .bootProfile
  | _ => false

/-- No committed intent has been written again. -/
def NoReplay (actions : List DaemonAction) : Prop := ∀ action ∈ actions, action.isReplay = false

theorem isReplay_of_not_isAutomaticWrite {action : DaemonAction}
    (h : action.isAutomaticWrite = false) : action.isReplay = false := by
  cases action <;> first | rfl | cases h

theorem Untouched.noReplay {actions : List DaemonAction} (h : Untouched actions) :
    NoReplay actions :=
  fun action hmem => isReplay_of_not_isAutomaticWrite (h action hmem)

theorem NoReplay.log {actions : List DaemonAction} (h : NoReplay actions) {action : DaemonAction}
    (ha : action.isReplay = false) : NoReplay (actions ++ [action]) := by
  intro a hmem
  rcases List.mem_append.mp hmem with hmem | hmem
  · exact h a hmem
  · rw [List.mem_singleton.mp hmem]
    exact ha

/-- A start that applies a profile has nothing else to write. -/
structure StartsProfile (policy : LinuxDaemonStartupRecord) (w : DaemonWorld) : Prop where
  noReplay : NoReplay w.trace
  policy_eq : w.memory.startupPolicy = policy

theorem startsProfile_bookkeeping (policy : LinuxDaemonStartupRecord) :
    Bookkeeping (StartsProfile policy) where
  fan _ _ h := ⟨h.noReplay, h.policy_eq⟩
  fanMarker _ _ h := ⟨h.noReplay, h.policy_eq⟩
  gpuReady _ _ h := ⟨h.noReplay, h.policy_eq⟩
  uncertain _ h := ⟨h.noReplay, h.policy_eq⟩
  lockout _ _ h := ⟨h.noReplay, h.policy_eq⟩
  guardStored _ h := ⟨h.noReplay, h.policy_eq⟩

theorem startsProfile_records (policy : LinuxDaemonStartupRecord) :
    RecordKeeping (StartsProfile policy) where
  state _ _ h := ⟨h.noReplay, h.policy_eq⟩
  active _ _ h := ⟨h.noReplay, h.policy_eq⟩
  log _ _ hrec h := ⟨h.noReplay.log (isReplay_of_not_isAutomaticWrite
    (untouched_of_isRecordKeeping hrec)), h.policy_eq⟩

theorem startsProfile_restore (policy : LinuxDaemonStartupRecord) (intent : DesiredSettings) :
    Keeps (StartsProfile policy) (StartsProfile policy)
      (daemonAutomaticRestoreWrite .bootProfile intent) :=
  (startsProfile_records policy).automaticRestoreWrite (J := StartsProfile policy)
    (startsProfile_bookkeeping policy)
    ⟨fun _ _ h => ⟨h.noReplay, h.policy_eq⟩, fun _ _ _ h _ => h,
      fun _ _ _ h _ => ⟨⟨h.noReplay, h.policy_eq⟩, ⟨h.noReplay, h.policy_eq⟩⟩⟩
    (startsProfile_bookkeeping policy) (fun _ h => h) (fun _ h => h)
    (fun _ _ h _ => ⟨h.noReplay.log rfl, h.policy_eq⟩) intent

theorem startsProfile_restoreLastAtStart {policy : LinuxDaemonStartupRecord}
    (hmode : policy.mode = .profile) :
    Keeps (StartsProfile policy) (StartsProfile policy) restoreLastAtStart := by
  refine (startsProfile_records policy).settling.stores.stateLoad.bind fun result => ?_
  cases result with
  | missing => exact keeps_pure _
  | removed => exact keeps_pure _
  | ioError => exact keeps_modify fun w h => ⟨h.noReplay, h.policy_eq⟩
  | loaded saved =>
    refine keeps_get_bind fun w h => ?_
    have hother : w.memory.startupPolicy.mode ≠ .restoreLast := by
      rw [h.policy_eq, hmode]
      decide
    rw [if_pos hother]
    exact ensures_pure h

theorem noReplay_run {startup : DaemonFile LinuxDaemonStartupRecord} {reads : StartReads}
    (hmode : (loadStartupPolicyAtBoot startup reads.policyReadable).mode = .profile)
    (h : NoReplay w.trace) (hstartup : w.disk.startup = startup) :
    Ensures (linuxDaemonRun reads) (fun _ w => NoReplay w.trace) (fun w => NoReplay w.trace) w := by
  have hb : Bookkeeping fun w => NoReplay w.trace ∧ w.disk.startup = startup :=
    { fan := fun _ _ h => h, fanMarker := fun _ _ h => h, gpuReady := fun _ _ h => h,
      uncertain := fun _ h => h, lockout := fun _ _ h => h, guardStored := fun _ h => h }
  refine hb.run (fun _ h => h.1) h (fun _ => ⟨h, hstartup⟩) (fun w h => ?_) fun _ h => h
  rw [h.2]
  generalize loadStartupPolicyAtBoot startup reads.policyReadable = policy at hmode
  have hset : StartsProfile policy (w.setPolicy policy) := ⟨h.1, rfl⟩
  have hprofile : Keeps (StartsProfile policy) (StartsProfile policy) applyStartupProfilePolicy :=
    keeps_get.bind fun _ =>
      Keeps.when ((startsProfile_restore policy _).bind fun _ => keeps_pure _)
  exact (hprofile _ hset).mono (fun _ w h => (startsProfile_restoreLastAtStart hmode w h).mono
    (fun _ _ h => h.noReplay) fun _ h => h.noReplay) fun _ h => h.noReplay

end Operations

/-! ## Along the machine -/

theorem ProfileDue.noReplay {m : DaemonMachine} {e : DaemonEvent} (h : ProfileDue m e) :
    NoReplay (daemonStep m e).2 := by
  cases e with
  | start reads answers =>
    obtain ⟨hp, hmode, _⟩ := h
    have hbefore : Holds (fun w => NoReplay w.trace) (fun _ actions => NoReplay actions) (m, []) :=
      ⟨fun _ hmem => absurd hmem List.not_mem_nil, fun _ hp' => nomatch hp.symm.trans hp'⟩
    exact (hbefore.start answers (fun _ h => h) (fun _ h => h)
      fun _ => noReplay_run hmode hbefore.files rfl).files
  | boot bootId => exact h.elim
  | serve task answers => exact h.elim
  | stop answers => exact h.elim
  | kill => exact h.elim
  | damage file => exact h.elim

/-- A Reset that is lost: the daemon held a settled intent, the hardware was reset, and
neither the record was removed nor the hardware rolled back. -/
def LostReset (m : DaemonMachine) (e : DaemonEvent) : Prop :=
  (∃ operationId answers, e = .serve (.reset operationId) answers) ∧
    ∃ memory, m.process = some memory ∧ LosesReset memory (daemonStep m e).2

/-- The daemon serves on, uncertain because of what this event wrote, after a last call
on the state file that succeeded. -/
def EndsUncertain (m : DaemonMachine) (e : DaemonEvent) : Prop :=
  (∃ memory, (daemonStep m e).1.process = some memory ∧ memory.stateUncertain = true) ∧
    UnprovenWrite (daemonStep m e).2 ∧ recordLanded (daemonStep m e).2 = true

theorem EndsUncertain.process {m : DaemonMachine} {e : DaemonEvent} (h : EndsUncertain m e) :
    (daemonStep m e).1.process ≠ none := by
  obtain ⟨⟨memory, hp, _⟩, _⟩ := h
  exact hp.trans_ne (Option.some_ne_none memory)

/-- What an event that goes on serving leaves behind. -/
theorem endsDurably_step {m : DaemonMachine} {e : DaemonEvent} (hlost : ¬ LostReset m e)
    {memory : DaemonMemory} (hp : (daemonStep m e).1.process = some memory) :
    EndsDurably { (daemonStep m e).1.world memory with trace := (daemonStep m e).2 } := by
  have hidle : EndsDurably ((daemonStep m e).1.world memory) :=
    Fresh.endsDurably fun _ hmem => absurd hmem List.not_mem_nil
  have hbefore : Holds (fun w => m.process = some w.memory ∧ w.trace = []) (fun _ _ => True)
      (m, []) :=
    ⟨trivial, fun _ hp => ⟨hp, rfl⟩⟩
  have hfresh : ∀ w : DaemonWorld, w.trace = [] → Fresh w := by
    intro w htrace action hmem
    rw [htrace] at hmem
    exact absurd hmem List.not_mem_nil
  cases e with
  | boot bootId => exact hidle
  | kill => exact hidle
  | damage file => exact hidle
  | stop answers => exact nomatch hp
  | start reads answers =>
    exact (hbefore.start answers (fun w h => (hfresh w h.2).endsDurably)
      (fun _ _ => trivial) fun _ => durable_run reads (hfresh _ rfl)).process memory hp
  | serve task answers =>
    have hserved : Holds (fun w' => EndsDurably w' ∨ ((∃ operationId, task = .reset operationId) ∧
        ∃ memory, m.process = some memory ∧ LosesReset memory w'.trace)) (fun _ _ => True)
        (m.serve task.program answers) :=
      hbefore.serve answers (fun _ _ => trivial) fun w h => (durable_task task (hfresh w h.2)).mono
        (fun _ _ h' => h'.imp_right fun hreset => ⟨hreset.1, w.memory, h.1, hreset.2⟩) fun _ h => h
    refine (hserved.process memory hp).resolve_right ?_
    rintro ⟨⟨operationId, rfl⟩, hloses⟩
    exact hlost ⟨⟨operationId, answers, rfl⟩, hloses⟩

theorem notActive_of_endsUncertain {m : DaemonMachine} {e : DaemonEvent}
    (hlost : ¬ LostReset m e) (h : EndsUncertain m e) :
    NotActive (daemonStep m e).1.disk.state := by
  obtain ⟨⟨memory, hp, _⟩, hwritten, hlanded⟩ := h
  exact (endsDurably_step hlost hp).resolve_left (fun hproven => hproven hwritten) hlanded

/-! ## Runs -/

/-- What uncertainty has to survive. -/
structure UncertaintyDurable (ev : Nat → DaemonEvent) : Prop where
  /-- An operation that ends uncertain leaves no committed record. -/
  stored : ∀ n, EndsUncertain (linuxDaemon.stateAt ev n) (ev n) →
    storedState (linuxDaemon.stateAt ev (n + 1)).disk.state ≠ some .active
  /-- Nothing is replayed after it until an explicit operation commits or a start applies
  a profile. -/
  replayed : ∀ n m, n < m → EndsUncertain (linuxDaemon.stateAt ev n) (ev n) →
    (∀ k, n < k → k < m →
      .committed ∉ daemonOutput ev k ∧ ¬ ProfileDue (linuxDaemon.stateAt ev k) (ev k)) →
    NoReplay (daemonOutput ev m)

theorem EndsUncertain.unsettledMachine {m : DaemonMachine} {e : DaemonEvent}
    (hlost : ¬ LostReset m e) (h : EndsUncertain m e) : UnsettledMachine (daemonStep m e).1 := by
  refine ⟨notActive_of_endsUncertain hlost h, fun memory hp => ?_⟩
  obtain ⟨⟨memory', hp', huncertain⟩, _⟩ := h
  obtain rfl : memory' = memory := Option.some.inj (hp'.symm.trans hp)
  exact .inl huncertain

/-- **Uncertainty is durable in every run in which no Reset is lost.** -/
theorem uncertainty_durable (ev : Nat → DaemonEvent)
    (hlost : ∀ n, ¬ LostReset (linuxDaemon.stateAt ev n) (ev n)) : UncertaintyDurable ev where
  stored n h := notActive_of_endsUncertain (hlost n) h
  replayed n m hnm h hopen := by
    have hmachine := unsettledMachine_until hnm (h.unsettledMachine (hlost n))
      (fun k hnk hkm => (hopen k hnk hkm).1) fun k hnk hkm => (hopen k hnk hkm).2
    by_cases hdue : ProfileDue (linuxDaemon.stateAt ev m) (ev m)
    · exact hdue.noReplay
    · exact (hmachine.step hdue).1.noReplay

/-! ## An operation that goes wrong

An intent is committed, `operation` is served, and the daemon is killed and started
again. -/

def wrongOperationEvents (operation : DaemonEvent) : List DaemonEvent :=
  [.boot ['a'], answeredStart true,
    .serve (.apply { hasGpuOffset := true, gpuOffsetMHz := 100 } 1) (List.replicate 5 {}),
    operation, .kill, answeredStart true]

def wrongOperationRun (operation : DaemonEvent) (n : Nat) : DaemonEvent :=
  (wrongOperationEvents operation).getD n .kill

/-- An Apply that fails and does not roll back. -/
def failedApply : DaemonEvent :=
  .serve (.apply { hasGpuOffset := true, gpuOffsetMHz := 150 } 2)
    [{}, {}, {}, { mutation := { success := false } }, {}]

/-- A Reset whose record is not removed and whose hardware does not roll back. -/
def lostReset : DaemonEvent :=
  .serve (.reset 2) [{}, {}, {}, {}, { ok := false }, { ok := false }, {}]

theorem failedApply_durable : UncertaintyDurable (wrongOperationRun failedApply) := by
  refine uncertainty_durable (wrongOperationRun failedApply) fun n hlost => ?_
  obtain ⟨⟨operationId, answers, hreset⟩, _⟩ := hlost
  rcases Nat.lt_or_ge n 6 with hn | hn
  · interval_cases n <;> cases hreset
  · have hnone : (wrongOperationEvents failedApply)[n]? = none := List.getElem?_eq_none hn
    rw [wrongOperationRun, List.getD_eq_getElem?_getD, hnone] at hreset
    cases hreset

/-- The lost Reset leaves the old intent as committed, and the daemon uncertain. -/
theorem lostReset_not_durable : ¬ UncertaintyDurable (wrongOperationRun lostReset) := by
  intro h
  have hactive : storedState
      (linuxDaemon.stateAt (wrongOperationRun lostReset) (3 + 1)).disk.state = some .active := by
    decide +kernel
  refine h.stored 3 ?_ hactive
  have hserving : (daemonStep (linuxDaemon.stateAt (wrongOperationRun lostReset) 3)
      (wrongOperationRun lostReset 3)).1.process.any (fun memory => memory.stateUncertain) =
        true := by
    decide +kernel
  obtain ⟨memory, hp, huncertain⟩ := (Option.any_eq_true _ _).mp hserving
  refine ⟨⟨memory, hp, huncertain⟩, ⟨{}, ?_, ?_⟩, ?_⟩
  · decide +kernel
  · rw [if_pos rfl]
    decide +kernel
  · decide +kernel

end GreenCurve
