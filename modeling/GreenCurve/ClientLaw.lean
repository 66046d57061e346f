import GreenCurve.DaemonClient
import GreenCurve.DaemonFrame

/-! # What the client may report

One mutation reaches the daemon at most once, under an id of its own, so from the moment the
daemon is done with it nothing changes any more in what it knows of that id: whether it wrote
the hardware, whether it committed, and the record it answers queries with.  The client's
connections carry this knowledge and the client reports it, with one exception.  The transport
calls every answer that is not `SERVICE_STATUS_OK` a failure, and takes the answer that the
operation failed for no answer at all. -/

namespace GreenCurve

open CrashM

/-! ## One explicit write -/

/-- The log holds so many explicit writes. -/
def Issued (writes : Nat) (w : DaemonWorld) : Prop :=
  w.trace.countP DaemonAction.isExplicitWrite = writes

section Issued
variable {writes : Nat} {w : DaemonWorld}

theorem Issued.log (h : Issued writes w) {action : DaemonAction}
    (ha : action.isExplicitWrite = false) : Issued writes (w.log action) := by
  show (w.trace ++ [action]).countP DaemonAction.isExplicitWrite = writes
  rw [List.countP_append, List.countP_singleton, ha]
  exact h

theorem Issued.issue (h : Issued writes w) (d : DesiredSettings) :
    Issued (writes + 1) (w.log (.explicitWrite d)) := by
  show (w.trace ++ [DaemonAction.explicitWrite d]).countP DaemonAction.isExplicitWrite = writes + 1
  rw [List.countP_append, h]
  rfl

theorem issued_bookkeeping (writes : Nat) : Bookkeeping (Issued writes) where
  fan _ _ h := h
  fanMarker _ _ h := h
  gpuReady _ _ h := h
  uncertain _ h := h
  lockout _ _ h := h
  guardStored _ h := h

theorem issued_settling (writes : Nat) : SettleKeeping (Issued writes) where
  state _ _ h := h
  log w action ha h := by
    refine Issued.log h ?_
    cases action <;> first | rfl | cases ha

theorem issued_explicitSuccess (writes : Nat) {C : DaemonWorld → Prop}
    (hC : ∀ w, Issued writes w → C w) : Keeps (Issued writes) C autoRestoreNoteExplicitSuccess :=
  keeps_explicitSuccess fun w cleared h _ =>
    ⟨hC (w.setGuard cleared) h, Issued.log (w := (w.setGuard cleared).storeGuard) h rfl⟩

/-- At most one explicit write so far. -/
def IssuedOnce (w : DaemonWorld) : Prop := w.trace.countP DaemonAction.isExplicitWrite ≤ 1

theorem Issued.once (h : Issued 1 w) : IssuedOnce w := Nat.le_of_eq h

theorem Issued.none (h : Issued 0 w) : IssuedOnce w := (Nat.le_of_eq h).trans (Nat.zero_le 1)

theorem handleApply_issuedOnce (d : DesiredSettings) (operationId : UInt64) (h : Issued 0 w) :
    Ensures (handleApply d operationId) (fun _ => IssuedOnce) IssuedOnce w := by
  refine (issued_settling 0).stores.handleApply (issued_bookkeeping 0) (fun _ _ => trivial)
    (fun _ h => h.none) (fun _ h => h.none) h fun captured w' h' => ?_
  exact ((issued_settling 1).performApply (issued_bookkeeping 1) (fun _ _ h => h)
    (fun _ _ h => h.log rfl) (fun _ h => h.once) (issued_explicitSuccess 1 fun _ h => h.once)
    (h'.issue d)).mono (fun _ _ h => h.once) fun _ h => h

theorem handleReset_issuedOnce (operationId : UInt64) (h : Issued 0 w) :
    Ensures (handleReset operationId) (fun _ => IssuedOnce) IssuedOnce w := by
  refine (issued_settling 0).stores.handleReset (fun _ _ => trivial)
    (fun _ h => h.none) (fun _ h => h.none) h fun captured w' h' => ?_
  exact ((issued_settling 1).performReset (issued_bookkeeping 1) (fun _ _ h => h)
    (fun _ _ h => h.log rfl) (fun _ h => h.once) (issued_explicitSuccess 1 fun _ h => h.once)
    (h'.issue {})).mono (fun _ _ h => h.once) fun _ h => h

/-- **An Apply or a Reset issues at most one hardware operation.** -/
theorem serve_issuedOnce (m : DaemonMachine) {task : DaemonTask}
    (htask : task.operationId?.isSome = true) (answers : List Answer) :
    (m.serve task.program answers).2.countP DaemonAction.isExplicitWrite ≤ 1 := by
  have hbefore : Holds (Issued 0)
      (fun _ actions => actions.countP DaemonAction.isExplicitWrite ≤ 1) (m, []) :=
    ⟨Nat.zero_le 1, fun _ _ => rfl⟩
  have hafter : Holds IssuedOnce
      (fun _ actions => actions.countP DaemonAction.isExplicitWrite ≤ 1)
      (m.serve task.program answers) := ?_
  · exact hafter.files
  refine hbefore.serve answers (fun _ h => h) fun w h => ?_
  cases task with
  | apply d operationId => exact handleApply_issuedOnce d operationId h
  | reset operationId => exact handleReset_issuedOnce operationId h
  | _ => cases htask

end Issued

/-! ## What the daemon knows of an operation -/

/-- The daemon has not taken up an operation. -/
structure Unseen (s : DaemonServer) (id : UInt64) : Prop where
  record : s.tracker.All id fun _ => False
  hardware : id ∉ s.hardware
  committed : id ∉ s.committed

/-- The daemon wrote the hardware at most once for an operation, and its records say whether
the operation committed. -/
structure Accounted (s : DaemonServer) (id : UInt64) : Prop where
  once : s.hardware.count id ≤ 1
  record : s.tracker.All id fun record =>
    record.responseStatus = (if id ∈ s.committed then .ok else .error) ∧
      record.state = if id ∈ s.committed then .succeeded else .failed

/-- Nothing happened to an operation. -/
structure SameFor (id : UInt64) (s s' : DaemonServer) : Prop where
  hardware : s'.hardware.count id = s.hardware.count id
  committed : id ∈ s'.committed ↔ id ∈ s.committed
  record : ∀ p, s.tracker.All id p → s'.tracker.All id p

/-- An answer to the mutation tells whether it committed. -/
def Truthful (s : DaemonServer) (id : UInt64) (r : ServiceResponse) : Prop :=
  r.status = .ok ↔ id ∈ s.committed

/-- An answer to a query is a success only if the operation is one. -/
structure Faithful (s : DaemonServer) (id : UInt64) (r : ServiceResponse) : Prop where
  state : r.status = .ok → r.operationState = .succeeded
  committed : r.status = .ok → id ∈ s.committed
  status : r.operationState = .succeeded → r.status = .ok

section Server
variable {s s' : DaemonServer} {id other : UInt64} {r : ServiceResponse} {h : Handling}

theorem Unseen.accounted (hs : Unseen s id) : Accounted s id where
  once := by
    rw [List.count_eq_zero.mpr hs.hardware]
    exact Nat.zero_le 1
  record := fun record hrecord hid => (hs.record record hrecord hid).elim

theorem SameFor.refl (id : UInt64) (s : DaemonServer) : SameFor id s s :=
  ⟨rfl, Iff.rfl, fun _ h => h⟩

theorem SameFor.unseen (hsame : SameFor id s s') (hs : Unseen s id) : Unseen s' id where
  record := hsame.record _ hs.record
  hardware := by
    rw [← List.count_eq_zero, hsame.hardware]
    exact List.count_eq_zero.mpr hs.hardware
  committed := fun hmem => hs.committed (hsame.committed.mp hmem)

theorem SameFor.accounted (hsame : SameFor id s s') (hs : Accounted s id) : Accounted s' id where
  once := hsame.hardware ▸ hs.once
  record := by
    simp only [hsame.committed]
    exact hsame.record _ hs.record

theorem SameFor.truthful (hsame : SameFor id s s') (hr : Truthful s id r) : Truthful s' id r :=
  hr.trans hsame.committed.symm

theorem Faithful.mono (hr : Faithful s id r) (hcommitted : id ∈ s.committed → id ∈ s'.committed) :
    Faithful s' id r :=
  ⟨hr.state, fun hok => hcommitted (hr.committed hok), hr.status⟩

/-- A refusal of a query says nothing about the operation. -/
theorem faithful_of_refusal (hstatus : r.status ≠ .ok) (hstate : r.operationState ≠ .succeeded) :
    Faithful s id r :=
  ⟨fun hok => absurd hok hstatus, fun hok => absurd hok hstatus, fun hs => absurd hs hstate⟩

/-- A mutation under another id. -/
theorem handleMutation_sameFor (hne : other ≠ id) (task : DaemonTask) :
    SameFor id s (s.handleMutation task other h).1 := by
  unfold DaemonServer.handleMutation
  cases h.preconditions with
  | domainsUnavailable => exact SameFor.refl id s
  | stale => exact SameFor.refl id s
  | «match» =>
    cases hbegin : s.tracker.begin other with
    | invalid => exact SameFor.refl id s
    | duplicate existing => exact SameFor.refl id s
    | started begun =>
      refine ⟨?_, ?_, fun p hp => (hp.begin hne hbegin).complete hne _⟩
      · simp only [DaemonServer.execute, List.count_append, List.map_const', List.count_replicate]
        simp [hne]
      · simp only [DaemonServer.execute]
        generalize List.contains _ DaemonAction.committed = succeeded
        cases succeeded with
        | true => simp [Ne.symm hne]
        | false => exact Iff.rfl

/-- A request that is not this mutation. -/
theorem handleRequest_sameFor {request : ServiceRequest} (hne : request.mutates ≠ some id) :
    SameFor id s (s.handleRequest request h).1 := by
  unfold DaemonServer.handleRequest
  split
  · exact SameFor.refl id s
  split
  · exact SameFor.refl id s
  cases request with
  | apply desired other => exact handleMutation_sameFor (fun heq => hne (congrArg some heq)) _
  | reset other => exact handleMutation_sameFor (fun heq => hne (congrArg some heq)) _
  | getOperationResult other =>
    dsimp only
    cases s.tracker.find other with
    | none => exact SameFor.refl id s
    | some record => exact SameFor.refl id s

/-- What a daemon knows and answers after it took up an operation it had not seen. -/
structure TakenUp (id : UInt64) (result : DaemonServer × Option ServiceResponse) : Prop where
  accounted : Accounted result.1 id
  truthful : ∀ r, result.2 = some r → Truthful result.1 id r

/-- The mutation is refused before it executes. -/
theorem Unseen.refused (hs : Unseen s id) (hr : r.status ≠ .ok) : TakenUp id (s, some r) :=
  ⟨hs.accounted, fun _ heq => by
    obtain rfl := Option.some.inj heq
    exact iff_of_false hr hs.committed⟩

theorem Unseen.execute (hs : Unseen s id) {begun : ServiceOperationTracker}
    (hbegin : s.tracker.begin id = .started begun) {task : DaemonTask}
    (htask : task.operationId?.isSome = true) : TakenUp id (s.execute begun task id h) := by
  have hissued : ((if h.fanCurveValid then s.machine.serve task.program h.answers
      else (s.machine, [])).2).countP DaemonAction.isExplicitWrite ≤ 1 := by
    split
    · exact serve_issuedOnce s.machine htask h.answers
    · exact Nat.zero_le 1
  unfold DaemonServer.execute
  generalize (if h.fanCurveValid then s.machine.serve task.program h.answers
    else (s.machine, [])) = run at hissued ⊢
  have hold : s.hardware.count id = 0 := List.count_eq_zero.mpr hs.hardware
  dsimp only
  generalize run.2.contains DaemonAction.committed = succeeded
  refine ⟨⟨?_, ?_⟩, fun r heq => ?_⟩
  · show (s.hardware ++ (run.2.filter DaemonAction.isExplicitWrite).map fun _ => id).count id ≤ 1
    rw [List.count_append, hold, Nat.zero_add, List.map_const', List.count_replicate_self,
      ← List.countP_eq_length_filter]
    exact hissued
  · have hdone := ServiceOperationTracker.all_complete_begin hs.record hbegin
    cases succeeded with
    | true => simpa using hdone .ok
    | false => simpa [hs.committed] using hdone .error
  · obtain ⟨memory, -, rfl⟩ := Option.map_eq_some_iff.mp heq
    cases succeeded with
    | true => simp [Truthful, Handling.respond]
    | false => simp [Truthful, Handling.respond, hs.committed]

theorem Unseen.handleMutation (hs : Unseen s id) (hid : id ≠ 0) {task : DaemonTask}
    (htask : task.operationId?.isSome = true) : TakenUp id (s.handleMutation task id h) := by
  unfold DaemonServer.handleMutation
  cases h.preconditions with
  | domainsUnavailable => exact hs.refused nofun
  | stale => exact hs.refused nofun
  | «match» =>
    cases hbegin : s.tracker.begin id with
    | invalid => exact hs.refused nofun
    | duplicate existing =>
      -- The ring holds no record of the id.
      have hfind := ServiceOperationTracker.find_of_all_false hs.record
      simp [ServiceOperationTracker.begin, hid, hfind] at hbegin
    | started begun => exact hs.execute hbegin htask

/-- **The daemon takes up a mutation it has not seen.** -/
theorem Unseen.handleRequest (hs : Unseen s id) (hid : id ≠ 0) {request : ServiceRequest}
    (hmutates : request.mutates = some id) : TakenUp id (s.handleRequest request h) := by
  unfold DaemonServer.handleRequest
  split
  · exact ⟨hs.accounted, nofun⟩
  split
  · exact hs.refused nofun
  cases request with
  | apply desired operationId =>
    obtain rfl := Option.some.inj hmutates
    exact hs.handleMutation hid rfl
  | reset operationId =>
    obtain rfl := Option.some.inj hmutates
    exact hs.handleMutation hid rfl
  | getOperationResult operationId => cases hmutates

/-- The answer to a query for an operation that is accounted for. -/
theorem Accounted.query (hs : Accounted s id)
    (hr : (s.handleRequest (.getOperationResult id) h).2 = some r) : Faithful s id r := by
  unfold DaemonServer.handleRequest at hr
  split at hr
  · cases hr
  split at hr
  · obtain rfl := Option.some.inj hr
    exact faithful_of_refusal nofun nofun
  cases hfind : s.tracker.find id with
  | none =>
    simp only [hfind] at hr
    obtain rfl := Option.some.inj hr
    exact faithful_of_refusal nofun nofun
  | some record =>
    simp only [hfind] at hr
    obtain rfl := Option.some.inj hr
    obtain ⟨hstatus, hstate⟩ := hs.record.find hfind
    by_cases hcommitted : id ∈ s.committed
    · rw [if_pos hcommitted] at hstatus hstate
      exact ⟨fun _ => hstate, fun _ => hcommitted, fun _ => hstatus⟩
    · rw [if_neg hcommitted] at hstatus hstate
      refine faithful_of_refusal (fun hok => ?_) fun hs => ?_
      · exact nomatch hstatus.symm.trans hok
      · exact nomatch hstate.symm.trans hs

end Server

/-! ## The exchange -/

section Exchange
variable {sent : ServiceResponse} {body : Option (Nat × Bool)} {id : UInt64}

theorem responseBodyRead_submitted : (responseBodyRead sent body).outcome.requestSubmitted = true := by
  unfold responseBodyRead
  split
  · rfl
  split
  · rfl
  split <;> rfl

/-- Success is a complete answer that says so. -/
theorem status_of_ok (h : (responseBodyRead sent body).ok = true) :
    sent.status = .ok ∧ (responseBodyRead sent body).response = sent := by
  unfold responseBodyRead at h ⊢
  split at h
  · cases h
  rename_i hprefix
  rw [if_neg hprefix]
  split at h
  · cases h
  split at h
  · cases h
  rename_i hvalid
  dsimp only
  rw [if_neg hvalid]
  exact ⟨by simpa using h, rfl⟩

/-- A service error is an answer that does not say success, even where its read broke off. -/
theorem status_of_receivedServiceError
    (h : (responseBodyRead sent body).receivedServiceError = true) : sent.status ≠ .ok := by
  unfold Exchange.receivedServiceError at h
  simp only [Bool.and_eq_true, bne_iff_ne, ne_eq] at h
  obtain ⟨⟨-, -⟩, hstatus⟩ := h
  intro hok
  refine hstatus ?_
  unfold responseBodyRead
  split
  · rfl
  split
  · simp [ServiceResponse.received, hok]
  split
  · exact hok
  · exact hok

/-- The end of the mutation's exchange once its request was submitted: the result is the
answer's, or the client asks for it. -/
theorem afterMutation_submitted (hid : id ≠ 0) (e : Exchange)
    (hsubmitted : e.outcome.requestSubmitted = true) :
    afterMutation id e = .sending true ∨
      (e.ok = true ∨ e.receivedServiceError = true) ∧
        afterMutation id e = .finished e.ok e.response := by
  unfold afterMutation
  cases hok : e.ok with
  | true => exact .inr ⟨.inl rfl, by simp⟩
  | false =>
    cases herror : e.receivedServiceError with
    | true => exact .inr ⟨.inr rfl, by simp⟩
    | false => exact .inl (by simp [hid, hsubmitted])

/-- A request that was not submitted failed for good. -/
theorem afterMutation_unsubmitted {e : Exchange} (hok : e.ok = false)
    (hsubmitted : e.outcome.requestSubmitted = false) :
    afterMutation id e = .finished false e.response := by
  simp [afterMutation, hok, hsubmitted]

/-- A query ends the call with a success, leads to the next query or gives up. -/
theorem afterQuery_cases (id : UInt64) (e : Exchange) :
    (e.ok = true ∧ afterQuery id e = .finished (e.response.status == .ok) e.response) ∨
      afterQuery id e = .sending true ∨ afterQuery id e = outcomeUnknown id := by
  unfold afterQuery
  split
  · split
    · exact .inl ⟨‹_›, rfl⟩
    · exact .inr (.inr rfl)
  · split
    · exact .inr (.inl rfl)
    · exact .inr (.inr rfl)

end Exchange

/-! ## The conversation -/

/-- What the first connection holds, which is the one of the mutation. -/
def CarriesMutation (s : SendSimple) (server : DaemonServer) : Channel → Prop
  | .unused => Unseen server s.operationId
  | .submitted request => request = s.request ∧ Unseen server s.operationId
  | .answered r => Truthful server s.operationId r
  | .closed => True

/-- What another connection holds. -/
def CarriesQuery (s : SendSimple) (server : DaemonServer) : Channel → Prop
  | .submitted request => request = .getOperationResult s.operationId
  | .answered r => Faithful server s.operationId r
  | _ => True

/-- What the client relies on in a phase. -/
def Knows (s : SendSimple) (c : Conversation) : ClientPhase → Prop
  | .sending false => c.connections = 0
  | .sending true => 0 < c.connections
  | .reading false connection => connection = 0 ∧ 0 < c.connections
  | .reading true connection => 0 < connection ∧ connection < c.connections
  | .finished true _ => s.operationId ∈ c.server.committed
  | .finished false r =>
    r.operationState ≠ .outcomeUnknown →
      s.operationId ∉ c.server.committed ∧ ∀ request, c.channels 0 ≠ .submitted request

/-- **The invariant of a conversation.** -/
structure Sound (s : SendSimple) (c : Conversation) : Prop where
  accounted : Accounted c.server s.operationId
  mutation : CarriesMutation s c.server (c.channels 0)
  queries : ∀ n, n ≠ 0 → CarriesQuery s c.server (c.channels n)
  fresh : ∀ n, c.connections ≤ n → c.channels n = .unused
  client : Knows s c c.client

section Conversation
variable {s : SendSimple} {c c' : Conversation} {query : Bool} {connection : Nat}

theorem CarriesMutation.same {server server' : DaemonServer} {channel : Channel}
    (h : CarriesMutation s server channel) (hsame : SameFor s.operationId server server') :
    CarriesMutation s server' channel := by
  cases channel with
  | unused => exact hsame.unseen h
  | submitted request => exact ⟨h.1, hsame.unseen h.2⟩
  | answered r => exact hsame.truthful h
  | closed => trivial

/-- A query depends on the daemon only through a success. -/
theorem CarriesQuery.mono {server server' : DaemonServer} {channel : Channel}
    (h : CarriesQuery s server channel)
    (hcommitted : s.operationId ∈ server.committed → s.operationId ∈ server'.committed) :
    CarriesQuery s server' channel := by
  cases channel with
  | unused => trivial
  | submitted request => exact h
  | answered r => exact Faithful.mono h hcommitted
  | closed => trivial

/-- What the client relies on is the number of its connections, a commit, and a mutation that
is done without one. -/
theorem Knows.transfer {phase : ClientPhase} (h : Knows s c phase)
    (hconnections : c'.connections = c.connections)
    (hcommitted : s.operationId ∈ c.server.committed → s.operationId ∈ c'.server.committed)
    (hdone : (s.operationId ∉ c.server.committed ∧ ∀ request, c.channels 0 ≠ .submitted request) →
      s.operationId ∉ c'.server.committed ∧ ∀ request, c'.channels 0 ≠ .submitted request) :
    Knows s c' phase := by
  match phase, h with
  | .sending true, h => exact Nat.lt_of_lt_of_eq h hconnections.symm
  | .sending false, h => exact hconnections.trans h
  | .reading true _, h => exact ⟨h.1, Nat.lt_of_lt_of_eq h.2 hconnections.symm⟩
  | .reading false _, h => exact ⟨h.1, Nat.lt_of_lt_of_eq h.2 hconnections.symm⟩
  | .finished true _, h => exact hcommitted h
  | .finished false r, h => exact fun hstate => hdone (h hstate)

theorem knows_outcomeUnknown : Knows s c (outcomeUnknown s.operationId) :=
  fun hstate => absurd rfl hstate

/-- Nothing of the operation is on its way or at the daemon. -/
theorem Sound.unseen (h : Sound s c) (hconnections : c.connections = 0) :
    Unseen c.server s.operationId ∧ c.channels 0 = .unused := by
  have hunused := h.fresh 0 (Nat.le_of_eq hconnections)
  have hmutation := h.mutation
  rw [hunused] at hmutation
  exact ⟨hmutation, hunused⟩

/-- The phase of the client is all that changes. -/
theorem Sound.phase (h : Sound s c) {phase : ClientPhase} (hknows : Knows s c phase) :
    Sound s { c with client := phase } where
  accounted := h.accounted
  mutation := h.mutation
  queries := h.queries
  fresh := h.fresh
  client := by
    cases phase with
    | sending query => cases query <;> exact hknows
    | reading query connection => cases query <;> exact hknows
    | finished ok r => cases ok <;> exact hknows

/-- The client failed to hand its request over. -/
theorem Sound.conclude_unsubmitted (h : Sound s c) (hphase : c.client = .sending query)
    {e : Exchange} (hok : e.ok = false) (hsubmitted : e.outcome.requestSubmitted = false)
    (hexpired : e.outcome.deadlineExpired = false) : Sound s (c.conclude s query e) := by
  have hknown := h.client
  rw [hphase] at hknown
  refine h.phase ?_
  cases query with
  | false =>
    obtain ⟨hunseen, hunused⟩ := h.unseen hknown
    rw [if_neg Bool.false_ne_true, afterMutation_unsubmitted hok hsubmitted]
    exact fun _ => ⟨hunseen.committed, fun request hsubmitted =>
      nomatch hunused.symm.trans hsubmitted⟩
  | true =>
    have hunknown : afterQuery s.operationId e = outcomeUnknown s.operationId := by
      simp [afterQuery, hok, linuxDaemonRecoveryMayRetry, hexpired]
    rw [if_pos rfl, hunknown]
    exact knows_outcomeUnknown

theorem exchange_cases {transfer : Transfer} {e : Exchange}
    (he : c.exchange connection transfer = some e) :
    (∃ timedOut, e = responseHeaderFailed timedOut) ∨
      ∃ sent body, c.channels connection = .answered sent ∧ e = responseBodyRead sent body := by
  cases transfer with
  | headerFailed timedOut => exact .inl ⟨timedOut, (Option.some.inj he).symm⟩
  | bodyFailed bytes timedOut =>
    simp only [Conversation.exchange] at he
    split at he
    · rename_i sent hsent
      exact .inr ⟨sent, some (bytes, timedOut), hsent, (Option.some.inj he).symm⟩
    · cases he
  | complete =>
    simp only [Conversation.exchange] at he
    split at he
    · rename_i sent hsent
      exact .inr ⟨sent, none, hsent, (Option.some.inj he).symm⟩
    · cases he

/-- The client has read on the connection of the mutation. -/
theorem Sound.conclude_mutation (h : Sound s c) (hphase : c.client = .reading false connection)
    {transfer : Transfer} {e : Exchange} (he : c.exchange connection transfer = some e) :
    Sound s (c.conclude s false e) := by
  have hknown := h.client
  rw [hphase] at hknown
  obtain ⟨rfl, hconnections⟩ := hknown
  refine h.phase ?_
  rw [if_neg Bool.false_ne_true]
  rcases exchange_cases he with ⟨timedOut, rfl⟩ | ⟨sent, body, hsent, rfl⟩
  · rcases afterMutation_submitted s.nonzero (responseHeaderFailed timedOut) rfl with
      hsending | ⟨hok | herror, -⟩
    · rw [hsending]
      exact hconnections
    · cases hok
    · cases herror
  · have htruthful := h.mutation
    rw [hsent] at htruthful
    rcases afterMutation_submitted s.nonzero (responseBodyRead sent body)
      responseBodyRead_submitted with hsending | ⟨hresult, hfinished⟩
    · rw [hsending]
      exact hconnections
    · rw [hfinished]
      cases hok : (responseBodyRead sent body).ok with
      | true => exact htruthful.mp (status_of_ok hok).1
      | false =>
        have herror : (responseBodyRead sent body).receivedServiceError = true :=
          hresult.resolve_left (by simp [hok])
        intro _
        exact ⟨fun hmem => status_of_receivedServiceError herror (htruthful.mpr hmem),
          fun request hsubmitted => nomatch hsent.symm.trans hsubmitted⟩

/-- The client has read on the connection of a query. -/
theorem Sound.conclude_query (h : Sound s c) (hphase : c.client = .reading true connection)
    {transfer : Transfer} {e : Exchange} (he : c.exchange connection transfer = some e) :
    Sound s (c.conclude s true e) := by
  have hknown := h.client
  rw [hphase] at hknown
  obtain ⟨hpos, hlt⟩ := hknown
  refine h.phase ?_
  rw [if_pos rfl]
  rcases afterQuery_cases s.operationId e with ⟨hok, hfinished⟩ | hsending | hunknown
  · rw [hfinished]
    rcases exchange_cases he with ⟨timedOut, rfl⟩ | ⟨sent, body, hsent, rfl⟩
    · cases hok
    · have hfaithful := h.queries connection (Nat.ne_of_gt hpos)
      rw [hsent] at hfaithful
      obtain ⟨hstatus, hresponse⟩ := status_of_ok hok
      have hsuccess : ((responseBodyRead sent body).response.status == .ok) = true := by
        simp [hresponse, hstatus]
      rw [hsuccess]
      exact Faithful.committed hfaithful hstatus
  · rw [hsending]
    exact Nat.lt_of_le_of_lt (Nat.zero_le connection) hlt
  · rw [hunknown]
    exact knows_outcomeUnknown

/-- The client sends its request on its next connection. -/
theorem Sound.submit (h : Sound s c) (hphase : c.client = .sending query) :
    Sound s { c.setChannel c.connections (.submitted (Conversation.nextRequest s query)) with
      client := .reading query c.connections
      connections := c.connections + 1 } := by
  have hknown := h.client
  rw [hphase] at hknown
  have hfresh : ∀ n, c.connections + 1 ≤ n →
      Function.update c.channels c.connections
        (.submitted (Conversation.nextRequest s query)) n = .unused := by
    intro n hn
    rw [Function.update_of_ne (Nat.ne_of_gt hn)]
    exact h.fresh n (Nat.le_of_succ_le hn)
  cases query with
  | false =>
    have hzero : c.connections = 0 := hknown
    refine ⟨h.accounted, ?_, fun n hn => ?_, hfresh, hzero, Nat.succ_pos _⟩
    · show CarriesMutation s c.server (Function.update c.channels c.connections _ 0)
      rw [hzero, Function.update_self]
      exact ⟨rfl, (h.unseen hzero).1⟩
    · show CarriesQuery s c.server (Function.update c.channels c.connections _ n)
      rw [hzero, Function.update_of_ne hn]
      exact h.queries n hn
  | true =>
    have hpos : 0 < c.connections := hknown
    refine ⟨h.accounted, ?_, fun n hn => ?_, hfresh, hpos, Nat.lt_succ_self _⟩
    · show CarriesMutation s c.server (Function.update c.channels c.connections _ 0)
      rw [Function.update_of_ne (Nat.ne_of_lt hpos)]
      exact h.mutation
    · show CarriesQuery s c.server (Function.update c.channels c.connections _ n)
      by_cases heq : n = c.connections
      · subst heq
        rw [Function.update_self]
        rfl
      · rw [Function.update_of_ne heq]
        exact h.queries n hn

theorem Sound.lt_of_submitted (h : Sound s c) {request : ServiceRequest}
    (hrequest : c.channels connection = .submitted request) : connection < c.connections := by
  by_contra hle
  exact nomatch (h.fresh connection (Nat.le_of_not_lt hle)).symm.trans hrequest

/-- A connection that was used holds something else, and no request if it is the
mutation's. -/
theorem Sound.setChannel (h : Sound s c) (hlt : connection < c.connections) {channel : Channel}
    (hmutation : connection = 0 → CarriesMutation s c.server channel)
    (hquery : CarriesQuery s c.server channel)
    (hdone : ∀ request, channel ≠ .submitted request) :
    Sound s (c.setChannel connection channel) := by
  have hfresh : ∀ n, c.connections ≤ n →
      Function.update c.channels connection channel n = .unused := by
    intro n hn
    rw [Function.update_of_ne (Nat.ne_of_gt (hlt.trans_le hn))]
    exact h.fresh n hn
  refine ⟨h.accounted, ?_, fun n hn => ?_, hfresh, ?_⟩
  · show CarriesMutation s c.server (Function.update c.channels connection channel 0)
    by_cases h0 : connection = 0
    · rw [h0, Function.update_self]
      exact hmutation h0
    · rw [Function.update_of_ne (Ne.symm h0)]
      exact h.mutation
  · show CarriesQuery s c.server (Function.update c.channels connection channel n)
    by_cases heq : n = connection
    · rw [heq, Function.update_self]
      exact hquery
    · rw [Function.update_of_ne heq]
      exact h.queries n hn
  · refine Knows.transfer h.client rfl (fun hmem => hmem) fun hknown => ?_
    refine ⟨hknown.1, fun request => ?_⟩
    show Function.update c.channels connection channel 0 ≠ _
    by_cases h0 : connection = 0
    · rw [h0, Function.update_self]
      exact hdone request
    · rw [Function.update_of_ne (Ne.symm h0)]
      exact hknown.2 request

/-- The daemon did something else. -/
theorem Sound.same (h : Sound s c) {server : DaemonServer}
    (hsame : SameFor s.operationId c.server server) : Sound s { c with server := server } where
  accounted := hsame.accounted h.accounted
  mutation := h.mutation.same hsame
  queries n hn := (h.queries n hn).mono hsame.committed.mpr
  fresh := h.fresh
  client := Knows.transfer h.client rfl hsame.committed.mpr fun hknown =>
    ⟨fun hmem => hknown.1 (hsame.committed.mp hmem), hknown.2⟩

/-- The daemon took up the mutation. -/
theorem Sound.takenUp (h : Sound s c) {request : ServiceRequest}
    (hrequest : c.channels 0 = .submitted request) {server : DaemonServer} {channel : Channel}
    (haccounted : Accounted server s.operationId) (hcarries : CarriesMutation s server channel) :
    Sound s { c.setChannel 0 channel with server := server } := by
  have hunseen := h.mutation
  rw [hrequest] at hunseen
  have hnever : s.operationId ∈ c.server.committed → s.operationId ∈ server.committed :=
    fun hmem => absurd hmem hunseen.2.committed
  refine ⟨haccounted, ?_, fun n hn => ?_, fun n hn => ?_, ?_⟩
  · show CarriesMutation s server (Function.update c.channels 0 channel 0)
    rwa [Function.update_self]
  · show CarriesQuery s server (Function.update c.channels 0 channel n)
    rw [Function.update_of_ne hn]
    exact (h.queries n hn).mono hnever
  · show Function.update c.channels 0 channel n = .unused
    rw [Function.update_of_ne (Nat.ne_of_gt ((h.lt_of_submitted hrequest).trans_le hn))]
    exact h.fresh n hn
  · exact Knows.transfer h.client rfl hnever fun hknown => absurd hrequest (hknown.2 request)

theorem Sound.dispatch (h : Sound s c) (connection : Nat) (handling : Handling) :
    Sound s (c.dispatch connection handling) := by
  unfold Conversation.dispatch
  split
  · rename_i request hrequest
    by_cases h0 : connection = 0
    · subst h0
      have hunseen := h.mutation
      rw [hrequest] at hunseen
      obtain ⟨rfl, hunseen⟩ := hunseen
      have htaken := hunseen.handleRequest (h := handling) s.nonzero s.mutates
      refine h.takenUp hrequest htaken.accounted ?_
      cases hanswer : (c.server.handleRequest s.request handling).2 with
      | none => trivial
      | some r => exact htaken.truthful r hanswer
    · have hquery := h.queries connection h0
      rw [hrequest] at hquery
      obtain rfl : request = .getOperationResult s.operationId := hquery
      have hset : Sound s (c.setChannel connection
          (((c.server.handleRequest (.getOperationResult s.operationId) handling).2.map
            Channel.answered).getD .closed)) := by
        refine h.setChannel (h.lt_of_submitted hrequest) (fun heq => absurd heq h0) ?_ ?_
        · cases hanswer : (c.server.handleRequest (.getOperationResult s.operationId) handling).2
            with
          | none => trivial
          | some r => exact h.accounted.query hanswer
        · intro request
          cases (c.server.handleRequest (.getOperationResult s.operationId) handling).2 with
          | none => exact nofun
          | some r => exact nofun
      exact hset.same (handleRequest_sameFor nofun)
  · exact h

theorem Sound.refuse (h : Sound s c) (connection : Nat) : Sound s (c.refuse connection) := by
  unfold Conversation.refuse
  split
  · rename_i request hrequest
    have hbusy : daemonAnswerBusy.status ≠ .ok := by simp [daemonAnswerBusy]
    have hnone : daemonAnswerBusy.operationState ≠ .succeeded := by simp [daemonAnswerBusy]
    refine h.setChannel (h.lt_of_submitted hrequest) (fun h0 => ?_)
      (faithful_of_refusal hbusy hnone) fun request heq => Channel.noConfusion heq
    subst h0
    have hunseen := h.mutation
    rw [hrequest] at hunseen
    exact iff_of_false hbusy hunseen.2.committed
  · exact h

theorem Sound.lose (h : Sound s c) (connection : Nat) : Sound s (c.lose connection) := by
  unfold Conversation.lose
  split
  · rename_i hlt
    have hclosed : ∀ request, Channel.closed ≠ .submitted request :=
      fun request heq => Channel.noConfusion heq
    exact h.setChannel hlt (fun _ => True.intro) True.intro hclosed
  · exact h

theorem Sound.otherClient (h : Sound s c) (request : ServiceRequest) (handling : Handling) :
    Sound s (c.otherClient s request handling) := by
  unfold Conversation.otherClient
  split
  · exact h
  · exact h.same (handleRequest_sameFor ‹_›)

theorem Sound.background (h : Sound s c) (task : DaemonTask) (answers : List Answer) :
    Sound s (c.background task answers) := by
  unfold Conversation.background
  split
  · exact h
  · exact h.same ⟨rfl, Iff.rfl, fun _ hp => hp⟩

/-- **Every event keeps the invariant.** -/
theorem Sound.step (h : Sound s c) (event : ConversationEvent) : Sound s (c.step s event).1 := by
  cases event with
  | connectFail saturated =>
    simp only [Conversation.step]
    split
    · exact h.conclude_unsubmitted ‹_› rfl rfl rfl
    · exact h
  | writeFail refused =>
    simp only [Conversation.step]
    split
    · exact h.conclude_unsubmitted ‹_› rfl rfl rfl
    · exact h
  | submit =>
    simp only [Conversation.step]
    split
    · exact h.submit ‹_›
    · exact h
  | read transfer =>
    simp only [Conversation.step]
    split
    · rename_i query connection hphase
      split
      · rename_i e he
        cases query with
        | false => exact h.conclude_mutation hphase he
        | true => exact h.conclude_query hphase he
      · exact h
    · exact h
  | budgetSpent =>
    simp only [Conversation.step]
    split
    · exact h.phase knows_outcomeUnknown
    · exact h
  | dispatch connection handling => exact h.dispatch connection handling
  | refuse connection => exact h.refuse connection
  | lose connection => exact h.lose connection
  | otherClient request handling => exact h.otherClient request handling
  | background task answers => exact h.background task answers

/-! ## The settled states that reach the client -/

/-- What the client has made of the settled states it read. -/
def Told : ClientPhase → List ServiceOperationState → Prop
  | .finished _ r, settled =>
    ∀ state ∈ settled, state = .failed ∧ r.operationState = .outcomeUnknown ∨
      state = .succeeded ∧ r.operationState = .succeeded
  | _, settled => settled = []

theorem told_nil (phase : ClientPhase) : Told phase [] := by
  cases phase with
  | sending query => rfl
  | reading query connection => rfl
  | finished ok r => exact fun state hmem => nomatch hmem

/-- A settled state is read from a complete and valid answer to a query. -/
theorem settledState_cases {e : Exchange} {state : ServiceOperationState}
    (hstate : Conversation.settledState query e = some state) :
    query = true ∧ e.outcome.answered = true ∧ e.response.operationState = state ∧
      (state = .succeeded ∨ state = .failed) := by
  unfold Conversation.settledState at hstate
  split at hstate
  · rename_i hcond
    simp only [Bool.and_eq_true, Bool.or_eq_true, beq_iff_eq] at hcond
    obtain rfl := Option.some.inj hstate
    exact ⟨hcond.1.1, hcond.1.2, rfl, hcond.2⟩
  · cases hstate

/-- What answered is an answer read whole, and it does not expire. -/
theorem of_answered {sent : ServiceResponse} {body : Option (Nat × Bool)}
    (h : (responseBodyRead sent body).outcome.answered = true) :
    responseBodyRead sent body =
      { ok := sent.status == .ok, response := sent
        outcome := { reachability := .connected, requestSubmitted := true, answered := true } } := by
  unfold responseBodyRead at h ⊢
  split at h
  · cases h
  rename_i hprefix
  rw [if_neg hprefix]
  split at h
  · cases h
  split at h
  · cases h
  rename_i hvalid
  dsimp only
  rw [if_neg hvalid]

/-- The client takes a success for what it is, and a failure for an unknown outcome. -/
theorem Sound.told (h : Sound s c) (hphase : c.client = .reading query connection)
    {transfer : Transfer} {e : Exchange} (he : c.exchange connection transfer = some e) :
    Told (c.conclude s query e).client (Conversation.settledState query e).toList := by
  cases hstate : Conversation.settledState query e with
  | none => exact told_nil _
  | some state =>
    obtain ⟨rfl, hanswered, hread, hsettled⟩ := settledState_cases hstate
    have hknown := h.client
    rw [hphase] at hknown
    rcases exchange_cases he with ⟨timedOut, rfl⟩ | ⟨sent, body, hsent, rfl⟩
    · cases hanswered
    have hfaithful := h.queries connection (Nat.ne_of_gt hknown.1)
    rw [hsent] at hfaithful
    have hexchange := of_answered hanswered
    rw [hexchange] at hread ⊢
    dsimp only at hread
    show Told (afterQuery s.operationId _) [state]
    rcases hsettled with hsucceeded | hfailed
    · -- A success is reported as one.
      have hstatus : sent.status = .ok := Faithful.status hfaithful (hread.trans hsucceeded)
      have hafter : afterQuery s.operationId
          { ok := sent.status == .ok, response := sent
            outcome := { reachability := .connected, requestSubmitted := true,
                         answered := true } } = .finished true sent := by
        simp [afterQuery, hstatus, hread, hsucceeded, linuxDaemonRecoveryStateIsSettled]
      rw [hafter]
      intro told hmem
      obtain rfl := List.mem_singleton.mp hmem
      exact .inr ⟨hsucceeded, hread.trans hsucceeded⟩
    · -- A failure is no success, so the transport fails and nothing expired.
      have hstatus : sent.status ≠ .ok := fun hok => by
        have hstate := Faithful.state hfaithful hok
        exact nomatch (hread.trans hfailed).symm.trans hstate
      have hafter : afterQuery s.operationId
          { ok := sent.status == .ok, response := sent
            outcome := { reachability := .connected, requestSubmitted := true,
                         answered := true } } = outcomeUnknown s.operationId := by
        simp [afterQuery, hstatus, linuxDaemonRecoveryMayRetry]
      rw [hafter]
      intro told hmem
      obtain rfl := List.mem_singleton.mp hmem
      exact .inl ⟨hfailed, rfl⟩

end Conversation

/-! ## Every run -/

namespace SendSimple
variable (s : SendSimple)

/-- The conversation after a run. -/
def after (events : List ConversationEvent) : Conversation :=
  s.machineOf.run s.machineOf.initial events

/-- The settled states the client's queries were answered with, read whole and valid. -/
def settled (events : List ConversationEvent) : List ServiceOperationState :=
  (s.machineOf.answers s.machineOf.initial events).flatMap Option.toList

end SendSimple

end GreenCurve
