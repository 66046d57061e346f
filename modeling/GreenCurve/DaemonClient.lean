import GreenCurve.EventMachine
import GreenCurve.OperationTracker
import Mathlib.Logic.Function.Basic

/-! # The Linux client of the daemon

`send_simple` sends one Apply or Reset, and if no answer comes back it asks for the result of
that operation until it gets an answer, an error that waiting cannot cure, or the end of its
budget.  Every request has a connection of its own: it is sent on it, and the daemon answers on
it or lets it go.

A **conversation** is the client, the daemon and the connections between them.  Its events
are the steps of the client, with the way each transfer goes, the requests the daemon takes up
or turns away, in any order, and what the daemon does for others.  A deadline is an event: a
request that has timed out for the client can still be taken up by the daemon later. -/

namespace GreenCurve

abbrev SERVICE_PROTOCOL_MAGIC : UInt32 := 0x47535643
abbrev SERVICE_PROTOCOL_VERSION : UInt32 := 29

/-! ## The exchange -/

/-- What the client reads of a response; a zeroed one is the default. -/
structure ServiceResponse where
  magic : UInt32 := 0
  version : UInt32 := 0
  status : ServiceResponseStatus := .ok
  operationState : ServiceOperationState := .none
  operationId : UInt64 := 0
  /-- The other fields pass `validate_service_response_for_ipc`. -/
  payloadValid : Bool := false
  deriving DecidableEq, Repr

namespace ServiceResponse
variable (r : ServiceResponse)

/-- The wire prefix is `SERVICE_WIRE_PREFIX_CURRENT`. -/
def prefixCurrent : Bool :=
  r.magic == SERVICE_PROTOCOL_MAGIC && r.version == SERVICE_PROTOCOL_VERSION

/-- `validate_service_response_for_ipc`. -/
def valid : Bool := r.prefixCurrent && r.payloadValid

/-- The response after its prefix and so many bytes of its body, over a zeroed buffer.  The
body starts with the four bytes of the status, the state of the operation is at its byte 12
and the operation id at its byte 24; a status or a state is in its first byte. -/
def received (bytes : Nat) : ServiceResponse where
  magic := r.magic
  version := r.version
  status := if 0 < bytes then r.status else .ok
  operationState := if 12 < bytes then r.operationState else .none
  operationId := UInt64.ofNat (r.operationId.toNat % 256 ^ (min bytes 32 - 24))

end ServiceResponse

inductive LinuxDaemonReachability where
  | unknown | unreachable | connected
  deriving DecidableEq, Repr

structure LinuxDaemonSendOutcome where
  reachability : LinuxDaemonReachability := .unknown
  deadlineExpired : Bool := false
  requestSubmitted : Bool := false
  answered : Bool := false
  deriving DecidableEq, Repr

/-- What `linux_daemon_send_deadline` returns, writes to the response and to the outcome. -/
structure Exchange where
  ok : Bool := false
  response : ServiceResponse := {}
  outcome : LinuxDaemonSendOutcome
  deriving DecidableEq, Repr

/-- How the transfer of a response goes.  The header is the prefix; `headerFailed` covers an
end of file and an I/O error, and the deadline if it is what ended the read. -/
inductive Transfer where
  | headerFailed (timedOut : Bool)
  | bodyFailed (bytes : Nat) (timedOut : Bool)
  | complete
  deriving DecidableEq, Repr

/-- The exchange when `connect` fails; a saturated daemon is a daemon all the same. -/
def connectFailed (saturated : Bool) : Exchange where
  outcome := { reachability := if saturated then .connected else .unreachable }

/-- The exchange when the request is not written whole; what the daemon queued before it
closed the connection counts only as a refusal. -/
def requestWriteFailed (queued : Option ServiceResponse) : Exchange where
  response :=
    match queued with
    | none => {}
    | some refusal => if refusal.valid && refusal.status != .ok then refusal else {}
  outcome := { reachability := .connected }

/-- The exchange when the prefix is not read whole. -/
def responseHeaderFailed (timedOut : Bool) : Exchange where
  outcome :=
    { reachability := .connected, deadlineExpired := timedOut, requestSubmitted := true }

/-- The exchange once the prefix of a response is read. -/
def responseBodyRead (sent : ServiceResponse) (body : Option (Nat × Bool)) : Exchange :=
  let submitted : LinuxDaemonSendOutcome :=
    { reachability := .connected, requestSubmitted := true }
  if !sent.prefixCurrent then
    { response := { magic := sent.magic, version := sent.version }, outcome := submitted }
  else
    match body with
    | some (bytes, timedOut) =>
      { response := sent.received bytes
        outcome := { submitted with deadlineExpired := timedOut } }
    | none =>
      if !sent.valid then { response := sent, outcome := submitted }
      else
        { ok := sent.status == .ok, response := sent
          outcome := { submitted with answered := true } }

/-! ## The client -/

/-- `linux_daemon_recovery_may_retry`. -/
def linuxDaemonRecoveryMayRetry (answered : Bool) (outcome : LinuxDaemonSendOutcome) : Bool :=
  !answered && outcome.deadlineExpired && outcome.reachability == .connected

/-- `linux_daemon_recovery_state_is_settled`. -/
def linuxDaemonRecoveryStateIsSettled (operationState : ServiceOperationState) : Bool :=
  operationState != .inProgress && operationState != .outcomeUnknown

/-- Where `send_simple` is: about to send the mutation or a recovery query, reading on the
connection it sent it on, or back with its result. -/
inductive ClientPhase where
  | sending (query : Bool)
  | reading (query : Bool) (connection : Nat)
  | finished (ok : Bool) (response : ServiceResponse)
  deriving DecidableEq, Repr

def Exchange.receivedServiceError (e : Exchange) : Bool :=
  !e.ok && e.response.prefixCurrent && e.response.status != .ok

/-- The result when the outcome was not recovered. -/
def outcomeUnknown (operationId : UInt64) : ClientPhase :=
  .finished false
    { magic := SERVICE_PROTOCOL_MAGIC, version := SERVICE_PROTOCOL_VERSION, status := .error
      operationState := .outcomeUnknown, operationId := operationId }

/-- `send_simple` after the exchange of the mutation. -/
def afterMutation (operationId : UInt64) (e : Exchange) : ClientPhase :=
  if !e.ok && operationId != 0 && !e.receivedServiceError && e.outcome.requestSubmitted then
    .sending true
  else .finished e.ok e.response

/-- `send_simple` after the exchange of a recovery query. -/
def afterQuery (operationId : UInt64) (e : Exchange) : ClientPhase :=
  if e.ok then
    if linuxDaemonRecoveryStateIsSettled e.response.operationState then
      .finished (e.response.status == .ok) e.response
    else outcomeUnknown operationId
  else if linuxDaemonRecoveryMayRetry e.ok e.outcome then .sending true
  else outcomeUnknown operationId

/-! ## The daemon -/

inductive ServiceRequest where
  | apply (desired : DesiredSettings) (operationId : UInt64)
  | reset (operationId : UInt64)
  | getOperationResult (operationId : UInt64)

namespace ServiceRequest

/-- The operation id of an Apply or a Reset. -/
def mutates : ServiceRequest → Option UInt64
  | .apply _ operationId => some operationId
  | .reset operationId => some operationId
  | .getOperationResult _ => none

end ServiceRequest

def DaemonTask.operationId? : DaemonTask → Option UInt64
  | .apply _ operationId => some operationId
  | .reset operationId => some operationId
  | _ => none

/-- What `mutation_preconditions_match` finds. -/
inductive Preconditions where
  | match
  | domainsUnavailable
  | stale
  deriving DecidableEq, Repr

/-- What the daemon meets while it handles a request: its checks of the request, whether the
state it publishes passes the client's validation, and the answers of its environment. -/
structure Handling where
  requestValid : Bool := true
  preconditions : Preconditions := .match
  fanCurveValid : Bool := true
  payloadValid : Bool := true
  answers : List Answer := []

/-- The daemon, with the operations that wrote the hardware and those that committed, in the
order they did. -/
structure DaemonServer where
  machine : DaemonMachine
  tracker : ServiceOperationTracker
  hardware : List UInt64 := []
  committed : List UInt64 := []

def DaemonAction.isExplicitWrite : DaemonAction → Bool
  | .explicitWrite _ => true
  | _ => false

/-- A response as `handle_request` stamps it. -/
def Handling.respond (h : Handling) (status : ServiceResponseStatus)
    (operationState : ServiceOperationState) (operationId : UInt64) : ServiceResponse where
  magic := SERVICE_PROTOCOL_MAGIC
  version := SERVICE_PROTOCOL_VERSION
  status := status
  operationState := operationState
  operationId := operationId
  payloadValid := h.payloadValid

/-- `daemon_answer_busy`. -/
def daemonAnswerBusy : ServiceResponse where
  magic := SERVICE_PROTOCOL_MAGIC
  version := SERVICE_PROTOCOL_VERSION
  status := .error
  payloadValid := true

namespace DaemonServer
variable (s : DaemonServer)

/-- A mutation that the operation guard lets execute, with the record the guard completes. -/
def execute (begun : ServiceOperationTracker) (task : DaemonTask) (operationId : UInt64)
    (h : Handling) : DaemonServer × Option ServiceResponse :=
  let run := if h.fanCurveValid then s.machine.serve task.program h.answers else (s.machine, [])
  let succeeded := run.2.contains .committed
  let status := if succeeded then .ok else .error
  ( { machine := run.1
      tracker := begun.complete operationId status
      hardware := s.hardware ++ (run.2.filter DaemonAction.isExplicitWrite).map fun _ => operationId
      committed := if succeeded then s.committed ++ [operationId] else s.committed },
    run.1.process.map fun _ =>
      h.respond status (if succeeded then .succeeded else .failed) operationId )

/-- `SERVICE_CMD_APPLY` and `SERVICE_CMD_RESET`, from the precondition gate on. -/
def handleMutation (task : DaemonTask) (operationId : UInt64) (h : Handling) :
    DaemonServer × Option ServiceResponse :=
  match h.preconditions with
  | .domainsUnavailable => (s, some (h.respond .error .none 0))
  | .stale => (s, some (h.respond .staleState .none 0))
  | .match =>
    match s.tracker.begin operationId with
    | .invalid => (s, some (h.respond .error .outcomeUnknown operationId))
    | .duplicate existing =>
      (s, some (h.respond existing.responseStatus existing.state operationId))
    | .started begun => s.execute begun task operationId h

/-- `handle_request`; a daemon that died handles nothing, and one that dies while it handles
a request does not answer. -/
def handleRequest (request : ServiceRequest) (h : Handling) :
    DaemonServer × Option ServiceResponse :=
  if s.machine.process.isNone then (s, none)
  else if !h.requestValid then (s, some (h.respond .error .none 0))
  else
    match request with
    | .apply desired operationId => s.handleMutation (.apply desired operationId) operationId h
    | .reset operationId => s.handleMutation (.reset operationId) operationId h
    | .getOperationResult operationId =>
      match s.tracker.find operationId with
      | none => (s, some (h.respond .error .outcomeUnknown operationId))
      | some record => (s, some (h.respond record.responseStatus record.state operationId))

end DaemonServer

/-! ## The conversation -/

/-- A connection of the client, from its request to its answer. -/
inductive Channel where
  | unused
  | submitted (request : ServiceRequest)
  | answered (response : ServiceResponse)
  | closed

/-- One call of `send_simple`, and the daemon it finds.  The operation id is a random one
that is not zero, and the daemon has not seen it. -/
structure SendSimple where
  request : ServiceRequest
  operationId : UInt64
  machine : DaemonMachine
  tracker : ServiceOperationTracker
  mutates : request.mutates = some operationId
  nonzero : operationId ≠ 0
  unseen : tracker.All operationId fun _ => False

structure Conversation where
  client : ClientPhase := .sending false
  server : DaemonServer
  channels : Nat → Channel := fun _ => .unused
  /-- The connections of the client so far. -/
  connections : Nat := 0

inductive ConversationEvent where
  /-- The client cannot connect. -/
  | connectFail (saturated : Bool)
  /-- The client cannot write its request whole. -/
  | writeFail (refused : Bool)
  | submit
  /-- The client reads, on the connection of its request. -/
  | read (transfer : Transfer)
  /-- The recovery budget of the client is spent. -/
  | budgetSpent
  /-- The daemon takes up the request of a connection. -/
  | dispatch (connection : Nat) (handling : Handling)
  /-- The daemon turns a connection away before it reads the request. -/
  | refuse (connection : Nat)
  /-- The request, or the answer to it, is lost. -/
  | lose (connection : Nat)
  /-- The daemon serves another client. -/
  | otherClient (request : ServiceRequest) (handling : Handling)
  /-- The daemon does something that is neither an Apply nor a Reset. -/
  | background (task : DaemonTask) (answers : List Answer)

namespace Conversation
variable (s : SendSimple) (c : Conversation)

def setChannel (connection : Nat) (channel : Channel) : Conversation :=
  { c with channels := Function.update c.channels connection channel }

/-- The request the client sends on its next connection. -/
def nextRequest (query : Bool) : ServiceRequest :=
  if query then .getOperationResult s.operationId else s.request

/-- The client goes on after an exchange. -/
def conclude (query : Bool) (e : Exchange) : Conversation :=
  { c with
    client := if query then afterQuery s.operationId e else afterMutation s.operationId e }

/-- The exchange that reads on a connection, if there is something to read. -/
def exchange (connection : Nat) : Transfer → Option Exchange
  | .headerFailed timedOut => some (responseHeaderFailed timedOut)
  | .bodyFailed bytes timedOut =>
    match c.channels connection with
    | .answered sent => some (responseBodyRead sent (some (bytes, timedOut)))
    | _ => none
  | .complete =>
    match c.channels connection with
    | .answered sent => some (responseBodyRead sent none)
    | _ => none

/-- The settled state that a recovery query has read from a complete and valid answer. -/
def settledState (query : Bool) (e : Exchange) : Option ServiceOperationState :=
  if query && e.outcome.answered &&
      (e.response.operationState == .succeeded || e.response.operationState == .failed) then
    some e.response.operationState
  else none

/-- The daemon takes up the request of a connection of the client. -/
def dispatch (connection : Nat) (h : Handling) : Conversation :=
  match c.channels connection with
  | .submitted request =>
    let served := c.server.handleRequest request h
    let channel := (served.2.map Channel.answered).getD .closed
    { c.setChannel connection channel with server := served.1 }
  | _ => c

/-- The daemon answers the request of a connection without reading it. -/
def refuse (connection : Nat) : Conversation :=
  match c.channels connection with
  | .submitted _ => c.setChannel connection (.answered daemonAnswerBusy)
  | _ => c

def lose (connection : Nat) : Conversation :=
  if connection < c.connections then c.setChannel connection .closed else c

/-- The daemon serves another client, whose operation ids are its own. -/
def otherClient (request : ServiceRequest) (h : Handling) : Conversation :=
  if request.mutates = some s.operationId then c
  else { c with server := (c.server.handleRequest request h).1 }

def background (task : DaemonTask) (answers : List Answer) : Conversation :=
  if task.operationId?.isSome then c
  else { c with server.machine := (c.server.machine.serve task.program answers).1 }

/-- One event; the settled state it brings to the client, if it does. -/
def step : ConversationEvent → Conversation × Option ServiceOperationState
  | .connectFail saturated =>
    match c.client with
    | .sending query => (c.conclude s query (connectFailed saturated), none)
    | _ => (c, none)
  | .writeFail refused =>
    match c.client with
    | .sending query =>
      let queued := if refused then some daemonAnswerBusy else none
      (c.conclude s query (requestWriteFailed queued), none)
    | _ => (c, none)
  | .submit =>
    match c.client with
    | .sending query =>
      ( { c.setChannel c.connections (.submitted (nextRequest s query)) with
          client := .reading query c.connections
          connections := c.connections + 1 },
        none )
    | _ => (c, none)
  | .read transfer =>
    match c.client with
    | .reading query connection =>
      match c.exchange connection transfer with
      | some e => (c.conclude s query e, settledState query e)
      | none => (c, none)
    | _ => (c, none)
  | .budgetSpent =>
    match c.client with
    | .sending true => ({ c with client := outcomeUnknown s.operationId }, none)
    | _ => (c, none)
  | .dispatch connection h => (c.dispatch connection h, none)
  | .refuse connection => (c.refuse connection, none)
  | .lose connection => (c.lose connection, none)
  | .otherClient request h => (c.otherClient s request h, none)
  | .background task answers => (c.background task answers, none)

end Conversation

/-- The call of `send_simple` against the daemon, from its first instruction. -/
def SendSimple.machineOf (s : SendSimple) :
    EventMachine Conversation ConversationEvent (Option ServiceOperationState) where
  initial := { server := { machine := s.machine, tracker := s.tracker } }
  step c e := c.step s e

end GreenCurve
