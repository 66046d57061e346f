import Mathlib.Data.List.Basic
import Mathlib.Tactic.Common

/-! # The window's queue of service requests

One worker thread does all service I/O of the window.  A mutation is active from the moment it
is queued until the window has presented its result, and one more can wait behind it; reads and
changes of the service itself run while no mutation is active.  Window and worker share the
flags under one lock and an event that the window sets when there is something to dispatch.  A
step below is one critical section, or what a thread does between two of them, so a list of
steps is an interleaving of the threads. -/

namespace GreenCurve.Gui

inductive GuiMutationKind where
  | apply | reset
deriving DecidableEq, Repr

inductive GuiServiceIoKind where
  | fullSync | telemetry | adminToggle
deriving DecidableEq, Repr

inductive GuiMutationQueueDecision where
  | start | pending | replacePending | keepPendingReset
deriving DecidableEq, Repr

/-- `gui_mutation_queue_decide`: a Reset that waits is not displaced by an Apply. -/
def guiMutationQueueDecide (active hasPending : Bool)
    (pendingKind incomingKind : GuiMutationKind) : GuiMutationQueueDecision :=
  if !active then .start
  else if !hasPending then .pending
  else if pendingKind = .reset ∧ incomingKind = .apply then .keepPendingReset
  else .replacePending

/-- What the worker is at, between two of its steps. -/
inductive Worker (ω κ : Type) where
  | waiting
  | woken
  | executing (work : ω)
  | posting (work : ω) (completion : κ)
  | releasing (work : ω)
  | reading (kind : GuiServiceIoKind) (presentationEpoch : Nat)
  | finishing
  | stopped
deriving DecidableEq, Repr

/-- A completion the worker has posted to the window. -/
inductive Message (ω κ : Type) where
  | mutation (work : ω) (completion : κ)
  | io (kind : GuiServiceIoKind) (presentationEpoch : Nat) (completion : κ)
deriving DecidableEq, Repr

/-- What became of the mutations so far: the accepted ones, the ones that left the queue
undispatched with the one that took their place, the dispatched ones, and the ended ones with
whether their result was delivered. -/
structure History (ω : Type) where
  accepted : List ω := []
  superseded : List (ω × Option ω) := []
  dispatches : List ω := []
  ended : List (ω × Bool) := []
deriving DecidableEq, Repr

/-- The state the window and the worker share, with the place of the worker, the posted
completions, and the mutation whose result the window presents. -/
structure GuiQueue (ω κ : Type) where
  busy : Bool := false
  active : Option ω := none
  dispatched : Bool := false
  pending : Option ω := none
  fullSync : Bool := false
  telemetry : Bool := false
  adminToggle : Bool := false
  shuttingDown : Bool := false
  signaled : Bool := false
  worker : Worker ω κ := .waiting
  messages : List (Message ω κ) := []
  handling : Option ω := none
  history : History ω := {}
deriving DecidableEq, Repr

/-- The answers one step of the worker draws on: whether the completion could be allocated,
whether it could be posted, and what the service said. -/
structure Answer (κ : Type) where
  allocated : Bool := true
  posted : Bool := true
  completion : κ

inductive QueueEvent (ω κ : Type) where
  | enqueue (work : ω)
  | gpuEpochAdvanced
  | queueFullSync
  | queueTelemetry
  | queueAdminToggle
  | take
  | acknowledge
  | shutdown
  | work (presentationEpoch : Nat) (answer : Answer κ)

namespace GuiQueue

variable {ω κ : Type} (kindOf : ω → GuiMutationKind) (q : GuiQueue ω κ)

/-- `gui_worker_dispatchable_locked`. -/
def dispatchable : Bool :=
  if q.shuttingDown || q.busy then false
  else match q.active with
    | some _ => !q.dispatched
    | none => q.adminToggle || q.fullSync || q.telemetry

/-- `gui_worker_signal_if_dispatchable_locked`. -/
def signal : GuiQueue ω κ := { q with signaled := q.signaled || q.dispatchable }

/-- `gui_mutation_enqueue`, its critical section. -/
def enqueue (work : ω) : GuiQueue ω κ :=
  let entered := { q.history with accepted := q.history.accepted ++ [work] }
  match guiMutationQueueDecide q.active.isSome q.pending.isSome
      ((q.pending.map kindOf).getD .apply) (kindOf work) with
  | .start =>
    signal { q with
      telemetry := false, active := some work, dispatched := false, history := entered }
  | .keepPendingReset => { q with telemetry := false }
  | .replacePending =>
    { q with
      telemetry := false
      pending := some work
      history := { entered with
        superseded := entered.superseded ++ q.pending.toList.map (·, some work) } }
  | .pending => { q with telemetry := false, pending := some work, history := entered }

/-- The history with the mutation that waits, if any, taken out of the queue. -/
def withdraw : History ω :=
  { q.history with superseded := q.history.superseded ++ q.pending.toList.map (·, none) }

/-- `gui_mutation_advance_gpu_epoch`, its critical section. -/
def gpuEpochAdvanced : GuiQueue ω κ :=
  signal { q with pending := none, fullSync := true, telemetry := false, history := q.withdraw }

/-- `gui_service_io_queue_full_sync`. -/
def queueFullSync : GuiQueue ω κ := signal { q with fullSync := true, telemetry := false }

/-- `gui_service_io_queue_telemetry`, with `gui_telemetry_queue_decide`. -/
def queueTelemetry : GuiQueue ω κ :=
  if q.fullSync || q.active.isSome || q.adminToggle || q.busy then q
  else signal { q with telemetry := true }

/-- `gui_service_io_queue_admin_toggle`. -/
def queueAdminToggle : GuiQueue ω κ :=
  if q.active.isSome || q.adminToggle then q
  else signal { q with adminToggle := true, telemetry := false }

/-- The window takes the oldest completion; a mutation's result is presented from here on. -/
def take : GuiQueue ω κ :=
  match q.messages with
  | [] => q
  | .mutation work _ :: rest => { q with messages := rest, handling := some work }
  | .io _ _ _ :: rest => { q with messages := rest }

/-- The active mutation is over: the one that waits takes its place, and a full read follows. -/
def next (work : ω) (delivered : Bool) : GuiQueue ω κ :=
  let ended := { q with
    dispatched := false
    fullSync := true
    history := { q.history with ended := q.history.ended ++ [(work, delivered)] } }
  if q.shuttingDown then signal { ended with active := none }
  else signal { ended with active := q.pending, pending := none }

/-- `gui_mutation_acknowledge_and_dispatch_next`, at the end of the presentation. -/
def acknowledge : GuiQueue ω κ :=
  match q.handling with
  | none => q
  | some work => next { q with handling := none } work true

/-- `gui_mutation_shutdown`, up to the wait for the worker. -/
def shutdown : GuiQueue ω κ :=
  { q with
    shuttingDown := true, pending := none, adminToggle := false, fullSync := false
    telemetry := false, signaled := true, history := q.withdraw }

/-- What the worker picks up when it is woken: the active mutation before anything else, and
reads only behind a change of the service. -/
def dispatch (presentationEpoch : Nat) : GuiQueue ω κ :=
  match q.active with
  | some work =>
    if q.dispatched then { q with worker := .waiting }
    else
      { q with
        dispatched := true
        busy := true
        worker := .executing work
        history := { q.history with dispatches := q.history.dispatches ++ [work] } }
  | none =>
    if q.adminToggle then
      { q with
        adminToggle := false, busy := true, worker := .reading .adminToggle presentationEpoch }
    else if q.fullSync then
      { q with fullSync := false, busy := true, worker := .reading .fullSync presentationEpoch }
    else if q.telemetry then
      { q with telemetry := false, busy := true, worker := .reading .telemetry presentationEpoch }
    else { q with worker := .waiting }

/-- One step of `gui_mutation_worker_proc`. -/
def workerStep (presentationEpoch : Nat) (answer : Answer κ) : GuiQueue ω κ :=
  match q.worker with
  | .waiting => if q.signaled then { q with signaled := false, worker := .woken } else q
  | .woken =>
    if q.shuttingDown then { q with worker := .stopped }
    else if q.busy then { q with worker := .waiting }
    else q.dispatch presentationEpoch
  | .executing work =>
    if answer.allocated then
      { q with busy := false, worker := .posting work answer.completion }
    else { q with worker := .releasing work }
  | .posting work completion =>
    if answer.posted then
      { q with messages := q.messages ++ [.mutation work completion], worker := .waiting }
    else { q with worker := .releasing work }
  | .releasing work => next { q with busy := false, worker := .waiting } work false
  | .reading kind epoch =>
    if answer.allocated && answer.posted then
      { q with messages := q.messages ++ [.io kind epoch answer.completion], worker := .finishing }
    else { q with worker := .finishing }
  | .finishing => signal { q with busy := false, worker := .waiting }
  | .stopped => q

def step : QueueEvent ω κ → GuiQueue ω κ
  | .enqueue work => q.enqueue kindOf work
  | .gpuEpochAdvanced => q.gpuEpochAdvanced
  | .queueFullSync => q.queueFullSync
  | .queueTelemetry => q.queueTelemetry
  | .queueAdminToggle => q.queueAdminToggle
  | .take => q.take
  | .acknowledge => q.acknowledge
  | .shutdown => q.shutdown
  | .work presentationEpoch answer => q.workerStep presentationEpoch answer

/-- The queue after an interleaving of the window and the worker. -/
def run (events : List (QueueEvent ω κ)) : GuiQueue ω κ := events.foldl (step kindOf) {}

end GuiQueue

end GreenCurve.Gui
