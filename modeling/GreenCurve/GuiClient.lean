import GreenCurve.GuiQueue
import GreenCurve.GuiServiceModel

/-! # The window as a client of the service

The window couples the model of the service with the queue of requests.  Every request that
changes hardware is stamped with the service instance and the GPU generation on show, and with
two counters: the GPU epoch, which advances when live authority is lost or changes hands, and
the presentation epoch, which advances when the window turns to something else.  The worker
numbers the connections by the service instances that answered it.  A result may settle the
user's draft only when both counters stand where they stood, and when it comes from the service
instance and GPU generation on show. -/

namespace GreenCurve.Gui

open Protocol

/-- `GuiMutationWork`, as far as it says what the request was made for. -/
structure MutationWork where
  kind : GuiMutationKind
  gpuEpoch : Nat
  presentationEpoch : Nat
  expectedServiceInstanceId : UInt64
  expectedGpuGeneration : UInt64
  expectedTopologySignature : UInt64
deriving DecidableEq, Repr

/-- What comes back to the worker: whether the transport, and with a mutation the service,
reports success, whether the response carries the protocol's magic and version, the state it
holds, and what a failure says about the service. -/
structure Reply where
  success : Bool := false
  hasHeader : Bool := false
  state : ServiceStateEnvelope := {}
  sessionCurrent : Bool := true
  preservesPresentation : Bool := false
  adminEnable : Bool := false

/-- `GuiMutationCompletion` and `GuiServiceIoCompletion`: the reply under the connection epoch
the worker gave it. -/
structure Completion where
  success : Bool
  hasHeader : Bool
  state : ServiceStateEnvelope
  transportAttempted : Bool
  connectionEpoch : UInt64
  preservesPresentation : Bool
  adminEnable : Bool

def Completion.hasEnvelope (completion : Completion) : Bool :=
  completion.hasHeader && completion.state.serviceInstanceId != 0

structure GuiClient where
  model : GuiServiceModel := {}
  gpuEpoch : Nat := 1
  presentationEpoch : Nat := 1
  connectionEpoch : UInt64 := 1
  workerServiceInstanceId : UInt64 := 0
  queue : GuiQueue MutationWork Completion := {}

inductive ClientEvent where
  | queueMutation (kind : GuiMutationKind) (draftAttached : Bool)
  | adapterChanged (removed : Bool)
  | adapterSelected
  | beginFullSync
  | retryFullSync
  | queueTelemetry
  | queueAdminToggle
  | take (adapterDiffers : Bool)
  | acknowledge
  | work (allocated posted : Bool) (reply : Reply)

namespace GuiClient

variable (c : GuiClient)

/-- One critical section of the queue. -/
def queued (event : QueueEvent MutationWork Completion) : GuiClient :=
  { c with queue := c.queue.step MutationWork.kind event }

/-- `gui_mutation_advance_gpu_epoch`. -/
def advanceGpuEpoch : GuiClient :=
  { c.queued .gpuEpochAdvanced with gpuEpoch := c.gpuEpoch + 1 }

/-! ## What the window asks for -/

/-- `gui_mutation_stamp_request`: nothing is requested but for a GPU the window shows, with a
draft that belongs to it. -/
def stampable (draftAttached : Bool) : Bool :=
  c.model.isReady && c.model.serviceInstanceId != 0 && c.model.gpuGeneration != 0 &&
    c.model.topologySignature != 0 && draftAttached

def stamped (kind : GuiMutationKind) : MutationWork where
  kind := kind
  gpuEpoch := c.gpuEpoch
  presentationEpoch := c.presentationEpoch
  expectedServiceInstanceId := c.model.serviceInstanceId
  expectedGpuGeneration := c.model.gpuGeneration
  expectedTopologySignature := c.model.topologySignature

/-- `gui_mutation_queue_apply` and `gui_mutation_queue_reset`. -/
def queueMutation (kind : GuiMutationKind) (draftAttached : Bool) : GuiClient :=
  if c.stampable draftAttached then c.queued (.enqueue (c.stamped kind)) else c

/-- `gui_handle_selected_gpu_pnp_event`. -/
def adapterChanged (removed : Bool) : GuiClient :=
  let told := advanceGpuEpoch { c with presentationEpoch := c.presentationEpoch + 1 }
  queued { told with model := c.model.adapterChanged removed } .queueFullSync

/-- `gui_service_begin_full_sync`. -/
def beginFullSync : GuiClient :=
  let presentation :=
    if c.model.phase = .syncing then c.presentationEpoch else c.presentationEpoch + 1
  queued
    { c with presentationEpoch := presentation, model := c.model.beginSync c.connectionEpoch }
    .queueFullSync

/-! ## What the window does with a completion -/

/-- Whether an accepted envelope ends the authority on show: it names another instance or
generation, or a GPU that is not ready any more. -/
def authorityEnds (state : ServiceStateEnvelope) (model : GuiServiceModel) : Bool :=
  (c.model.serviceInstanceId != 0 &&
    (c.model.serviceInstanceId != state.serviceInstanceId ||
      c.model.gpuGeneration != state.gpuGeneration)) ||
  (c.model.phase == .ready && model.phase != .ready)

def adopt (state : ServiceStateEnvelope) (model : GuiServiceModel) : GuiClient :=
  if c.authorityEnds state model then advanceGpuEpoch { c with model := model }
  else { c with model := model }

/-- `gui_service_accept_response_on_main_thread`, and whether the envelope was accepted.  A
snapshot of another adapter than the selected one advances the GPU epoch on its own. -/
def acceptResponse (epoch : UInt64) (state : ServiceStateEnvelope) (adapterDiffers : Bool) :
    GuiClient × Bool :=
  match c.model.accept epoch state with
  | (model, .accepted) =>
    let adopted := c.adopt state model
    (if model.isReady && adapterDiffers then adopted.advanceGpuEpoch else adopted, true)
  | (model, _) => ({ c with model := model }, false)

/-- `gui_service_handle_transport_failure`. -/
def transportFailure (epoch : UInt64) : GuiClient :=
  let disconnected := { c with model := c.model.disconnect epoch }
  if c.model.isReady then disconnected.advanceGpuEpoch else disconnected

/-- `gui_service_completion_context_current`. -/
def contextCurrent (work : MutationWork) : Bool :=
  work.gpuEpoch == c.gpuEpoch && work.presentationEpoch == c.presentationEpoch

/-- `gui_service_mutation_result_can_commit`, over a preview of what the envelope would do to the
model: whether the result clears the draft. -/
def canCommit (work : MutationWork) (completion : Completion) : Bool :=
  let preview := c.model.accept completion.connectionEpoch completion.state
  completion.success && c.contextCurrent work && completion.hasEnvelope &&
    completion.state.serviceInstanceId == c.model.serviceInstanceId &&
    completion.state.gpuGeneration == c.model.gpuGeneration &&
    preview.2 == .accepted && preview.1.isReady

/-- `handle_gui_mutation_completion`, up to the presentation, and whether the result is shown as
a success. -/
def handleMutation (work : MutationWork) (completion : Completion) (adapterDiffers : Bool) :
    GuiClient × Bool :=
  if completion.hasEnvelope && c.contextCurrent work then
    let adopted := c.acceptResponse completion.connectionEpoch completion.state adapterDiffers
    (adopted.1, c.canCommit work completion && adopted.2 && adopted.1.contextCurrent work &&
      adopted.1.model.isReady)
  else if !completion.hasEnvelope && completion.transportAttempted && c.contextCurrent work then
    (c.transportFailure completion.connectionEpoch, false)
  else (c, false)

/-- `handle_gui_service_io_completion`, with `gui_service_handle_read_miss` and the removal of
the service in `gui_service_handle_admin_completion`. -/
def handleServiceIo (kind : GuiServiceIoKind) (presentationEpoch : Nat) (completion : Completion)
    (adapterDiffers : Bool) : GuiClient :=
  if kind = .adminToggle then
    if completion.success && !completion.adminEnable then
      { c with model := c.model.disconnect completion.connectionEpoch }
    else c
  else if presentationEpoch ≠ c.presentationEpoch then c
  else if completion.success then
    (c.acceptResponse completion.connectionEpoch completion.state adapterDiffers).1
  else if completion.preservesPresentation then c
  else c.transportFailure completion.connectionEpoch

/-- The window takes the oldest completion and handles it, up to its presentation. -/
def take (adapterDiffers : Bool) : GuiClient :=
  match c.queue.messages with
  | [] => c
  | .mutation work completion :: _ =>
    ((c.queued .take).handleMutation work completion adapterDiffers).1
  | .io kind presentationEpoch completion :: _ =>
    (c.queued .take).handleServiceIo kind presentationEpoch completion adapterDiffers

/-! ## What the worker does -/

/-- `gui_worker_record_connection_result`: only an answer says which instance is at the other
end. -/
def recordConnectionResult (answered : Bool) (instanceId : UInt64) : GuiClient :=
  if answered && instanceId != c.workerServiceInstanceId then
    { c with
      workerServiceInstanceId := instanceId
      connectionEpoch := c.connectionEpoch + 1 }
  else c

/-- The completion the worker fills from a reply. -/
def complete (attempted : Bool) (reply : Reply) : Completion where
  success := reply.success
  hasHeader := reply.hasHeader
  state := reply.state
  transportAttempted := attempted
  connectionEpoch := c.connectionEpoch
  preservesPresentation := reply.preservesPresentation
  adminEnable := reply.adminEnable

/-- What the worker makes of a reply: a mutation stamped under another GPU epoch is not sent. -/
def receive (allocated : Bool) (reply : Reply) : GuiClient × Completion :=
  match c.queue.worker, allocated with
  | .executing work, true =>
    if reply.sessionCurrent && work.gpuEpoch == c.gpuEpoch then
      let told := c.recordConnectionResult (reply.state.serviceInstanceId != 0)
        reply.state.serviceInstanceId
      (told, told.complete true reply)
    else (c, c.complete false {})
  | .reading kind _, true =>
    if kind = .adminToggle then (c, c.complete true reply)
    else
      let told := c.recordConnectionResult reply.success reply.state.serviceInstanceId
      (told, told.complete true reply)
  | _, _ => (c, c.complete false {})

/-- One step of the worker. -/
def work (allocated posted : Bool) (reply : Reply) : GuiClient :=
  (c.receive allocated reply).1.queued (.work c.presentationEpoch
    { allocated := allocated, posted := posted, completion := (c.receive allocated reply).2 })

def step : ClientEvent → GuiClient
  | .queueMutation kind draftAttached => c.queueMutation kind draftAttached
  | .adapterChanged removed => c.adapterChanged removed
  | .adapterSelected => c.advanceGpuEpoch.beginFullSync
  | .beginFullSync => c.beginFullSync
  | .retryFullSync => c.queued .queueFullSync
  | .queueTelemetry => c.queued .queueTelemetry
  | .queueAdminToggle => c.queued .queueAdminToggle
  | .take adapterDiffers => c.take adapterDiffers
  | .acknowledge => c.queued .acknowledge
  | .work allocated posted reply => c.work allocated posted reply

/-- The client after an interleaving of the window and the worker, until the window is closed. -/
def run (events : List ClientEvent) : GuiClient := events.foldl step {}

end GuiClient

end GreenCurve.Gui
