import GreenCurve.GuiClientLaw
import Mathlib.Algebra.Group.Nat.Defs

/-! # A service that was restarted

The worker numbers connections: the number moves on when another service instance answers than
before.  Completions reach the window later, in order, and the window keeps to one instance for
each number.  So two envelopes under one number name one instance, whoever looks at them, and
the envelope of a new instance is never mistaken for one of an impostor. -/

namespace GreenCurve.Gui

open Protocol

/-- What a message offers the window to accept: an envelope and its connection epoch. -/
def Message.envelope : Message MutationWork Completion → Option (UInt64 × ServiceStateEnvelope)
  | .mutation _ completion =>
    if completion.hasEnvelope then some (completion.connectionEpoch, completion.state) else none
  | .io kind _ completion =>
    if kind ≠ .adminToggle ∧ completion.success = true then
      some (completion.connectionEpoch, completion.state)
    else none

namespace GuiClient

variable {c c' c'' : GuiClient}

/-! ## Who answers under which number -/

/-- Somebody holds that the service instance `i` answers over the connection `e`: the worker,
the window, or a completion on its way. -/
inductive Claims (c : GuiClient) : UInt64 → UInt64 → Prop where
  | worker : Claims c c.connectionEpoch c.workerServiceInstanceId
  | shown (h : c.model.hasAcceptedEnvelope = true) :
      Claims c c.model.connectionEpoch c.model.serviceInstanceId
  | posted (message : Message MutationWork Completion) (h : message ∈ c.queue.messages)
      (epoch : UInt64) (state : ServiceStateEnvelope)
      (henvelope : message.envelope = some (epoch, state)) :
      Claims c epoch state.serviceInstanceId
  | posting (work : MutationWork) (completion : Completion)
      (h : c.queue.worker = .posting work completion) (henvelope : completion.hasEnvelope = true) :
      Claims c completion.connectionEpoch completion.state.serviceInstanceId

/-- A step that tells nobody anything new about the connections. -/
structure Repeats (c c' : GuiClient) : Prop where
  epoch : c'.connectionEpoch = c.connectionEpoch
  instanceId : c'.workerServiceInstanceId = c.workerServiceInstanceId
  claims : ∀ e i, Claims c' e i → Claims c e i

theorem repeats_refl (c : GuiClient) : Repeats c c := ⟨rfl, rfl, fun _ _ => id⟩

theorem Repeats.trans (h : Repeats c c') (h' : Repeats c' c'') : Repeats c c'' :=
  ⟨h'.epoch.trans h.epoch, h'.instanceId.trans h.instanceId,
    fun e i hclaims => h.claims e i (h'.claims e i hclaims)⟩

/-- What a step leaves of the queue's completions. -/
structure Delivers (q q' : GuiQueue MutationWork Completion) : Prop where
  messages : ∀ message ∈ q'.messages, message ∈ q.messages
  worker : q'.worker = q.worker

theorem delivers_next {q : GuiQueue MutationWork Completion} (work : MutationWork)
    (delivered : Bool) : Delivers q (q.next work delivered) := by
  unfold GuiQueue.next
  split <;> exact ⟨fun _ => id, rfl⟩

theorem delivers_step {q : GuiQueue MutationWork Completion}
    {event : QueueEvent MutationWork Completion} (hwork : event.isWork = false) :
    Delivers q (q.step MutationWork.kind event) := by
  cases event with
  | enqueue work =>
    simp only [GuiQueue.step, GuiQueue.enqueue]
    split <;> exact ⟨fun _ => id, rfl⟩
  | gpuEpochAdvanced => exact ⟨fun _ => id, rfl⟩
  | queueFullSync => exact ⟨fun _ => id, rfl⟩
  | queueTelemetry =>
    simp only [GuiQueue.step, GuiQueue.queueTelemetry]
    split_ifs <;> exact ⟨fun _ => id, rfl⟩
  | queueAdminToggle =>
    simp only [GuiQueue.step, GuiQueue.queueAdminToggle]
    split_ifs <;> exact ⟨fun _ => id, rfl⟩
  | take =>
    simp only [GuiQueue.step, GuiQueue.take]
    split
    · exact ⟨fun _ => id, rfl⟩
    next hmessages => exact ⟨fun _ h => hmessages ▸ List.mem_cons_of_mem _ h, rfl⟩
    next hmessages => exact ⟨fun _ h => hmessages ▸ List.mem_cons_of_mem _ h, rfl⟩
  | acknowledge =>
    simp only [GuiQueue.step, GuiQueue.acknowledge]
    split
    · exact ⟨fun _ => id, rfl⟩
    · obtain ⟨hmessages, hworker⟩ := delivers_next (q := { q with handling := none }) ‹_› true
      exact ⟨hmessages, hworker⟩
  | shutdown => exact ⟨fun _ => id, rfl⟩
  | work epoch answer => cases hwork

theorem repeats_of_queue (hepoch : c'.connectionEpoch = c.connectionEpoch)
    (hinstance : c'.workerServiceInstanceId = c.workerServiceInstanceId)
    (hmodel : c'.model = c.model) (hqueue : Delivers c.queue c'.queue) : Repeats c c' := by
  refine ⟨hepoch, hinstance, fun e i hclaims => ?_⟩
  cases hclaims with
  | worker =>
    rw [hepoch, hinstance]
    exact .worker
  | shown h =>
    rw [hmodel] at h ⊢
    exact .shown h
  | posted message h _ state henvelope =>
    exact .posted message (hqueue.messages _ h) _ state henvelope
  | posting work completion h henvelope =>
    exact .posting work completion (hqueue.worker ▸ h) henvelope

theorem repeats_queued (event : QueueEvent MutationWork Completion)
    (hwork : event.isWork = false) : Repeats c (c.queued event) :=
  repeats_of_queue rfl rfl rfl (delivers_step hwork)

theorem repeats_advanceGpuEpoch (c : GuiClient) : Repeats c c.advanceGpuEpoch :=
  repeats_of_queue rfl rfl rfl ⟨fun _ => id, rfl⟩

/-- The window shows an envelope somebody already knew of. -/
theorem Repeats.model (hfrom : Repeats c c') {model : GuiServiceModel}
    (h : model.hasAcceptedEnvelope = true →
      Claims c model.connectionEpoch model.serviceInstanceId) :
    Repeats c { c' with model := model } := by
  refine ⟨hfrom.epoch, hfrom.instanceId, fun e i hclaims => ?_⟩
  cases hclaims with
  | worker => exact hfrom.claims _ _ .worker
  | shown hshown => exact h hshown
  | posted message h _ state henvelope =>
    exact hfrom.claims _ _ (@Claims.posted c' message h _ state henvelope)
  | posting work completion h henvelope =>
    exact hfrom.claims _ _ (@Claims.posting c' work completion h henvelope)

theorem claims_beginSync (epoch : UInt64)
    (hshown : (c.model.beginSync epoch).hasAcceptedEnvelope = true) :
    Claims c (c.model.beginSync epoch).connectionEpoch
      (c.model.beginSync epoch).serviceInstanceId := by
  unfold GuiServiceModel.beginSync at hshown ⊢
  split_ifs at hshown ⊢
  · cases hshown
  · exact .shown hshown

theorem claims_adapterChanged (removed : Bool)
    (hshown : (c.model.adapterChanged removed).hasAcceptedEnvelope = true) :
    Claims c (c.model.adapterChanged removed).connectionEpoch
      (c.model.adapterChanged removed).serviceInstanceId := by
  unfold GuiServiceModel.adapterChanged GuiServiceModel.requireNewGpuGeneration at hshown ⊢
  split_ifs at hshown ⊢ <;> exact .shown hshown

theorem repeats_beginFullSync : Repeats c c.beginFullSync := by
  have hpresented : ∀ presentation : Nat, Repeats c { c with presentationEpoch := presentation } :=
    fun _ => repeats_of_queue rfl rfl rfl ⟨fun _ => id, rfl⟩
  have hsynced : ∀ presentation : Nat, Repeats c
      { c with presentationEpoch := presentation, model := c.model.beginSync c.connectionEpoch } :=
    fun presentation => (hpresented presentation).model (claims_beginSync _)
  exact (hsynced _).trans (repeats_queued .queueFullSync rfl)

theorem repeats_adapterChanged (removed : Bool) : Repeats c (c.adapterChanged removed) := by
  have hpresented : Repeats c { c with presentationEpoch := c.presentationEpoch + 1 } :=
    repeats_of_queue rfl rfl rfl ⟨fun _ => id, rfl⟩
  have hadvanced := hpresented.trans (repeats_advanceGpuEpoch _)
  have hmodel := hadvanced.model (claims_adapterChanged removed)
  exact hmodel.trans (repeats_queued .queueFullSync rfl)

theorem repeats_transportFailure (epoch : UInt64) : Repeats c (c.transportFailure epoch) := by
  have hdisconnected : Repeats c { c with model := c.model.disconnect epoch } :=
    (repeats_refl c).model nofun
  unfold transportFailure
  split_ifs
  · exact hdisconnected.trans (repeats_advanceGpuEpoch _)
  · exact hdisconnected

/-- The window accepts an envelope over the connection it came with, or none. -/
theorem Repeats.acceptResponse (hfrom : Repeats c c') {epoch : UInt64}
    {state : ServiceStateEnvelope} (h : Claims c epoch state.serviceInstanceId)
    (adapterDiffers : Bool) : Repeats c (c'.acceptResponse epoch state adapterDiffers).1 := by
  unfold GuiClient.acceptResponse
  rcases c'.model.accept_cases epoch state with ⟨haccepts, haccept⟩ | ⟨-, hrejected, hmodel⟩
  · have haccepted : Repeats c { c' with model := c'.model.accepted epoch state } := by
      refine hfrom.model fun _ => ?_
      rw [GuiServiceModel.accepted_connectionEpoch haccepts.current,
        GuiServiceModel.accepted_serviceInstanceId]
      exact h
    have hadopted : Repeats c (c'.adopt state (c'.model.accepted epoch state)) := by
      unfold adopt
      split_ifs
      · exact haccepted.trans (repeats_advanceGpuEpoch _)
      · exact haccepted
    rw [haccept]
    simp only
    split_ifs
    · exact hadopted.trans (repeats_advanceGpuEpoch _)
    · exact hadopted
  · split
    next model haccept => simp [haccept] at hrejected
    next model _ haccept =>
      rw [haccept] at hmodel
      refine hfrom.trans ((repeats_refl c').model fun hshown => ?_)
      rcases hmodel with rfl | rfl
      · exact .shown hshown
      · unfold GuiServiceModel.syncedTo at hshown ⊢
        split_ifs at hshown ⊢
        · exact claims_beginSync epoch hshown
        · exact .shown hshown

theorem repeats_take (adapterDiffers : Bool) : Repeats c (c.take adapterDiffers) := by
  have htaken : Repeats c (c.queued .take) := repeats_queued _ rfl
  unfold GuiClient.take
  split
  · exact repeats_refl c
  next work completion rest hmessages =>
    unfold handleMutation
    split_ifs with hcurrent
    · rw [Bool.and_eq_true] at hcurrent
      refine htaken.acceptResponse (.posted (.mutation work completion) ?_ _ _ ?_) _
      · exact hmessages ▸ List.mem_cons_self
      · exact if_pos hcurrent.1
    · exact htaken.trans (repeats_transportFailure _)
    · exact htaken
  next kind presentationEpoch completion rest hmessages =>
    unfold handleServiceIo
    split_ifs with hkind _ _ hsuccess
    · exact htaken.model nofun
    · exact htaken
    · exact htaken
    · refine htaken.acceptResponse (.posted (.io kind presentationEpoch completion) ?_ _ _ ?_) _
      · exact hmessages ▸ List.mem_cons_self
      · exact if_pos ⟨hkind, hsuccess⟩
    · exact htaken
    · exact htaken.trans (repeats_transportFailure _)

/-! ## What the worker learns -/

/-- The worker learns at most that another instance answers, and moves on to the next number. -/
structure Learns (c c' : GuiClient) : Prop where
  connection : c'.connectionEpoch = c.connectionEpoch ∧
      c'.workerServiceInstanceId = c.workerServiceInstanceId ∨
    c'.connectionEpoch = c.connectionEpoch + 1
  claims : ∀ e i, Claims c' e i → Claims c e i ∨
    e = c'.connectionEpoch ∧ i = c'.workerServiceInstanceId

theorem Repeats.learns (h : Repeats c c') : Learns c c' :=
  ⟨.inl ⟨h.epoch, h.instanceId⟩, fun e i hclaims => .inl (h.claims e i hclaims)⟩

theorem learns_recordConnectionResult (answered : Bool) (instanceId : UInt64) :
    Learns c (c.recordConnectionResult answered instanceId) := by
  unfold recordConnectionResult
  split_ifs
  · refine ⟨.inr rfl, fun e i hclaims => ?_⟩
    cases hclaims with
    | worker => exact .inr ⟨rfl, rfl⟩
    | shown h => exact .inl (@Claims.shown c h)
    | posted message h _ state henvelope =>
      exact .inl (@Claims.posted c message h _ state henvelope)
    | posting work completion h henvelope =>
      exact .inl (@Claims.posting c work completion h henvelope)
  · exact (repeats_refl c).learns

/-- After an answer the worker holds that the instance it names answers. -/
theorem recordConnectionResult_answered (instanceId : UInt64) :
    (c.recordConnectionResult true instanceId).workerServiceInstanceId = instanceId := by
  unfold recordConnectionResult
  split_ifs with h
  · rfl
  · simp only [Bool.true_and, bne_iff_ne, ne_eq, not_not] at h
    exact h.symm

theorem worker_next {q : GuiQueue MutationWork Completion} (work : MutationWork)
    (delivered : Bool) : (q.next work delivered).worker = q.worker :=
  (delivers_next work delivered).worker

theorem messages_next {q : GuiQueue MutationWork Completion} (work : MutationWork)
    (delivered : Bool) : (q.next work delivered).messages = q.messages := by
  unfold GuiQueue.next
  split <;> rfl

/-- What a step of the worker posts. -/
theorem workerStep_messages (q : GuiQueue MutationWork Completion) (epoch : Nat)
    (answer : Answer Completion) : (q.workerStep epoch answer).messages = q.messages ∨
      (∃ work completion, q.worker = .posting work completion ∧
        (q.workerStep epoch answer).messages = q.messages ++ [.mutation work completion]) ∨
      ∃ kind presentationEpoch, q.worker = .reading kind presentationEpoch ∧
        answer.allocated = true ∧ (q.workerStep epoch answer).messages =
          q.messages ++ [.io kind presentationEpoch answer.completion] := by
  cases hworker : q.worker with
  | posting work completion =>
    simp only [GuiQueue.workerStep, hworker]
    split_ifs
    · exact .inr (.inl ⟨work, completion, rfl, rfl⟩)
    · exact .inl rfl
  | reading kind presentationEpoch =>
    simp only [GuiQueue.workerStep, hworker]
    split_ifs with hanswer
    · rw [Bool.and_eq_true] at hanswer
      exact .inr (.inr ⟨kind, presentationEpoch, rfl, hanswer.1, rfl⟩)
    · exact .inl rfl
  | woken =>
    left
    simp only [GuiQueue.workerStep, hworker]
    split_ifs
    · rfl
    · rfl
    · unfold GuiQueue.dispatch
      split <;> split_ifs <;> rfl
  | releasing work =>
    left
    simp only [GuiQueue.workerStep, hworker]
    exact messages_next _ _
  | waiting | executing work =>
    left
    simp only [GuiQueue.workerStep, hworker]
    split_ifs <;> rfl
  | finishing =>
    left
    simp only [GuiQueue.workerStep, hworker]
    rfl
  | stopped =>
    left
    simp only [GuiQueue.workerStep, hworker]

/-- The worker comes to post a result from the execution of its mutation. -/
theorem workerStep_posting {q : GuiQueue MutationWork Completion} {epoch : Nat}
    {answer : Answer Completion} {work : MutationWork} {completion : Completion}
    (h : (q.workerStep epoch answer).worker = .posting work completion) :
    q.worker = .executing work ∧ answer.allocated = true ∧ completion = answer.completion := by
  cases hworker : q.worker with
  | executing held =>
    simp only [GuiQueue.workerStep, hworker] at h
    split_ifs at h with hallocated
    · cases h
      exact ⟨rfl, hallocated, rfl⟩
  | woken =>
    simp only [GuiQueue.workerStep, hworker] at h
    split_ifs at h
    unfold GuiQueue.dispatch at h
    split at h <;> split_ifs at h
  | releasing held =>
    simp only [GuiQueue.workerStep, hworker, worker_next] at h
    cases h
  | waiting | posting | reading =>
    simp only [GuiQueue.workerStep, hworker] at h
    split_ifs at h
    all_goals simp [hworker] at h
  | finishing | stopped =>
    simp [GuiQueue.workerStep, hworker, GuiQueue.signal] at h

/-- The state the worker has recorded an answer in, and the completion it made of it. -/
theorem learns_receive (allocated : Bool) (reply : Reply) :
    Learns c (c.receive allocated reply).1 ∧
      (c.receive allocated reply).1.queue = c.queue ∧
      (c.receive allocated reply).2.connectionEpoch =
        (c.receive allocated reply).1.connectionEpoch ∧
      ((∃ work, c.queue.worker = .executing work) →
        (c.receive allocated reply).2.hasEnvelope = true →
        (c.receive allocated reply).2.state.serviceInstanceId =
          (c.receive allocated reply).1.workerServiceInstanceId) ∧
      (∀ kind epoch, c.queue.worker = .reading kind epoch → kind ≠ .adminToggle →
        allocated = true → (c.receive allocated reply).2.success = true →
        (c.receive allocated reply).2.state.serviceInstanceId =
          (c.receive allocated reply).1.workerServiceInstanceId) := by
  have hqueue : ∀ answered instanceId, (c.recordConnectionResult answered instanceId).queue =
      c.queue := by
    intro answered instanceId
    unfold recordConnectionResult
    split <;> rfl
  unfold receive
  split
  next work hworker =>
    split_ifs
    · refine ⟨learns_recordConnectionResult _ _, hqueue _ _, rfl, fun _ henvelope => ?_, ?_⟩
      · simp only [Completion.hasEnvelope, complete, Bool.and_eq_true] at henvelope
        simp only [complete]
        rw [henvelope.2, recordConnectionResult_answered]
      · simp [hworker]
    · exact ⟨(repeats_refl c).learns, rfl, rfl, fun _ henvelope => by
        simp [Completion.hasEnvelope, complete] at henvelope, by simp [hworker]⟩
  next kind epoch hworker =>
    split_ifs with hkind
    · refine ⟨(repeats_refl c).learns, rfl, rfl, by simp [hworker], ?_⟩
      intro kind' epoch' hreading hother
      rw [hworker] at hreading
      cases hreading
      exact absurd hkind hother
    · refine ⟨learns_recordConnectionResult _ _, hqueue _ _, rfl, by simp [hworker], ?_⟩
      rintro kind' epoch' - - - hsuccess
      simp only [complete] at hsuccess ⊢
      rw [hsuccess, recordConnectionResult_answered]
  next hexecuting hreading =>
    refine ⟨(repeats_refl c).learns, rfl, rfl, fun _ henvelope => by
      simp [Completion.hasEnvelope, complete] at henvelope, ?_⟩
    rintro kind epoch hworker - hallocated
    exact absurd hallocated (hreading kind epoch hworker)

theorem learns_work (allocated posted : Bool) (reply : Reply) :
    Learns c (c.work allocated posted reply) := by
  obtain ⟨hlearns, hqueue, hepoch, hexecuted, hread⟩ := learns_receive (c := c) allocated reply
  refine ⟨hlearns.connection, fun e i hclaims => ?_⟩
  cases hclaims with
  | worker => exact .inr ⟨rfl, rfl⟩
  | shown h => exact hlearns.claims _ _ (@Claims.shown (c.receive allocated reply).1 h)
  | posted message h _ state henvelope =>
    change message ∈ ((c.receive allocated reply).1.queue.workerStep _ _).messages at h
    rcases workerStep_messages (c.receive allocated reply).1.queue c.presentationEpoch
        ⟨allocated, posted, (c.receive allocated reply).2⟩ with
      hsame | ⟨work, completion, hworker, hmore⟩ | ⟨kind, epoch, hworker, hallocated, hmore⟩
    · rw [hsame] at h
      exact hlearns.claims _ _
        (@Claims.posted (c.receive allocated reply).1 message h _ state henvelope)
    · rw [hmore] at h
      rcases List.mem_append.mp h with h | h
      · exact hlearns.claims _ _
          (@Claims.posted (c.receive allocated reply).1 message h _ state henvelope)
      · rw [List.mem_singleton.mp h, Message.envelope] at henvelope
        split_ifs at henvelope with hhas
        cases henvelope
        exact hlearns.claims _ _
          (@Claims.posting (c.receive allocated reply).1 work completion hworker hhas)
    · rw [hmore] at h
      rcases List.mem_append.mp h with h | h
      · exact hlearns.claims _ _
          (@Claims.posted (c.receive allocated reply).1 message h _ state henvelope)
      · rw [List.mem_singleton.mp h, Message.envelope] at henvelope
        split_ifs at henvelope with hreads
        cases henvelope
        exact .inr ⟨hepoch, hread kind epoch (hqueue ▸ hworker) hreads.1 hallocated hreads.2⟩
  | posting work completion h henvelope =>
    obtain ⟨hworker, -, rfl⟩ := workerStep_posting h
    exact .inr ⟨hepoch, hexecuted ⟨work, hqueue ▸ hworker⟩ henvelope⟩

theorem learns_step (event : ClientEvent) : Learns c (c.step event) := by
  cases event with
  | queueMutation kind draftAttached =>
    rw [step, queueMutation]
    split_ifs
    · exact (repeats_queued _ rfl).learns
    · exact (repeats_refl c).learns
  | adapterChanged removed => exact (repeats_adapterChanged removed).learns
  | adapterSelected => exact ((repeats_advanceGpuEpoch c).trans repeats_beginFullSync).learns
  | beginFullSync => exact repeats_beginFullSync.learns
  | retryFullSync => exact (repeats_queued .queueFullSync rfl).learns
  | queueTelemetry => exact (repeats_queued .queueTelemetry rfl).learns
  | queueAdminToggle => exact (repeats_queued .queueAdminToggle rfl).learns
  | take adapterDiffers => exact (repeats_take adapterDiffers).learns
  | acknowledge => exact (repeats_queued .acknowledge rfl).learns
  | work allocated posted reply => exact learns_work allocated posted reply

/-! ## One instance for each number -/

/-- Nobody knows of a number the worker has not given out, and each number stands for one
instance. -/
structure Consistent (c : GuiClient) : Prop where
  bound : ∀ e i, Claims c e i → e ≤ c.connectionEpoch
  agree : ∀ e i i', Claims c e i → Claims c e i' → i = i'

theorem Consistent.step (h : Consistent c) (hlearns : Learns c c')
    (hroom : c.connectionEpoch < c.connectionEpoch + 1) : Consistent c' := by
  rcases hlearns.connection with ⟨hepoch, hinstance⟩ | hepoch
  · have hclaims : ∀ e i, Claims c' e i → Claims c e i := by
      intro e i hclaims
      rcases hlearns.claims e i hclaims with hclaims | ⟨rfl, rfl⟩
      · exact hclaims
      · rw [hepoch, hinstance]
        exact .worker
    exact ⟨fun e i hc => hepoch ▸ h.bound e i (hclaims e i hc),
      fun e i i' hi hi' => h.agree e i i' (hclaims e i hi) (hclaims e i' hi')⟩
  · -- an old claim is below the number given out now
    have hold : ∀ e i, Claims c e i → e < c'.connectionEpoch := fun e i hc =>
      hepoch ▸ UInt64.lt_of_le_of_lt (h.bound e i hc) hroom
    refine ⟨fun e i hc => ?_, fun e i i' hi hi' => ?_⟩
    · rcases hlearns.claims e i hc with hc | ⟨rfl, -⟩
      · exact UInt64.le_of_lt (hold e i hc)
      · exact UInt64.le_refl _
    · rcases hlearns.claims e i hi with hi | ⟨rfl, rfl⟩
      · rcases hlearns.claims e i' hi' with hi' | ⟨rfl, -⟩
        · exact h.agree e i i' hi hi'
        · exact absurd (hold _ _ hi) (UInt64.lt_irrefl _)
      · rcases hlearns.claims _ i' hi' with hi' | ⟨-, rfl⟩
        · exact absurd (hold _ _ hi') (UInt64.lt_irrefl _)
        · rfl

theorem connectionEpoch_step (hlearns : Learns c c') {n : Nat} (h : c.connectionEpoch.toNat ≤ n)
    (hroom : n + 1 < 2 ^ 64) :
    c.connectionEpoch < c.connectionEpoch + 1 ∧ c'.connectionEpoch.toNat ≤ n + 1 := by
  have hnext : (c.connectionEpoch + 1).toNat = c.connectionEpoch.toNat + 1 := by
    rw [UInt64.toNat_add, Nat.mod_eq_of_lt]
    · rfl
    · simp only [UInt64.toNat_one]
      omega
  refine ⟨UInt64.lt_iff_toNat_lt.mpr (by omega), ?_⟩
  rcases hlearns.connection with ⟨hepoch, -⟩ | hepoch
  · rw [hepoch]
    omega
  · rw [hepoch]
    omega

theorem consistent_empty : Consistent ({} : GuiClient) := by
  have hclaims : ∀ e i, Claims ({} : GuiClient) e i → e = 1 ∧ i = 0 := by
    intro e i hc
    cases hc with
    | worker => exact ⟨rfl, rfl⟩
    | shown h => cases h
    | posted message h => cases h
    | posting work completion h => cases h
  exact ⟨fun e i hc => UInt64.le_of_eq (hclaims e i hc).1,
    fun e i i' hi hi' => (hclaims e i hi).2.trans (hclaims e i' hi').2.symm⟩

theorem consistent_run (events : List ClientEvent) (hlength : events.length + 1 < 2 ^ 64) :
    Consistent (run events) ∧ (run events).connectionEpoch.toNat ≤ events.length + 1 := by
  induction events using List.reverseRecOn with
  | nil => exact ⟨consistent_empty, Nat.le_refl _⟩
  | append_singleton events event ih =>
    rw [List.length_append, List.length_singleton] at hlength
    obtain ⟨hconsistent, hepoch⟩ := ih (by omega)
    rw [run_append, List.length_append, List.length_singleton]
    obtain ⟨hroom, hnext⟩ := connectionEpoch_step (learns_step event) hepoch hlength
    exact ⟨hconsistent.step (learns_step event) hroom, hnext⟩

/-- **A restarted service is recognized.**  Whatever the window and the worker have done, a valid
envelope on its way to the window over a connection that is not older than the one on show, from
another service instance than the one on show and the one that was replaced last, is accepted:
the window holds no envelope of that connection to reject it with. -/
theorem restarted_service_adopted (events : List ClientEvent) (hlength : events.length + 1 < 2 ^ 64)
    (message : Message MutationWork Completion) (hposted : message ∈ (run events).queue.messages)
    (epoch : UInt64) (state : ServiceStateEnvelope)
    (henvelope : message.envelope = some (epoch, state)) (hvalid : envelopeInvalid state = false)
    (hcurrent : (run events).model.connectionEpoch ≤ epoch)
    (hother : state.serviceInstanceId ≠ (run events).model.serviceInstanceId)
    (hretired : state.serviceInstanceId ≠ (run events).model.retiredServiceInstanceId) :
    (run events).model.accept epoch state =
      ((run events).model.accepted epoch state, .accepted) := by
  obtain ⟨hconsistent, -⟩ := consistent_run events hlength
  have haccepts : (run events).model.Accepts epoch state :=
    { valid := hvalid
      current := hcurrent
      notRetired := hretired
      fence := fun hsame => absurd hsame hother
      held := fun hshown hepoch => absurd (hconsistent.agree _ _ _
        (hepoch ▸ .posted message hposted epoch state henvelope) (.shown hshown)) hother }
  rcases (run events).model.accept_cases epoch state with ⟨-, haccept⟩ | ⟨hrejects, -⟩
  · exact haccept
  · exact absurd haccepts hrejects

/-- A second instance of the service answers the read after the first one was shown. -/
def restartedRun : List ClientEvent :=
  [.beginFullSync, .work true true {}, .work true true {}, .work true true (readyReply 1),
    .work true true {}, .take false, .retryFullSync, .work true true {}, .work true true {},
    .work true true { success := true, state := GuiServiceModel.readyEnvelope 8 1 1 }]

theorem restarted_service_adopted_restartedRun :
    (run restartedRun).model.serviceInstanceId = 7 ∧
      (run restartedRun).model.accept 3 (GuiServiceModel.readyEnvelope 8 1 1) =
        ((run restartedRun).model.accepted 3 (GuiServiceModel.readyEnvelope 8 1 1), .accepted) := by
  refine ⟨rfl, ?_⟩
  exact restarted_service_adopted restartedRun (by decide)
    (.io .fullSync 2
      { success := true, hasHeader := false, state := GuiServiceModel.readyEnvelope 8 1 1
        transportAttempted := true, connectionEpoch := 3, preservesPresentation := false
        adminEnable := false }) List.mem_cons_self 3 _ rfl rfl (by decide) (by decide) (by decide)

end GuiClient

end GreenCurve.Gui
