import GreenCurve.GuiClient
import GreenCurve.GuiQueueLaw

/-! # Whose result clears the draft

A result clears the user's draft when it belongs to what the window shows.  The code compares
two counters and the state that came with the result; what it means to say is that nothing
happened to the service or to the GPU between the moment the user asked and the moment the
result arrived.  That is so because the GPU epoch stands still only as long as the window shows
one service instance and one GPU generation, or nothing. -/

namespace GreenCurve.Gui

/-! ## The queue behind the window -/

namespace GuiQueue

variable {ω κ : Type} {kindOf : ω → GuiMutationKind} {q q' : GuiQueue ω κ}
  {event : QueueEvent ω κ}

theorem accepted_next (work : ω) (delivered : Bool) :
    (q.next work delivered).history.accepted = q.history.accepted := by
  unfold next
  split <;> rfl

theorem accepted_workerStep (epoch : Nat) (answer : Answer κ) :
    (q.workerStep epoch answer).history.accepted = q.history.accepted := by
  unfold workerStep
  split
  case h_5 => exact accepted_next _ _
  case h_2 =>
    split_ifs
    · rfl
    · rfl
    · unfold dispatch
      split <;> split_ifs <;> rfl
  all_goals first | rfl | (split_ifs <;> rfl)

/-- Only a request adds to the accepted mutations. -/
theorem accepted_step (h : event.isEnqueue = false) :
    (q.step kindOf event).history.accepted = q.history.accepted := by
  cases event with
  | enqueue work => cases h
  | gpuEpochAdvanced => rfl
  | queueFullSync => rfl
  | queueTelemetry =>
    simp only [step, queueTelemetry]
    split_ifs <;> rfl
  | queueAdminToggle =>
    simp only [step, queueAdminToggle]
    split_ifs <;> rfl
  | take =>
    simp only [step, take]
    split <;> rfl
  | acknowledge =>
    simp only [step, acknowledge]
    split
    · rfl
    · exact accepted_next _ _
  | shutdown => rfl
  | work epoch answer => exact accepted_workerStep epoch answer

theorem accepted_enqueue (work : ω) : (q.enqueue kindOf work).history.accepted =
      q.history.accepted ∨
    (q.enqueue kindOf work).history.accepted = q.history.accepted ++ [work] := by
  unfold enqueue
  split
  · exact .inr rfl
  · exact .inl rfl
  · exact .inr rfl
  · exact .inr rfl

/-- The queue of a window that is open. -/
structure Running (kindOf : ω → GuiMutationKind) (q : GuiQueue ω κ) : Prop where
  lawful : Lawful kindOf q
  working : q.shuttingDown = false

theorem running_empty : Running kindOf ({} : GuiQueue ω κ) := ⟨lawful_empty, rfl⟩

theorem Running.step (h : Running kindOf q) (hshutdown : event.isShutdown = false) :
    Running kindOf (q.step kindOf event) where
  lawful := h.lawful.step fun _ => h.working
  working := by rw [shuttingDown_step, h.working, hshutdown, Bool.or_false]

/-- A posted mutation is one that was accepted. -/
theorem Running.posted_accepted (h : Running kindOf q) {work : ω} {completion : κ}
    (hposted : Message.mutation work completion ∈ q.messages) : work ∈ q.history.accepted := by
  have hplace : work ∈ q.places := by
    refine List.mem_append_left _ (List.mem_append_right _ ?_)
    exact List.mem_filterMap.mpr ⟨_, hposted, rfl⟩
  rw [h.lawful.settled.place] at hplace
  have hdispatched : work ∈ q.history.dispatches := by
    have hended := h.lawful.accounted.ended
    simp only [lane] at hended
    rw [hended]
    exact List.mem_append_right _ hplace
  exact h.lawful.accounted.order.subset (List.mem_append_left _ hdispatched)

/-- What the window and the worker do to the queue without a new request. -/
structure Unasked (kindOf : ω → GuiMutationKind) (q q' : GuiQueue ω κ) : Prop where
  running : Running kindOf q → Running kindOf q'
  accepted : q'.history.accepted = q.history.accepted

theorem Unasked.refl (q : GuiQueue ω κ) : Unasked kindOf q q := ⟨id, rfl⟩

theorem Unasked.trans {q'' : GuiQueue ω κ} (h : Unasked kindOf q q') (h' : Unasked kindOf q' q'') :
    Unasked kindOf q q'' :=
  ⟨h'.running ∘ h.running, h'.accepted.trans h.accepted⟩

theorem unasked_step (henqueue : event.isEnqueue = false) (hshutdown : event.isShutdown = false) :
    Unasked kindOf q (q.step kindOf event) :=
  ⟨fun h => h.step hshutdown, accepted_step henqueue⟩

theorem unasked_gpuEpochAdvanced : Unasked kindOf q q.gpuEpochAdvanced :=
  show Unasked kindOf q (q.step kindOf .gpuEpochAdvanced) from unasked_step rfl rfl

theorem unasked_queueFullSync : Unasked kindOf q q.queueFullSync :=
  show Unasked kindOf q (q.step kindOf .queueFullSync) from unasked_step rfl rfl

end GuiQueue

namespace GuiClient

open Protocol GuiQueue

variable {c c' c'' : GuiClient}

/-! ## Authority and the GPU epoch -/

/-- While the GPU epoch stands still, the window keeps the authority it shows, or loses sight of
the generation. -/
structure Keeps (c c' : GuiClient) : Prop where
  epoch : c.gpuEpoch ≤ c'.gpuEpoch
  authority : c'.gpuEpoch = c.gpuEpoch → c.model.serviceInstanceId ≠ 0 →
    c'.model.serviceInstanceId = c.model.serviceInstanceId ∧
      (c'.model.gpuGeneration = 0 ∨ c'.model.gpuGeneration = c.model.gpuGeneration)

theorem keeps_of_same (hepoch : c'.gpuEpoch = c.gpuEpoch) (hmodel : c'.model = c.model) :
    Keeps c c' :=
  ⟨hepoch.ge, fun _ _ => by rw [hmodel]; exact ⟨rfl, .inr rfl⟩⟩

theorem Keeps.trans (h : Keeps c c') (h' : Keeps c' c'') : Keeps c c'' where
  epoch := h.epoch.trans h'.epoch
  authority hsame hshown := by
    have hfirst : c'.gpuEpoch = c.gpuEpoch := Nat.le_antisymm (hsame ▸ h'.epoch) h.epoch
    obtain ⟨hinstance, hgeneration⟩ := h.authority hfirst hshown
    obtain ⟨hinstance', hgeneration'⟩ := h'.authority (hsame.trans hfirst.symm) (hinstance ▸ hshown)
    refine ⟨hinstance'.trans hinstance, hgeneration'.elim .inl fun hkept => ?_⟩
    rw [hkept]
    exact hgeneration

/-- What a step of the client does besides taking a request in. -/
structure Steady (c c' : GuiClient) : Prop extends Keeps c c' where
  queue : Unasked MutationWork.kind c.queue c'.queue

theorem Steady.trans (h : Steady c c') (h' : Steady c' c'') : Steady c c'' :=
  ⟨h.toKeeps.trans h'.toKeeps, h.queue.trans h'.queue⟩

/-- A step that leaves the model and the epoch alone. -/
theorem steady_of_same (hepoch : c'.gpuEpoch = c.gpuEpoch) (hmodel : c'.model = c.model)
    (hqueue : Unasked MutationWork.kind c.queue c'.queue) : Steady c c' :=
  ⟨keeps_of_same hepoch hmodel, hqueue⟩

theorem steady_refl (c : GuiClient) : Steady c c := steady_of_same rfl rfl (Unasked.refl _)

theorem steady_queued {event : QueueEvent MutationWork Completion}
    (henqueue : event.isEnqueue = false) (hshutdown : event.isShutdown = false) :
    Steady c (c.queued event) :=
  steady_of_same rfl rfl (unasked_step henqueue hshutdown)

/-- Past an advance of the epoch nothing is asked of the model. -/
theorem steady_of_advance (hepoch : c'.gpuEpoch = c.gpuEpoch + 1)
    (hqueue : Unasked MutationWork.kind c.queue c'.queue) : Steady c c' :=
  ⟨⟨by omega, fun hsame => by omega⟩, hqueue⟩

theorem steady_advanceGpuEpoch (model : GuiServiceModel) :
    Steady c (advanceGpuEpoch { c with model := model }) :=
  steady_of_advance rfl unasked_gpuEpochAdvanced

/-- A model that forgets, or keeps, the generation it shows of one instance. -/
theorem steady_of_forget {model : GuiServiceModel}
    (hinstance : model.serviceInstanceId = c.model.serviceInstanceId)
    (hgeneration : model.gpuGeneration = 0 ∨ model.gpuGeneration = c.model.gpuGeneration) :
    Steady c { c with model := model } :=
  ⟨⟨Nat.le_refl _, fun _ _ => ⟨hinstance, hgeneration⟩⟩, Unasked.refl _⟩

theorem beginSync_generation (m : GuiServiceModel) (epoch : UInt64) :
    (m.beginSync epoch).serviceInstanceId = m.serviceInstanceId ∧
      ((m.beginSync epoch).gpuGeneration = 0 ∨
        (m.beginSync epoch).gpuGeneration = m.gpuGeneration) := by
  unfold GuiServiceModel.beginSync
  split
  · exact ⟨rfl, .inl rfl⟩
  · exact ⟨rfl, .inr rfl⟩

theorem steady_beginFullSync : Steady c c.beginFullSync := by
  obtain ⟨hinstance, hgeneration⟩ := beginSync_generation c.model c.connectionEpoch
  exact ⟨⟨Nat.le_refl _, fun _ _ => ⟨hinstance, hgeneration⟩⟩, unasked_queueFullSync⟩

theorem steady_adapterChanged (removed : Bool) : Steady c (c.adapterChanged removed) :=
  steady_of_advance rfl (unasked_gpuEpochAdvanced.trans unasked_queueFullSync)

theorem steady_transportFailure (epoch : UInt64) : Steady c (c.transportFailure epoch) := by
  unfold transportFailure
  split_ifs
  · exact steady_advanceGpuEpoch _
  · exact steady_of_forget rfl (.inl rfl)

/-- An accepted envelope of another instance or generation advances the epoch. -/
theorem steady_adopt (epoch : UInt64) (state : ServiceStateEnvelope) :
    Steady c (c.adopt state (c.model.accepted epoch state)) := by
  unfold adopt
  split_ifs with hends
  · exact steady_advanceGpuEpoch _
  · refine ⟨⟨Nat.le_refl _, fun _ hshown => ?_⟩, Unasked.refl _⟩
    simp only [authorityEnds, Bool.or_eq_true, not_or, Bool.and_eq_true, not_and, bne_iff_ne]
      at hends
    obtain ⟨hinstance, hgeneration⟩ := hends.1 hshown
    exact ⟨(not_not.mp hinstance).symm, .inr (not_not.mp hgeneration).symm⟩

theorem steady_acceptResponse (epoch : UInt64) (state : ServiceStateEnvelope)
    (adapterDiffers : Bool) : Steady c (c.acceptResponse epoch state adapterDiffers).1 := by
  unfold acceptResponse
  rcases c.model.accept_cases epoch state with ⟨-, haccept⟩ | ⟨-, hrejected, hmodel⟩
  · rw [haccept]
    simp only
    split_ifs
    · exact (steady_adopt epoch state).trans (steady_of_advance rfl unasked_gpuEpochAdvanced)
    · exact steady_adopt epoch state
  · split
    next model haccept => simp [haccept] at hrejected
    next model _ haccept =>
      rw [haccept] at hmodel
      rcases hmodel with rfl | rfl
      · exact steady_of_forget rfl (.inr rfl)
      · refine steady_of_forget GuiServiceModel.syncedTo_serviceInstanceId ?_
        unfold GuiServiceModel.syncedTo
        split_ifs
        · exact (beginSync_generation c.model epoch).2
        · exact .inr rfl

theorem steady_handleMutation (work : MutationWork) (completion : Completion)
    (adapterDiffers : Bool) : Steady c (c.handleMutation work completion adapterDiffers).1 := by
  unfold handleMutation
  split_ifs
  · exact steady_acceptResponse _ _ _
  · exact steady_transportFailure _
  · exact steady_refl _

theorem steady_handleServiceIo (kind : GuiServiceIoKind) (presentationEpoch : Nat)
    (completion : Completion) (adapterDiffers : Bool) :
    Steady c (c.handleServiceIo kind presentationEpoch completion adapterDiffers) := by
  unfold handleServiceIo
  split_ifs
  · exact steady_of_forget rfl (.inl rfl)
  · exact steady_refl _
  · exact steady_refl _
  · exact steady_acceptResponse _ _ _
  · exact steady_refl _
  · exact steady_transportFailure _

theorem steady_take (adapterDiffers : Bool) : Steady c (c.take adapterDiffers) := by
  have htaken : Steady c (c.queued .take) := steady_queued rfl rfl
  unfold take
  split
  · exact steady_refl _
  · exact htaken.trans (steady_handleMutation _ _ _)
  · exact htaken.trans (steady_handleServiceIo _ _ _ _)

theorem steady_recordConnectionResult (answered : Bool) (instanceId : UInt64) :
    Steady c (c.recordConnectionResult answered instanceId) := by
  unfold recordConnectionResult
  split_ifs
  · exact steady_of_same rfl rfl (Unasked.refl _)
  · exact steady_refl _

theorem steady_work (allocated posted : Bool) (reply : Reply) :
    Steady c (c.work allocated posted reply) := by
  have hreceived : Steady c (c.receive allocated reply).1 := by
    unfold receive
    split
    · split_ifs
      · exact steady_recordConnectionResult _ _
      · exact steady_refl _
    · split_ifs
      · exact steady_refl _
      · exact steady_recordConnectionResult _ _
    · exact steady_refl _
  exact hreceived.trans (steady_queued rfl rfl)

/-- Every step is steady, or takes a stamped request in. -/
theorem step_cases (c : GuiClient) (event : ClientEvent) :
    Steady c (c.step event) ∨ ∃ kind draftAttached, event = .queueMutation kind draftAttached ∧
      c.stampable draftAttached = true ∧ c.step event = c.queued (.enqueue (c.stamped kind)) := by
  cases event with
  | queueMutation kind draftAttached =>
    by_cases hstampable : c.stampable draftAttached = true
    · exact .inr ⟨kind, draftAttached, rfl, hstampable, if_pos hstampable⟩
    · left
      rw [step, queueMutation, if_neg hstampable]
      exact steady_refl _
  | adapterChanged removed => exact .inl (steady_adapterChanged removed)
  | adapterSelected => exact .inl ((steady_advanceGpuEpoch c.model).trans steady_beginFullSync)
  | beginFullSync => exact .inl steady_beginFullSync
  | retryFullSync => exact .inl (steady_queued rfl rfl)
  | queueTelemetry => exact .inl (steady_queued rfl rfl)
  | queueAdminToggle => exact .inl (steady_queued rfl rfl)
  | take adapterDiffers => exact .inl (steady_take adapterDiffers)
  | acknowledge => exact .inl (steady_queued rfl rfl)
  | work allocated posted reply => exact .inl (steady_work allocated posted reply)

/-! ## Runs -/

theorem run_append (events : List ClientEvent) (event : ClientEvent) :
    run (events ++ [event]) = (run events).step event := by
  simp [run]

theorem keeps_step (c : GuiClient) (event : ClientEvent) : Keeps c (c.step event) := by
  rcases step_cases c event with hsteady | ⟨kind, draftAttached, -, -, hqueued⟩
  · exact hsteady.toKeeps
  · rw [hqueued]
    exact keeps_of_same rfl rfl

theorem keeps_run (before after : List ClientEvent) :
    Keeps (run before) (run (before ++ after)) := by
  induction after using List.reverseRecOn with
  | nil =>
    rw [List.append_nil]
    exact keeps_of_same rfl rfl
  | append_singleton after event ih =>
    rw [← List.append_assoc, run_append]
    exact ih.trans (keeps_step _ _)

/-- The mutation was stamped in the run, by a window that showed a ready GPU. -/
def StampedIn (events : List ClientEvent) (work : MutationWork) : Prop :=
  ∃ before kind draftAttached, before ++ [.queueMutation kind draftAttached] <+: events ∧
    (run before).stampable draftAttached = true ∧ work = (run before).stamped kind

theorem StampedIn.append {events : List ClientEvent} {work : MutationWork}
    (h : StampedIn events work) (event : ClientEvent) : StampedIn (events ++ [event]) work := by
  obtain ⟨before, kind, draftAttached, hprefix, hstamped⟩ := h
  exact ⟨before, kind, draftAttached, hprefix.trans (List.prefix_append _ _), hstamped⟩

/-- Every accepted mutation was stamped by the window. -/
structure Traced (events : List ClientEvent) : Prop where
  running : Running MutationWork.kind (run events).queue
  stamped : ∀ work ∈ (run events).queue.history.accepted, StampedIn events work

theorem traced_run (events : List ClientEvent) : Traced events := by
  induction events using List.reverseRecOn with
  | nil => exact ⟨running_empty, nofun⟩
  | append_singleton events event ih =>
    rcases step_cases (run events) event with
      hsteady | ⟨kind, draftAttached, rfl, hstampable, hqueued⟩
    · refine ⟨?_, fun work hwork => ?_⟩
      · rw [run_append]
        exact hsteady.queue.running ih.running
      · rw [run_append, hsteady.queue.accepted] at hwork
        exact (ih.stamped work hwork).append event
    · refine ⟨?_, fun work hwork => ?_⟩
      · have hopen : (QueueEvent.enqueue ((run events).stamped kind) :
            QueueEvent MutationWork Completion).isShutdown = false := rfl
        rw [run_append, hqueued]
        exact ih.running.step hopen
      · have hold : ∀ old ∈ (run events).queue.history.accepted,
            StampedIn (events ++ [.queueMutation kind draftAttached]) old :=
          fun old hold => (ih.stamped old hold).append _
        rw [run_append, hqueued] at hwork
        change work ∈ ((run events).queue.enqueue MutationWork.kind _).history.accepted at hwork
        rcases accepted_enqueue ((run events).stamped kind) with haccepted | haccepted
        · exact hold work (haccepted ▸ hwork)
        · rcases List.mem_append.mp (haccepted ▸ hwork) with hwork | hwork
          · exact hold work hwork
          · exact ⟨events, kind, draftAttached, List.prefix_rfl, hstampable,
              List.mem_singleton.mp hwork⟩

/-- What the code tests before a result clears the draft. -/
structure Commits (c : GuiClient) (work : MutationWork) (completion : Completion) : Prop where
  success : completion.success = true
  context : c.contextCurrent work = true
  envelope : completion.hasEnvelope = true
  instanceId : completion.state.serviceInstanceId = c.model.serviceInstanceId
  generation : completion.state.gpuGeneration = c.model.gpuGeneration
  accepts : c.model.Accepts completion.connectionEpoch completion.state
  ready : (c.model.accepted completion.connectionEpoch completion.state).isReady = true

theorem canCommit_iff {work : MutationWork} {completion : Completion} :
    c.canCommit work completion = true ↔ Commits c work completion := by
  unfold canCommit
  simp only [Bool.and_eq_true, beq_iff_eq]
  rcases c.model.accept_cases completion.connectionEpoch completion.state with
    ⟨haccepts, haccept⟩ | ⟨hrejects, hrejected, -⟩
  · rw [haccept]
    constructor
    · rintro ⟨⟨⟨⟨⟨⟨hsuccess, hcontext⟩, henvelope⟩, hinstance⟩, hgeneration⟩, -⟩, hready⟩
      exact ⟨hsuccess, hcontext, henvelope, hinstance, hgeneration, haccepts, hready⟩
    · rintro ⟨hsuccess, hcontext, henvelope, hinstance, hgeneration, -, hready⟩
      exact ⟨⟨⟨⟨⟨⟨hsuccess, hcontext⟩, henvelope⟩, hinstance⟩, hgeneration⟩, rfl⟩, hready⟩
  · constructor
    · rintro ⟨⟨-, haccepted⟩, -⟩
      exact absurd haccepted hrejected
    · exact fun h => absurd h.accepts hrejects

/-- What the window shows after it took a result that clears the draft. -/
theorem Commits.take {work : MutationWork} {completion : Completion}
    {rest : List (Message MutationWork Completion)} (h : Commits c work completion)
    (hnext : c.queue.messages = .mutation work completion :: rest) (adapterDiffers : Bool) :
    (c.take adapterDiffers).model =
      c.model.accepted completion.connectionEpoch completion.state := by
  have haccept : c.model.accept completion.connectionEpoch completion.state =
      (c.model.accepted completion.connectionEpoch completion.state, .accepted) := by
    rcases c.model.accept_cases completion.connectionEpoch completion.state with
      ⟨-, haccept⟩ | ⟨hrejects, -⟩
    · exact haccept
    · exact absurd h.accepts hrejects
  have hcontext : (c.queued .take).contextCurrent work = true := h.context
  have htaken : (c.queued .take).model = c.model := rfl
  simp only [GuiClient.take, hnext, handleMutation, h.envelope, hcontext, Bool.and_true, if_true,
    acceptResponse, htaken, haccept, adopt]
  split_ifs <;> rfl

/-- **A result that clears the draft comes from what the user saw.**  The mutation was requested
at a moment when the window showed a ready GPU; since then neither the GPU epoch nor the
presentation has moved, the service instance and the GPU generation the user saw then are the
ones the result names, they were on show all the time, but for moments without a generation, and
they are on show, ready, when the result has been taken. -/
theorem draft_cleared_by_authority (events : List ClientEvent) (work : MutationWork)
    (completion : Completion) (rest : List (Message MutationWork Completion))
    (adapterDiffers : Bool)
    (hnext : (run events).queue.messages = .mutation work completion :: rest)
    (hcommit : (run events).canCommit work completion = true) :
    ∃ before kind draftAttached, before ++ [.queueMutation kind draftAttached] <+: events ∧
      (run before).model.isReady = true ∧ work = (run before).stamped kind ∧
      completion.success = true ∧
      (run before).presentationEpoch = (run events).presentationEpoch ∧
      (∀ after, before ++ after <+: events →
        (run (before ++ after)).gpuEpoch = (run before).gpuEpoch ∧
        (run (before ++ after)).model.serviceInstanceId = (run before).model.serviceInstanceId ∧
        ((run (before ++ after)).model.gpuGeneration = 0 ∨
          (run (before ++ after)).model.gpuGeneration = (run before).model.gpuGeneration)) ∧
      completion.state.serviceInstanceId = (run before).model.serviceInstanceId ∧
      completion.state.gpuGeneration = (run before).model.gpuGeneration ∧
      ((run events).step (.take adapterDiffers)).model.serviceInstanceId =
        (run before).model.serviceInstanceId ∧
      ((run events).step (.take adapterDiffers)).model.gpuGeneration =
        (run before).model.gpuGeneration ∧
      ((run events).step (.take adapterDiffers)).model.isReady = true := by
  have hcommits := canCommit_iff.mp hcommit
  have htraced := traced_run events
  obtain ⟨before, kind, draftAttached, hprefix, hstampable, hwork⟩ := htraced.stamped work
    (htraced.running.posted_accepted (hnext ▸ List.mem_cons_self))
  have hcontext := hcommits.context
  simp only [contextCurrent, Bool.and_eq_true, beq_iff_eq, hwork, stamped] at hcontext
  simp only [stampable, Bool.and_eq_true, bne_iff_ne] at hstampable
  obtain ⟨⟨⟨⟨hready, hshown⟩, -⟩, -⟩, -⟩ := hstampable
  have hbetween : ∀ after, before ++ after <+: events →
      (run (before ++ after)).gpuEpoch = (run before).gpuEpoch ∧
      (run (before ++ after)).model.serviceInstanceId = (run before).model.serviceInstanceId ∧
      ((run (before ++ after)).model.gpuGeneration = 0 ∨
        (run (before ++ after)).model.gpuGeneration = (run before).model.gpuGeneration) := by
    rintro after ⟨later, rfl⟩
    have hfirst := keeps_run before after
    have hsecond := keeps_run (before ++ after) later
    have hstill : (run (before ++ after)).gpuEpoch = (run before).gpuEpoch :=
      Nat.le_antisymm (hcontext.1 ▸ hsecond.epoch) hfirst.epoch
    exact ⟨hstill, hfirst.authority hstill hshown⟩
  obtain ⟨-, hinstance, hgeneration⟩ : (run events).gpuEpoch = (run before).gpuEpoch ∧
      (run events).model.serviceInstanceId = (run before).model.serviceInstanceId ∧
      ((run events).model.gpuGeneration = 0 ∨
        (run events).model.gpuGeneration = (run before).model.gpuGeneration) := by
    obtain ⟨later, rfl⟩ := (List.prefix_append _ _).trans hprefix
    exact hbetween later List.prefix_rfl
  -- an accepted envelope names a generation, so the window has not lost sight of it
  have hnamed : completion.state.gpuGeneration ≠ 0 := by
    intro hzero
    have hvalid := hcommits.accepts.valid
    simp [envelopeInvalid, hzero] at hvalid
  have hsame : completion.state.gpuGeneration = (run before).model.gpuGeneration := by
    rcases hgeneration with hgeneration | hgeneration
    · exact absurd (hcommits.generation.trans hgeneration) hnamed
    · exact hcommits.generation.trans hgeneration
  have htake := hcommits.take hnext adapterDiffers
  refine ⟨before, kind, draftAttached, hprefix, hready, hwork, hcommits.success, hcontext.2,
    hbetween, hcommits.instanceId.trans hinstance, hsame, ?_, ?_, ?_⟩
  · rw [step, htake]
    exact hcommits.instanceId.trans hinstance
  · rw [step, htake]
    exact hsame
  · rw [step, htake]
    exact hcommits.ready

/-- The reply of a ready service, as its revisions go on. -/
def readyReply (revision : UInt64) : Reply where
  success := true
  hasHeader := true
  state := GuiServiceModel.readyEnvelope 7 revision 3

/-- The window reads the state of a ready service, the user presses Apply, and the result is
posted. -/
def appliedRun : List ClientEvent :=
  [.beginFullSync, .work true true {}, .work true true {}, .work true true (readyReply 1),
    .work true true {}, .take false, .queueMutation .apply true, .work true true {},
    .work true true {}, .work true true (readyReply 2), .work true true {}]

def appliedCompletion : Completion where
  success := true
  hasHeader := true
  state := GuiServiceModel.readyEnvelope 7 2 3
  transportAttempted := true
  connectionEpoch := 2
  preservesPresentation := false
  adminEnable := false

theorem draft_cleared_by_authority_appliedRun :
    (run appliedRun).queue.messages = [.mutation ⟨.apply, 1, 2, 7, 3, 5⟩ appliedCompletion] ∧
      ∃ before kind draftAttached, before ++ [.queueMutation kind draftAttached] <+: appliedRun ∧
        (run before).model.isReady = true ∧
        appliedCompletion.state.gpuGeneration = (run before).model.gpuGeneration := by
  obtain ⟨before, kind, draftAttached, hprefix, hready, -, -, -, -, -, hgeneration, -⟩ :=
    draft_cleared_by_authority appliedRun ⟨.apply, 1, 2, 7, 3, 5⟩ appliedCompletion [] false rfl
      (by decide)
  exact ⟨rfl, before, kind, draftAttached, hprefix, hready, hgeneration⟩

end GuiClient

end GreenCurve.Gui
