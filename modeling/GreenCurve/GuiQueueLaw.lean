import GreenCurve.GuiQueue
import Mathlib.Data.List.Induction
import Mathlib.Data.List.Perm.Basic

/-! # What becomes of a queued mutation

The mutations of the window form a lane: at most one is in flight, and the others wait for it in
the order they were accepted in.  The lane is a small machine of its own, and every step of the
window and of the worker is one of its steps or none.  What follows for a run is that no
mutation is executed twice, out of order or beside another one, that none is lost without a
trace, and that the worker is always woken for the one that waits. -/

namespace GreenCurve.Gui

variable {ω κ : Type}

/-! ## The lane -/

/-- The mutations in flight and waiting, and what became of the others. -/
structure Lane (ω : Type) where
  flight : Option ω
  waiting : List ω
  history : History ω

namespace Lane

/-- The steps of the lane.  A mutation enters behind the others or in the place of the last one,
which a Reset leaves to a Reset only; the first one that waits is dispatched when nothing is in
flight. -/
inductive Step (kindOf : ω → GuiMutationKind) : Lane ω → Lane ω → Prop where
  | accept (l : Lane ω) (work : ω) (room : l.flight.toList.length + l.waiting.length ≤ 1) :
      Step kindOf l
        { l with
          waiting := l.waiting ++ [work]
          history := { l.history with accepted := l.history.accepted ++ [work] } }
  | replace (l : Lane ω) (before : List ω) (old work : ω) (last : l.waiting = before ++ [old])
      (kind : kindOf old = .reset → kindOf work = .reset) :
      Step kindOf l
        { l with
          waiting := before ++ [work]
          history :=
            { l.history with
              accepted := l.history.accepted ++ [work]
              superseded := l.history.superseded ++ [(old, some work)] } }
  | withdraw (l : Lane ω) (before : List ω) (old : ω) (last : l.waiting = before ++ [old]) :
      Step kindOf l
        { l with
          waiting := before
          history :=
            { l.history with superseded := l.history.superseded ++ [(old, none)] } }
  | dispatch (l : Lane ω) (work : ω) (rest : List ω) (free : l.flight = none)
      (first : l.waiting = work :: rest) :
      Step kindOf l
        { flight := some work
          waiting := rest
          history := { l.history with dispatches := l.history.dispatches ++ [work] } }
  | finish (l : Lane ω) (work : ω) (delivered : Bool) (flying : l.flight = some work) :
      Step kindOf l
        { l with
          flight := none
          history := { l.history with ended := l.history.ended ++ [(work, delivered)] } }

/-- What holds of the lane in every run. -/
structure Accounted (kindOf : ω → GuiMutationKind) (l : Lane ω) : Prop where
  room : l.flight.toList.length + l.waiting.length ≤ 2
  ended : l.history.dispatches = l.history.ended.map Prod.fst ++ l.flight.toList
  order : (l.history.dispatches ++ l.waiting).Sublist l.history.accepted
  kept : l.history.accepted.Perm
    (l.history.dispatches ++ l.waiting ++ l.history.superseded.map Prod.fst)
  displaced : ∀ old work, (old, some work) ∈ l.history.superseded →
    kindOf old = .reset → kindOf work = .reset

variable {kindOf : ω → GuiMutationKind}

theorem Accounted.step {l l' : Lane ω} (h : Accounted kindOf l) (hstep : Step kindOf l l') :
    Accounted kindOf l' := by
  classical
  obtain ⟨hroom, hended, horder, hkept, hdisplaced⟩ := h
  rw [List.perm_iff_count] at hkept
  cases hstep with
  | accept work room =>
    refine ⟨?_, hended, ?_, List.perm_iff_count.mpr fun x => ?_, hdisplaced⟩
    · simp only [List.length_append, List.length_singleton]
      omega
    · simp only
      rw [← List.append_assoc]
      exact horder.append (List.Sublist.refl _)
    · have hx := hkept x
      simp only [List.count_append] at hx ⊢
      omega
  | replace before old work last kind =>
    rw [last] at hroom horder hkept
    refine ⟨by simpa using hroom, hended, ?_, List.perm_iff_count.mpr fun x => ?_, ?_⟩
    · simp only
      rw [← List.append_assoc]
      refine List.Sublist.append (List.Sublist.trans ?_ horder) (List.Sublist.refl _)
      rw [← List.append_assoc]
      exact List.sublist_append_left _ _
    · have hx := hkept x
      simp only [List.count_append, List.map_append, List.map_cons, List.map_nil] at hx ⊢
      omega
    · intro o w hmem
      rcases List.mem_append.mp hmem with hmem | hmem
      · exact hdisplaced o w hmem
      · cases List.mem_singleton.mp hmem
        exact kind
  | withdraw before old last =>
    rw [last] at hroom horder hkept
    refine ⟨?_, hended, ?_, List.perm_iff_count.mpr fun x => ?_, ?_⟩
    · simp only [List.length_append, List.length_singleton] at hroom ⊢
      omega
    · refine List.Sublist.trans ?_ horder
      rw [← List.append_assoc]
      exact List.sublist_append_left _ _
    · have hx := hkept x
      simp only [List.count_append, List.map_append, List.map_cons, List.map_nil] at hx ⊢
      omega
    · intro o w hmem
      rcases List.mem_append.mp hmem with hmem | hmem
      · exact hdisplaced o w hmem
      · cases List.mem_singleton.mp hmem
  | dispatch work rest free first =>
    rw [first] at hroom horder hkept
    rw [free, Option.toList_none, List.append_nil] at hended
    refine ⟨?_, ?_, ?_, List.perm_iff_count.mpr fun x => ?_, hdisplaced⟩
    · simp only [free, Option.toList_none, Option.toList_some, List.length_nil, List.length_cons]
        at hroom ⊢
      omega
    · simp only [hended, Option.toList_some]
    · simpa using horder
    · have hx := hkept x
      simp only [List.count_append, List.count_cons, List.count_nil] at hx ⊢
      omega
  | finish work delivered flying =>
    rw [flying] at hroom hended
    refine ⟨?_, ?_, horder, List.perm_iff_count.mpr hkept, hdisplaced⟩
    · simp only [Option.toList_none, Option.toList_some, List.length_nil, List.length_cons]
        at hroom ⊢
      omega
    · simpa using hended

theorem accounted_empty : Accounted kindOf { flight := none, waiting := [], history := {} } :=
  ⟨Nat.zero_le _, rfl, List.Sublist.refl _, List.Perm.refl _, nofun⟩

end Lane

/-! ## The queue as a lane -/

/-- The mutation the worker holds. -/
def Worker.work : Worker ω κ → List ω
  | .executing work | .posting work _ | .releasing work => [work]
  | _ => []

/-- The worker is at a place where it does not hold the lane. -/
def Worker.resting : Worker ω κ → Bool
  | .executing _ | .releasing _ | .reading _ _ | .finishing => false
  | _ => true

def Message.work : Message ω κ → Option ω
  | .mutation work _ => some work
  | .io _ _ _ => none

namespace GuiQueue

variable {kindOf : ω → GuiMutationKind} {q : GuiQueue ω κ}

/-- Everywhere a dispatched mutation can be: with the worker, posted, or being presented. -/
def places (q : GuiQueue ω κ) : List ω :=
  q.worker.work ++ q.messages.filterMap Message.work ++ q.handling.toList

def flight (q : GuiQueue ω κ) : Option ω := if q.dispatched then q.active else none

def lane (q : GuiQueue ω κ) : Lane ω where
  flight := q.flight
  waiting := (if q.dispatched then [] else q.active.toList) ++ q.pending.toList
  history := q.history

/-- What holds of the shared state whenever the lock is free, but for the event. -/
structure Settled (q : GuiQueue ω κ) : Prop where
  place : q.places = q.flight.toList
  dispatched : q.dispatched = true → q.active.isSome = true
  pending : q.pending.isSome = true → q.active.isSome = true
  resting : q.worker.resting = true → q.busy = false
  stopped : q.worker = .stopped → q.shuttingDown = true
  closed : q.shuttingDown = true → q.pending = none

/-- Whenever there is something to dispatch, the worker is woken or about to be. -/
def Awake (q : GuiQueue ω κ) : Prop :=
  q.dispatchable = true → q.signaled = true ∨ q.worker = .woken

theorem Settled.signal (h : q.Settled) : q.signal.Settled := ⟨h.1, h.2, h.3, h.4, h.5, h.6⟩

theorem awake_signal : q.signal.Awake := by
  intro hdispatchable
  have hsame : q.signal.dispatchable = q.dispatchable := rfl
  exact .inl (by rw [signal, ← hsame, hdispatchable, Bool.or_true])

@[simp] theorem lane_signal : q.signal.lane = q.lane := rfl

/-- The step keeps the state settled and the worker awake, and is at most one step of the lane. -/
structure Advance (kindOf : ω → GuiMutationKind) (q q' : GuiQueue ω κ) : Prop where
  settled : q'.Settled
  awake : q'.Awake
  lane : q'.lane = q.lane ∨ Lane.Step kindOf q.lane q'.lane

theorem advance_signal {q' : GuiQueue ω κ} (h : q'.Settled)
    (hlane : q'.lane = q.lane ∨ Lane.Step kindOf q.lane q'.lane) : Advance kindOf q q'.signal :=
  ⟨h.signal, awake_signal, hlane⟩

theorem Settled.idle (h : q.Settled) (hactive : q.active = none) :
    q.dispatched = false ∧ q.pending = none := by
  constructor
  · by_contra hdispatched
    have := h.dispatched (by simpa using hdispatched)
    simp [hactive] at this
  · by_contra hpending
    have := h.pending (Option.isSome_iff_ne_none.mpr hpending)
    simp [hactive] at this

/-! ### The steps of the window -/

section Enqueue

variable {work current old : ω}

theorem enqueue_start (hactive : q.active = none) : q.enqueue kindOf work =
    signal { q with
      telemetry := false, active := some work, dispatched := false
      history := { q.history with accepted := q.history.accepted ++ [work] } } := by
  simp [enqueue, guiMutationQueueDecide, hactive]

theorem enqueue_pending (hactive : q.active = some current) (hpending : q.pending = none) :
    q.enqueue kindOf work =
      { q with
        telemetry := false, pending := some work
        history := { q.history with accepted := q.history.accepted ++ [work] } } := by
  simp [enqueue, guiMutationQueueDecide, hactive, hpending]

/-- An Apply is turned away while a Reset waits. -/
theorem enqueue_keep (hactive : q.active = some current) (hpending : q.pending = some old)
    (hkeep : kindOf old = .reset ∧ kindOf work = .apply) :
    q.enqueue kindOf work = { q with telemetry := false } := by
  simp [enqueue, guiMutationQueueDecide, hactive, hpending, hkeep]

theorem enqueue_replace (hactive : q.active = some current) (hpending : q.pending = some old)
    (hkeep : ¬(kindOf old = .reset ∧ kindOf work = .apply)) :
    q.enqueue kindOf work =
      { q with
        telemetry := false, pending := some work
        history :=
          { q.history with
            accepted := q.history.accepted ++ [work]
            superseded := q.history.superseded ++ [(old, some work)] } } := by
  simp [enqueue, guiMutationQueueDecide, hactive, hpending, hkeep]

/-- Behind an active mutation the event needs no signal. -/
theorem Awake.behind (hawake : q.Awake) (hactive : q.active = some current) (pending : Option ω)
    (history : History ω) :
    Awake { q with telemetry := false, pending := pending, history := history } := by
  intro hdispatchable
  exact hawake (by simpa [dispatchable, hactive] using hdispatchable)

theorem Settled.behind (h : q.Settled) (hactive : q.active = some current) (pending : Option ω)
    (history : History ω) (hopen : q.shuttingDown = true → pending = none) :
    Settled { q with telemetry := false, pending := pending, history := history } :=
  ⟨h.place, h.dispatched, fun _ => by simp [hactive], h.resting, h.stopped, hopen⟩

theorem lane_waiting (hpending : q.pending = some work) :
    q.lane.waiting = (if q.dispatched then [] else q.active.toList) ++ [work] := by
  rw [lane, hpending, Option.toList_some]

theorem advance_enqueue (h : q.Settled) (hawake : q.Awake) (hopen : q.shuttingDown = false)
    (work : ω) : Advance kindOf q (q.enqueue kindOf work) := by
  have hstill : ∀ {pending : Option ω}, q.shuttingDown = true → pending = none := by
    simp [hopen]
  rcases Option.eq_none_or_eq_some q.active with hactive | ⟨current, hactive⟩
  · obtain ⟨hdispatched, hpending⟩ := h.idle hactive
    rw [enqueue_start hactive]
    refine advance_signal ⟨?_, nofun, fun _ => rfl, h.resting, h.stopped, hstill⟩ (.inr ?_)
    · simpa [places, flight, hdispatched] using h.place
    · convert Lane.Step.accept q.lane work ?_ using 1
      · simp [lane, flight, hdispatched, hpending, hactive]
      · simp [lane, flight, hdispatched, hpending, hactive]
  · rcases Option.eq_none_or_eq_some q.pending with hpending | ⟨old, hpending⟩
    · rw [enqueue_pending hactive hpending]
      refine ⟨h.behind hactive _ _ hstill, hawake.behind hactive _ _, .inr ?_⟩
      convert Lane.Step.accept q.lane work ?_ using 1
      · simp [lane, flight, hpending]
      · cases hdispatched : q.dispatched <;> simp [lane, flight, hdispatched, hactive, hpending]
    · by_cases hkeep : kindOf old = .reset ∧ kindOf work = .apply
      · rw [enqueue_keep hactive hpending hkeep]
        exact ⟨h.behind hactive _ _ hstill, hawake.behind hactive _ _, .inl rfl⟩
      · rw [enqueue_replace hactive hpending hkeep]
        refine ⟨h.behind hactive _ _ hstill, hawake.behind hactive _ _, .inr ?_⟩
        refine Lane.Step.replace q.lane _ old work (lane_waiting hpending) fun hreset => ?_
        cases hkind : kindOf work with
        | reset => rfl
        | apply => exact absurd ⟨hreset, hkind⟩ hkeep

end Enqueue

/-- Taking out the one that waits is a step of the lane, or none when nothing waits. -/
theorem lane_withdraw (q' : GuiQueue ω κ) (hdispatched : q'.dispatched = q.dispatched)
    (hactive : q'.active = q.active) (hpending : q'.pending = none)
    (hhistory : q'.history = q.withdraw) :
    q'.lane = q.lane ∨ Lane.Step kindOf q.lane q'.lane := by
  rcases hwaits : q.pending with _ | old
  · left
    simp [lane, flight, withdraw, hdispatched, hactive, hpending, hhistory, hwaits]
  · right
    convert Lane.Step.withdraw q.lane _ old (lane_waiting hwaits) using 1
    simp [lane, flight, withdraw, hdispatched, hactive, hpending, hhistory, hwaits]

theorem advance_gpuEpochAdvanced (h : q.Settled) : Advance kindOf q q.gpuEpochAdvanced :=
  advance_signal ⟨h.place, h.dispatched, nofun, h.resting, h.stopped, fun _ => rfl⟩
    (lane_withdraw _ rfl rfl rfl rfl)

theorem advance_queueFullSync (h : q.Settled) : Advance kindOf q q.queueFullSync :=
  advance_signal ⟨h.place, h.dispatched, h.pending, h.resting, h.stopped, h.closed⟩ (.inl rfl)

theorem advance_queueTelemetry (h : q.Settled) (hawake : q.Awake) :
    Advance kindOf q q.queueTelemetry := by
  unfold queueTelemetry
  split_ifs
  · exact ⟨h, hawake, .inl rfl⟩
  · exact advance_signal ⟨h.place, h.dispatched, h.pending, h.resting, h.stopped, h.closed⟩
      (.inl rfl)

theorem advance_queueAdminToggle (h : q.Settled) (hawake : q.Awake) :
    Advance kindOf q q.queueAdminToggle := by
  unfold queueAdminToggle
  split_ifs
  · exact ⟨h, hawake, .inl rfl⟩
  · exact advance_signal ⟨h.place, h.dispatched, h.pending, h.resting, h.stopped, h.closed⟩
      (.inl rfl)

theorem advance_shutdown (h : q.Settled) : Advance kindOf q q.shutdown :=
  ⟨⟨h.place, h.dispatched, nofun, h.resting, fun _ => rfl, fun _ => rfl⟩, fun _ => .inl rfl,
    lane_withdraw _ rfl rfl rfl rfl⟩

theorem eq_of_append_eq_toList {a b : List ω} {work : ω} {o : Option ω}
    (h : a ++ work :: b = o.toList) : a = [] ∧ b = [] ∧ o = some work := by
  cases o with
  | none => simp at h
  | some x =>
    rw [Option.toList_some, List.append_eq_singleton_iff] at h
    rcases h with ⟨rfl, h⟩ | ⟨-, h⟩
    · cases h
      exact ⟨rfl, rfl, rfl⟩
    · cases h

theorem advance_take (h : q.Settled) (hawake : q.Awake) : Advance kindOf q q.take := by
  unfold take
  split
  · exact ⟨h, hawake, .inl rfl⟩
  next work completion rest hmessages =>
    have hposted : q.messages.filterMap Message.work = work :: rest.filterMap Message.work := by
      rw [hmessages]
      rfl
    have hplace := h.place
    rw [places, hposted, List.append_assoc, List.cons_append] at hplace
    obtain ⟨hworker, hrest, hflight⟩ := eq_of_append_eq_toList hplace
    obtain ⟨hrest, -⟩ := List.append_eq_nil_iff.mp hrest
    refine ⟨⟨?_, h.dispatched, h.pending, h.resting, h.stopped, h.closed⟩, hawake, .inl rfl⟩
    change q.worker.work ++ rest.filterMap Message.work ++ [work] = q.flight.toList
    rw [hworker, hrest, hflight]
    rfl
  next kind epoch completion rest hmessages =>
    refine ⟨⟨?_, h.dispatched, h.pending, h.resting, h.stopped, h.closed⟩, hawake, .inl rfl⟩
    have hposted : q.messages.filterMap Message.work = rest.filterMap Message.work := by
      rw [hmessages]
      rfl
    have hplace := h.place
    rwa [places, hposted] at hplace

/-- The end of a mutation that is nowhere any more. -/
theorem advance_next (q' : GuiQueue ω κ) {work : ω} (h : q.Settled)
    (hflight : q.flight = some work)
    (hnowhere : q'.places = []) (hresting : q'.worker.resting = true → q'.busy = false)
    (hstopped : q'.worker = .stopped → q'.shuttingDown = true) (hpending : q'.pending = q.pending)
    (hshutting : q'.shuttingDown = q.shuttingDown) (hhistory : q'.history = q.history)
    (delivered : Bool) : Advance kindOf q (q'.next work delivered) := by
  have hdispatched : q.dispatched = true := by
    by_contra hnot
    simp [flight, hnot] at hflight
  have hlane : (q'.next work delivered).lane =
      { q.lane with
        flight := none
        history := { q.history with ended := q.history.ended ++ [(work, delivered)] } } := by
    unfold next
    split_ifs with hdown
    · have hclosed := h.closed (hshutting ▸ hdown)
      rw [lane_signal]
      simp [lane, flight, hdispatched, hpending, hhistory, hclosed]
    · rw [lane_signal]
      simp [lane, flight, hdispatched, hpending, hhistory]
  have hstep : (q'.next work delivered).lane = q.lane ∨
      Lane.Step kindOf q.lane (q'.next work delivered).lane := by
    rw [hlane]
    exact .inr (Lane.Step.finish q.lane work delivered hflight)
  unfold next at hstep ⊢
  split_ifs at hstep ⊢ with hdown
  · refine advance_signal ⟨?_, nofun, ?_, hresting, hstopped, ?_⟩ hstep
    · simpa [flight, places] using hnowhere
    · simp [hpending, h.closed (hshutting ▸ hdown)]
    · exact fun hdown => hpending.trans (h.closed (hshutting ▸ hdown))
  · refine advance_signal ⟨?_, nofun, nofun, hresting, hstopped, fun _ => rfl⟩ hstep
    simpa [flight, places] using hnowhere

theorem advance_acknowledge (h : q.Settled) (hawake : q.Awake) :
    Advance kindOf q q.acknowledge := by
  unfold acknowledge
  split
  · exact ⟨h, hawake, .inl rfl⟩
  next work hhandling =>
    have hplace := h.place
    rw [places, hhandling, Option.toList_some] at hplace
    obtain ⟨hbefore, -, hflight⟩ := eq_of_append_eq_toList hplace
    exact advance_next { q with handling := none } h hflight (by simpa [places] using hbefore)
      h.resting h.stopped rfl rfl rfl true

/-! ### The steps of the worker -/

section Worker

variable {work : ω} {epoch : Nat} {answer : Answer κ}

/-- A mutation the worker holds is the one in flight, and is nowhere else. -/
theorem Settled.held (h : q.Settled) (hwork : q.worker.work = [work]) :
    q.flight = some work ∧ q.messages.filterMap Message.work = [] ∧ q.handling.toList = [] := by
  have hplace := h.place
  rw [places, hwork, List.append_assoc] at hplace
  obtain ⟨-, hrest, hflight⟩ := eq_of_append_eq_toList (a := []) hplace
  exact ⟨hflight, List.append_eq_nil_iff.mp hrest⟩

/-- Behind a mutation in flight there is nothing to dispatch. -/
theorem awake_flight (work : ω) (hflight : q.flight = some work) : q.Awake := by
  intro hdispatchable
  have hdispatched : q.dispatched = true := by
    by_contra hnot
    simp [flight, hnot] at hflight
  have hactive : q.active = some work := by simpa [flight, hdispatched] using hflight
  simp [dispatchable, hactive, hdispatched] at hdispatchable

theorem advance_waiting (h : q.Settled) (hawake : q.Awake) (hworker : q.worker = .waiting) :
    Advance kindOf q (q.workerStep epoch answer) := by
  simp only [workerStep, hworker]
  split_ifs with hsignaled
  · refine ⟨⟨?_, h.dispatched, h.pending, ?_, nofun, h.closed⟩, fun _ => .inr rfl, .inl rfl⟩
    · simpa [places, hworker, Worker.work, flight] using h.place
    · exact fun _ => h.resting (by rw [hworker]; rfl)
  · exact ⟨h, hawake, .inl rfl⟩

theorem advance_dispatch (h : q.Settled) (hworker : q.worker = .woken) (hfree : q.busy = false) :
    Advance kindOf q (q.dispatch epoch) := by
  have hplace : q.messages.filterMap Message.work ++ q.handling.toList = q.flight.toList := by
    simpa [places, hworker, Worker.work] using h.place
  unfold dispatch
  split
  next work hactive =>
    split_ifs with hdispatched
    · have hflight : q.flight = some work := by simp [flight, hdispatched, hactive]
      refine ⟨⟨?_, h.dispatched, h.pending, fun _ => hfree, nofun, h.closed⟩, ?_, .inl rfl⟩
      · simpa [places, Worker.work, flight] using hplace
      · exact awake_flight work (by simpa [flight] using hflight)
    · have hnone : q.flight = none := by simp [flight, hdispatched]
      rw [hnone, Option.toList_none, List.append_eq_nil_iff] at hplace
      refine ⟨⟨?_, fun _ => by simp [hactive], h.pending, nofun, nofun, h.closed⟩, ?_, .inr ?_⟩
      · simp [places, Worker.work, flight, hplace, hactive]
      · exact awake_flight work (by simp [flight, hactive])
      · convert Lane.Step.dispatch q.lane work q.pending.toList hnone ?_ using 1
        · simp [lane, flight, hactive]
        · simp [lane, hdispatched, hactive]
  next hactive =>
    obtain ⟨hdispatched, hpending⟩ := h.idle hactive
    split_ifs with hadmin hfull htelemetry
    · exact ⟨⟨by simpa [places, Worker.work, flight] using hplace, h.dispatched, h.pending, nofun,
        nofun, h.closed⟩, by simp [Awake, dispatchable], .inl rfl⟩
    · exact ⟨⟨by simpa [places, Worker.work, flight] using hplace, h.dispatched, h.pending, nofun,
        nofun, h.closed⟩, by simp [Awake, dispatchable], .inl rfl⟩
    · exact ⟨⟨by simpa [places, Worker.work, flight] using hplace, h.dispatched, h.pending, nofun,
        nofun, h.closed⟩, by simp [Awake, dispatchable], .inl rfl⟩
    · exact ⟨⟨by simpa [places, Worker.work, flight] using hplace, h.dispatched, h.pending,
        fun _ => hfree, nofun, h.closed⟩,
        by simp [Awake, dispatchable, hactive, hadmin, hfull, htelemetry], .inl rfl⟩

theorem advance_woken (h : q.Settled) (hworker : q.worker = .woken) :
    Advance kindOf q (q.workerStep epoch answer) := by
  have hfree : q.busy = false := h.resting (by rw [hworker]; rfl)
  simp only [workerStep, hworker]
  split_ifs with hdown hbusy
  · refine ⟨⟨?_, h.dispatched, h.pending, fun _ => hfree, fun _ => hdown, h.closed⟩, ?_, .inl rfl⟩
    · simpa [places, hworker, Worker.work, flight] using h.place
    · simp [Awake, dispatchable, hdown]
  · simp [hfree] at hbusy
  · exact advance_dispatch h hworker hfree

theorem advance_executing (h : q.Settled) (hworker : q.worker = .executing work) :
    Advance kindOf q (q.workerStep epoch answer) := by
  obtain ⟨hflight, -⟩ := h.held (by rw [hworker]; rfl)
  have hplace := h.place
  simp only [workerStep, hworker]
  split_ifs
  · refine ⟨⟨?_, h.dispatched, h.pending, fun _ => rfl, nofun, h.closed⟩, ?_, .inl rfl⟩
    · simpa [places, hworker, Worker.work, flight] using hplace
    · exact awake_flight work (by simpa [flight] using hflight)
  · refine ⟨⟨?_, h.dispatched, h.pending, nofun, nofun, h.closed⟩, ?_, .inl rfl⟩
    · simpa [places, hworker, Worker.work, flight] using hplace
    · exact awake_flight work (by simpa [flight] using hflight)

theorem advance_posting {completion : κ} (h : q.Settled)
    (hworker : q.worker = .posting work completion) :
    Advance kindOf q (q.workerStep epoch answer) := by
  obtain ⟨hflight, hmessages, hhandling⟩ := h.held (by rw [hworker]; rfl)
  have hfree : q.busy = false := h.resting (by rw [hworker]; rfl)
  simp only [workerStep, hworker]
  split_ifs
  · refine ⟨⟨?_, h.dispatched, h.pending, fun _ => hfree, nofun, h.closed⟩, ?_, .inl rfl⟩
    · change [] ++ (q.messages ++ [Message.mutation work completion]).filterMap Message.work ++
        q.handling.toList = q.flight.toList
      rw [List.filterMap_append, hmessages, hhandling, hflight]
      rfl
    · exact awake_flight work (by simpa [flight] using hflight)
  · refine ⟨⟨?_, h.dispatched, h.pending, nofun, nofun, h.closed⟩, ?_, .inl rfl⟩
    · simpa [places, hworker, Worker.work, flight] using h.place
    · exact awake_flight work (by simpa [flight] using hflight)

theorem advance_releasing (h : q.Settled) (hworker : q.worker = .releasing work) :
    Advance kindOf q (q.workerStep epoch answer) := by
  obtain ⟨hflight, hmessages, hhandling⟩ := h.held (by rw [hworker]; rfl)
  simp only [workerStep, hworker]
  exact advance_next { q with busy := false, worker := .waiting } h hflight
    (by simp [places, Worker.work, hmessages, hhandling]) (fun _ => rfl) nofun rfl rfl rfl false

theorem advance_reading {kind : GuiServiceIoKind} {presentationEpoch : Nat} (h : q.Settled)
    (hawake : q.Awake) (hworker : q.worker = .reading kind presentationEpoch) :
    Advance kindOf q (q.workerStep epoch answer) := by
  have hsignaled : q.dispatchable = true → q.signaled = true := by
    simpa [Awake, hworker] using hawake
  have hplace := h.place
  simp only [workerStep, hworker]
  split_ifs
  · refine ⟨⟨?_, h.dispatched, h.pending, nofun, nofun, h.closed⟩, fun hdispatchable =>
      .inl (hsignaled hdispatchable), .inl rfl⟩
    change [] ++ (q.messages ++ [Message.io kind presentationEpoch answer.completion]).filterMap
      Message.work ++ q.handling.toList = q.flight.toList
    rw [places, hworker] at hplace
    rw [List.filterMap_append, ← hplace]
    simp [Worker.work, Message.work]
  · refine ⟨⟨?_, h.dispatched, h.pending, nofun, nofun, h.closed⟩, fun hdispatchable =>
      .inl (hsignaled hdispatchable), .inl rfl⟩
    simpa [places, hworker, Worker.work, flight] using hplace

theorem advance_finishing (h : q.Settled) (hworker : q.worker = .finishing) :
    Advance kindOf q (q.workerStep epoch answer) := by
  simp only [workerStep, hworker]
  refine advance_signal ⟨?_, h.dispatched, h.pending, fun _ => rfl, nofun, h.closed⟩ (.inl rfl)
  simpa [places, hworker, Worker.work, flight] using h.place

end Worker

/-! ### Runs -/

theorem advance_workerStep (h : q.Settled) (hawake : q.Awake) (epoch : Nat) (answer : Answer κ) :
    Advance kindOf q (q.workerStep epoch answer) := by
  cases hworker : q.worker with
  | waiting => exact advance_waiting h hawake hworker
  | woken => exact advance_woken h hworker
  | executing work => exact advance_executing h hworker
  | posting work completion => exact advance_posting h hworker
  | releasing work => exact advance_releasing h hworker
  | reading kind presentationEpoch => exact advance_reading h hawake hworker
  | finishing => exact advance_finishing h hworker
  | stopped =>
    simp only [workerStep, hworker]
    exact ⟨h, hawake, .inl rfl⟩

end GuiQueue

def QueueEvent.isEnqueue : QueueEvent ω κ → Bool
  | .enqueue _ => true
  | _ => false

def QueueEvent.isShutdown : QueueEvent ω κ → Bool
  | .shutdown => true
  | _ => false

def QueueEvent.isWork : QueueEvent ω κ → Bool
  | .work _ _ => true
  | _ => false

/-- The window shuts the queue down when it is destroyed, and asks for nothing after that. -/
def Orderly (events : List (QueueEvent ω κ)) : Prop :=
  events.Pairwise fun before after => before.isShutdown = true → after.isEnqueue = false

namespace GuiQueue

variable {kindOf : ω → GuiMutationKind} {q : GuiQueue ω κ} {event : QueueEvent ω κ}

theorem advance_step (h : q.Settled) (hawake : q.Awake)
    (hopen : event.isEnqueue = true → q.shuttingDown = false) :
    Advance kindOf q (q.step kindOf event) := by
  cases event with
  | enqueue work => exact advance_enqueue h hawake (hopen rfl) work
  | gpuEpochAdvanced => exact advance_gpuEpochAdvanced h
  | queueFullSync => exact advance_queueFullSync h
  | queueTelemetry => exact advance_queueTelemetry h hawake
  | queueAdminToggle => exact advance_queueAdminToggle h hawake
  | take => exact advance_take h hawake
  | acknowledge => exact advance_acknowledge h hawake
  | shutdown => exact advance_shutdown h
  | work epoch answer => exact advance_workerStep h hawake epoch answer

theorem shuttingDown_next (work : ω) (delivered : Bool) :
    (q.next work delivered).shuttingDown = q.shuttingDown := by
  unfold next
  split <;> rfl

theorem shuttingDown_workerStep (epoch : Nat) (answer : Answer κ) :
    (q.workerStep epoch answer).shuttingDown = q.shuttingDown := by
  unfold workerStep
  split
  case h_5 => exact shuttingDown_next _ _
  case h_2 =>
    split_ifs
    · rfl
    · rfl
    · unfold dispatch
      split <;> split_ifs <;> rfl
  all_goals first | rfl | (split_ifs <;> rfl)

theorem shuttingDown_step :
    (q.step kindOf event).shuttingDown = (q.shuttingDown || event.isShutdown) := by
  cases event with
  | enqueue work =>
    simp only [step, enqueue, QueueEvent.isShutdown, Bool.or_false]
    split <;> rfl
  | queueTelemetry =>
    simp only [step, queueTelemetry, QueueEvent.isShutdown, Bool.or_false]
    split_ifs <;> rfl
  | queueAdminToggle =>
    simp only [step, queueAdminToggle, QueueEvent.isShutdown, Bool.or_false]
    split_ifs <;> rfl
  | take =>
    simp only [step, take, QueueEvent.isShutdown, Bool.or_false]
    split <;> rfl
  | acknowledge =>
    simp only [step, acknowledge, QueueEvent.isShutdown, Bool.or_false]
    split
    · rfl
    · exact shuttingDown_next _ _
  | shutdown => simp [step, shutdown, QueueEvent.isShutdown]
  | work epoch answer =>
    simpa [step, QueueEvent.isShutdown] using shuttingDown_workerStep epoch answer
  | gpuEpochAdvanced => simp [step, gpuEpochAdvanced, signal, QueueEvent.isShutdown]
  | queueFullSync => simp [step, queueFullSync, signal, QueueEvent.isShutdown]

theorem run_append (events : List (QueueEvent ω κ)) (event : QueueEvent ω κ) :
    run kindOf (events ++ [event]) = (run kindOf events).step kindOf event := by
  simp [run]

theorem shuttingDown_run (events : List (QueueEvent ω κ)) :
    (run kindOf events).shuttingDown = events.any QueueEvent.isShutdown := by
  induction events using List.reverseRecOn with
  | nil => rfl
  | append_singleton events event ih =>
    rw [run_append, shuttingDown_step, ih]
    simp

/-- What holds in every state of an orderly run. -/
structure Lawful (kindOf : ω → GuiMutationKind) (q : GuiQueue ω κ) : Prop where
  settled : q.Settled
  awake : q.Awake
  accounted : q.lane.Accounted kindOf

theorem lawful_empty : Lawful kindOf ({} : GuiQueue ω κ) where
  settled := ⟨rfl, nofun, nofun, fun _ => rfl, nofun, fun _ => rfl⟩
  awake := nofun
  accounted := Lane.accounted_empty

theorem Lawful.step (h : Lawful kindOf q)
    (hopen : event.isEnqueue = true → q.shuttingDown = false) :
    Lawful kindOf (q.step kindOf event) := by
  obtain ⟨hsettled, hawake, hlane⟩ : Advance kindOf q (q.step kindOf event) :=
    advance_step h.settled h.awake hopen
  refine ⟨hsettled, hawake, ?_⟩
  rcases hlane with hlane | hlane
  · rw [hlane]
    exact h.accounted
  · exact h.accounted.step hlane

theorem lawful_run {events : List (QueueEvent ω κ)} (horderly : Orderly events) :
    Lawful kindOf (run kindOf events) := by
  induction events using List.reverseRecOn with
  | nil => exact lawful_empty
  | append_singleton events event ih =>
    obtain ⟨hbefore, -, hafter⟩ := List.pairwise_append.mp horderly
    rw [run_append]
    refine (ih hbefore).step fun henqueue => ?_
    rw [shuttingDown_run, List.any_eq_false]
    intro old hold hshutdown
    simp [hafter old hold event (List.mem_singleton_self _) hshutdown] at henqueue

/-- **No mutation is lost, doubled or reordered.**  In every interleaving of window and worker
the mutations that were dispatched, each at most once and in the order they were accepted in,
are those whose end is recorded and the one in flight; one more can wait beside it, every other
accepted one was superseded, a Reset only by a Reset or by a change of the GPU, and the mutation
in flight is in one place: with the worker, in the message posted to the window, or with the
window. -/
theorem mutation_accounting (events : List (QueueEvent ω κ)) (horderly : Orderly events) :
    (run kindOf events).lane.Accounted kindOf ∧
      (run kindOf events).places = (run kindOf events).flight.toList :=
  ⟨(lawful_run horderly).accounted, (lawful_run horderly).settled.place⟩

/-- A mutation that was carried out, and what arrived while it was in flight. -/
def busyLane : List (QueueEvent (GuiMutationKind × Nat) Unit) :=
  [.enqueue (.apply, 1), .work 1 { completion := () }, .work 1 { completion := () },
    .enqueue (.reset, 2), .enqueue (.apply, 3), .enqueue (.reset, 4),
    .work 1 { completion := () }, .work 1 { completion := () }, .take, .acknowledge]

theorem orderly_busyLane : Orderly busyLane := by
  unfold Orderly
  decide

theorem mutation_accounting_busyLane :
    (run Prod.fst busyLane).lane.Accounted Prod.fst ∧
      (run Prod.fst busyLane).places = (run Prod.fst busyLane).flight.toList ∧
      (run Prod.fst busyLane).lane.waiting = [(.reset, 4)] ∧
      (run Prod.fst busyLane).history.superseded = [((.reset, 2), some (.reset, 4))] := by
  obtain ⟨haccounted, hplaces⟩ := @mutation_accounting _ _ Prod.fst busyLane orderly_busyLane
  exact ⟨haccounted, hplaces, rfl, rfl⟩

/-! ### Progress -/

/-- A mutation is at the head of the lane and has not been dispatched. -/
structure Heads (q : GuiQueue ω κ) (work : ω) : Prop where
  active : q.active = some work
  waits : q.dispatched = false
  working : q.shuttingDown = false

/-- How many steps the worker takes until it picks up the mutation at the head. -/
def stepsAhead (q : GuiQueue ω κ) : Nat :=
  match q.worker with
  | .reading _ _ => 4
  | .finishing => 3
  | .waiting => 2
  | .woken => 1
  | _ => 0

theorem stepsAhead_le : q.stepsAhead ≤ 4 := by
  unfold stepsAhead
  split <;> omega

section Progress

variable {work : ω}

theorem Heads.flight (h : q.Heads work) : q.flight = none := by
  simp [GuiQueue.flight, h.waits]

theorem Heads.dispatchable (h : q.Heads work) (hfree : q.busy = false) :
    q.dispatchable = true := by
  simp [GuiQueue.dispatchable, h.active, h.waits, h.working, hfree]

/-- The window does not touch the mutation at the head, and leaves the worker where it is. -/
theorem Heads.window (h : q.Heads work) (hsettled : q.Settled)
    (hshutdown : event.isShutdown = false) (hwork : event.isWork = false) :
    (q.step kindOf event).Heads work ∧ (q.step kindOf event).worker = q.worker := by
  obtain ⟨hactive, hwaits, hworking⟩ := h
  cases event with
  | enqueue entering =>
    rcases Option.eq_none_or_eq_some q.pending with hpending | ⟨old, hpending⟩
    · rw [step, enqueue_pending hactive hpending]
      exact ⟨⟨hactive, hwaits, hworking⟩, rfl⟩
    · by_cases hkeep : kindOf old = .reset ∧ kindOf entering = .apply
      · rw [step, enqueue_keep hactive hpending hkeep]
        exact ⟨⟨hactive, hwaits, hworking⟩, rfl⟩
      · rw [step, enqueue_replace hactive hpending hkeep]
        exact ⟨⟨hactive, hwaits, hworking⟩, rfl⟩
  | gpuEpochAdvanced => exact ⟨⟨hactive, hwaits, hworking⟩, rfl⟩
  | queueFullSync => exact ⟨⟨hactive, hwaits, hworking⟩, rfl⟩
  | queueTelemetry =>
    simp only [step, queueTelemetry]
    split_ifs <;> exact ⟨⟨hactive, hwaits, hworking⟩, rfl⟩
  | queueAdminToggle =>
    simp only [step, queueAdminToggle]
    split_ifs <;> exact ⟨⟨hactive, hwaits, hworking⟩, rfl⟩
  | take =>
    simp only [step, take]
    split <;> exact ⟨⟨hactive, hwaits, hworking⟩, rfl⟩
  | acknowledge =>
    have hplace := hsettled.place
    rw [Heads.flight ⟨hactive, hwaits, hworking⟩, Option.toList_none, places,
      List.append_eq_nil_iff] at hplace
    have hhandling : q.handling = none := by simpa using hplace.2
    rw [step, acknowledge, hhandling]
    exact ⟨⟨hactive, hwaits, hworking⟩, rfl⟩
  | shutdown => cases hshutdown
  | work epoch answer => cases hwork

/-- A worker that has a mutation of its own keeps the head of the lane waiting for none. -/
theorem Heads.idle (h : q.Heads work) (hsettled : q.Settled) : q.worker.work = [] := by
  have hplace := hsettled.place
  rw [h.flight, Option.toList_none, places, List.append_assoc, List.append_eq_nil_iff] at hplace
  exact hplace.1

/-- Every step of the worker brings the mutation at the head closer to its execution. -/
theorem Heads.worker (h : q.Heads work) (hlawful : Lawful kindOf q) (epoch : Nat)
    (answer : Answer κ) :
    (q.workerStep epoch answer).worker = .executing work ∨
      (q.workerStep epoch answer).Heads work ∧
        (q.workerStep epoch answer).stepsAhead + 1 ≤ q.stepsAhead := by
  have hidle := h.idle hlawful.settled
  obtain ⟨hactive, hwaits, hworking⟩ := h
  cases hworker : q.worker with
  | waiting =>
    have hfree := hlawful.settled.resting (by rw [hworker]; rfl)
    have hsignaled : q.signaled = true := by
      simpa [hworker] using hlawful.awake (Heads.dispatchable ⟨hactive, hwaits, hworking⟩ hfree)
    right
    simp only [workerStep, hworker, hsignaled, if_true, stepsAhead]
    exact ⟨⟨hactive, hwaits, hworking⟩, Nat.le_refl _⟩
  | woken =>
    have hfree := hlawful.settled.resting (by rw [hworker]; rfl)
    left
    simp [workerStep, hworker, hworking, hfree, dispatch, hactive, hwaits]
  | reading kind presentationEpoch =>
    right
    simp only [workerStep, hworker, stepsAhead]
    split_ifs <;> exact ⟨⟨hactive, hwaits, hworking⟩, Nat.le_refl _⟩
  | finishing =>
    right
    simp only [workerStep, hworker, stepsAhead]
    exact ⟨⟨hactive, hwaits, hworking⟩, Nat.le_refl _⟩
  | executing held => simp [hworker, Worker.work] at hidle
  | posting held completion => simp [hworker, Worker.work] at hidle
  | releasing held => simp [hworker, Worker.work] at hidle
  | stopped => simp [hlawful.settled.stopped hworker] at hworking

theorem executing_within (later : List (QueueEvent ω κ))
    (hshutdown : later.any QueueEvent.isShutdown = false)
    (hlawful : Lawful kindOf q) (h : q.Heads work)
    (hsteps : q.stepsAhead ≤ later.countP QueueEvent.isWork) :
    ∃ before, before <+: later ∧ (before.foldl (step kindOf) q).worker = .executing work := by
  induction later generalizing q with
  | nil =>
    have hidle := h.idle hlawful.settled
    have hzero : q.stepsAhead = 0 := by simpa using hsteps
    cases hworker : q.worker with
    | executing held => simp [hworker, Worker.work] at hidle
    | posting held completion => simp [hworker, Worker.work] at hidle
    | releasing held => simp [hworker, Worker.work] at hidle
    | stopped => simpa [h.working] using hlawful.settled.stopped hworker
    | waiting => simp [stepsAhead, hworker] at hzero
    | woken => simp [stepsAhead, hworker] at hzero
    | reading kind presentationEpoch => simp [stepsAhead, hworker] at hzero
    | finishing => simp [stepsAhead, hworker] at hzero
  | cons event later ih =>
    rw [List.any_cons, Bool.or_eq_false_iff] at hshutdown
    have hnext : Lawful kindOf (q.step kindOf event) := hlawful.step fun _ => h.working
    have hgo : (q.step kindOf event).worker = .executing work ∨
        (q.step kindOf event).Heads work ∧
          (q.step kindOf event).stepsAhead ≤ later.countP QueueEvent.isWork := by
      cases hwork : event.isWork with
      | false =>
        obtain ⟨hheads, hworker⟩ : (q.step kindOf event).Heads work ∧
            (q.step kindOf event).worker = q.worker :=
          h.window hlawful.settled hshutdown.1 hwork
        refine .inr ⟨hheads, ?_⟩
        rw [List.countP_cons_of_neg (by simp [hwork])] at hsteps
        simpa only [stepsAhead, hworker] using hsteps
      | true =>
        rw [List.countP_cons_of_pos hwork] at hsteps
        cases event with
        | work epoch answer =>
          refine (h.worker hlawful epoch answer).imp id fun ⟨hheads, hless⟩ => ⟨hheads, ?_⟩
          exact Nat.le_of_succ_le_succ (Nat.le_trans hless hsteps)
        | _ => cases hwork
    rcases hgo with hexecuting | ⟨hheads, hless⟩
    · exact ⟨[event], by simp, hexecuting⟩
    · obtain ⟨before, hprefix, hexecuting⟩ := ih hshutdown.2 hnext hheads hless
      exact ⟨event :: before, by simpa using hprefix, hexecuting⟩

end Progress

/-- **No mutation at the head is left waiting.**  In whatever state an orderly run is, and
whatever the window and the worker do from there, the worker has picked up the undispatched
mutation at the head of the lane by its fourth step, unless the window shuts the queue down
first. -/
theorem queued_mutation_dispatched (events later : List (QueueEvent ω κ)) (work : ω)
    (horderly : Orderly events) (hheads : (run kindOf events).Heads work)
    (hshutdown : later.any QueueEvent.isShutdown = false)
    (hsteps : 4 ≤ later.countP QueueEvent.isWork) :
    ∃ before, before <+: later ∧ (run kindOf (events ++ before)).worker = .executing work := by
  obtain ⟨before, hprefix, hexecuting⟩ := executing_within later hshutdown (lawful_run horderly)
    hheads (Nat.le_trans stepsAhead_le hsteps)
  refine ⟨before, hprefix, ?_⟩
  rw [run, List.foldl_append]
  exact hexecuting

theorem queued_mutation_dispatched_busyLane :
    ∃ before, before <+: [QueueEvent.work 1 { completion := () }, .work 1 { completion := () },
        .gpuEpochAdvanced, .work 1 { completion := () }, .work 1 { completion := () }] ∧
      (run Prod.fst (busyLane ++ before)).worker = .executing (.reset, 4) :=
  have hheads : (run Prod.fst busyLane).Heads (.reset, 4) := ⟨rfl, rfl, rfl⟩
  queued_mutation_dispatched busyLane _ (.reset, 4) orderly_busyLane hheads rfl (by decide)

end GuiQueue

end GreenCurve.Gui
