import GreenCurve.OperationLaw

/-! # At most one execution of an operation

The invariant of a run is that a serving daemon finds the last mutation in its ring if that
mutation wrote the hardware.  Only a start can break it, one that finds the operation neither
in the operation file nor in the state record (`FindsOperation`, `inv_run`).  A completed
operation ages by one with every other that begins, and is replayed until the ring has gone
round (`held_step`, `executed_once`).  Under a PROFILE policy a start stores a record without
an id before it reads the one there was, and the operation file may never have been written
(`profileStart_executes_twice`). -/

namespace GreenCurve.Operations

open CrashM RecordRing

/-! ## Histories -/

def stateAfter (events : List OperationEvent) : OperationDaemon :=
  operationDaemon.run operationDaemon.initial events

/-- What the daemon did from a state on. -/
def actionsFrom (s : OperationDaemon) (events : List OperationEvent) : List OperationAction :=
  (operationDaemon.answers s events).flatten

/-- What the daemon did since its installation. -/
def history (events : List OperationEvent) : List OperationAction :=
  actionsFrom operationDaemon.initial events

def begunId : OperationAction → Option UInt64
  | .begun operationId => some operationId
  | .executed _ => none
  | .completed _ _ => none
  | .replayed _ _ => none

/-- The most recent mutation. -/
def lastBegun (actions : List OperationAction) : Option UInt64 :=
  (actions.filterMap begunId).getLast?

/-- How many other operations began. -/
def othersBegun (operationId : UInt64) (actions : List OperationAction) : Nat :=
  (actions.filterMap begunId).countP fun id => decide (id ≠ operationId)

/-- A daemon serves all along. -/
def Serving (s : OperationDaemon) : List OperationEvent → Prop
  | [] => s.machine.process.isSome
  | event :: rest => s.machine.process.isSome ∧ Serving (operationDaemon.step s event).1 rest

theorem stateAfter_append_singleton (events : List OperationEvent) (event : OperationEvent) :
    stateAfter (events ++ [event]) = (operationDaemon.step (stateAfter events) event).1 := by
  rw [stateAfter, EventMachine.run_append]
  rfl

theorem history_append_singleton (events : List OperationEvent) (event : OperationEvent) :
    history (events ++ [event]) =
      history events ++ (operationDaemon.step (stateAfter events) event).2 := by
  rw [history, actionsFrom, EventMachine.answers_append, List.flatten_append]
  exact congrArg _ (List.append_nil _)

/-! ## What a start has to find -/

section Start
variable (s : OperationDaemon) (operationId : UInt64) (reads : StartReads) (answers : List Answer)

/-- The unattended write of a start's profile stores a state record before the start reads
the one there was. -/
def StoresBeforeReading : Prop :=
  ∃ w, (startUntilState reads).exec answers (s.machine.world {}) = (some (), w) ∧
    ∃ state, .stateStored state true ∈ w.trace

/-- The start comes to read a state record. -/
def ReadsStateRecord : Prop :=
  ∃ serves saved w,
    (linuxDaemonStart reads).exec answers (s.machine.world {}) = (some (serves, some saved), w)

/-- **What a start needs to know an operation again**: the operation file names it and is
read, or the state record names it, with its state, and is read before anything is stored
over it. -/
def FindsOperation (operationReadable : Bool) : Prop :=
  (operationReadable = true ∧
    ∃ record, s.operationFile = .record record ∧ record.operationId = operationId) ∨
  ((∃ saved, s.machine.disk.state = .record saved ∧ saved.operationId = operationId ∧
      (restoredFromState saved).answer.state ≠ .none) ∧
    ReadsStateRecord s reads answers ∧ ¬StoresBeforeReading s reads answers)

end Start

/-- The record a start reads is one it stored itself, without an id, or that of the file. -/
theorem saved_cases {s : OperationDaemon} {reads : StartReads} {answers : List Answer}
    {serves : Bool} {saved : LinuxDaemonStateRecord} {w : DaemonWorld}
    (hrun : (linuxDaemonStart reads).exec answers (s.machine.world {}) =
      (some (serves, some saved), w)) :
    (StoresBeforeReading s reads answers ∧ saved.operationId = 0) ∨
      (¬StoresBeforeReading s reads answers ∧ s.machine.disk.state = .record saved) := by
  rcases run_bind (startUntilState reads) (fun _ => restoreLastReading >>= fun saved =>
    succeeds >>= fun serves => pure (serves, saved)) answers (s.machine.world {}) with
      ⟨w', -, hstart⟩ | ⟨⟨⟩, rest, w', huntil, hstart⟩
  · change linuxDaemonStart reads answers _ = _ at hstart
    rw [CrashM.exec, hstart] at hrun
    cases hrun
  · change linuxDaemonStart reads answers _ = _ at hstart
    rw [CrashM.exec, hstart] at hrun
    have hfirst : (startUntilState reads).exec answers (s.machine.world {}) = (some (), w') := by
      rw [CrashM.exec, huntil]
      rfl
    have hloaded : w'.disk.state = .record saved := by
      rcases run_bind restoreLastReading (fun saved => succeeds >>= fun serves =>
        pure (serves, saved)) rest w' with ⟨w'', -, hread⟩ | ⟨read, rest', w'', hload, hread⟩
      · rw [hread] at hrun
        cases hrun
      · refine (ensures_restoreLastReading w').of_run hload saved ?_
        rcases run_bind succeeds (fun serves => (pure (serves, read) : DaemonM _)) rest' w'' with
          ⟨w₃, -, hend⟩ | ⟨ok, rest'', w₃, -, hend⟩
        · rw [hread, hend] at hrun
          cases hrun
        · rw [hread, hend] at hrun
          cases hrun
          rfl
    have hread : Unreplaced s.machine.disk.state (s.machine.world {}) :=
      .inr ⟨fun _ hmem => (by cases hmem), rfl⟩
    have hkept := (unreplaced_startUntilState reads (s.machine.world {}) hread).of_run huntil
    rcases hkept with ⟨hstored, record, hrecord, hid⟩ | ⟨hnone, hstate⟩
    · rw [hloaded] at hrecord
      obtain rfl := DaemonFile.record.inj hrecord
      exact .inl ⟨⟨w', hfirst, hstored⟩, hid⟩
    · refine .inr ⟨?_, hstate ▸ hloaded⟩
      rintro ⟨w'', hagain, state, hmem⟩
      rw [hfirst] at hagain
      obtain rfl := (Prod.ext_iff.mp hagain).2
      exact hnone state hmem

/-! ## One request -/

/-- What is known of a mutation that its guard let execute. -/
structure Executed (s : OperationDaemon) (begun : OperationRing) (operationId : UInt64)
    (h : Handling) (r : OperationDaemon × List OperationAction) : Prop where
  ids : r.2.filterMap begunId = [operationId]
  file : ∀ record, r.1.operationFile = .record record →
    s.operationFile = .record record ∨ record.Valid
  ring : r.1.ring = begun ∨ ∃ answer, r.1.ring = serviceOperationComplete begun operationId answer
  executed : ∀ id, .executed id ∈ r.2 → id = operationId
  alive : r.1.machine.process.isSome → ∃ answer, .completed operationId answer ∈ r.2
  completed : ∀ id answer, .completed id answer ∈ r.2 → id = operationId ∧
    answer.message = h.message ∧ r.1.ring = serviceOperationComplete begun operationId answer

theorem begunRecord_valid {operationId : UInt64} (hid : operationId ≠ 0) :
    (begunRecord operationId).Valid :=
  ⟨hid, fun h => nomatch h⟩

theorem answerOf_state_ne (h : Handling) (actions : List DaemonAction) :
    (OperationDaemon.answerOf h actions).state ≠ .none := by
  change (if _ then ServiceOperationState.succeeded else .failed) ≠ .none
  split <;> exact fun heq => nomatch heq

theorem storeOperation_eq {file : DaemonFile OperationRecord} {record stored : OperationRecord}
    {ok : Bool} (h : storeOperation file stored ok = .record record) :
    file = .record record ∨ record = stored := by
  unfold storeOperation at h
  split at h
  · exact .inr (DaemonFile.record.inj h).symm
  · exact .inl h

section Execute
variable {operationId : UInt64}

theorem filterMap_begunId_wrote (actions : List DaemonAction) :
    (((actions.filter DaemonAction.isExplicitWrite).map fun _ =>
      OperationAction.executed operationId).filterMap begunId) = [] := by
  rw [List.filterMap_eq_nil_iff]
  intro a ha
  obtain ⟨-, -, rfl⟩ := List.mem_map.mp ha
  rfl

theorem completed_notMem_wrote (actions : List DaemonAction) (id : UInt64)
    (answer : OperationAnswer) :
    OperationAction.completed id answer ∉
      (actions.filter DaemonAction.isExplicitWrite).map fun _ =>
        OperationAction.executed operationId := by
  intro hmem
  obtain ⟨-, -, heq⟩ := List.mem_map.mp hmem
  cases heq

theorem executed_mem_wrote {actions : List DaemonAction} {id : UInt64}
    (h : OperationAction.executed id ∈
      (actions.filter DaemonAction.isExplicitWrite).map fun _ =>
        OperationAction.executed operationId) : id = operationId := by
  obtain ⟨-, -, heq⟩ := List.mem_map.mp h
  exact (OperationAction.executed.inj heq).symm

theorem executed_execute (s : OperationDaemon) (begun : OperationRing) (command : MutationCommand)
    (h : Handling) (hid : operationId ≠ 0) :
    Executed s begun operationId h (s.execute begun command operationId h) := by
  have hfile : ∀ {stored : Bool} {record : OperationRecord},
      storeOperation s.operationFile (begunRecord operationId) stored = .record record →
        s.operationFile = .record record ∨ record.Valid := by
    intro stored record hrecord
    rcases storeOperation_eq hrecord with heq | rfl
    · exact .inl heq
    · exact .inr (begunRecord_valid hid)
  unfold OperationDaemon.execute
  cases h.beginStore with
  | none =>
    exact {
      ids := rfl
      file := fun record hrecord => .inl hrecord
      ring := .inl rfl
      executed := fun id hmem => nomatch List.mem_singleton.mp hmem
      alive := fun halive => nomatch halive
      completed := fun id answer hmem => nomatch List.mem_singleton.mp hmem }
  | some stored =>
    simp only
    generalize s.perform command operationId h = run
    obtain ⟨machine, actions⟩ := run
    cases hprocess : machine.process with
    | none =>
      refine ⟨?_, fun record => hfile, .inl rfl, fun id hmem => ?_, fun halive => ?_,
        fun id answer hmem => ?_⟩
      · exact congrArg (operationId :: ·) (filterMap_begunId_wrote actions)
      · rcases List.mem_cons.mp hmem with heq | hmem
        · cases heq
        · exact executed_mem_wrote hmem
      · rw [hprocess] at halive
        cases halive
      · rcases List.mem_cons.mp hmem with heq | hmem
        · cases heq
        · exact (completed_notMem_wrote actions id answer hmem).elim
    | some memory =>
      have hids : (OperationAction.begun operationId ::
          ((actions.filter DaemonAction.isExplicitWrite).map fun _ =>
            OperationAction.executed operationId) ++
          [OperationAction.completed operationId (OperationDaemon.answerOf h actions)]).filterMap
            begunId = [operationId] := by
        rw [List.filterMap_append]
        change (operationId :: List.filterMap begunId _) ++ [] = _
        rw [filterMap_begunId_wrote]
        rfl
      have hcompleted : ∀ id answer, OperationAction.completed id answer ∈
          OperationAction.begun operationId ::
            ((actions.filter DaemonAction.isExplicitWrite).map fun _ =>
              OperationAction.executed operationId) ++
            [OperationAction.completed operationId (OperationDaemon.answerOf h actions)] →
          id = operationId ∧ answer = OperationDaemon.answerOf h actions := by
        intro id answer hmem
        rcases List.mem_append.mp hmem with hmem | hmem
        · rcases List.mem_cons.mp hmem with heq | hmem
          · cases heq
          · exact (completed_notMem_wrote actions id answer hmem).elim
        · cases List.mem_singleton.mp hmem
          exact ⟨rfl, rfl⟩
      have hexecuted : ∀ id, OperationAction.executed id ∈
          OperationAction.begun operationId ::
            ((actions.filter DaemonAction.isExplicitWrite).map fun _ =>
              OperationAction.executed operationId) ++
            [OperationAction.completed operationId (OperationDaemon.answerOf h actions)] →
          id = operationId := by
        intro id hmem
        rcases List.mem_append.mp hmem with hmem | hmem
        · rcases List.mem_cons.mp hmem with heq | hmem
          · cases heq
          · exact executed_mem_wrote hmem
        · cases List.mem_singleton.mp hmem
      cases h.endStore with
      | none =>
        refine ⟨hids, fun record => hfile, .inr ⟨_, rfl⟩, hexecuted, fun halive => (nomatch halive),
          fun id answer hmem => ?_⟩
        obtain ⟨rfl, rfl⟩ := hcompleted id answer hmem
        exact ⟨rfl, rfl, rfl⟩
      | some ended =>
        refine ⟨hids, fun record hrecord => ?_, .inr ⟨_, rfl⟩, hexecuted,
          fun _ => ⟨_, List.mem_append_right _ (List.mem_singleton_self _)⟩,
          fun id answer hmem => ?_⟩
        · rcases storeOperation_eq hrecord with heq | rfl
          · exact hfile heq
          · exact .inr ⟨hid, answerOf_state_ne h actions⟩
        · obtain ⟨rfl, rfl⟩ := hcompleted id answer hmem
          exact ⟨rfl, rfl, rfl⟩

/-- **What a request can do**: nothing, replay a record of the ring, or execute. -/
theorem request_cases (s : OperationDaemon) (command : MutationCommand) (operationId : UInt64)
    (h : Handling) :
    s.request command operationId h = (s, []) ∨
    (∃ existing, serviceOperationFind s.ring operationId = some existing ∧
      s.request command operationId h = (s, [.replayed operationId (cachedAnswer existing)])) ∨
    ∃ begun, serviceOperationBegin s.ring operationId = .started begun ∧
      s.request command operationId h = s.execute begun command operationId h := by
  unfold OperationDaemon.request
  split
  · exact .inl rfl
  · cases hbegin : serviceOperationBegin s.ring operationId with
    | invalid => exact .inl rfl
    | started begun => exact .inr (.inr ⟨begun, rfl, rfl⟩)
    | duplicate existing =>
      refine .inr (.inl ⟨existing, ?_, rfl⟩)
      unfold serviceOperationBegin at hbegin
      split at hbegin
      · cases hbegin
      · split at hbegin
        · obtain rfl := OperationBegin.duplicate.inj hbegin
          assumption
        · cases hbegin

end Execute

/-! ## The invariant -/

section Actions
variable {actions later : List OperationAction} {operationId : UInt64}

theorem lastBegun_append_nil (h : later.filterMap begunId = []) :
    lastBegun (actions ++ later) = lastBegun actions := by
  rw [lastBegun, lastBegun, List.filterMap_append, h, List.append_nil]

theorem lastBegun_append (h : later.filterMap begunId = [operationId]) :
    lastBegun (actions ++ later) = some operationId := by
  rw [lastBegun, List.filterMap_append, h, List.getLast?_concat]

theorem othersBegun_append (operationId : UInt64) :
    othersBegun operationId (actions ++ later) =
      othersBegun operationId actions + othersBegun operationId later := by
  rw [othersBegun, List.filterMap_append, List.countP_append]
  rfl

end Actions

/-- What holds of a daemon that did these actions. -/
structure Inv (s : OperationDaemon) (actions : List OperationAction) : Prop where
  ring : Ring.Wf s.ring
  file : ∀ record, s.operationFile = .record record → record.Valid
  ids : ∀ id, lastBegun actions = some id → id ≠ 0
  remembered : s.machine.process.isSome → ∀ id, lastBegun actions = some id →
    .executed id ∈ actions → (serviceOperationFind s.ring id).isSome

section Step
variable {s s' : OperationDaemon} {actions : List OperationAction}

theorem inv_initial : Inv operationDaemon.initial [] where
  ring := wf_emptyRing
  file _ h := nomatch h
  ids _ h := nomatch h
  remembered h := nomatch h

/-- A step that begins nothing and keeps what is remembered. -/
theorem Inv.keep (h : Inv s actions) {later : List OperationAction}
    (hring : s'.ring = s.ring) (hfile : s'.operationFile = s.operationFile)
    (hprocess : s'.machine.process.isSome → s.machine.process.isSome)
    (hids : later.filterMap begunId = []) (hexecuted : ∀ id, .executed id ∉ later) :
    Inv s' (actions ++ later) where
  ring := hring ▸ h.ring
  file record hrecord := h.file record (hfile ▸ hrecord)
  ids id hid := h.ids id (lastBegun_append_nil hids ▸ hid)
  remembered halive id hid hmem := by
    rw [lastBegun_append_nil hids] at hid
    rw [hring]
    rcases List.mem_append.mp hmem with hmem | hmem
    · exact h.remembered (hprocess halive) id hid hmem
    · exact absurd hmem (hexecuted id)

theorem inv_request (h : Inv s actions) (command : MutationCommand) (operationId : UInt64)
    (handling : Handling) :
    Inv (s.request command operationId handling).1
      (actions ++ (s.request command operationId handling).2) := by
  rcases request_cases s command operationId handling with
    heq | ⟨existing, -, heq⟩ | ⟨begun, hbegin, heq⟩
  · rw [heq]
    exact h.keep rfl rfl id rfl fun _ hmem => nomatch hmem
  · rw [heq]
    exact h.keep rfl rfl id rfl fun _ hmem => nomatch List.mem_singleton.mp hmem
  · rw [heq]
    have hid := (serviceOperationBegin_started hbegin).1
    have hexec := executed_execute s begun command handling hid
    exact {
      ring := by
        rcases hexec.ring with hring | ⟨answer, hring⟩
        · rw [hring]
          exact wf_begin h.ring hbegin
        · rw [hring]
          exact wf_complete (wf_begin h.ring hbegin) _ _
      file := fun record hrecord => (hexec.file record hrecord).elim (h.file record) id
      ids := fun id hlast => by
        rw [lastBegun_append hexec.ids] at hlast
        exact Option.some.inj hlast ▸ hid
      remembered := fun halive id hlast _ => by
        rw [lastBegun_append hexec.ids] at hlast
        obtain rfl := Option.some.inj hlast
        obtain ⟨answer, hmem⟩ := hexec.alive halive
        obtain ⟨-, -, hring⟩ := hexec.completed _ _ hmem
        have hfind := (held_complete_begin h.ring hbegin answer).find_eq
          (wf_complete (wf_begin h.ring hbegin) _ _) hid
        rw [hring, hfind]
        rfl }

theorem process_of_serve {m : DaemonMachine} {program : DaemonM Unit} {answers : List Answer}
    (h : (m.serve program answers).1.process.isSome) : m.process.isSome := by
  unfold DaemonMachine.serve at h
  split at h
  · exact h
  · rename_i hprocess
    rw [hprocess]
    rfl

/-- **What a start can come to**: a daemon runs already, none does afterwards, or one serves
with the ring of the two records. -/
theorem start_cases (s : OperationDaemon) (reads : StartReads) (operationReadable : Bool)
    (answers : List Answer) :
    (s.machine.process.isSome ∧ s.start reads operationReadable answers = s) ∨
    ((s.start reads operationReadable answers).machine.process = none ∧
      (s.start reads operationReadable answers).ring = s.ring ∧
      (s.start reads operationReadable answers).operationFile = s.operationFile) ∨
    ∃ saved w, (linuxDaemonStart reads).exec answers (s.machine.world {}) =
        (some (true, saved), w) ∧ s.machine.process = none ∧
      s.start reads operationReadable answers =
        { machine := (w.leave (some w.memory)).1
          ring := restoredRing (if operationReadable then s.operationFile else .absent) saved
          operationFile := s.operationFile } := by
  unfold OperationDaemon.start
  cases hprocess : s.machine.process with
  | some memory => exact .inl ⟨rfl, rfl⟩
  | none =>
    refine .inr ?_
    rcases hrun : (linuxDaemonStart reads).exec answers (s.machine.world {}) with
      ⟨_ | ⟨⟨⟩ | ⟨⟩, saved⟩, w⟩
    · exact .inl ⟨rfl, rfl, rfl⟩
    · exact .inl ⟨rfl, rfl, rfl⟩
    · exact .inr ⟨saved, w, rfl, rfl, rfl⟩

/-- **A start knows again exactly what it finds.** -/
theorem find_start_iff {id : UInt64} {reads : StartReads} {answers : List Answer}
    {operationReadable serves : Bool} {saved : Option LinuxDaemonStateRecord} {w : DaemonWorld}
    (hfile : ∀ record, s.operationFile = .record record → record.Valid) (hid : id ≠ 0)
    (hrun : (linuxDaemonStart reads).exec answers (s.machine.world {}) =
      (some (serves, saved), w)) :
    (serviceOperationFind
      (restoredRing (if operationReadable then s.operationFile else .absent) saved) id).isSome ↔
      FindsOperation s id reads answers operationReadable := by
  constructor
  · intro hfound
    rcases find_of_restoredRing hid hfound with
      ⟨record, hrecord, rfl⟩ | ⟨known, rfl, rfl, hstate⟩
    · cases operationReadable with
      | false => cases hrecord
      | true => exact .inl ⟨rfl, record, hrecord, rfl⟩
    · rcases saved_cases hrun with ⟨-, hzero⟩ | ⟨hkept, hsaved⟩
      · exact absurd hzero hid
      · exact .inr ⟨⟨known, hsaved, rfl, hstate⟩, ⟨serves, known, w, hrun⟩, hkept⟩
  · rintro (⟨rfl, record, hrecord, rfl⟩ | ⟨⟨known, hknown, rfl, hstate⟩, hreads, hkept⟩)
    · rw [if_pos rfl, hrecord]
      exact find_restoredRing_of_file (hfile record hrecord) saved
    · obtain ⟨serves', saved', w', hread⟩ := hreads
      rw [hrun] at hread
      obtain ⟨-, rfl⟩ : serves = serves' ∧ saved = some saved' := by
        simpa using (Prod.ext_iff.mp hread).1
      have hsaved := ((saved_cases hrun).resolve_left fun h => hkept h.1).2
      rw [hknown] at hsaved
      obtain rfl := DaemonFile.record.inj hsaved
      exact find_restoredRing_of_saved hid hstate _

theorem inv_start (h : Inv s actions) (reads : StartReads) (operationReadable : Bool)
    (answers : List Answer)
    (hfinds : s.machine.process = none →
      (s.start reads operationReadable answers).machine.process.isSome →
      ∀ id, lastBegun actions = some id → .executed id ∈ actions →
        FindsOperation s id reads answers operationReadable) :
    Inv (s.start reads operationReadable answers) actions := by
  rcases start_cases s reads operationReadable answers with
    ⟨-, heq⟩ | ⟨hprocess, hring, hfile⟩ | ⟨saved, w, hrun, hprocess, heq⟩
  · rw [heq]
    exact h
  · have halive : (s.start reads operationReadable answers).machine.process.isSome →
        s.machine.process.isSome := by
      intro halive
      rw [hprocess] at halive
      cases halive
    rw [← List.append_nil actions]
    exact h.keep hring hfile halive rfl fun _ hmem => nomatch hmem
  · have hserves : (s.start reads operationReadable answers).machine.process.isSome := by
      rw [heq]
      rfl
    refine { ring := ?_, file := ?_, ids := h.ids, remembered := fun _ id hlast hmem => ?_ }
    · rw [heq]
      exact wf_restoredRing _ _
    · rw [heq]
      exact h.file
    · rw [heq]
      have hfound := hfinds hprocess hserves id hlast hmem
      exact (find_start_iff h.file (h.ids id hlast) hrun).mpr hfound

end Step

/-! ## Runs -/

/-- **A run whose starts know the last mutation again**: every start that gets to serve after
the last mutation wrote the hardware finds it. -/
def Remembered (done : List OperationEvent) : Prop :=
  ∀ first reads operationReadable answers rest,
    done = first ++ .start reads operationReadable answers :: rest →
    (stateAfter first).machine.process = none →
    ((stateAfter first).start reads operationReadable answers).machine.process.isSome →
    ∀ id, lastBegun (history first) = some id → .executed id ∈ history first →
      FindsOperation (stateAfter first) id reads answers operationReadable

theorem Remembered.init {done : List OperationEvent} {event : OperationEvent}
    (h : Remembered (done ++ [event])) : Remembered done := by
  intro first reads operationReadable answers rest hdone
  refine h first reads operationReadable answers (rest ++ [event]) ?_
  rw [hdone, List.append_assoc, List.cons_append]

/-- Whatever happens next, the last mutation stays known, if a start finds it. -/
theorem inv_step {done : List OperationEvent} {event : OperationEvent}
    (h : Inv (stateAfter done) (history done)) (hremembered : Remembered (done ++ [event])) :
    Inv (operationDaemon.step (stateAfter done) event).1
      (history done ++ (operationDaemon.step (stateAfter done) event).2) := by
  have hnone : ∀ {s' : OperationDaemon}, s'.machine.process = none →
      s'.machine.process.isSome → (stateAfter done).machine.process.isSome := by
    intro s' hprocess halive
    rw [hprocess] at halive
    cases halive
  cases event with
  | request command operationId handling => exact inv_request h command operationId handling
  | background task answers =>
    exact h.keep rfl rfl process_of_serve rfl fun _ hmem => nomatch hmem
  | start reads operationReadable answers =>
    change Inv _ (history done ++ [])
    rw [List.append_nil]
    exact inv_start h reads operationReadable answers
      (hremembered done reads operationReadable answers [] rfl)
  | stop answers => exact h.keep rfl rfl (hnone rfl) rfl fun _ hmem => nomatch hmem
  | kill => exact h.keep rfl rfl (hnone rfl) rfl fun _ hmem => nomatch hmem
  | boot bootId => exact h.keep rfl rfl (hnone rfl) rfl fun _ hmem => nomatch hmem

/-- A serving daemon knows the last mutation that wrote the hardware. -/
theorem inv_run {done : List OperationEvent} (h : Remembered done) :
    Inv (stateAfter done) (history done) := by
  induction done using List.reverseRecOn with
  | nil => exact inv_initial
  | append_singleton done event ih =>
    rw [stateAfter_append_singleton, history_append_singleton]
    exact inv_step (ih h.init) h

theorem wf_step {s : OperationDaemon} (h : Ring.Wf s.ring) (event : OperationEvent) :
    Ring.Wf (operationDaemon.step s event).1.ring := by
  cases event with
  | request command operationId handling =>
    change Ring.Wf (s.request command operationId handling).1.ring
    rcases request_cases s command operationId handling with
      heq | ⟨existing, -, heq⟩ | ⟨begun, hbegin, heq⟩
    · rw [heq]
      exact h
    · rw [heq]
      exact h
    · rw [heq]
      have hexec := executed_execute s begun command handling
        (serviceOperationBegin_started hbegin).1
      rcases hexec.ring with hring | ⟨answer, hring⟩
      · rw [hring]
        exact wf_begin h hbegin
      · rw [hring]
        exact wf_complete (wf_begin h hbegin) _ _
  | background task answers => exact h
  | start reads operationReadable answers =>
    change Ring.Wf (s.start reads operationReadable answers).ring
    rcases start_cases s reads operationReadable answers with
      ⟨-, heq⟩ | ⟨-, hring, -⟩ | ⟨saved, w, -, -, heq⟩
    · rw [heq]
      exact h
    · rw [hring]
      exact h
    · rw [heq]
      exact wf_restoredRing _ _
  | stop answers => exact h
  | kill => exact h
  | boot bootId => exact h

theorem wf_run (events : List OperationEvent) {s : OperationDaemon} (h : Ring.Wf s.ring) :
    Ring.Wf (operationDaemon.run s events).ring := by
  induction events generalizing s with
  | nil => exact h
  | cons event events ih => exact ih (wf_step h event)

/-! ## Replays within one process -/

section Held
variable {s : OperationDaemon} {record : OperationRecord} {age : Nat}

/-- **A held record ages with the others**: by one with every other operation that begins,
in a process that serves on. -/
theorem held_step (hwf : Ring.Wf s.ring) (hheld : Ring.Held s.ring record age)
    (hid : record.operationId ≠ 0) (event : OperationEvent) (hbefore : s.machine.process.isSome)
    (hafter : (operationDaemon.step s event).1.machine.process.isSome)
    (hage : age + othersBegun record.operationId (operationDaemon.step s event).2 ≤
      SERVICE_OPERATION_HISTORY_CAPACITY) :
    Ring.Held (operationDaemon.step s event).1.ring record
      (age + othersBegun record.operationId (operationDaemon.step s event).2) := by
  cases event with
  | request command operationId handling =>
    change _ + othersBegun _ (s.request command operationId handling).2 ≤ _ at hage
    change (s.request command operationId handling).1.machine.process.isSome at hafter
    change Ring.Held (s.request command operationId handling).1.ring record
      (age + othersBegun _ (s.request command operationId handling).2)
    rcases request_cases s command operationId handling with
      heq | ⟨existing, -, heq⟩ | ⟨begun, hbegin, heq⟩
    · rw [heq]
      exact hheld
    · rw [heq]
      exact hheld
    · rw [heq] at hage hafter ⊢
      obtain ⟨hother, hfresh, -⟩ := serviceOperationBegin_started hbegin
      have hexec := executed_execute s begun command handling hother
      -- The held record is found under its id, so the one that begins has another.
      have hne : record.operationId ≠ operationId := by
        rintro rfl
        rw [hheld.find_eq hwf hid] at hfresh
        cases hfresh
      have hone : othersBegun record.operationId
          (s.execute begun command operationId handling).2 = 1 := by
        rw [othersBegun, hexec.ids, List.countP_singleton, if_pos (decide_eq_true hne.symm)]
      obtain ⟨answer, hmem⟩ := hexec.alive hafter
      obtain ⟨-, -, hring⟩ := hexec.completed _ _ hmem
      rw [hone] at hage ⊢
      rw [hring]
      exact hheld.complete_begin hwf hage hbegin hne answer
  | background task answers => exact hheld
  | start reads operationReadable answers =>
    change Ring.Held (s.start reads operationReadable answers).ring record age
    rcases start_cases s reads operationReadable answers with
      ⟨-, heq⟩ | ⟨-, hring, -⟩ | ⟨saved, w, -, hprocess, -⟩
    · rw [heq]
      exact hheld
    · rw [hring]
      exact hheld
    · rw [hprocess] at hbefore
      cases hbefore
  | stop answers => cases hafter
  | kill => cases hafter
  | boot bootId => cases hafter

theorem Serving.isSome {events : List OperationEvent} (h : Serving s events) :
    s.machine.process.isSome := by
  cases events with
  | nil => exact h
  | cons event events => exact h.1

theorem Serving.run {events : List OperationEvent} (h : Serving s events) :
    (operationDaemon.run s events).machine.process.isSome := by
  induction events generalizing s with
  | nil => exact h
  | cons event events ih => exact ih h.2

theorem held_run (events : List OperationEvent) (hwf : Ring.Wf s.ring)
    (hheld : Ring.Held s.ring record age) (hid : record.operationId ≠ 0)
    (hserving : Serving s events)
    (hage : age + othersBegun record.operationId (actionsFrom s events) ≤
      SERVICE_OPERATION_HISTORY_CAPACITY) :
    Ring.Held (operationDaemon.run s events).ring record
      (age + othersBegun record.operationId (actionsFrom s events)) := by
  induction events generalizing s age with
  | nil => exact hheld
  | cons event events ih =>
    have hsplit : actionsFrom s (event :: events) = (operationDaemon.step s event).2 ++
        actionsFrom (operationDaemon.step s event).1 events := rfl
    rw [hsplit, othersBegun_append, ← Nat.add_assoc] at hage ⊢
    have hstep := held_step hwf hheld hid event hserving.1 hserving.2.isSome (by omega)
    exact ih (wf_step hwf event) hstep hserving.2 hage

end Held

/-- A known operation is answered with its record, not executed. -/
theorem request_of_find {s : OperationDaemon} {operationId : UInt64} {record : OperationRecord}
    (hfind : serviceOperationFind s.ring operationId = some record)
    (halive : s.machine.process.isSome) (command : MutationCommand) (h : Handling) :
    (s.request command operationId h).2 =
      if h.accepted then [.replayed operationId (cachedAnswer record)] else [] := by
  have hid : operationId ≠ 0 := by
    rintro rfl
    cases hfind
  have hprocess : s.machine.process.isNone = false := by
    rw [← Option.not_isSome, halive]
    rfl
  unfold OperationDaemon.request
  rw [hprocess, serviceOperationBegin_of_find hid hfind]
  cases h.accepted <;> rfl

theorem cachedAnswer_eq {record : OperationRecord} (h : record.answer.message ≠ []) :
    cachedAnswer record = record.answer := by
  rw [cachedAnswer, if_neg h]

/-- What a step executes, it completes, if its process lives on, and the ring holds it. -/
theorem held_of_executed {s : OperationDaemon} (hwf : Ring.Wf s.ring) {event : OperationEvent}
    {id : UInt64} (hmem : .executed id ∈ (operationDaemon.step s event).2)
    (halive : (operationDaemon.step s event).1.machine.process.isSome) :
    ∃ answer, .completed id answer ∈ (operationDaemon.step s event).2 ∧ answer.message ≠ [] ∧
      id ≠ 0 ∧ Ring.Held (operationDaemon.step s event).1.ring ⟨id, answer⟩ 1 := by
  cases event with
  | request command operationId handling =>
    change .executed id ∈ (s.request command operationId handling).2 at hmem
    change (s.request command operationId handling).1.machine.process.isSome at halive
    change ∃ answer, .completed id answer ∈ (s.request command operationId handling).2 ∧ _ ∧ _ ∧
      Ring.Held (s.request command operationId handling).1.ring ⟨id, answer⟩ 1
    rcases request_cases s command operationId handling with
      heq | ⟨existing, -, heq⟩ | ⟨begun, hbegin, heq⟩
    · rw [heq] at hmem
      cases hmem
    · rw [heq] at hmem
      cases List.mem_singleton.mp hmem
    · rw [heq] at hmem halive ⊢
      have hid := (serviceOperationBegin_started hbegin).1
      have hexec := executed_execute s begun command handling hid
      obtain rfl := hexec.executed id hmem
      obtain ⟨answer, hcompleted⟩ := hexec.alive halive
      obtain ⟨-, hmessage, hring⟩ := hexec.completed _ _ hcompleted
      refine ⟨answer, hcompleted, ?_, hid, ?_⟩
      · rw [hmessage]
        exact handling.message_ne
      · rw [hring]
        exact held_complete_begin hwf hbegin answer
  | background task answers => cases hmem
  | start reads operationReadable answers => cases hmem
  | stop answers => cases hmem
  | kill => cases hmem
  | boot bootId => cases hmem

/-- **At most one execution of an operation.**  In a run whose starts know the last mutation
again, no request executes it again.  And in every run, an operation that was executed is
completed, and as long as the same process serves and fewer than sixteen others have begun,
every request of its id is answered with what it completed with. -/
theorem executed_once (done : List OperationEvent) :
    (Remembered done → ∀ command id handling, lastBegun (history done) = some id →
      .executed id ∈ history done →
      .executed id ∉ (operationDaemon.step (stateAfter done)
        (.request command id handling)).2) ∧
    ∀ first event middle id, done = first ++ event :: middle →
      .executed id ∈ (operationDaemon.step (stateAfter first) event).2 →
      Serving (operationDaemon.step (stateAfter first) event).1 middle →
      othersBegun id (actionsFrom (operationDaemon.step (stateAfter first) event).1 middle) <
        SERVICE_OPERATION_HISTORY_CAPACITY →
      ∃ answer, .completed id answer ∈ (operationDaemon.step (stateAfter first) event).2 ∧
        ∀ command handling,
          (operationDaemon.step (stateAfter done) (.request command id handling)).2 =
            if handling.accepted then [.replayed id answer] else [] := by
  constructor
  · intro hremembered command id handling hlast hexecuted hmem
    change .executed id ∈ ((stateAfter done).request command id handling).2 at hmem
    by_cases halive : (stateAfter done).machine.process.isSome
    · have hfound := (inv_run hremembered).remembered halive id hlast hexecuted
      obtain ⟨record, hfind⟩ := Option.isSome_iff_exists.mp hfound
      rw [request_of_find hfind halive] at hmem
      split at hmem
      · cases List.mem_singleton.mp hmem
      · cases hmem
    · rw [OperationDaemon.request, if_pos] at hmem
      · cases hmem
      · rw [← Option.not_isSome, Bool.eq_false_of_not_eq_true halive]
        rfl
  · rintro first event middle id rfl hmem hserving hothers
    have hwf := wf_run first (s := operationDaemon.initial) wf_emptyRing
    obtain ⟨answer, hcompleted, hmessage, hid, hheld⟩ :=
      held_of_executed hwf hmem hserving.isSome
    refine ⟨answer, hcompleted, fun command handling => ?_⟩
    have hwf' := wf_step hwf event
    have hlast := held_run middle hwf' hheld hid hserving
      ((Nat.add_comm _ _).trans_le hothers)
    have hstate : stateAfter (first ++ event :: middle) =
        operationDaemon.run (operationDaemon.step (stateAfter first) event).1 middle := by
      rw [stateAfter, EventMachine.run_append]
      rfl
    rw [hstate]
    have hfind := hlast.find_eq (wf_run middle hwf') hid
    have hreplay := request_of_find hfind hserving.run command handling
    rw [cachedAnswer_eq hmessage] at hreplay
    exact hreplay

/-! ## An Apply cut short

The operation file cannot be written, the daemon dies in the hardware call of an Apply, and
is started again under the startup policy `mode`. -/

def answeredOperationStart : OperationEvent := .start {} true (List.replicate 16 {})

def offsetApply (answers : List Answer) : OperationEvent :=
  .request (.apply { hasGpuOffset := true, gpuOffsetMHz := 150 }) 7
    { beginStore := some false, answers, message := ['d', 'o', 'n', 'e'],
      message_ne := by decide, endStore := some false }

def applyCutShort (mode : ServiceStartupPolicyMode) : List OperationEvent :=
  [.boot ['a'], answeredOperationStart,
    .background (.setStartupPolicy
      { mode, desired := { hasGpuOffset := true, gpuOffsetMHz := 100 } }) [{}],
    offsetApply [{}, {}, {}], answeredOperationStart]

def cutShortState (mode : ServiceStartupPolicyMode) : OperationDaemon :=
  stateAfter ((applyCutShort mode).take 4)

/-- The start finds the operation in the prepared state record. -/
theorem findsOperation_cutShort :
    FindsOperation (cutShortState .restoreLast) 7 {} (List.replicate 16 {}) true := by
  have hsaved : (match (cutShortState .restoreLast).machine.disk.state with
      | .record saved =>
        decide (saved.operationId = 7 ∧ (restoredFromState saved).answer.state ≠ .none)
      | .absent => false
      | .damaged => false) = true := by
    decide +kernel
  have hread : (((linuxDaemonStart {}).exec (List.replicate 16 {})
      ((cutShortState .restoreLast).machine.world {})).1.map fun r => r.2.isSome) = some true := by
    decide +kernel
  have hquiet : ((startUntilState {}).exec (List.replicate 16 {})
      ((cutShortState .restoreLast).machine.world {})).2.trace = [] := by
    decide +kernel
  refine .inr ⟨?_, ?_, ?_⟩
  · split at hsaved
    · rename_i saved hstate
      exact ⟨saved, hstate, of_decide_eq_true hsaved⟩
    · cases hsaved
    · cases hsaved
  · unfold ReadsStateRecord
    rcases hrun : (linuxDaemonStart {}).exec (List.replicate 16 {})
      ((cutShortState .restoreLast).machine.world {}) with ⟨_ | ⟨serves, _ | saved⟩, w⟩
    · rw [hrun] at hread
      cases hread
    · rw [hrun] at hread
      cases hread
    · exact ⟨serves, saved, w, rfl⟩
  · rintro ⟨w, hrun, state, hstored⟩
    rw [hrun] at hquiet
    rw [show w.trace = [] from hquiet] at hstored
    cases hstored

theorem remembered_applyCutShort : Remembered (applyCutShort .restoreLast) := by
  intro first reads operationReadable answers rest hdone _ _ id hlast _
  rcases first with _ | ⟨e₁, _ | ⟨e₂, _ | ⟨e₃, _ | ⟨e₄, _ | ⟨e₅, first⟩⟩⟩⟩⟩
  · cases (List.cons.inj hdone).1
  · obtain ⟨rfl, -⟩ := List.cons.inj hdone
    cases hlast
  · cases (List.cons.inj (List.cons.inj (List.cons.inj hdone).2).2).1
  · cases (List.cons.inj (List.cons.inj (List.cons.inj (List.cons.inj hdone).2).2).2).1
  · simp only [applyCutShort, List.cons_append, List.nil_append, List.cons.injEq] at hdone
    obtain ⟨rfl, rfl, rfl, rfl, hstart, -⟩ := hdone
    obtain ⟨rfl, rfl, rfl⟩ := OperationEvent.start.inj hstart
    have hseven : lastBegun (history ((applyCutShort .restoreLast).take 4)) = some 7 := by
      decide +kernel
    obtain rfl := Option.some.inj (hseven.symm.trans hlast)
    exact findsOperation_cutShort
  · simp only [applyCutShort, List.cons_append, List.cons.injEq] at hdone
    cases first <;> cases hdone.2.2.2.2.2

/-- **Nothing is executed twice there**, and an Apply that comes through is replayed. -/
theorem executed_once_applyCutShort :
    .executed 7 ∉ (operationDaemon.step (stateAfter (applyCutShort .restoreLast))
      (offsetApply (List.replicate 16 {}))).2 ∧
    ∃ answer, .completed 7 answer ∈ (operationDaemon.step (stateAfter
        [.boot ['a'], answeredOperationStart]) (offsetApply (List.replicate 16 {}))).2 ∧
      (operationDaemon.step (stateAfter
        [.boot ['a'], answeredOperationStart, offsetApply (List.replicate 16 {})])
        (.request .reset 7 { message := ['o', 'k'], message_ne := by decide })).2 =
          [.replayed 7 answer] := by
  constructor
  · exact (executed_once _).1 remembered_applyCutShort _ 7 _ (by decide +kernel)
      (by decide +kernel)
  · obtain ⟨answer, hcompleted, hreplay⟩ :=
      (executed_once [.boot ['a'], answeredOperationStart, offsetApply (List.replicate 16 {})]).2
        [.boot ['a'], answeredOperationStart] (offsetApply (List.replicate 16 {})) [] 7 rfl
        (by decide +kernel) (show Option.isSome _ = true by decide +kernel) (by decide +kernel)
    exact ⟨answer, hcompleted, hreplay _ _⟩

/-- Under a PROFILE policy the start stores its own record over the prepared one before it
reads it, and a retry of the last mutation writes the hardware again. -/
theorem profileStart_executes_twice :
    lastBegun (history (applyCutShort .profile)) = some 7 ∧
    .executed 7 ∈ history (applyCutShort .profile) ∧
    .executed 7 ∈ (operationDaemon.step (stateAfter (applyCutShort .profile))
      (offsetApply (List.replicate 16 {}))).2 := by
  decide +kernel

end GreenCurve.Operations
