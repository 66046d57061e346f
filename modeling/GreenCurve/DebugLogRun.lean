import GreenCurve.DebugLogLaw

/-! # Runs of the debug log

The lines that are accepted and not yet taken out are what the ring holds between the two
counters, one record after the other, and each record has the number of the route change that
its line was logged under.  Every call keeps this, as long as no number is given to its slot
again before the line is taken out. -/

namespace GreenCurve.DebugLog

open ByteMemory

/-! ## Records -/

/-- The part of a line that is kept. -/
def Accepted.text (a : Accepted) : List UInt8 := a.line.take kMaxRecordBytes

/-- The header of a line. -/
def Accepted.header (a : Accepted) : List UInt8 :=
  headerBytes (packHeader a.text.length (numberOf a.changes).toNat)

/-- The record of a line. -/
def encode (a : Accepted) : List UInt8 := a.header ++ a.text

theorem length_header (a : Accepted) : a.header.length = kHeaderBytes := rfl

theorem length_text (a : Accepted) : a.text.length = min kMaxRecordBytes a.line.length :=
  List.length_take

theorem length_encode (a : Accepted) : (encode a).length = recordBytes a.text.length := by
  rw [encode, List.length_append, length_header, recordBytes, Nat.add_comm]

/-- **What the ring holds**: the records of the lines that wait, and nothing else. -/
structure Framed (log : Log) (pending : List Accepted) : Prop where
  ring : log.ring.length = kRingBytes
  head : log.head = log.tail + (pending.flatMap encode).length
  window : (pending.flatMap encode).length ≤ kRingBytes
  head_lt : log.head < 2 ^ 64
  holds : Holds log.ring log.tail (pending.flatMap encode)
  lines : ∀ a ∈ pending, a.line ≠ []

/-- The ring and its counters are all that counts. -/
theorem Framed.congr {log log' : Log} {pending : List Accepted} (h : Framed log pending)
    (hring : log'.ring = log.ring) (hhead : log'.head = log.head) (htail : log'.tail = log.tail) :
    Framed log' pending :=
  ⟨hring ▸ h.ring, by rw [hhead, htail, h.head], h.window, hhead ▸ h.head_lt,
    by rw [hring, htail]; exact h.holds, h.lines⟩

theorem Framed.used {log : Log} {pending : List Accepted} (h : Framed log pending) :
    usedBytes log.head log.tail = (pending.flatMap encode).length := by
  rw [usedBytes, h.head, if_pos (Nat.le_add_right _ _), Nat.add_sub_cancel_left]

theorem size64_eq {n : Nat} (h : n < 2 ^ 64) : size64 n = n := Nat.mod_eq_of_lt h

/-- There is room for a record. -/
theorem room_of_fits {log : Log} {pending : List Accepted} (h : Framed log pending) {n : Nat}
    (hfits : fits log.head log.tail kRingBytes n = true) :
    (pending.flatMap encode).length + recordBytes n ≤ kRingBytes := by
  have hwindow := h.window
  have hfree : decide (freeBytes log.head log.tail kRingBytes ≥ recordBytes n) = true := by
    rw [fits] at hfits
    split_ifs at hfits
    exact hfits
  have hroom := of_decide_eq_true hfree
  rw [freeBytes, h.used] at hroom
  rw [recordBytes] at hroom ⊢
  split_ifs at hroom <;> omega

/-- **A line put in.** -/
theorem Framed.push {log : Log} {pending : List Accepted} (h : Framed log pending) (a : Accepted)
    (hline : a.line ≠ []) (hfits : fits log.head log.tail kRingBytes a.text.length = true)
    (hwrap : log.head + recordBytes a.text.length < 2 ^ 64) :
    Framed
      { log with
        ring := debugLogRingCopyIn (debugLogRingCopyIn log.ring log.head a.header)
          (size64 (log.head + kHeaderBytes)) a.text
        head := size64 (log.head + recordBytes a.text.length) }
      (pending ++ [a]) := by
  have hroom := room_of_fits h hfits
  have hhead := h.head
  have hring := h.ring
  have hheader := length_header a
  rw [recordBytes] at hroom hwrap
  have hinner : a.header.length ≤ log.ring.length := by omega
  have hlength : (ringWrite log.ring log.head a.header).length = log.ring.length :=
    length_ringWrite hinner
  have houter : a.text.length ≤ (ringWrite log.ring log.head a.header).length := by omega
  have hflat : (pending ++ [a]).flatMap encode = pending.flatMap encode ++ encode a := by
    rw [List.flatMap_append, List.flatMap_singleton]
  rw [recordBytes, size64_eq (by omega), size64_eq (by omega), copyIn_eq _ hring,
    copyIn_eq _ (hlength.trans hring)]
  have hlong : (encode a).length = a.text.length + kHeaderBytes := length_encode a
  refine ⟨?_, ?_, ?_, ?_, ?_, ?_⟩
  · exact (length_ringWrite houter).trans (hlength.trans hring)
  · dsimp only
    rw [hflat, List.length_append]
    omega
  · rw [hflat, List.length_append]
    omega
  · exact hwrap
  · dsimp only
    rw [hflat, holds_append, encode, holds_append, ← hhead, hheader]
    refine ⟨?_, ?_, holds_ringWrite houter⟩
    · -- the records that wait lie before both writes
      exact (h.holds.ringWrite hinner (by omega) (by omega)).ringWrite houter (by omega) (by omega)
    · exact (holds_ringWrite hinner).ringWrite houter (by omega) (by omega)
  · intro b hb
    rcases List.mem_append.mp hb with hb | hb
    · exact h.lines b hb
    · rw [List.mem_singleton.mp hb]
      exact hline

/-- Nothing is taken out of a ring with no lines. -/
theorem Framed.dequeue_nil {log : Log} (h : Framed log []) (outSize : Nat)
    (answers : TokenAnswers) : debugLogDequeue log outSize answers = (log, .empty) := by
  have hused : usedBytes log.head log.tail = 0 := h.used
  rw [debugLogDequeue, hused, if_neg (Nat.not_lt_zero kHeaderBytes), ite_self]

theorem text_length_pos {a : Accepted} (h : a.line ≠ []) : 0 < a.text.length := by
  rw [length_text]
  exact lt_min (Nat.zero_lt_succ _) (List.length_pos_of_ne_nil h)

/-- **The oldest line taken out**: its text and the route of its number. -/
theorem Framed.dequeue_cons {log : Log} {a : Accepted} {pending : List Accepted}
    (h : Framed log (a :: pending)) {outSize : Nat} (hsize : kMaxRecordBytes + 1 ≤ outSize)
    (answers : TokenAnswers) :
    debugLogDequeue log outSize answers =
      ({ (debugLogCaptureRoute log (numberOf a.changes) answers).1 with
          tail := log.tail + recordBytes a.text.length },
        .record a.text (debugLogCaptureRoute log (numberOf a.changes) answers).2) := by
  have hflat : (a :: pending).flatMap encode = encode a ++ pending.flatMap encode := rfl
  have hlong : (encode a).length = a.text.length + kHeaderBytes := length_encode a
  have hused := h.used
  have hhead := h.head
  have hlt := h.head_lt
  have hwindow := h.window
  rw [hflat, List.length_append, hlong] at hused hhead hwindow
  have htext : a.text.length ≤ kMaxRecordBytes := (length_text a).trans_le (Nat.min_le_left _ _)
  have hpos := text_length_pos (h.lines a (List.mem_cons_self ..))
  have hmax : kMaxRecordBytes = 1200 := rfl
  have hfour : kHeaderBytes = 4 := rfl
  have hholds := h.holds
  rw [hflat, holds_append, encode, holds_append, length_header] at hholds
  have hheader : debugLogRingCopyOut log.ring log.tail kHeaderBytes = a.header := by
    have hinner : a.header.length ≤ log.ring.length := by
      rw [h.ring, length_header]
      omega
    rw [copyOut_eq _ _ h.ring, ← length_header a, ringRead_eq hinner hholds.1.1]
  have hnumber : (numberOf a.changes).toNat < 65536 := (numberOf a.changes).toNat_lt
  obtain ⟨hpayload, hroute⟩ :=
    unpack_packHeader (n := a.text.length) (by omega) hnumber
  have hline : debugLogRingCopyOut log.ring (log.tail + kHeaderBytes) a.text.length = a.text := by
    rw [copyOut_eq _ _ h.ring, ringRead_eq (by rw [h.ring]; omega) hholds.1.2]
  have hvalid : recordLengthIsValid a.text.length log.head log.tail = true := by
    rw [recordLengthIsValid, if_neg (by omega), hused, recordBytes, decide_eq_true_eq]
    omega
  have hback : ((numberOf a.changes).toNat).toUInt16 = numberOf a.changes := by
    rw [Nat.toUInt16_eq, UInt16.ofNat_toNat]
  have htail : (debugLogCaptureRoute log (numberOf a.changes) answers).1.tail = log.tail := by
    rw [capture_eq]
  have hstart : log.tail + kHeaderBytes < 2 ^ 64 := by omega
  have hend : log.tail + recordBytes a.text.length < 2 ^ 64 := by
    rw [recordBytes]
    omega
  rw [debugLogDequeue, if_neg (by omega), if_pos (by omega)]
  dsimp only
  rw [hheader, Accepted.header, hpayload, hroute, hvalid, if_pos rfl, hback,
    if_pos (show a.text.length < outSize by omega), size64_eq hstart, htail, size64_eq hend,
    hline]

/-- **A line taken out.** -/
theorem Framed.pop {log : Log} {a : Accepted} {pending : List Accepted}
    (h : Framed log (a :: pending)) :
    Framed { log with tail := log.tail + recordBytes a.text.length } pending := by
  have hflat : (a :: pending).flatMap encode = encode a ++ pending.flatMap encode := rfl
  have hlong : (encode a).length = recordBytes a.text.length := length_encode a
  have hhead := h.head
  have hwindow := h.window
  have hholds := h.holds
  rw [hflat, List.length_append, hlong] at hhead hwindow
  rw [hflat, holds_append, hlong] at hholds
  exact ⟨h.ring, by dsimp only; omega, by omega, h.head_lt, hholds.2,
    fun b hb => h.lines b (List.mem_cons_of_mem _ hb)⟩

/-! ## Calls -/

theorem setRoutePath_frame (log : Log) (path : LogPath) (userToken : Option Token)
    (copied : Bool) :
    (debugLogSetRoutePath log path userToken copied).ring = log.ring ∧
      (debugLogSetRoutePath log path userToken copied).head = log.head ∧
      (debugLogSetRoutePath log path userToken copied).tail = log.tail ∧
      (debugLogSetRoutePath log path userToken copied).dropped = log.dropped := by
  rw [debugLogSetRoutePath]
  dsimp only
  split_ifs <;> exact ⟨rfl, rfl, rfl, rfl⟩

theorem initializeRoute_frame (log : Log) (configured : LogPath) :
    (debugLogInitializeRoute log configured).ring = log.ring ∧
      (debugLogInitializeRoute log configured).head = log.head ∧
      (debugLogInitializeRoute log configured).tail = log.tail ∧
      (debugLogInitializeRoute log configured).dropped = log.dropped := by
  rw [debugLogInitializeRoute]
  dsimp only
  split_ifs <;> exact ⟨rfl, rfl, rfl, rfl⟩

theorem Log.Copied.update {log : Log} (h : log.Copied) {j : Fin kMaxRouteSlots}
    {slot : DebugLogRouteSlot} (hslot : slot.userDestination = true → slot.userToken ≠ none) :
    ∀ i, (Function.update log.routes j slot i).userDestination = true →
      (Function.update log.routes j slot i).userToken ≠ none := by
  intro i
  rcases eq_or_ne i j with rfl | hne
  · rw [Function.update_self]
    exact hslot
  · rw [Function.update_of_ne hne]
    exact h i

theorem Log.Copied.setRoutePath {log : Log} (h : log.Copied) (path : LogPath)
    {userToken : Option Token} {copied : Bool} (hcopied : (copied || userToken.isNone) = true) :
    (debugLogSetRoutePath log path userToken copied).Copied := by
  rw [debugLogSetRoutePath]
  dsimp only
  split_ifs
  · exact h
  · exact h
  all_goals
    refine h.update fun huser => ?_
    cases userToken <;> simp_all

theorem Log.Copied.initializeRoute {log : Log} (h : log.Copied) (configured : LogPath) :
    (debugLogInitializeRoute log configured).Copied := by
  rw [debugLogInitializeRoute]
  dsimp only
  split_ifs
  · exact h.update fun huser => h _ huser
  · exact h
  · exact h

/-- **A call that logs a line**: the first part of it is put in as one record, or it is counted. -/
theorem enqueue_eq (log : Log) {line : CString} (configured : LogPath) (hline : line.bytes ≠ [])
    {a : Accepted} (ha : a.line = line.bytes)
    (hnumber : (debugLogInitializeRoute log configured).currentRouteGen = numberOf a.changes) :
    debugLogEnqueue log line configured =
      let log := debugLogInitializeRoute log configured
      if fits log.head log.tail kRingBytes a.text.length then
        ({ log with
            ring := debugLogRingCopyIn (debugLogRingCopyIn log.ring log.head a.header)
              (size64 (log.head + kHeaderBytes)) a.text
            head := size64 (log.head + recordBytes a.text.length) }, true)
      else ({ log with dropped := log.dropped + 1 }, false) := by
  have hlength : (if line.bytes.length > kMaxRecordBytes then kMaxRecordBytes
      else line.bytes.length) = a.text.length := by
    rw [length_text, ha]
    split_ifs <;> omega
  have htext : line.bytes.take a.text.length = a.text := by
    rw [length_text, Accepted.text, ← ha, ← List.take_take, List.take_length]
  rw [debugLogEnqueue, if_neg hline, hlength]
  dsimp only
  rw [hnumber, htext]
  rfl

/-! ## Runs -/

/-- A line that was taken out, beside the one that was put in.  Where it went to no destination,
it was counted and the system had refused a copy of a token. -/
structure Delivered (refusals : Nat) (a : Accepted) (d : Delivery) : Prop where
  line : d.line = a.line.take kMaxRecordBytes
  destination : d.route.destination = a.destination ∨ d.rerouted = true ∨
    d.dropped = true ∧ d.route.path = [] ∧ 0 < refusals

/-- **What the queue keeps**: the lines that were taken out are the first ones that were
accepted, and all of them where the ring is empty; each went to the destination that was current
for it, or it is counted; a line that was not accepted is counted; the ring is never too small
and never thrown away. -/
structure Kept (r : Run) : Prop where
  fifo : ∃ taken pending, r.accepted = taken ++ pending ∧
    List.Forall₂ (Delivered r.refusals) taken r.deliveries ∧
    (usedBytes r.log.head r.log.tail = 0 ↔ pending = [])
  routed : ∀ a ∈ r.accepted, a.destination ≠ none
  counted : r.offered + (r.deliveries.filter (·.dropped)).length =
    r.accepted.length + r.log.dropped + r.reported
  bounded : usedBytes r.log.head r.log.tail ≤ kRingBytes
  framed : r.discards = 0

/-- A buffer for a whole line. -/
def Event.Proper : Event → Prop
  | .dequeue outSize _ => kMaxRecordBytes + 1 ≤ outSize
  | _ => True

/-- The condition on a call: the counter of bytes does not overflow, and the number of the line
that is next was not given to its slot again since. -/
def Allowed (r : Run) : Event → Prop
  | .enqueue line _ => r.log.head + recordBytes (min kMaxRecordBytes line.bytes.length) < 2 ^ 64
  | .dequeue _ _ => ∀ a, r.accepted[r.deliveries.length]? = some a →
      r.history.length < a.changes + 65535 ∨
        (r.log.routes (slotIndex (numberOf a.changes))).generation ≠ numberOf a.changes
  | _ => True

/-- The states of the runs whose calls all meet the condition. -/
inductive Reached : Run → Prop
  | start : Reached .start
  | step {r : Run} {e : Event} (before : Reached r) (proper : e.Proper) (allowed : Allowed r e) :
      Reached (r.next e)

/-- A line under the change that its record says. -/
def Accepted.Of (a : Accepted) (history : List Destination) : Prop :=
  1 ≤ a.changes ∧ a.changes ≤ history.length ∧ a.destination = history[a.changes - 1]?

theorem Accepted.Of.append {a : Accepted} {history : List Destination} (h : a.Of history)
    (more : List Destination) : a.Of (history ++ more) := by
  obtain ⟨hpos, hle, hdestination⟩ := h
  refine ⟨hpos, by rw [List.length_append]; omega, ?_⟩
  rw [List.getElem?_append_left (by omega), hdestination]

theorem Delivered.mono {refusals more : Nat} (hle : refusals ≤ more) {a : Accepted} {d : Delivery}
    (h : Delivered refusals a d) : Delivered more a d :=
  ⟨h.line, h.destination.imp_right (Or.imp_right fun ⟨hd, hp, hr⟩ => ⟨hd, hp, by omega⟩)⟩

/-- **The invariant of a run**, with the lines that were taken out and the ones that wait. -/
structure Queued (r : Run) (taken pending : List Accepted) : Prop where
  accepted : r.accepted = taken ++ pending
  delivered : List.Forall₂ (Delivered r.refusals) taken r.deliveries
  framed : Framed r.log pending
  routes : Routes r.log r.history
  records : ∀ a ∈ r.accepted, a.Of r.history
  copied : r.refusals = 0 → r.log.Copied
  counted : r.offered + (r.deliveries.filter (·.dropped)).length =
    r.accepted.length + r.log.dropped + r.reported
  discards : r.discards = 0

theorem queued_start : Queued .start [] [] where
  accepted := rfl
  delivered := .nil
  framed :=
    { ring := List.length_replicate, head := rfl, window := Nat.zero_le _,
      head_lt := Nat.two_pow_pos 64, holds := holds_nil, lines := nofun }
  routes :=
    { number := rfl, blank := fun _ _ => rfl, slots := fun m hm hle => by
        have hzero : m ≤ 0 := hle
        omega }
  records := nofun
  copied _ := nofun
  counted := rfl
  discards := rfl

theorem Queued.setRoute {r : Run} {taken pending : List Accepted} (h : Queued r taken pending)
    (path : LogPath) (userToken : Option Token) (copied : Bool) :
    Queued (r.next (.setRoute path userToken copied)) taken pending := by
  obtain ⟨hring, hhead, htail, hdropped⟩ := setRoutePath_frame r.log path userToken copied
  refine ⟨h.accepted, ?_, h.framed.congr hring hhead htail, h.routes.setRoutePath .., ?_, ?_, ?_,
    h.discards⟩
  · exact h.delivered.imp fun a d hd => hd.mono (Nat.le_add_right _ _)
  · exact fun a ha => (h.records a ha).append _
  · intro hzero
    have hzero' : r.refusals + (if copied || userToken.isNone then 0 else 1) = 0 := hzero
    split_ifs at hzero' with hcopied
    exact (h.copied hzero').setRoutePath path hcopied
  · exact h.counted.trans (by rw [← hdropped]; rfl)

theorem withRoute_eq_append (history : List Destination) (configured : LogPath) :
    ∃ more, withRoute history configured = history ++ more := by
  rw [withRoute]
  split_ifs with h
  · exact ⟨_, by rw [h, List.nil_append]⟩
  · exact ⟨[], (List.append_nil _).symm⟩

theorem withRoute_ne_nil (history : List Destination) (configured : LogPath) :
    withRoute history configured ≠ [] := by
  rw [withRoute]
  split_ifs with h
  · exact List.cons_ne_nil _ _
  · exact h

theorem Queued.enqueue {r : Run} {taken pending : List Accepted} (h : Queued r taken pending)
    {line : CString} {configured : LogPath} (hallowed : Allowed r (.enqueue line configured)) :
    ∃ pending', Queued (r.next (.enqueue line configured)) taken pending' := by
  by_cases hline : line.bytes = []
  · refine ⟨pending, ?_⟩
    rw [Run.next, if_pos hline]
    exact h
  obtain ⟨hring, hhead, htail, hdropped⟩ := initializeRoute_frame r.log configured
  obtain ⟨more, hmore⟩ := withRoute_eq_append r.history configured
  have hne := withRoute_ne_nil r.history configured
  have hroutes := h.routes.initializeRoute configured
  have hframed := h.framed.congr hring hhead htail
  have hcopied := fun hzero => (h.copied hzero).initializeRoute configured
  set history := withRoute r.history configured with hhistory
  set log := debugLogInitializeRoute r.log configured with hlog
  let a : Accepted := ⟨line.bytes, history.getLast?, history.length⟩
  have hrecords : ∀ b ∈ r.accepted, b.Of history := by
    rw [hmore]
    exact fun b hb => (h.records b hb).append more
  have heq := enqueue_eq r.log configured hline (a := a) rfl hroutes.number
  have hcounted := h.counted
  by_cases hfits : fits log.head log.tail kRingBytes a.text.length = true
  · -- the line is accepted
    have hnext : r.next (.enqueue line configured) =
        { r with
          log :=
            { log with
              ring := debugLogRingCopyIn (debugLogRingCopyIn log.ring log.head a.header)
                (size64 (log.head + kHeaderBytes)) a.text
              head := size64 (log.head + recordBytes a.text.length) }
          history := history
          offered := r.offered + 1
          accepted := r.accepted ++ [a] } := by
      rw [Run.next, if_neg hline, heq, ← hlog]
      dsimp only
      rw [if_pos hfits]
      rfl
    have ha : a.Of history :=
      ⟨List.length_pos_of_ne_nil hne, Nat.le_refl _, List.getLast?_eq_getElem?⟩
    have hwrap : log.head + recordBytes a.text.length < 2 ^ 64 := by
      rw [hhead, length_text]
      exact hallowed
    refine ⟨pending ++ [a], ?_⟩
    rw [hnext]
    refine ⟨?_, h.delivered, hframed.push a hline hfits hwrap, hroutes.congr rfl rfl, ?_,
      hcopied, ?_, h.discards⟩
    · dsimp only
      rw [h.accepted, List.append_assoc]
    · intro b hb
      rcases List.mem_append.mp hb with hb | hb
      · exact hrecords b hb
      · rw [List.mem_singleton.mp hb]
        exact ha
    · dsimp only
      rw [List.length_append, List.length_singleton, hdropped]
      omega
  · -- the line is counted as dropped
    have hnext : r.next (.enqueue line configured) =
        { r with
          log := { log with dropped := log.dropped + 1 }
          history := history
          offered := r.offered + 1 } := by
      rw [Run.next, if_neg hline, heq, ← hlog]
      dsimp only
      rw [if_neg hfits, ← hhistory]
      simp
    refine ⟨pending, ?_⟩
    rw [hnext]
    refine ⟨h.accepted, h.delivered, hframed.congr rfl rfl rfl, hroutes.congr rfl rfl, hrecords,
      hcopied, ?_, h.discards⟩
    dsimp only
    rw [hdropped]
    omega

/-- What is counted where a line is taken out. -/
theorem counted_delivery {n k c : Nat} (dropped : Bool) (ds : List Delivery) (d : Delivery)
    (hd : d.dropped = dropped) (h : n + (ds.filter (·.dropped)).length = k + c) :
    n + ((ds ++ [d]).filter (·.dropped)).length = k + (c + dropped.toNat) := by
  rw [List.filter_append, List.length_append]
  cases dropped
  · simp [hd, h]
  · simp [hd, ← Nat.add_assoc, h]

/-- A call that takes a line out, with the slot it finds. -/
theorem Framed.next_dequeue {r : Run} {a : Accepted} {pending : List Accepted}
    (h : Framed r.log (a :: pending)) {outSize : Nat} {answers : TokenAnswers}
    (hsize : kMaxRecordBytes + 1 ≤ outSize) {dropped rerouted : Bool} {route : GcDebugLogRoute}
    (hout : debugLogCaptureRoute r.log (numberOf a.changes) answers =
      ({ r.log with
          dropped := r.log.dropped + dropped.toNat
          rerouted := r.log.rerouted + rerouted.toNat }, route)) :
    r.next (.dequeue outSize answers) =
      { r with
        log :=
          { r.log with
            dropped := r.log.dropped + dropped.toNat
            rerouted := r.log.rerouted + rerouted.toNat
            tail := r.log.tail + recordBytes a.text.length }
        deliveries := r.deliveries ++ [⟨a.text, route, rerouted, dropped⟩]
        refusals := r.refusals + if answers.duplicated && answers.queried then 0 else 1 } := by
  rw [Run.next, h.dequeue_cons hsize, hout]
  cases dropped <;> cases rerouted <;> simp

theorem Queued.dequeue {r : Run} {taken pending : List Accepted} (h : Queued r taken pending)
    {outSize : Nat} {answers : TokenAnswers} (hsize : kMaxRecordBytes + 1 ≤ outSize)
    (hallowed : Allowed r (.dequeue outSize answers)) :
    ∃ taken' pending', Queued (r.next (.dequeue outSize answers)) taken' pending' := by
  cases pending with
  | nil =>
    refine ⟨taken, [], ?_⟩
    rw [Run.next, h.framed.dequeue_nil]
    exact h
  | cons a pending =>
    refine ⟨taken ++ [a], pending, ?_⟩
    have hmem : a ∈ r.accepted := by
      rw [h.accepted]
      exact List.mem_append_right _ (List.mem_cons_self ..)
    obtain ⟨hpos, hle, hdestination⟩ := h.records a hmem
    have hfirst : r.accepted[r.deliveries.length]? = some a := by
      rw [h.accepted, ← h.delivered.length_eq, List.getElem?_append_right (Nat.le_refl _),
        Nat.sub_self, List.getElem?_cons_zero]
    have hcapture := h.routes.capture hpos hle (hallowed a hfirst) answers
    obtain ⟨dropped, rerouted, route, hout⟩ : ∃ (dropped rerouted : Bool) (route : GcDebugLogRoute),
        debugLogCaptureRoute r.log (numberOf a.changes) answers =
          ({ r.log with
              dropped := r.log.dropped + dropped.toNat
              rerouted := r.log.rerouted + rerouted.toNat }, route) :=
      ⟨_, _, _, capture_eq r.log (numberOf a.changes) answers⟩
    have hnext := h.framed.next_dequeue hsize hout
    rw [hout] at hcapture
    rw [hnext]
    refine ⟨?_, ?_, h.framed.pop.congr rfl rfl rfl, h.routes.congr rfl rfl, h.records, ?_, ?_,
      h.discards⟩
    · dsimp only
      rw [h.accepted, List.append_assoc, List.singleton_append]
    · refine List.rel_append (h.delivered.imp fun b d hd => hd.mono (Nat.le_add_right _ _))
        (.cons ⟨rfl, ?_⟩ .nil)
      rcases hcapture with hroute | hrerouted | ⟨hdropped, hpath, hrefused⟩
      · exact Or.inl (hroute.trans hdestination.symm)
      · refine Or.inr (Or.inl ?_)
        cases rerouted
        · exact absurd hrerouted (Nat.succ_ne_self _).symm
        · rfl
      · refine Or.inr (Or.inr ⟨?_, hpath, ?_⟩)
        · cases dropped
          · exact absurd hdropped (Nat.succ_ne_self _).symm
          · rfl
        · -- a copy was refused before, or is refused now
          rcases Nat.eq_zero_or_pos r.refusals with hzero | hpositive
          · rw [hrefused (h.copied hzero)]
            exact Nat.lt_add_left _ Nat.zero_lt_one
          · exact Nat.lt_add_right _ hpositive
    · intro hzero
      exact h.copied (Nat.eq_zero_of_add_eq_zero_right hzero)
    · have hcounted := counted_delivery dropped r.deliveries ⟨a.text, route, rerouted, dropped⟩ rfl
        (h.counted.trans (Nat.add_assoc _ _ _))
      dsimp only
      omega

theorem Queued.report {r : Run} {taken pending : List Accepted} (h : Queued r taken pending) :
    Queued (r.next .report) taken pending := by
  refine ⟨h.accepted, h.delivered, h.framed.congr rfl rfl rfl, h.routes.congr rfl rfl, h.records,
    h.copied, ?_, h.discards⟩
  have hcounted := h.counted
  dsimp only [Run.next]
  omega

/-- One call keeps the invariant. -/
theorem Queued.next {r : Run} {taken pending : List Accepted} (h : Queued r taken pending)
    {e : Event} (hproper : e.Proper) (hallowed : Allowed r e) :
    ∃ taken' pending', Queued (r.next e) taken' pending' := by
  cases e with
  | setRoute path userToken copied => exact ⟨taken, pending, h.setRoute path userToken copied⟩
  | enqueue line configured => exact ⟨taken, h.enqueue hallowed⟩
  | dequeue outSize answers => exact h.dequeue hproper hallowed
  | report => exact ⟨taken, pending, h.report⟩

theorem Reached.queued {r : Run} (h : Reached r) : ∃ taken pending, Queued r taken pending := by
  induction h with
  | start => exact ⟨[], [], queued_start⟩
  | step before proper allowed ih =>
    obtain ⟨taken, pending, hqueued⟩ := ih
    exact hqueued.next proper allowed

theorem Queued.kept {r : Run} {taken pending : List Accepted} (h : Queued r taken pending) :
    Kept r where
  fifo := by
    refine ⟨taken, pending, h.accepted, h.delivered, ?_⟩
    rw [h.framed.used]
    cases pending with
    | nil => exact iff_of_true rfl rfl
    | cons a pending =>
      refine iff_of_false ?_ (List.cons_ne_nil _ _)
      rw [List.flatMap_cons, List.length_append, length_encode, recordBytes]
      exact (Nat.add_pos_left (Nat.add_pos_right _ (Nat.zero_lt_succ 3)) _).ne'
  routed a ha := by
    obtain ⟨hpos, hle, hdestination⟩ := h.records a ha
    rw [hdestination, List.getElem?_eq_getElem (by omega)]
    exact Option.some_ne_none _
  counted := h.counted
  bounded := h.framed.used.trans_le h.framed.window
  framed := h.discards

/-- **The queue loses nothing uncounted.**  In every run whose calls meet the condition each
line comes out once, in order and up to its first 1200 bytes, and goes to the destination that
was current for it, or it is counted. -/
theorem kept_of_reached {r : Run} (h : Reached r) : Kept r := by
  obtain ⟨taken, pending, hqueued⟩ := h.queued
  exact hqueued.kept

/-! ## Sixteen bits are not enough -/

/-- A line of one letter. -/
def letter : CString := ⟨[65], by decide⟩

/-- The file of another session. -/
def otherFile : LogPath := ⟨⟨[66], by decide⟩, by decide⟩

/-- One line is logged and taken out. -/
theorem kept_of_reached_letter :
    Kept ((Run.start.next (.enqueue letter otherFile)).next (.dequeue 1201 ⟨true, true⟩)) := by
  have hhistory : (Run.start.next (.enqueue letter otherFile)).history.length = 1 := rfl
  refine kept_of_reached (.step (.step .start trivial ?_) ?_ ?_)
  · exact (by decide : 0 + recordBytes (min kMaxRecordBytes 1) < 2 ^ 64)
  · exact Nat.le_refl 1201
  · intro a _
    left
    omega

/-- The record of that line. -/
def letterAccepted : Accepted :=
  ⟨[65], some (destinationOf (effectiveDebugLogPath otherFile) none), 1⟩

/-- The run after the line and some route changes. -/
def afterChanges (n : Nat) : Run :=
  (List.replicate n (Event.setRoute otherFile (some 1) true)).foldl Run.next
    (Run.start.next (.enqueue letter otherFile))

theorem afterChanges_succ (n : Nat) :
    afterChanges (n + 1) = (afterChanges n).next (.setRoute otherFile (some 1) true) := by
  rw [afterChanges, List.replicate_succ', List.foldl_append]
  rfl

theorem afterChanges_spec (n : Nat) :
    Queued (afterChanges n) [] [letterAccepted] ∧ (afterChanges n).deliveries = [] ∧
      (afterChanges n).refusals = 0 ∧ (afterChanges n).history.length = n + 1 ∧
      (1 ≤ n → (afterChanges n).history.getLast? = some (destinationOf otherFile (some 1))) := by
  induction n with
  | zero =>
    have hallowed : Allowed .start (.enqueue letter otherFile) :=
      (by decide : 0 + recordBytes (min kMaxRecordBytes 1) < 2 ^ 64)
    obtain ⟨pending, hqueued⟩ := queued_start.enqueue hallowed
    have hpending : [letterAccepted] = pending := hqueued.accepted
    exact ⟨hpending ▸ hqueued, rfl, rfl, rfl, fun h => absurd h (Nat.not_succ_le_zero 0)⟩
  | succ n ih =>
    obtain ⟨hqueued, hdeliveries, hrefusals, hlength, -⟩ := ih
    rw [afterChanges_succ]
    have hhistory : ((afterChanges n).next (.setRoute otherFile (some 1) true)).history =
        (afterChanges n).history ++ [destinationOf otherFile (some 1)] := rfl
    refine ⟨hqueued.setRoute otherFile (some 1) true, hdeliveries, hrefusals, ?_, fun _ => ?_⟩
    · rw [hhistory, List.length_append, hlength, List.length_singleton]
    · rw [hhistory, List.getLast?_concat]

/-- After 65535 changes the number of the line is current again. -/
theorem not_kept_of_number_again {r : Run} (hqueued : Queued r [] [letterAccepted])
    (hdeliveries : r.deliveries = []) (hrefusals : r.refusals = 0)
    (hlength : r.history.length = 65535 + 1)
    (hlast : r.history.getLast? = some (destinationOf otherFile (some 1))) :
    ¬Kept (r.next (.dequeue 1201 ⟨true, true⟩)) := by
  obtain ⟨d, hd, hof⟩ := hqueued.routes.current (List.ne_nil_of_length_eq_add_one hlength)
  obtain rfl : d = destinationOf otherFile (some 1) := Option.some_inj.mp (hd.symm.trans hlast)
  have hnumber : r.log.currentRouteGen = numberOf 1 := by
    rw [hqueued.routes.number, hlength]
    rfl
  have hgeneration := hof.generation.trans hqueued.routes.number.symm
  rw [hnumber] at hof hgeneration
  have hhas : r.log.has (numberOf 1) = true := by
    simp [Log.has, hgeneration, hof.valid, numberOf_ne_zero]
  have hhand := (hof.handOver ⟨true, true⟩).resolve_right (by
    rintro ⟨-, -, hnone | hanswers⟩
    · exact hqueued.copied hrefusals _ hnone.1 hnone.2
    · exact absurd hanswers (by decide))
  have hout := capture_eq r.log (numberOf 1) ⟨true, true⟩
  dsimp only at hout
  rw [hhas, if_pos rfl, hhand.1] at hout
  intro hkept
  rw [hqueued.framed.next_dequeue (Nat.le_refl 1201) hout] at hkept
  obtain ⟨taken, pending, haccepted, hdelivered, -⟩ := hkept.fifo
  dsimp only at haccepted hdelivered
  rw [hdeliveries, hrefusals, List.nil_append] at hdelivered
  obtain ⟨first, rest, hfirst, -, rfl⟩ := List.forall₂_cons_right_iff.mp hdelivered
  rw [hqueued.accepted] at haccepted
  obtain rfl : letterAccepted = first := (List.cons.inj haccepted).1
  rcases hfirst.destination with hroute | hrerouted | ⟨-, -, hrefused⟩
  · -- another session's file
    have huser : some 1 = none :=
      congrArg Destination.user (Option.some.inj (hhand.2.symm.trans hroute))
    exact Option.some_ne_none 1 huser
  · exact Bool.false_ne_true hrerouted
  · exact Nat.lt_irrefl 0 hrefused

/-- A line, 65535 route changes to the file of another session, and the line taken out. -/
def overrun : List Event :=
  .enqueue letter otherFile ::
    (List.replicate 65535 (.setRoute otherFile (some 1) true) ++ [.dequeue 1201 ⟨true, true⟩])

/-- The line gets the destination of the other session, and nothing is counted. -/
theorem overrun_not_kept :
    (∀ e ∈ overrun, e.Proper) ∧ ¬Kept (overrun.foldl Run.next .start) := by
  constructor
  · intro e he
    rcases List.mem_cons.mp he with rfl | he
    · trivial
    rcases List.mem_append.mp he with he | he
    · rw [List.eq_of_mem_replicate he]
      trivial
    · rw [List.mem_singleton.mp he]
      exact Nat.le_refl 1201
  · have hrun : overrun.foldl Run.next .start =
        (afterChanges 65535).next (.dequeue 1201 ⟨true, true⟩) := by
      rw [overrun, List.foldl_cons, List.foldl_append, List.foldl_cons, List.foldl_nil,
        afterChanges]
    obtain ⟨hqueued, hdeliveries, hrefusals, hlength, hlast⟩ := afterChanges_spec 65535
    rw [hrun]
    exact not_kept_of_number_again hqueued hdeliveries hrefusals hlength (hlast (by decide))

end GreenCurve.DebugLog
