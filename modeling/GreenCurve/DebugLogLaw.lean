import GreenCurve.DebugLogQueue

/-! # The debug log keeps its lines

Over every run of route changes, lines and dequeues the queue is a FIFO: the lines that come
out are the ones that were accepted, in order and up to their first 1200 bytes, and a line that
is not accepted is counted. -/

namespace GreenCurve.DebugLog

open ByteMemory

/-! ## Headers -/

theorem and_word (n : Nat) : n &&& 0xFFFF = n % 65536 := Nat.and_two_pow_sub_one_eq_mod n 16

theorem packHeader_eq {n g : Nat} (hn : n < 65536) (hg : g < 65536) :
    packHeader n g = g * 65536 + n := by
  rw [packHeader, and_word, and_word, Nat.mod_eq_of_lt hn, Nat.mod_eq_of_lt hg, Nat.or_comm,
    ← Nat.shiftLeft_add_eq_or_of_lt (show n < 2 ^ 16 from hn), Nat.shiftLeft_eq]

theorem headerOf_headerBytes {header : Nat} (h : header < 2 ^ 32) :
    headerOf (headerBytes header) = header := by
  simp only [headerOf, headerBytes, List.foldr_cons, List.foldr_nil, Nat.toUInt8_eq,
    UInt8.toNat_ofNat', Nat.shiftRight_eq_div_pow]
  omega

theorem unpack_packHeader {n g : Nat} (hn : n < 65536) (hg : g < 65536) :
    unpackPayloadBytes (headerOf (headerBytes (packHeader n g))) = n ∧
      unpackRouteGeneration (headerOf (headerBytes (packHeader n g))) = g := by
  rw [packHeader_eq hn hg, headerOf_headerBytes (by omega), unpackPayloadBytes,
    unpackRouteGeneration, and_word, and_word, Nat.shiftRight_eq_div_pow]
  omega

/-! ## The ring -/

theorem firstSpan_eq {offset bytes : Nat} (h : offset < kRingBytes) :
    firstSpan offset kRingBytes bytes = min bytes (kRingBytes - offset) := by
  rw [firstSpan, if_neg (by omega)]
  dsimp only
  split_ifs <;> omega

theorem offsetOf_lt (position : Nat) : offsetOf position kRingBytes < kRingBytes := by
  rw [offsetOf, if_neg (by decide)]
  exact Nat.mod_lt _ (by decide)

/-- The two copies are one write around the end of the ring. -/
theorem copyIn_eq {ring data : List UInt8} (position : Nat) (hring : ring.length = kRingBytes) :
    debugLogRingCopyIn ring position data = ringWrite ring position data := by
  have hoffset := offsetOf_lt position
  have hmod : offsetOf position kRingBytes = position % ring.length := by
    rw [hring]
    rfl
  rw [debugLogRingCopyIn, ringWrite, firstSpan_eq hoffset, hmod, hring]
  split_ifs with hwrap
  · rfl
  · rw [List.drop_eq_nil_of_le (by omega), overwrite_nil]

theorem copyOut_eq {ring : List UInt8} (position n : Nat) (hring : ring.length = kRingBytes) :
    debugLogRingCopyOut ring position n = ringRead ring position n := by
  have hoffset := offsetOf_lt position
  have hmod : offsetOf position kRingBytes = position % ring.length := by
    rw [hring]
    rfl
  rw [debugLogRingCopyOut, ringRead, firstSpan_eq hoffset, hmod, hring]
  split_ifs with hwrap
  · rfl
  · rw [show n - min n (kRingBytes - position % kRingBytes) = 0 by omega, List.take_zero]

/-! ## Routes -/

/-- The number of the route that is current after some changes. -/
def numberOf (changes : Nat) : UInt16 :=
  if changes = 0 then 0 else ((changes - 1) % 65535 + 1).toUInt16

theorem toNat_numberOf (changes : Nat) :
    (numberOf changes).toNat = if changes = 0 then 0 else (changes - 1) % 65535 + 1 := by
  rw [numberOf]
  split_ifs
  · rfl
  · rw [Nat.toUInt16_eq, UInt16.toNat_ofNat']
    omega

theorem numberOf_succ (changes : Nat) :
    numberOf (changes + 1) = nextGeneration (numberOf changes) := by
  have h := toNat_numberOf changes
  have hsucc := toNat_numberOf (changes + 1)
  have hadd : (numberOf changes + 1).toNat = ((numberOf changes).toNat + 1) % 65536 :=
    UInt16.toNat_add _ _
  rw [if_neg (Nat.succ_ne_zero _)] at hsucc
  apply UInt16.toNat_inj.mp
  rw [nextGeneration]
  split_ifs with hwrap
  · rw [hwrap] at hadd
    rw [hsucc]
    have hone : (1 : UInt16).toNat = 1 := rfl
    have hzero : (0 : UInt16).toNat = 0 := rfl
    split_ifs at h <;> omega
  · have hne : (numberOf changes + 1).toNat ≠ 0 := fun hz => hwrap (UInt16.toNat_inj.mp hz)
    rw [hsucc, hadd]
    split_ifs at h <;> omega

theorem numberOf_ne_zero {changes : Nat} (h : 1 ≤ changes) : numberOf changes ≠ 0 := by
  intro hzero
  have hnat := toNat_numberOf changes
  rw [hzero, if_neg (by omega)] at hnat
  have hz : (0 : UInt16).toNat = 0 := rfl
  omega

/-- Numbers are given again after 65535 changes and not before. -/
theorem numberOf_inj {m k : Nat} (hm : 1 ≤ m) (hk : 1 ≤ k) (hle : k ≤ m) (hnear : m < k + 65535)
    (h : numberOf m = numberOf k) : m = k := by
  have hnat : (numberOf m).toNat = (numberOf k).toNat := congrArg UInt16.toNat h
  rw [toNat_numberOf, toNat_numberOf, if_neg (by omega), if_neg (by omega)] at hnat
  omega

/-- A slot that holds the destination of a change. -/
structure DebugLogRouteSlot.Of (slot : DebugLogRouteSlot) (change : Nat) (d : Destination) :
    Prop where
  valid : slot.valid = true
  generation : slot.generation = numberOf change
  ne_nil : slot.path ≠ []
  path : d.path = slot.path.map Payload.asciiLower
  user : slot.userDestination = d.user.isSome
  token : slot.userToken = none ∨ slot.userToken = d.user

/-- **What the table of routes holds**: the last destination that each slot was given. -/
structure Routes (log : Log) (history : List Destination) : Prop where
  number : log.currentRouteGen = numberOf history.length
  blank : history = [] → ∀ j, log.routes j = .blank
  slots : ∀ m, 1 ≤ m → m ≤ history.length →
    (∀ m', m < m' → m' ≤ history.length → slotIndex (numberOf m') ≠ slotIndex (numberOf m)) →
    ∃ d, history[m - 1]? = some d ∧ (log.routes (slotIndex (numberOf m))).Of m d

/-- The table and its number are all that counts. -/
theorem Routes.congr {log log' : Log} {history : List Destination} (h : Routes log history)
    (hnumber : log'.currentRouteGen = log.currentRouteGen) (hroutes : log'.routes = log.routes) :
    Routes log' history :=
  ⟨hnumber.trans h.number, hroutes ▸ h.blank, hroutes ▸ h.slots⟩

/-- One more change. -/
theorem Routes.advance {log : Log} {history : List Destination} (h : Routes log history)
    {slot : DebugLogRouteSlot} {d : Destination} (hslot : slot.Of (history.length + 1) d) :
    Routes
      { log with
        currentRouteGen := numberOf (history.length + 1)
        routes := Function.update log.routes (slotIndex (numberOf (history.length + 1))) slot }
      (history ++ [d]) where
  number := by rw [List.length_append, List.length_singleton]
  blank hnil := absurd hnil (by simp)
  slots m hm hle hlast := by
    rw [List.length_append, List.length_singleton] at hle hlast
    rcases Nat.lt_or_ge history.length m with hnew | hold
    · obtain rfl : m = history.length + 1 := by omega
      refine ⟨d, by simp, ?_⟩
      dsimp only
      rwa [Function.update_self]
    · have hne := hlast (history.length + 1) (by omega) (Nat.le_refl _)
      obtain ⟨e, he, hof⟩ := h.slots m hm hold fun m' hlt hle' => hlast m' hlt (by omega)
      refine ⟨e, by rw [List.getElem?_append_left (by omega), he], ?_⟩
      dsimp only
      rwa [Function.update_of_ne hne.symm]

/-- The slot of the current route. -/
theorem Routes.current {log : Log} {history : List Destination} (h : Routes log history)
    (hne : history ≠ []) :
    ∃ d, history.getLast? = some d ∧
      (log.routes (slotIndex log.currentRouteGen)).Of history.length d := by
  have hpos := List.length_pos_of_ne_nil hne
  obtain ⟨d, hd, hof⟩ := h.slots history.length hpos (Nat.le_refl _) fun m' hlt hle => by omega
  exact ⟨d, by rw [List.getLast?_eq_getElem?, hd], h.number ▸ hof⟩

/-- A destination that is current already is no change, for the code and for the witness. -/
theorem Routes.same_iff {log : Log} {history : List Destination} (h : Routes log history)
    (path : LogPath) (userToken : Option Token) :
    (log.currentRouteGen ≠ 0 ∧ (log.routes (slotIndex log.currentRouteGen)).valid = true ∧
      (log.routes (slotIndex log.currentRouteGen)).generation = log.currentRouteGen ∧
      userToken = none ∧
      (!(log.routes (slotIndex log.currentRouteGen)).userDestination) = true ∧
      sameText (log.routes (slotIndex log.currentRouteGen)).path path.text.bytes = true) ↔
    (userToken = none ∧ history.getLast? = some (destinationOf path none)) := by
  rcases eq_or_ne history [] with rfl | hne
  · have hzero : log.currentRouteGen = 0 := h.number
    simp [hzero]
  · obtain ⟨d, hd, hof⟩ := h.current hne
    have hnumber : log.currentRouteGen ≠ 0 :=
      h.number ▸ numberOf_ne_zero (List.length_pos_of_ne_nil hne)
    have hgeneration := hof.generation.trans h.number.symm
    have hsame : sameText (log.routes (slotIndex log.currentRouteGen)).path path.text.bytes = true ↔
        d.path = path.text.bytes.map Payload.asciiLower := by
      rw [sameText, beq_iff_eq, hof.path]
    have hdest : d = destinationOf path none ↔
        d.path = path.text.bytes.map Payload.asciiLower ∧ d.user = none := by
      rw [Destination.mk.injEq]
      rfl
    rw [hd, Option.some.injEq, hdest, hsame, hof.user]
    simp only [hnumber, hof.valid, hgeneration, ne_eq, not_false_eq_true, true_and,
      Bool.not_eq_true', Option.isSome_eq_false_iff, Option.isNone_iff_eq_none]
    tauto

/-- A call that sets the route. -/
theorem Routes.setRoutePath {log : Log} {history : List Destination} (h : Routes log history)
    (path : LogPath) (userToken : Option Token) (copied : Bool) :
    Routes (debugLogSetRoutePath log path userToken copied)
      (history ++ routeChange history path userToken) := by
  rw [debugLogSetRoutePath, routeChange]
  by_cases hpath : path.text.bytes = []
  · rw [if_pos hpath, if_pos hpath, List.append_nil]
    exact h
  rw [if_neg hpath, if_neg hpath]
  dsimp only
  by_cases hsame : userToken = none ∧ history.getLast? = some (destinationOf path none)
  · rw [if_pos ((h.same_iff path userToken).mpr hsame), if_pos hsame, List.append_nil]
    exact h
  · rw [if_neg (mt (h.same_iff path userToken).mp hsame), if_neg hsame, h.number, ← numberOf_succ]
    refine h.advance
      { valid := rfl, generation := rfl, ne_nil := hpath, path := rfl, user := rfl, token := ?_ }
    cases copied
    · exact Or.inl rfl
    · exact Or.inr rfl

theorem effectiveDebugLogPath_ne_nil (configured : LogPath) :
    (effectiveDebugLogPath configured).text.bytes ≠ [] := by
  rw [effectiveDebugLogPath]
  split_ifs with h
  · exact List.cons_ne_nil _ _
  · exact h

theorem numberOf_one : numberOf 1 = 1 := rfl

/-- The first line sets a route. -/
theorem Routes.initializeRoute {log : Log} {history : List Destination} (h : Routes log history)
    (configured : LogPath) :
    Routes (debugLogInitializeRoute log configured) (withRoute history configured) := by
  rw [debugLogInitializeRoute, withRoute]
  rcases eq_or_ne history [] with rfl | hne
  · have hpath := effectiveDebugLogPath_ne_nil configured
    have hnumber : log.currentRouteGen = 0 := h.number
    rw [if_pos hnumber, if_pos rfl]
    dsimp only
    rw [if_pos hpath, h.blank rfl]
    have hslot : DebugLogRouteSlot.Of
        ⟨1, true, (effectiveDebugLogPath configured).text.bytes, none, false⟩ 1
        (destinationOf (effectiveDebugLogPath configured) none) :=
      { valid := rfl, generation := rfl, ne_nil := hpath, path := rfl, user := rfl,
        token := Or.inl rfl }
    exact h.advance hslot
  · have hnumber : log.currentRouteGen ≠ 0 :=
      h.number ▸ numberOf_ne_zero (List.length_pos_of_ne_nil hne)
    rw [if_neg hnumber, if_neg hne]
    exact h

/-- The last change that was given the slot of a change. -/
theorem exists_last_in_slot {k n : Nat} (hle : k ≤ n) :
    ∃ m, k ≤ m ∧ m ≤ n ∧ slotIndex (numberOf m) = slotIndex (numberOf k) ∧
      ∀ m', m < m' → m' ≤ n → slotIndex (numberOf m') ≠ slotIndex (numberOf m) := by
  let P m := slotIndex (numberOf m) = slotIndex (numberOf k)
  have hspec : P (Nat.findGreatest P n) := Nat.findGreatest_spec hle rfl
  refine ⟨Nat.findGreatest P n, Nat.le_findGreatest hle rfl, Nat.findGreatest_le n, hspec, ?_⟩
  intro m' hlt hle' heq
  exact Nat.findGreatest_is_greatest hlt hle' (heq.trans hspec)

/-! ## What the writer is told -/

/-- The slot of a number has it. -/
def Log.has (log : Log) (generation : UInt16) : Bool :=
  decide (generation ≠ 0) && (log.routes (slotIndex generation)).valid &&
    (log.routes (slotIndex generation)).generation == generation

/-- What the writer gets of a slot, and whether a line is counted as dropped there. -/
def DebugLogRouteSlot.handOver (slot : DebugLogRouteSlot) (answers : TokenAnswers) :
    Bool × GcDebugLogRoute :=
  if !slot.valid then (false, .reset)
  else if !slot.userDestination then (false, ⟨slot.path, none, slot.generation, none, false⟩)
  else if slot.userToken.isNone || !answers.duplicated then
    (true, ⟨[], none, slot.generation, none, true⟩)
  else if !answers.queried then (true, ⟨[], slot.userToken, slot.generation, none, true⟩)
  else (false, ⟨slot.path, slot.userToken, slot.generation, slot.userToken, true⟩)

/-- **A capture in parts**: one slot is handed over, and no more than two counts change. -/
theorem capture_eq (log : Log) (generation : UInt16) (answers : TokenAnswers) :
    debugLogCaptureRoute log generation answers =
      let slot := log.routes
        (slotIndex (if log.has generation then generation else log.currentRouteGen))
      let rerouted := !log.has generation && generation != 0 && generation != log.currentRouteGen
      ({ log with
          dropped := log.dropped + (slot.handOver answers).1.toNat
          rerouted := log.rerouted + rerouted.toNat },
        (slot.handOver answers).2) := by
  have hslot : (if log.has generation then log.routes (slotIndex generation)
        else log.routes (slotIndex log.currentRouteGen)) =
      log.routes (slotIndex (if log.has generation then generation else log.currentRouteGen)) := by
    split_ifs <;> rfl
  have hlog : (if !log.has generation ∧ generation ≠ 0 ∧ generation ≠ log.currentRouteGen then
        { log with rerouted := log.rerouted + 1 } else log) =
      { log with rerouted := log.rerouted + (!log.has generation && generation != 0 &&
          generation != log.currentRouteGen).toNat } := by
    split_ifs with h
    · have htrue : (!log.has generation && generation != 0 &&
          generation != log.currentRouteGen) = true := by
        simpa [and_assoc] using h
      rw [htrue]
      rfl
    · have hfalse : (!log.has generation && generation != 0 &&
          generation != log.currentRouteGen) = false := by
        simpa [and_assoc] using h
      rw [hfalse]
      rfl
  unfold debugLogCaptureRoute
  simp only [← Log.has.eq_1]
  rw [hslot, hlog]
  generalize log.routes _ = slot
  obtain ⟨duplicated, queried⟩ := answers
  obtain ⟨number, valid, path, userToken, userDestination⟩ := slot
  cases valid
  · rfl
  cases userDestination
  · rfl
  cases userToken
  · rfl
  cases duplicated
  · rfl
  cases queried <;> rfl

/-- The slot of a destination gives it, or is refused a copy of its token. -/
theorem DebugLogRouteSlot.Of.handOver {slot : DebugLogRouteSlot} {change : Nat} {d : Destination}
    (h : slot.Of change d) (answers : TokenAnswers) :
    (slot.handOver answers).1 = false ∧ (slot.handOver answers).2.destination = some d ∨
      (slot.handOver answers).1 = true ∧ (slot.handOver answers).2.path = [] ∧
        (slot.userDestination = true ∧ slot.userToken = none ∨
          (answers.duplicated && answers.queried) = false) := by
  obtain ⟨file, user⟩ := d
  obtain ⟨duplicated, queried⟩ := answers
  obtain ⟨number, valid, path, userToken, userDestination⟩ := slot
  have hvalid : valid = true := h.valid
  have hpath : path ≠ [] := h.ne_nil
  have hfile : file = path.map Payload.asciiLower := h.path
  have huser : userDestination = user.isSome := h.user
  have htoken : userToken = none ∨ userToken = user := h.token
  subst hvalid hfile huser
  cases user with
  | none =>
    refine Or.inl ⟨rfl, ?_⟩
    exact if_neg hpath
  | some session =>
    rcases htoken with rfl | rfl
    · exact Or.inr ⟨rfl, rfl, Or.inl ⟨rfl, rfl⟩⟩
    · cases duplicated
      · exact Or.inr ⟨rfl, rfl, Or.inr rfl⟩
      cases queried
      · exact Or.inr ⟨rfl, rfl, Or.inr rfl⟩
      · refine Or.inl ⟨rfl, ?_⟩
        exact if_neg hpath

/-- Every slot with a user's destination has a copy of the token. -/
def Log.Copied (log : Log) : Prop :=
  ∀ j, (log.routes j).userDestination = true → (log.routes j).userToken ≠ none

/-- **Where a line goes**: to the destination of its change or, counted, somewhere else.  Its
number must not have been given to its slot again. -/
theorem Routes.capture {log : Log} {history : List Destination} (h : Routes log history) {k : Nat}
    (hk : 1 ≤ k) (hle : k ≤ history.length)
    (honce : history.length < k + 65535 ∨
      (log.routes (slotIndex (numberOf k))).generation ≠ numberOf k) (answers : TokenAnswers) :
    (debugLogCaptureRoute log (numberOf k) answers).2.destination = history[k - 1]? ∨
      (debugLogCaptureRoute log (numberOf k) answers).1.rerouted = log.rerouted + 1 ∨
      (debugLogCaptureRoute log (numberOf k) answers).1.dropped = log.dropped + 1 ∧
        (debugLogCaptureRoute log (numberOf k) answers).2.path = [] ∧
        (log.Copied → (answers.duplicated && answers.queried) = false) := by
  have hzero := numberOf_ne_zero hk
  obtain ⟨m, hkm, hm, hslot, hlast⟩ := exists_last_in_slot hle
  obtain ⟨d, hd, hof⟩ := h.slots m (by omega) hm hlast
  rw [hslot] at hof
  rw [capture_eq]
  dsimp only
  by_cases hgeneration : (log.routes (slotIndex (numberOf k))).generation = numberOf k
  · -- the slot has the number: it is still the one of the line's own change
    have hnear := honce.resolve_right fun hne => hne hgeneration
    obtain rfl : m = k :=
      numberOf_inj (by omega) hk hkm (by omega) (hof.generation.symm.trans hgeneration)
    have hhas : log.has (numberOf m) = true := by
      simp [Log.has, hzero, hof.valid, hgeneration]
    rw [hhas, if_pos rfl]
    rcases hof.handOver answers with ⟨-, hroute⟩ | ⟨hdropped, hpath, hrefused⟩
    · exact Or.inl (hroute.trans hd.symm)
    · refine Or.inr (Or.inr ⟨by rw [hdropped]; rfl, hpath, fun hcopied => ?_⟩)
      exact hrefused.resolve_left fun hnone => hcopied _ hnone.1 hnone.2
  · -- another change has the slot: the line is counted as rerouted
    have hhas : log.has (numberOf k) = false := by
      simp [Log.has, hgeneration]
    have hcurrent : numberOf k ≠ log.currentRouteGen := by
      intro heq
      obtain ⟨e, -, hcurrent⟩ := h.current (List.length_pos_iff.mp (by omega))
      rw [← heq] at hcurrent
      exact hgeneration (hcurrent.generation.trans (h.number.symm.trans heq.symm))
    refine Or.inr (Or.inl ?_)
    simp [hhas, hzero, hcurrent]

end GreenCurve.DebugLog
