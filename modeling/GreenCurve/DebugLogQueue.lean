import GreenCurve.ByteMemory
import GreenCurve.PayloadName
import Mathlib.Logic.Function.Basic

/-! # The debug log queue

A thread that logs a line only copies it into a ring of bytes; one writer takes the lines out
again and writes them to the file of the session they were logged for.  A record is a header
of four bytes, the length and the number of the route, and the line.  The route is looked up
by its number in a table of eight slots, which are used again and again. -/

namespace GreenCurve.DebugLog

open ByteMemory

/-! ## Framing -/

abbrev kRingBytes : Nat := 524288
abbrev kMaxRecordBytes : Nat := 1200
abbrev kHeaderBytes : Nat := 4
abbrev kMaxRouteSlots : Nat := 8

/-- `pack_header`. -/
def packHeader (payloadBytes routeGen : Nat) : Nat :=
  (payloadBytes &&& 0xFFFF) ||| ((routeGen &&& 0xFFFF) <<< 16)

/-- `unpack_payload_bytes`. -/
def unpackPayloadBytes (header : Nat) : Nat := header &&& 0xFFFF

/-- `unpack_route_generation`. -/
def unpackRouteGeneration (header : Nat) : Nat := (header >>> 16) &&& 0xFFFF

/-- A header in memory. -/
def headerBytes (header : Nat) : List UInt8 :=
  [header.toUInt8, (header >>> 8).toUInt8, (header >>> 16).toUInt8, (header >>> 24).toUInt8]

/-- A header read from memory. -/
def headerOf (bytes : List UInt8) : Nat :=
  bytes.foldr (fun b header => b.toNat + 256 * header) 0

/-- `used_bytes`. -/
def usedBytes (head tail : Nat) : Nat := if head ≥ tail then head - tail else 0

/-- `free_bytes`. -/
def freeBytes (head tail capacityBytes : Nat) : Nat :=
  let used := usedBytes head tail
  if used ≥ capacityBytes then 0 else capacityBytes - used

/-- `record_bytes`. -/
def recordBytes (payloadBytes : Nat) : Nat := payloadBytes + kHeaderBytes

/-- `fits`. -/
def fits (head tail capacityBytes payloadBytes : Nat) : Bool :=
  if payloadBytes = 0 ∨ payloadBytes > kMaxRecordBytes then false
  else if capacityBytes < recordBytes kMaxRecordBytes then false
  else decide (freeBytes head tail capacityBytes ≥ recordBytes payloadBytes)

/-- `offset_of`. -/
def offsetOf (position capacityBytes : Nat) : Nat :=
  if capacityBytes = 0 then 0 else position % capacityBytes

/-- `first_span`. -/
def firstSpan (offset capacityBytes bytes : Nat) : Nat :=
  if capacityBytes = 0 ∨ offset ≥ capacityBytes then 0
  else
    let untilEnd := capacityBytes - offset
    if bytes < untilEnd then bytes else untilEnd

/-- `record_length_is_valid`. -/
def recordLengthIsValid (payloadBytes head tail : Nat) : Bool :=
  if payloadBytes = 0 ∨ payloadBytes > kMaxRecordBytes then false
  else decide (usedBytes head tail ≥ recordBytes payloadBytes)

/-- `debug_log_ring_copy_in`. -/
def debugLogRingCopyIn (ring : List UInt8) (position : Nat) (data : List UInt8) : List UInt8 :=
  let offset := offsetOf position kRingBytes
  let span := firstSpan offset kRingBytes data.length
  let ring := overwrite ring offset (data.take span)
  if span < data.length then overwrite ring 0 (data.drop span) else ring

/-- `debug_log_ring_copy_out`. -/
def debugLogRingCopyOut (ring : List UInt8) (position bytes : Nat) : List UInt8 :=
  let offset := offsetOf position kRingBytes
  let span := firstSpan offset kRingBytes bytes
  (ring.drop offset).take span ++ if span < bytes then ring.take (bytes - span) else []

/-! ## Routes -/

abbrev MAX_PATH : Nat := 260

/-- A path in a buffer of `MAX_PATH` bytes. -/
structure LogPath where
  text : CString
  bounded : text.bytes.length < MAX_PATH

/-- The session that a token stands for. -/
abbrev Token := Nat

/-- `DebugLogRouteSlot`. -/
structure DebugLogRouteSlot where
  generation : UInt16
  valid : Bool
  path : List UInt8
  userToken : Option Token
  userDestination : Bool
  deriving DecidableEq

def DebugLogRouteSlot.blank : DebugLogRouteSlot := ⟨0, false, [], none, false⟩

/-- `GcDebugLogRoute`. -/
structure GcDebugLogRoute where
  path : List UInt8
  userToken : Option Token
  generation : UInt16
  tokenId : Option Token
  userDestination : Bool
  deriving DecidableEq

def GcDebugLogRoute.reset : GcDebugLogRoute := ⟨[], none, 0, none, false⟩

/-- The ring, its counters and the table of routes. -/
structure Log where
  ring : List UInt8
  head : Nat
  tail : Nat
  dropped : Nat
  rerouted : Nat
  currentRouteGen : UInt16
  routes : Fin kMaxRouteSlots → DebugLogRouteSlot

/-- The log of a process that begins. -/
def Log.empty : Log :=
  { ring := List.replicate kRingBytes 0, head := 0, tail := 0, dropped := 0, rerouted := 0,
    currentRouteGen := 0, routes := fun _ => .blank }

/-- `generation % kMaxRouteSlots`. -/
def slotIndex (generation : UInt16) : Fin kMaxRouteSlots :=
  ⟨generation.toNat % kMaxRouteSlots, Nat.mod_lt _ (by decide)⟩

/-- `_stricmp` finds no difference. -/
def sameText (a b : List UInt8) : Bool := a.map Payload.asciiLower == b.map Payload.asciiLower

/-- The number of the next route; zero is none. -/
def nextGeneration (generation : UInt16) : UInt16 :=
  if generation + 1 = 0 then 1 else generation + 1

/-- `debug_log_set_route_path`: `userToken` is the session of the token that was given, and
`copied` whether `gc_debug_log_user_token` gave a copy of it. -/
def debugLogSetRoutePath (log : Log) (path : LogPath) (userToken : Option Token) (copied : Bool) :
    Log :=
  if path.text.bytes = [] then log
  else
    let tokenCopy := if copied then userToken else none
    let slot := log.routes (slotIndex log.currentRouteGen)
    if log.currentRouteGen ≠ 0 ∧ slot.valid ∧ slot.generation = log.currentRouteGen ∧
        userToken = none ∧ !slot.userDestination ∧ sameText slot.path path.text.bytes then log
    else
      let generation := nextGeneration log.currentRouteGen
      { log with
        currentRouteGen := generation
        routes := Function.update log.routes (slotIndex generation)
          { generation := generation, valid := true, path := path.text.bytes,
            userToken := tokenCopy, userDestination := userToken.isSome } }

/-- `APP_DEBUG_LOG_FILE`. -/
def APP_DEBUG_LOG_FILE : LogPath :=
  ⟨⟨ascii "greencurve_debug.txt", by decide +kernel⟩, by decide +kernel⟩

/-- `effective_debug_log_path`: the path that is configured, or a last resort. -/
def effectiveDebugLogPath (configured : LogPath) : LogPath :=
  if configured.text.bytes = [] then APP_DEBUG_LOG_FILE else configured

/-- `debug_log_initialize_route_locked`. -/
def debugLogInitializeRoute (log : Log) (configured : LogPath) : Log :=
  if log.currentRouteGen = 0 then
    let initPath := effectiveDebugLogPath configured
    if initPath.text.bytes ≠ [] then
      { log with
        currentRouteGen := 1
        routes := Function.update log.routes (slotIndex 1)
          { log.routes (slotIndex 1) with
            generation := 1, valid := true, path := initPath.text.bytes } }
    else log
  else log

/-- What the system answers when a token is copied for the writer. -/
structure TokenAnswers where
  duplicated : Bool
  queried : Bool

/-- `debug_log_capture_route_locked`. -/
def debugLogCaptureRoute (log : Log) (generation : UInt16) (answers : TokenAnswers) :
    Log × GcDebugLogRoute :=
  let addressed := log.routes (slotIndex generation)
  let found := decide (generation ≠ 0) && addressed.valid && addressed.generation == generation
  let slot := if found then addressed else log.routes (slotIndex log.currentRouteGen)
  let log :=
    if !found ∧ generation ≠ 0 ∧ generation ≠ log.currentRouteGen then
      { log with rerouted := log.rerouted + 1 }
    else log
  let out := GcDebugLogRoute.reset
  if !slot.valid then (log, out)
  else
    let out := { out with userDestination := slot.userDestination, generation := slot.generation }
    if slot.userDestination && (slot.userToken.isNone || !answers.duplicated) then
      ({ log with dropped := log.dropped + 1 }, out)
    else
      let out := if slot.userDestination then { out with userToken := slot.userToken } else out
      if slot.userDestination && !answers.queried then
        ({ log with dropped := log.dropped + 1 }, out)
      else
        let out := if slot.userDestination then { out with tokenId := slot.userToken } else out
        (log, { out with path := slot.path })

/-! ## The two sides -/

/-- A counter of 64 bits. -/
def size64 (n : Nat) : Nat := n % 2 ^ 64

/-- `debug_log_enqueue`, once the writer runs: the log and whether the line was committed. -/
def debugLogEnqueue (log : Log) (line : CString) (configured : LogPath) : Log × Bool :=
  if line.bytes = [] then (log, false)
  else
    let length := if line.bytes.length > kMaxRecordBytes then kMaxRecordBytes else line.bytes.length
    let log := debugLogInitializeRoute log configured
    if fits log.head log.tail kRingBytes length then
      let header := packHeader length log.currentRouteGen.toNat
      let ring := debugLogRingCopyIn log.ring log.head (headerBytes header)
      let ring :=
        debugLogRingCopyIn ring (size64 (log.head + kHeaderBytes)) (line.bytes.take length)
      ({ log with ring := ring, head := size64 (log.head + recordBytes length) }, true)
    else ({ log with dropped := log.dropped + 1 }, false)

/-- What a call of `debug_log_dequeue` finds. -/
inductive Dequeued
  | empty
  | discarded
  | record (line : List UInt8) (route : GcDebugLogRoute)

/-- `debug_log_dequeue`. -/
def debugLogDequeue (log : Log) (outSize : Nat) (answers : TokenAnswers) : Log × Dequeued :=
  if outSize = 0 then (log, .empty)
  else if usedBytes log.head log.tail > kHeaderBytes then
    let header := headerOf (debugLogRingCopyOut log.ring log.tail kHeaderBytes)
    let payloadBytes := unpackPayloadBytes header
    let routeGen := unpackRouteGeneration header
    if recordLengthIsValid payloadBytes log.head log.tail then
      let copyBytes := if payloadBytes < outSize then payloadBytes else outSize - 1
      let line := debugLogRingCopyOut log.ring (size64 (log.tail + kHeaderBytes)) copyBytes
      let (log, route) := debugLogCaptureRoute log routeGen.toUInt16 answers
      ({ log with tail := size64 (log.tail + recordBytes payloadBytes) }, .record line route)
    else ({ log with tail := log.head, dropped := log.dropped + 1 }, .discarded)
  else (log, .empty)

/-! ## Runs -/

/-- A destination: a file, whatever the case of its name, and the session it belongs to. -/
structure Destination where
  path : List UInt8
  user : Option Token
  deriving DecidableEq

def destinationOf (path : LogPath) (user : Option Token) : Destination :=
  ⟨path.text.bytes.map Payload.asciiLower, user⟩

/-- The destination that the writer is given. -/
def GcDebugLogRoute.destination (route : GcDebugLogRoute) : Option Destination :=
  if route.path = [] then none else some ⟨route.path.map Payload.asciiLower, route.userToken⟩

/-- What the threads do, in the order in which they take the lock; the writer reports the
counts and takes them back to zero. -/
inductive Event
  | setRoute (path : LogPath) (userToken : Option Token) (copied : Bool)
  | enqueue (line : CString) (configured : LogPath)
  | dequeue (outSize : Nat) (answers : TokenAnswers)
  | report

/-- A line that was accepted, whole: the destination that was current then, and how many route
changes there had been. -/
structure Accepted where
  line : List UInt8
  destination : Option Destination
  changes : Nat
  deriving DecidableEq

/-- A line that the writer got, and what was counted with it. -/
structure Delivery where
  line : List UInt8
  route : GcDebugLogRoute
  rerouted : Bool
  dropped : Bool

/-- A run: the log, and what a witness of all calls writes down.  `history` holds the
destinations that were current, one for each route change, and `refusals` counts the calls in
which the system gave no copy of a token. -/
structure Run where
  log : Log
  history : List Destination
  offered : Nat
  accepted : List Accepted
  deliveries : List Delivery
  discards : Nat
  reported : Nat
  refusals : Nat

def Run.start : Run :=
  { log := .empty, history := [], offered := 0, accepted := [], deliveries := [], discards := 0,
    reported := 0, refusals := 0 }

/-- The route changes of one call: none where the path is empty or current already. -/
def routeChange (history : List Destination) (path : LogPath) (userToken : Option Token) :
    List Destination :=
  if path.text.bytes = [] then []
  else if userToken = none ∧ history.getLast? = some (destinationOf path none) then []
  else [destinationOf path userToken]

/-- The first line finds a route. -/
def withRoute (history : List Destination) (configured : LogPath) : List Destination :=
  if history = [] then [destinationOf (effectiveDebugLogPath configured) none] else history

/-- One call. -/
def Run.next (r : Run) : Event → Run
  | .setRoute path userToken copied =>
      { r with
        log := debugLogSetRoutePath r.log path userToken copied
        history := r.history ++ routeChange r.history path userToken
        refusals := r.refusals + if copied || userToken.isNone then 0 else 1 }
  | .enqueue line configured =>
      if line.bytes = [] then r
      else
        let history := withRoute r.history configured
        let (log, committed) := debugLogEnqueue r.log line configured
        { r with
          log := log
          history := history
          offered := r.offered + 1
          accepted := r.accepted ++
            if committed then
              [⟨line.bytes, history.getLast?, history.length⟩]
            else [] }
  | .dequeue outSize answers =>
      match debugLogDequeue r.log outSize answers with
      | (log, .empty) => { r with log := log }
      | (log, .discarded) => { r with log := log, discards := r.discards + 1 }
      | (log, .record line route) =>
          { r with
            log := log
            deliveries := r.deliveries ++
              [⟨line, route, decide (r.log.rerouted < log.rerouted),
                decide (r.log.dropped < log.dropped)⟩]
            refusals := r.refusals + if answers.duplicated && answers.queried then 0 else 1 }
  | .report =>
      { r with
        log := { r.log with dropped := 0, rerouted := 0 }
        reported := r.reported + r.log.dropped }

end GreenCurve.DebugLog
