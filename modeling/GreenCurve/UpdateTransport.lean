import GreenCurve.CString
import GreenCurve.ByteMemory
import Mathlib.Tactic.Common

/-! # Fetching an update

The updater's way to the network: a URL grammar with an allowlist of hosts, a chain of
redirects that is followed by hand, one checked hop at a time, and two loops that read the
response, one into a buffer and one through a scratch buffer into a file.  What the network
does is a sequence of answers that nothing is known about. -/

namespace GreenCurve.Transport

/-! ## URLs -/

abbrev GC_UPDATE_URL_MAX_CHARS : Nat := 4096
abbrev GC_UPDATE_HOST_MAX_CHARS : Nat := 128
abbrev GC_UPDATE_MAX_REDIRECTS : Nat := 5

/-- `https://`. -/
def scheme : List UInt8 := [0x68, 0x74, 0x74, 0x70, 0x73, 0x3A, 0x2F, 0x2F]

/-- `/`, `?` or `#`: the authority of a URL ends here. -/
def endsAuthority (c : UInt8) : Bool := c == 0x2F || c == 0x3F || c == 0x23

/-- `@`, `:`, `[` or `]`. -/
def refusedInAuthority (c : UInt8) : Bool := c == 0x40 || c == 0x3A || c == 0x5B || c == 0x5D

/-- The characters of a host: `a`–`z`, `0`–`9`, `.` and `-`. -/
def hostChar (c : UInt8) : Bool :=
  (c ≥ 0x61 && c ≤ 0x7A) || (c ≥ 0x30 && c ≤ 0x39) || c == 0x2E || c == 0x2D

/-- `.` or `-`. -/
def dotOrDash (c : UInt8) : Bool := c == 0x2E || c == 0x2D

/-- `GcUpdateUrl`, where it is valid. -/
structure GcUpdateUrl where
  host : List UInt8
  path : List UInt8
  deriving DecidableEq

/-- The loop that copies the path. -/
def copyPath : List UInt8 → List UInt8 → Option (List UInt8)
  | [], path => some path
  | c :: url, path =>
      if c < 0x20 ∨ c = 0x7F ∨ c = 0x20 then none
      else if c = 0x23 then none
      else if path.length + 1 ≥ GC_UPDATE_URL_MAX_CHARS then none
      else copyPath url (path ++ [c])

/-- `gc_update_url_parse`. -/
def gcUpdateUrlParse (url : CString) : Option GcUpdateUrl :=
  if !scheme.isPrefixOf url.bytes then none
  else
    let host := (url.bytes.drop scheme.length).takeWhile (!endsAuthority ·)
    let rest := (url.bytes.drop scheme.length).dropWhile (!endsAuthority ·)
    if host.length = 0 then none
    else if host.any refusedInAuthority then none
    else if host.length ≥ GC_UPDATE_HOST_MAX_CHARS then none
    else if !host.all hostChar then none
    else if host.head?.any dotOrDash then none
    else if host.getLast?.any dotOrDash then none
    else match rest with
      | [] => some ⟨host, [0x2F]⟩
      | c :: _ =>
          if c = 0x23 then none
          else if c ≠ 0x2F then none
          else (copyPath rest []).map (GcUpdateUrl.mk host)

/-- The hosts of the updater. -/
def allowedHosts : List (List UInt8) :=
  ["github.com", "objects.githubusercontent.com", "release-assets.githubusercontent.com"].map ascii

/-- `gc_update_host_is_allowed`. -/
def gcUpdateHostIsAllowed (host : List UInt8) : Bool :=
  if host = [] then false else allowedHosts.contains host

/-- `gc_update_url_is_acceptable`. -/
def gcUpdateUrlIsAcceptable (url : CString) : Bool :=
  match gcUpdateUrlParse url with
  | none => false
  | some parsed => gcUpdateHostIsAllowed parsed.host

/-- `gc_update_redirect_is_acceptable`. -/
def gcUpdateRedirectIsAcceptable (targetUrl : CString) (hopsAlreadyFollowed : Int) : Bool :=
  if hopsAlreadyFollowed < 0 then false
  else if hopsAlreadyFollowed ≥ GC_UPDATE_MAX_REDIRECTS then false
  else gcUpdateUrlIsAcceptable targetUrl

/-! ## Opening -/

abbrev INTERNET_DEFAULT_HTTPS_PORT : Nat := 443

/-- A request as it is sent: the connection it goes over and what it asks for. -/
structure Request where
  host : List UInt8
  port : Nat
  secure : Bool
  path : List UInt8
  deriving DecidableEq

/-- A request that was sent, and the URL it was made from. -/
structure Sent where
  current : CString
  request : Request
  deriving DecidableEq

/-- What the network answers to one hop: whether each call succeeds, the status, and the
`Location` header as it was converted. -/
structure HopAnswer where
  encoded : Bool
  connected : Bool
  requestOpened : Bool
  featuresDisabled : Bool
  requestSent : Bool
  responseReceived : Bool
  status : Option UInt32
  location : Option CString

/-- The network: whether the session can be set up, and its answers to the hops. -/
structure Network where
  sessionOpened : Bool
  timeoutsSet : Bool
  protocolsSet : Bool
  hop : Nat → HopAnswer

/-- The sentences of `gc_update_http_open`. -/
inductive OpenError
  | urlTooLong | urlNotAllowed | noSession | noTimeouts | noTlsPolicy | refusedUrl | notEncoded
  | notConnected | notBuilt | noRequestPolicy | requestFailed | noStatus | noLocation
  | refusedRedirect | rateLimited | notFound | unexpectedStatus | tooManyRedirects
  deriving DecidableEq

/-- `gc_update_http_read_location`: a header that does not fit is refused. -/
def gcUpdateHttpReadLocation (location : Option CString) (outSize : Nat) : Option CString :=
  location.filter fun text => text.bytes.length + 1 ≤ outSize

def isRedirect (status : UInt32) : Bool :=
  status == 301 || status == 302 || status == 303 || status == 307 || status == 308

/-- The calls of a hop before the request is sent. -/
def prepareHop (answer : HopAnswer) : Except OpenError Unit :=
  if !answer.encoded then throw .notEncoded
  else if !answer.connected then throw .notConnected
  else if !answer.requestOpened then throw .notBuilt
  else if !answer.featuresDisabled then throw .noRequestPolicy
  else pure ()

/-- What follows from the response: the request is open, or goes on at a location. -/
def readHop (answer : HopAnswer) (hop : Nat) : Except OpenError (Option CString) :=
  if !answer.requestSent || !answer.responseReceived then throw .requestFailed
  else match answer.status with
    | none => throw .noStatus
    | some status =>
        if status = 200 then pure none
        else if isRedirect status then
          match gcUpdateHttpReadLocation answer.location GC_UPDATE_URL_MAX_CHARS with
          | none => throw .noLocation
          | some location =>
              if !gcUpdateRedirectIsAcceptable location hop then throw .refusedRedirect
              else pure (some location)
        else if status = 403 ∨ status = 429 then throw .rateLimited
        else if status = 404 then throw .notFound
        else throw .unexpectedStatus

/-- The loop over the hops, `remaining` of them; `sent` is what was sent. -/
def followHops (network : Network) :
    Nat → Nat → CString → List Sent → Except OpenError Unit × List Sent
  | 0, _, _, sent => (.error .tooManyRedirects, sent)
  | remaining + 1, hop, current, sent =>
      match gcUpdateUrlParse current with
      | none => (.error .refusedUrl, sent)
      | some parsed =>
          if !gcUpdateHostIsAllowed parsed.host then (.error .refusedUrl, sent)
          else match prepareHop (network.hop hop) with
            | .error e => (.error e, sent)
            | .ok () =>
                let request : Request :=
                  { host := parsed.host, port := INTERNET_DEFAULT_HTTPS_PORT, secure := true,
                    path := parsed.path }
                let sent := sent ++ [{ current := current, request := request }]
                match readHop (network.hop hop) hop with
                | .error e => (.error e, sent)
                | .ok none => (.ok (), sent)
                | .ok (some location) => followHops network remaining (hop + 1) location sent

/-- `gc_update_http_open`, with the requests it sent. -/
def gcUpdateHttpOpen (network : Network) (url : CString) : Except OpenError Unit × List Sent :=
  if url.bytes.length + 1 > GC_UPDATE_URL_MAX_CHARS then (.error .urlTooLong, [])
  else if !gcUpdateUrlIsAcceptable url then (.error .urlNotAllowed, [])
  else if !network.sessionOpened then (.error .noSession, [])
  else if !network.timeoutsSet then (.error .noTimeouts, [])
  else if !network.protocolsSet then (.error .noTlsPolicy, [])
  else followHops network (GC_UPDATE_MAX_REDIRECTS + 1) 0 url []

/-! ## Reading -/

/-- `GcUpdateFetchResult`. -/
inductive GcUpdateFetchResult
  | ok | queryFailed | readFailed | tooLarge | empty | writeFailed | sizeMismatch
  | badExpectedSize | badArguments
  deriving DecidableEq

/-- `GcUpdateReader`: the answers to the calls, round by round, `none` for a failure.  A count
has 32 bits, and a read returns no more than was asked. -/
structure GcUpdateReader where
  available : Nat → Option UInt32
  read : Nat → Nat → Option (List UInt8)
  read_le : ∀ round want got, read round want = some got → got.length ≤ want

/-- `GcUpdateSink`: whether a write succeeds. -/
structure GcUpdateSink where
  write : Nat → List UInt8 → Bool

/-- A call that a loop makes, with its answer; a read is into the buffer at an offset, and a
terminator is stored at one. -/
inductive Event
  | terminator (offset : Nat)
  | available (answer : Option UInt32)
  | read (offset want : Nat) (answer : Option (List UInt8))
  | write (bytes : List UInt8) (accepted : Bool)
  deriving DecidableEq

/-- A buffer in memory.  No object takes half of the address space. -/
structure Buffer where
  bytes : List UInt8
  bounded : bytes.length < 2 ^ 63

/-- The document that is being read: there is room for a terminator behind what was read. -/
structure Document (outSize : Nat) where
  memory : List UInt8
  total : Nat
  events : List Event
  length_memory : memory.length = outSize
  room : total < outSize

def Document.log {outSize : Nat} (d : Document outSize) (event : Event) : Document outSize :=
  { d with events := d.events ++ [event] }

/-- The sum of the check, in 64 bits. -/
def size64 (n : Nat) : Nat := n % 2 ^ 64

theorem size64_eq {n : Nat} (h : n < 2 ^ 64) : size64 n = n := Nat.mod_eq_of_lt h

/-- A read that fits leaves room for the terminator. -/
theorem fits_of_size64 {total outSize : Nat} {available : UInt32} (hsize : outSize < 2 ^ 63)
    (hroom : total < outSize) (h : ¬size64 (total + available.toNat + 1) > outSize) :
    total + available.toNat < outSize := by
  have havailable := available.toNat_lt
  rw [size64_eq (by omega)] at h
  omega

/-- The loop of `gc_update_read_document`; `none` where it is left by `break`. -/
def documentLoop (reader : GcUpdateReader) {outSize : Nat} (hsize : outSize < 2 ^ 63) (round : Nat)
    (d : Document outSize) : Option GcUpdateFetchResult × Document outSize :=
  match reader.available round with
  | none => (some .queryFailed, d.log (.available none))
  | some available =>
      let asked := d.log (.available (some available))
      if available = 0 then (none, asked)
      else if hfits : size64 (d.total + available.toNat + 1) > outSize then (some .tooLarge, asked)
      else
        match hread : reader.read round available.toNat with
        | none => (some .readFailed, asked.log (.read d.total available.toNat none))
        | some got =>
            let event := .read d.total available.toNat (some got)
            if hgot : got.length = 0 then (some .readFailed, asked.log event)
            else
              have hle := reader.read_le round available.toNat got hread
              have hroom := fits_of_size64 hsize d.room hfits
              documentLoop reader hsize (round + 1)
                { memory := ByteMemory.overwrite d.memory d.total got
                  total := d.total + got.length
                  events := asked.events ++ [event]
                  length_memory := by
                    rw [ByteMemory.length_overwrite (by rw [d.length_memory]; omega),
                      d.length_memory]
                  room := by omega }
  termination_by outSize - d.total

/-- What `gc_update_read_document` leaves. -/
structure DocumentRun where
  result : GcUpdateFetchResult
  memory : List UInt8
  outLen : Nat
  events : List Event
  deriving DecidableEq

/-- The buffer before the first round: empty. -/
def startDocument (out : Buffer) (hpos : 0 < out.bytes.length) : Document out.bytes.length :=
  { memory := out.bytes.set 0 0, total := 0, events := [.terminator 0],
    length_memory := List.length_set, room := hpos }

/-- What stands behind the loop. -/
def finishDocument {outSize : Nat} : Option GcUpdateFetchResult × Document outSize → DocumentRun
  | (some result, d) => ⟨result, d.memory, 0, d.events⟩
  | (none, d) =>
      let memory := d.memory.set d.total 0
      let events := d.events ++ [.terminator d.total]
      if d.total = 0 then ⟨.empty, memory, d.total, events⟩ else ⟨.ok, memory, d.total, events⟩

/-- `gc_update_read_document`. -/
def gcUpdateReadDocument (reader : GcUpdateReader) (out : Buffer) : DocumentRun :=
  if hpos : 0 < out.bytes.length then
    finishDocument (documentLoop reader out.bounded 0 (startDocument out hpos))
  else ⟨.badArguments, out.bytes, 0, []⟩

/-! ## Streaming -/

abbrev GC_UPDATE_ASSET_MAX_BYTES : Nat := 268435456

/-- The loop of `gc_update_stream_asset`; `none` where it is left by `break`. -/
def streamLoop (reader : GcUpdateReader) (sink : GcUpdateSink) (expectedBytes chunkSize : Nat)
    (hexpected : expectedBytes ≤ GC_UPDATE_ASSET_MAX_BYTES) (round total : Nat)
    (htotal : total ≤ expectedBytes) (events : List Event) :
    Option GcUpdateFetchResult × Nat × List Event :=
  match reader.available round with
  | none => (some .queryFailed, total, events ++ [.available none])
  | some available =>
      let events := events ++ [.available (some available)]
      if available = 0 then (none, total, events)
      else
        let want := if available.toNat > chunkSize then chunkSize else available.toNat
        match hread : reader.read round want with
        | none => (some .readFailed, total, events ++ [.read 0 want none])
        | some got =>
            let events := events ++ [.read 0 want (some got)]
            if hgot : got.length = 0 then (some .readFailed, total, events)
            else if hfits : size64 (total + got.length) > expectedBytes then
              (some .tooLarge, total, events)
            else if !sink.write round got then
              (some .writeFailed, total, events ++ [.write got false])
            else
              have hle := reader.read_le round want got hread
              have havailable := available.toNat_lt
              have hwant : want ≤ available.toNat := by
                simp only [want]
                split <;> omega
              have hnext : total + got.length ≤ expectedBytes := by
                have hmax : GC_UPDATE_ASSET_MAX_BYTES = 268435456 := rfl
                rw [size64_eq (by omega)] at hfits
                omega
              streamLoop reader sink expectedBytes chunkSize hexpected (round + 1)
                (total + got.length) hnext (events ++ [.write got true])
  termination_by expectedBytes - total

/-- What `gc_update_stream_asset` leaves. -/
structure StreamRun where
  result : GcUpdateFetchResult
  total : Nat
  events : List Event
  deriving DecidableEq

/-- What stands behind the loop. -/
def finishStream (expectedBytes : Nat) :
    Option GcUpdateFetchResult × Nat × List Event → StreamRun
  | (some result, total, events) => ⟨result, total, events⟩
  | (none, total, events) =>
      if total ≠ expectedBytes then ⟨.sizeMismatch, total, events⟩ else ⟨.ok, total, events⟩

/-- `gc_update_stream_asset`. -/
def gcUpdateStreamAsset (reader : GcUpdateReader) (sink : GcUpdateSink)
    (expectedBytes chunkSize : Nat) : StreamRun :=
  if chunkSize = 0 then ⟨.badArguments, 0, []⟩
  else if hexpected : expectedBytes = 0 ∨ expectedBytes > GC_UPDATE_ASSET_MAX_BYTES then
    ⟨.badExpectedSize, 0, []⟩
  else
    finishStream expectedBytes
      (streamLoop reader sink expectedBytes chunkSize
        (Nat.le_of_not_lt (not_or.mp hexpected).2) 0 0 (Nat.zero_le _) [])

end GreenCurve.Transport
