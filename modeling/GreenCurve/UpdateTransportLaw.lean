import GreenCurve.UpdateTransport

/-! # What a hostile network can do

Whatever the network answers, the requests go to the hosts of the allowlist, a document is
read whole and inside its buffer, and an asset reaches its file up to the size the manifest
declares and no further. -/

namespace GreenCurve.Transport

/-! ## Requests -/

/-- The authority of a URL: what stands behind `://` up to the next `/`, `?` or `#`. -/
def authority (url : List UInt8) : Option (List UInt8) :=
  match url.dropWhile (· ≠ 0x3A) with
  | _ :: 0x2F :: 0x2F :: rest => some (rest.takeWhile (!endsAuthority ·))
  | _ => none

/-- The URL of a request: a port that is not the default one stands in it. -/
def Request.url (request : Request) : List UInt8 :=
  (if request.secure then ascii "https://" else ascii "http://") ++ request.host ++
    (if request.port = (if request.secure then 443 else 80) then []
      else 0x3A :: ascii (toString request.port)) ++ request.path

/-- **A proper request**: over HTTPS on the default port to a host of the allowlist, which is
the authority of the URL as it is sent and of the URL that was checked. -/
structure Sent.Proper (sent : Sent) : Prop where
  secure : sent.request.secure = true
  port : sent.request.port = INTERNET_DEFAULT_HTTPS_PORT
  allowed : sent.request.host ∈ allowedHosts
  authority : authority sent.request.url = some sent.request.host
  checked : Transport.authority sent.current.bytes = some sent.request.host
  same : sent.request.url = sent.current.bytes ∨ sent.request.url = sent.current.bytes ++ [0x2F]

theorem ascii_https : ascii "https://" = scheme := by decide

theorem not_endsAuthority_of_hostChar {c : UInt8} (h : hostChar c = true) :
    (!endsAuthority c) = true := by
  simp only [hostChar, Bool.or_eq_true, Bool.and_eq_true, decide_eq_true_eq, beq_iff_eq, ge_iff_le,
    UInt8.le_iff_toNat_le, ← UInt8.toNat_inj, UInt8.reduceToNat] at h
  simp only [endsAuthority, Bool.not_eq_true', Bool.or_eq_false_iff, beq_eq_false_iff_ne, ne_eq,
    ← UInt8.toNat_inj, UInt8.reduceToNat]
  omega

/-- The authority of a URL with a host and nothing or a path behind it. -/
theorem authority_eq {host rest : List UInt8} (hhost : ∀ c ∈ host, hostChar c = true)
    (hrest : rest = [] ∨ rest.head? = some 0x2F) :
    authority (scheme ++ host ++ rest) = some host := by
  have hread : authority (scheme ++ host ++ rest) =
      some ((host ++ rest).takeWhile (!endsAuthority ·)) := rfl
  have hstop : rest.takeWhile (!endsAuthority ·) = [] := by
    rcases hrest with rfl | hslash
    · rfl
    · obtain ⟨tail, rfl⟩ := List.head?_eq_some_iff.mp hslash
      exact List.takeWhile_cons_of_neg (by decide)
  rw [hread, List.takeWhile_append_of_pos fun c hc => not_endsAuthority_of_hostChar (hhost c hc),
    hstop, List.append_nil]

theorem copyPath_eq {url path copied : List UInt8} (h : copyPath url path = some copied) :
    copied = path ++ url := by
  induction url generalizing path with
  | nil =>
    cases h
    exact (List.append_nil _).symm
  | cons c url ih =>
    rw [copyPath] at h
    split_ifs at h
    rw [ih h, List.append_assoc, List.singleton_append]

/-- What the grammar takes: the scheme, a host, and nothing or a path behind it. -/
theorem parse_some {url : CString} {parsed : GcUpdateUrl} (h : gcUpdateUrlParse url = some parsed) :
    (∀ c ∈ parsed.host, hostChar c = true) ∧ parsed.path.head? = some 0x2F ∧
      (url.bytes = scheme ++ parsed.host ∧ parsed.path = [0x2F] ∨
        url.bytes = scheme ++ parsed.host ++ parsed.path) := by
  rw [gcUpdateUrlParse] at h
  dsimp only at h
  split_ifs at h with hscheme hempty hrefused hlong hchars hfirst hlast
  rw [Bool.not_eq_true', Bool.not_eq_false, List.isPrefixOf_iff_prefix] at hscheme
  obtain ⟨after, hafter⟩ := hscheme
  rw [← hafter, List.drop_left] at h hchars
  have hsplit : after.takeWhile (!endsAuthority ·) ++ after.dropWhile (!endsAuthority ·) = after :=
    List.takeWhile_append_dropWhile
  have hhost : ∀ c ∈ after.takeWhile (!endsAuthority ·), hostChar c = true := by
    simpa using hchars
  cases hrest : after.dropWhile (!endsAuthority ·) with
  | nil =>
    simp only [hrest] at h
    cases h
    rw [hrest, List.append_nil] at hsplit
    exact ⟨hhost, rfl, .inl ⟨by rw [← hafter, hsplit], rfl⟩⟩
  | cons c rest =>
    simp only [hrest] at h
    split_ifs at h with hfragment hslash
    obtain ⟨path, hpath, rfl⟩ := Option.map_eq_some_iff.mp h
    have hcopied := copyPath_eq hpath
    rw [List.nil_append] at hcopied
    refine ⟨hhost, ?_, .inr ?_⟩
    · rw [hcopied, not_not.mp hslash]
      rfl
    · rw [hcopied, ← hrest, List.append_assoc, hsplit, hafter]

theorem host_of_allowed {host : List UInt8} (h : gcUpdateHostIsAllowed host = true) :
    host ∈ allowedHosts := by
  rw [gcUpdateHostIsAllowed] at h
  split_ifs at h
  simpa using h

/-- A hop sends a proper request. -/
theorem proper_of_parse {current : CString} {parsed : GcUpdateUrl}
    (hparse : gcUpdateUrlParse current = some parsed)
    (hallowed : gcUpdateHostIsAllowed parsed.host = true) :
    (Sent.mk current
      { host := parsed.host, port := INTERNET_DEFAULT_HTTPS_PORT, secure := true,
        path := parsed.path }).Proper := by
  obtain ⟨hhost, hpath, hurl⟩ := parse_some hparse
  have hsent : Request.url
      { host := parsed.host, port := INTERNET_DEFAULT_HTTPS_PORT, secure := true,
        path := parsed.path } = scheme ++ parsed.host ++ parsed.path := by
    simp only [Request.url, if_true, ascii_https, List.append_nil]
  refine ⟨rfl, rfl, host_of_allowed hallowed, ?_, ?_, ?_⟩
  · rw [hsent]
    exact authority_eq hhost (.inr hpath)
  · rcases hurl with ⟨hbare, -⟩ | hfull
    · dsimp only
      rw [hbare, ← List.append_nil (scheme ++ parsed.host)]
      exact authority_eq hhost (.inl rfl)
    · dsimp only
      rw [hfull]
      exact authority_eq hhost (.inr hpath)
  · rw [hsent]
    rcases hurl with ⟨hbare, hroot⟩ | hfull
    · rw [hbare, hroot]
      exact .inr rfl
    · exact .inl hfull.symm

/-- The chain of redirects, whatever the network answers. -/
theorem followHops_proper (network : Network) {remaining hop : Nat} {current : CString}
    {sent : List Sent} (hsent : ∀ s ∈ sent, s.Proper) :
    (∀ s ∈ (followHops network remaining hop current sent).2, s.Proper) ∧
      (followHops network remaining hop current sent).2.length ≤ sent.length + remaining := by
  induction remaining generalizing hop current sent with
  | zero => exact ⟨hsent, Nat.le_refl _⟩
  | succ remaining ih =>
    have hstays : (∀ s ∈ sent, s.Proper) ∧ sent.length ≤ sent.length + (remaining + 1) :=
      ⟨hsent, Nat.le_add_right _ _⟩
    rw [followHops]
    cases hparse : gcUpdateUrlParse current with
    | none => exact hstays
    | some parsed =>
      dsimp only
      split_ifs with hallowed
      · exact hstays
      rw [Bool.not_eq_true', Bool.not_eq_false] at hallowed
      cases prepareHop (network.hop hop) with
      | error e => exact hstays
      | ok =>
        have hproper := proper_of_parse hparse hallowed
        dsimp only
        set request := Sent.mk current _
        have hnext : ∀ s ∈ sent ++ [request], s.Proper := by
          intro s hs
          rcases List.mem_append.mp hs with hs | hs
          · exact hsent s hs
          · rw [List.mem_singleton.mp hs]
            exact hproper
        have hlength : (sent ++ [request]).length = sent.length + 1 := List.length_append
        cases readHop (network.hop hop) hop with
        | error e => exact ⟨hnext, by dsimp only; omega⟩
        | ok followed =>
          cases followed with
          | none => exact ⟨hnext, by dsimp only; omega⟩
          | some location =>
            obtain ⟨hall, hle⟩ := @ih (hop + 1) location _ hnext
            exact ⟨hall, hle.trans (by omega)⟩

/-- **The requests of one fetch** are proper, and there are no more than redirects and one. -/
theorem gcUpdateHttpOpen_proper (network : Network) (url : CString) :
    (∀ s ∈ (gcUpdateHttpOpen network url).2, s.Proper) ∧
      (gcUpdateHttpOpen network url).2.length ≤ GC_UPDATE_MAX_REDIRECTS + 1 := by
  rw [gcUpdateHttpOpen]
  split_ifs
  all_goals try exact ⟨by simp, Nat.zero_le _⟩
  obtain ⟨hall, hle⟩ := @followHops_proper network (GC_UPDATE_MAX_REDIRECTS + 1) 0 url []
    (by simp)
  exact ⟨hall, by simpa using hle⟩

/-! ## Events -/

/-- The bytes that were read. -/
def readBytes (events : List Event) : List UInt8 :=
  events.flatMap fun
    | .read _ _ (some got) => got
    | _ => []

/-- The bytes that were passed to the sink. -/
def passedBytes (events : List Event) : List UInt8 :=
  events.flatMap fun
    | .write bytes _ => bytes
    | _ => []

/-- The bytes that the sink accepted. -/
def acceptedBytes (events : List Event) : List UInt8 :=
  events.flatMap fun
    | .write bytes true => bytes
    | _ => []

/-- The server's stream ended: it said that nothing more is available. -/
def Ended (events : List Event) : Prop := .available (some 0) ∈ events

/-- What a call writes to a buffer is inside it. -/
def Event.Inside (size : Nat) : Event → Prop
  | .terminator offset => offset < size
  | .read offset want _ => offset + want ≤ size
  | _ => True

theorem readBytes_append (a b : List Event) : readBytes (a ++ b) = readBytes a ++ readBytes b :=
  List.flatMap_append

theorem passedBytes_append (a b : List Event) :
    passedBytes (a ++ b) = passedBytes a ++ passedBytes b :=
  List.flatMap_append

theorem acceptedBytes_append (a b : List Event) :
    acceptedBytes (a ++ b) = acceptedBytes a ++ acceptedBytes b :=
  List.flatMap_append

theorem ended_append (events : List Event) : Ended (events ++ [.available (some 0)]) :=
  List.mem_append_right events List.mem_cons_self

theorem open_append {events : List Event} (h : ¬Ended events) {event : Event}
    (hevent : .available (some 0) ≠ event) : ¬Ended (events ++ [event]) := by
  rintro hended
  rcases List.mem_append.mp hended with hended | hended
  · exact h hended
  · exact hevent (List.mem_singleton.mp hended)

/-- A count of something does not end the stream. -/
theorem available_ne {available : UInt32} (h : ¬available = 0) :
    Event.available (some 0) ≠ .available (some available) := by
  rintro heq
  cases heq
  exact h rfl

/-! ## A document -/

/-- What is known of a document while it is read. -/
structure Document.Reading {outSize : Nat} (d : Document outSize) : Prop where
  holds : d.memory.take d.total = readBytes d.events
  inside : ∀ event ∈ d.events, event.Inside outSize

theorem Document.Reading.log {outSize : Nat} {d : Document outSize} (h : d.Reading) {event : Event}
    (hinside : event.Inside outSize) (hbytes : readBytes [event] = []) : (d.log event).Reading where
  holds := by
    rw [Document.log, readBytes_append, hbytes, List.append_nil]
    exact h.holds
  inside e he := by
    rcases List.mem_append.mp he with he | he
    · exact h.inside e he
    · rw [List.mem_singleton.mp he]
      exact hinside

/-- The loop, whatever the server sends: the buffer holds what was read, and the loop is left
by `break` where the stream ended. -/
theorem documentLoop_reading (reader : GcUpdateReader) {outSize : Nat} (hsize : outSize < 2 ^ 63)
    (round : Nat) (d : Document outSize) (h : d.Reading) (hopen : ¬Ended d.events) :
    (documentLoop reader hsize round d).2.Reading ∧
      ((documentLoop reader hsize round d).1 = none ↔
        Ended (documentLoop reader hsize round d).2.events) ∧
      (documentLoop reader hsize round d).1 ≠ some .ok := by
  fun_induction documentLoop reader hsize round d with
  | case1 round d =>
    have hopen' : ¬Ended (d.log (.available none)).events := open_append hopen nofun
    exact ⟨h.log trivial rfl, ⟨nofun, fun hend => (hopen' hend).elim⟩, nofun⟩
  | case2 round d => exact ⟨h.log trivial rfl, ⟨fun _ => ended_append _, fun _ => rfl⟩, nofun⟩
  | case3 round d available _ asked hsome =>
    have hasked : ¬Ended asked.events := open_append hopen (available_ne hsome)
    exact ⟨h.log trivial rfl, ⟨nofun, fun hend => (hasked hend).elim⟩, nofun⟩
  | case4 round d available _ asked hsome hfits =>
    have hroom := fits_of_size64 hsize d.room hfits
    have hreading : asked.Reading := h.log trivial rfl
    have hasked : ¬Ended asked.events := open_append hopen (available_ne hsome)
    have hread : ¬Ended (asked.log (.read d.total available.toNat none)).events :=
      open_append hasked nofun
    exact ⟨hreading.log hroom.le rfl, ⟨nofun, fun hend => (hread hend).elim⟩, nofun⟩
  | case5 round d available _ asked hsome hfits got _ event hnothing =>
    have hroom := fits_of_size64 hsize d.room hfits
    have hreading : asked.Reading := h.log trivial rfl
    have hasked : ¬Ended asked.events := open_append hopen (available_ne hsome)
    have hbytes : readBytes [event] = [] := by simpa [event, readBytes] using hnothing
    have hread : ¬Ended (asked.log event).events := open_append hasked nofun
    exact ⟨hreading.log hroom.le hbytes, ⟨nofun, fun hend => (hread hend).elim⟩, nofun⟩
  | case6 round d available _ asked hsome hfits got _ event _ hle hroom ih =>
    have hreading : asked.Reading := h.log trivial rfl
    have hasked : ¬Ended asked.events := open_append hopen (available_ne hsome)
    have hbytes : readBytes [event] = got := by simp [event, readBytes]
    refine ih ⟨?_, fun e he => ?_⟩ (open_append hasked nofun)
    · dsimp only
      rw [ByteMemory.take_overwrite (by rw [d.length_memory]; omega), readBytes_append, hbytes]
      exact congrArg (· ++ got) hreading.holds
    · rcases List.mem_append.mp he with he | he
      · exact hreading.inside e he
      · rw [List.mem_singleton.mp he]
        exact hroom.le

theorem startDocument_reading (out : Buffer) (hpos : 0 < out.bytes.length) :
    (startDocument out hpos).Reading where
  holds := rfl
  inside event he := by
    rw [List.mem_singleton.mp he]
    exact hpos

/-- **A document is read whole, inside its buffer**: no call writes outside, and a document
that is taken holds all that the server sent, up to the end of its stream, with a terminator
behind it. -/
theorem document_whole (reader : GcUpdateReader) (out : Buffer) :
    let run := gcUpdateReadDocument reader out
    run.memory.length = out.bytes.length ∧
      (∀ event ∈ run.events, event.Inside out.bytes.length) ∧
      (run.result = .ok →
        Ended run.events ∧ run.outLen = (readBytes run.events).length ∧
          run.memory.take run.outLen = readBytes run.events ∧
          run.memory[run.outLen]? = some 0) := by
  intro run
  by_cases hpos : 0 < out.bytes.length
  swap
  · have hrun : run = ⟨.badArguments, out.bytes, 0, []⟩ := dif_neg hpos
    rw [hrun]
    exact ⟨rfl, by simp, nofun⟩
  have hrun : run = finishDocument (documentLoop reader out.bounded 0 (startDocument out hpos)) :=
    dif_pos hpos
  obtain ⟨hreading, hended, hnotOk⟩ := documentLoop_reading reader out.bounded 0
    (startDocument out hpos) (startDocument_reading out hpos) (by simp [startDocument, Ended])
  rcases hloop : documentLoop reader out.bounded 0 (startDocument out hpos) with ⟨result, d⟩
  rw [hloop] at hreading hended hnotOk hrun
  dsimp only at hreading hended hnotOk
  cases result with
  | some result =>
    rw [hrun]
    exact ⟨d.length_memory, hreading.inside, fun hok => (hnotOk (congrArg some hok)).elim⟩
  | none =>
    have hinside : ∀ event ∈ d.events ++ [.terminator d.total],
        event.Inside out.bytes.length := by
      intro event he
      rcases List.mem_append.mp he with he | he
      · exact hreading.inside event he
      · rw [List.mem_singleton.mp he]
        exact d.room
    have hlength : (d.memory.set d.total 0).length = out.bytes.length := by
      rw [List.length_set, d.length_memory]
    have hroom : d.total < d.memory.length := d.length_memory.symm ▸ d.room
    rw [finishDocument] at hrun
    split_ifs at hrun with hempty
    · rw [hrun]
      exact ⟨hlength, hinside, nofun⟩
    · rw [hrun]
      have hbytes : readBytes (d.events ++ [.terminator d.total]) = readBytes d.events := by
        rw [readBytes_append]
        exact List.append_nil _
      have htake : (d.memory.set d.total 0).take d.total = readBytes d.events := by
        rw [List.take_set_of_le (Nat.le_refl _), hreading.holds]
      refine ⟨hlength, hinside, fun _ =>
        ⟨List.mem_append_left _ (hended.mp rfl), ?_, ?_, List.getElem?_set_self hroom⟩⟩
      · rw [hbytes, ← hreading.holds, List.length_take, Nat.min_eq_left hroom.le]
      · rw [hbytes, htake]

/-! ## An asset -/

/-- With each write the sink has been passed exactly what was read so far. -/
def InOrder (events : List Event) : Prop :=
  ∀ before bytes accepted after, events = before ++ .write bytes accepted :: after →
    passedBytes before ++ bytes = readBytes before

theorem InOrder.append {events : List Event} (h : InOrder events) {event : Event}
    (hevent : ∀ bytes accepted, event = .write bytes accepted →
      passedBytes events ++ bytes = readBytes events) : InOrder (events ++ [event]) := by
  intro before bytes accepted after hsplit
  rcases List.eq_nil_or_concat after with rfl | ⟨init, last, rfl⟩
  · obtain ⟨rfl, hlast⟩ := List.append_inj' hsplit rfl
    exact hevent bytes accepted (List.singleton_inj.mp hlast)
  · rw [List.concat_eq_append, ← List.cons_append, ← List.append_assoc] at hsplit
    exact h before bytes accepted init (List.append_inj' hsplit rfl).1

/-- What is known of an asset while it streams: all that was read was passed and accepted. -/
structure Streaming (total : Nat) (events : List Event) : Prop where
  passed : passedBytes events = readBytes events
  accepted : acceptedBytes events = readBytes events
  total : total = (readBytes events).length
  inOrder : InOrder events
  opened : ¬Ended events

/-- What is known of a stream that is left. -/
structure Streamed (expectedBytes total : Nat) (events : List Event) : Prop where
  inOrder : InOrder events
  bounded : (passedBytes events).length ≤ expectedBytes
  reported : total = (acceptedBytes events).length
  served : acceptedBytes events <+: readBytes events

theorem Streaming.streamed {expectedBytes total : Nat} {events : List Event}
    (h : Streaming total events) (hbound : total ≤ expectedBytes) :
    Streamed expectedBytes total events where
  inOrder := h.inOrder
  bounded := by rw [h.passed, ← h.total]; exact hbound
  reported := by rw [h.accepted, h.total]
  served := h.accepted ▸ List.prefix_refl _

/-- A call that reads nothing and passes nothing. -/
theorem Streaming.append {total : Nat} {events : List Event} (h : Streaming total events)
    {event : Event} (hread : readBytes [event] = []) (hpassed : passedBytes [event] = [])
    (haccepted : acceptedBytes [event] = []) (hopen : .available (some 0) ≠ event)
    (hwrite : ∀ bytes accepted, event ≠ .write bytes accepted) :
    Streaming total (events ++ [event]) where
  passed := by rw [passedBytes_append, readBytes_append, hpassed, hread, h.passed]
  accepted := by rw [acceptedBytes_append, readBytes_append, haccepted, hread, h.accepted]
  total := by rw [readBytes_append, hread, List.append_nil, h.total]
  inOrder := h.inOrder.append fun bytes accepted heq => (hwrite bytes accepted heq).elim
  opened := open_append h.opened hopen

theorem Streamed.append {expectedBytes total : Nat} {events : List Event}
    (h : Streamed expectedBytes total events) {event : Event} (hpassed : passedBytes [event] = [])
    (haccepted : acceptedBytes [event] = [])
    (hwrite : ∀ bytes accepted, event ≠ .write bytes accepted) :
    Streamed expectedBytes total (events ++ [event]) where
  inOrder := h.inOrder.append fun bytes accepted heq => (hwrite bytes accepted heq).elim
  bounded := by
    rw [passedBytes_append, hpassed, List.append_nil]
    exact h.bounded
  reported := by rw [acceptedBytes_append, haccepted, List.append_nil, h.reported]
  served := by
    rw [acceptedBytes_append, haccepted, List.append_nil, readBytes_append]
    exact h.served.trans (List.prefix_append _ _)

/-- A chunk that is read and passed on. -/
theorem Streaming.chunk {total want : Nat} {events : List Event} {got : List UInt8}
    (h : Streaming total events) (accepted : Bool) :
    let after := events ++ [.read 0 want (some got)] ++ [.write got accepted]
    readBytes after = readBytes events ++ got ∧ passedBytes after = readBytes events ++ got ∧
      acceptedBytes after = readBytes events ++ (if accepted then got else []) ∧ InOrder after ∧
      ¬Ended after := by
  intro after
  have hread : readBytes (events ++ [.read 0 want (some got)]) = readBytes events ++ got := by
    rw [readBytes_append]
    exact congrArg _ (List.append_nil got)
  have hpassed : passedBytes (events ++ [.read 0 want (some got)]) = readBytes events := by
    rw [passedBytes_append, h.passed]
    exact List.append_nil _
  have hopen : ¬Ended (events ++ [.read 0 want (some got)]) := open_append h.opened nofun
  have hinOrder : InOrder (events ++ [.read 0 want (some got)]) := h.inOrder.append nofun
  have hend : ¬Ended after := open_append hopen nofun
  refine ⟨?_, ?_, ?_, ?_, hend⟩
  · rw [readBytes_append, hread]
    exact List.append_nil _
  · rw [passedBytes_append, hpassed]
    exact congrArg _ (List.append_nil got)
  · rw [acceptedBytes_append, acceptedBytes_append, h.accepted]
    cases accepted <;> simp [acceptedBytes]
  · refine hinOrder.append fun bytes accepted heq => ?_
    cases heq
    rw [hpassed, hread]

/-- What the check lets through fits the declared size. -/
theorem stream_fits {reader : GcUpdateReader} {round want total expectedBytes chunkSize : Nat}
    {available : UInt32} {got : List UInt8} (hread : reader.read round want = some got)
    (hwant : want = if available.toNat > chunkSize then chunkSize else available.toNat)
    (htotal : total ≤ expectedBytes) (hexpected : expectedBytes ≤ GC_UPDATE_ASSET_MAX_BYTES)
    (hfits : ¬size64 (total + got.length) > expectedBytes) :
    total + got.length ≤ expectedBytes := by
  have hle := reader.read_le round want got hread
  have havailable := available.toNat_lt
  have hmax : GC_UPDATE_ASSET_MAX_BYTES = 268435456 := rfl
  have hsmall : want ≤ available.toNat := by
    rw [hwant]
    split <;> omega
  rw [size64_eq (by omega)] at hfits
  omega

/-- The loop, whatever the server sends and the sink answers. -/
theorem streamLoop_streamed (reader : GcUpdateReader) (sink : GcUpdateSink)
    {expectedBytes chunkSize : Nat} (hexpected : expectedBytes ≤ GC_UPDATE_ASSET_MAX_BYTES)
    (round total : Nat) (htotal : total ≤ expectedBytes) (events : List Event)
    (h : Streaming total events) :
    let left := streamLoop reader sink expectedBytes chunkSize hexpected round total htotal events
    Streamed expectedBytes left.2.1 left.2.2 ∧ (left.1 = none ↔ Ended left.2.2) ∧
      left.1 ≠ some .ok := by
  fun_induction streamLoop reader sink expectedBytes chunkSize hexpected round total htotal events
    with
  | case1 round total htotal events =>
    have hopen : ¬Ended (events ++ [.available none]) := open_append h.opened nofun
    exact ⟨(h.streamed htotal).append rfl rfl nofun, ⟨nofun, fun hend => (hopen hend).elim⟩, nofun⟩
  | case2 round total htotal before _ events =>
    exact ⟨(h.streamed htotal).append rfl rfl nofun, ⟨fun _ => ended_append _, fun _ => rfl⟩, nofun⟩
  | case3 round total htotal before available _ events hsome want =>
    have hasked : Streaming total events := h.append rfl rfl rfl (available_ne hsome) nofun
    have hopen : ¬Ended (events ++ [.read 0 want none]) := open_append hasked.opened nofun
    exact ⟨(hasked.streamed htotal).append rfl rfl nofun,
      ⟨nofun, fun hend => (hopen hend).elim⟩, nofun⟩
  | case4 round total htotal before available _ asked hsome want got _ events =>
    have hasked : Streaming total asked := h.append rfl rfl rfl (available_ne hsome) nofun
    have hopen : ¬Ended events := open_append hasked.opened nofun
    exact ⟨(hasked.streamed htotal).append rfl rfl nofun,
      ⟨nofun, fun hend => (hopen hend).elim⟩, nofun⟩
  | case5 round total htotal before available _ asked hsome want got _ events =>
    -- what was read is not passed on
    have hasked : Streaming total asked := h.append rfl rfl rfl (available_ne hsome) nofun
    have hopen : ¬Ended events := open_append hasked.opened nofun
    exact ⟨(hasked.streamed htotal).append rfl rfl nofun,
      ⟨nofun, fun hend => (hopen hend).elim⟩, nofun⟩
  | case6 round total htotal before available _ asked hsome want got hread events _ hfits =>
    -- the sink is passed what it then refuses
    have hasked : Streaming total asked := h.append rfl rfl rfl (available_ne hsome) nofun
    have hnext := stream_fits hread rfl htotal hexpected hfits
    obtain ⟨hbytes, hpassed, haccepted, hinOrder, hopen⟩ :=
      @Streaming.chunk total want asked got hasked false
    refine ⟨⟨hinOrder, ?_, ?_, ?_⟩, ⟨nofun, fun hend => (hopen hend).elim⟩, nofun⟩
    · rw [hpassed, List.length_append, ← hasked.total]
      exact hnext
    · rw [haccepted]
      exact hasked.total.trans (congrArg List.length (List.append_nil _).symm)
    · rw [haccepted, hbytes]
      exact (List.append_nil (readBytes asked)).symm ▸ List.prefix_append _ _
  | case7 round total htotal before available _ asked hsome want got hread events _ hfits _ _ _ _
      hnext ih =>
    have hasked : Streaming total asked := h.append rfl rfl rfl (available_ne hsome) nofun
    obtain ⟨hbytes, hpassed, haccepted, hinOrder, hopen⟩ :=
      @Streaming.chunk total want asked got hasked true
    exact ih ⟨hpassed.trans hbytes.symm, haccepted.trans hbytes.symm,
      by rw [hbytes, List.length_append, ← hasked.total], hinOrder, hopen⟩

/-- **An asset reaches the sink in order and up to its declared size**: with each write the
sink has been passed exactly what was read so far, never more than the expected bytes in all;
the number reported is what it accepted, on every exit; and the result is `ok` exactly where
the stream ended after the expected bytes were accepted. -/
theorem asset_bounded (reader : GcUpdateReader) (sink : GcUpdateSink)
    (expectedBytes chunkSize : Nat) :
    let run := gcUpdateStreamAsset reader sink expectedBytes chunkSize
    Streamed expectedBytes run.total run.events ∧
      (run.result = .ok ↔
        Ended run.events ∧ (acceptedBytes run.events).length = expectedBytes) := by
  intro run
  have hnothing : Streaming 0 [] :=
    ⟨rfl, rfl, rfl, fun before bytes accepted after hnil => by simp at hnil, List.not_mem_nil⟩
  by_cases hchunk : chunkSize = 0
  · have hrun : run = ⟨.badArguments, 0, []⟩ := if_pos hchunk
    rw [hrun]
    exact ⟨hnothing.streamed (Nat.zero_le _), ⟨nofun, fun h => (hnothing.opened h.1).elim⟩⟩
  by_cases hexpected : expectedBytes = 0 ∨ expectedBytes > GC_UPDATE_ASSET_MAX_BYTES
  · have hrun : run = ⟨.badExpectedSize, 0, []⟩ := (if_neg hchunk).trans (dif_pos hexpected)
    rw [hrun]
    exact ⟨hnothing.streamed (Nat.zero_le _), ⟨nofun, fun h => (hnothing.opened h.1).elim⟩⟩
  have hmax := Nat.le_of_not_lt (not_or.mp hexpected).2
  have hrun : run = finishStream expectedBytes
      (streamLoop reader sink expectedBytes chunkSize hmax 0 0 (Nat.zero_le _) []) :=
    (if_neg hchunk).trans (dif_neg hexpected)
  obtain ⟨hstreamed, hended, hnotOk⟩ :=
    @streamLoop_streamed reader sink expectedBytes chunkSize hmax 0 0 (Nat.zero_le _) [] hnothing
  rcases hloop : streamLoop reader sink expectedBytes chunkSize hmax 0 0 (Nat.zero_le _) [] with
    ⟨result, total, events⟩
  rw [hloop] at hstreamed hended hnotOk hrun
  dsimp only at hstreamed hended hnotOk
  cases result with
  | some result =>
    rw [hrun]
    exact ⟨hstreamed, ⟨fun hok => (hnotOk (congrArg some hok)).elim,
      fun h => (nomatch hended.mpr h.1)⟩⟩
  | none =>
    rw [finishStream] at hrun
    have hreported := hstreamed.reported
    split_ifs at hrun with hsize
    · rw [hrun]
      exact ⟨hstreamed, ⟨nofun, fun h => (hsize (hreported.trans h.2)).elim⟩⟩
    · rw [hrun]
      exact ⟨hstreamed,
        ⟨fun _ => ⟨hended.mp rfl, hreported.symm.trans (not_not.mp hsize)⟩, fun _ => rfl⟩⟩

/-- **A fetch is bounded and fenced**, whatever the network answers: the requests, a document
and an asset. -/
theorem fetch_fenced :
    (∀ (network : Network) (url : CString),
      (∀ s ∈ (gcUpdateHttpOpen network url).2, s.Proper) ∧
        (gcUpdateHttpOpen network url).2.length ≤ GC_UPDATE_MAX_REDIRECTS + 1) ∧
    (∀ (reader : GcUpdateReader) (out : Buffer),
      let run := gcUpdateReadDocument reader out
      run.memory.length = out.bytes.length ∧
        (∀ event ∈ run.events, event.Inside out.bytes.length) ∧
        (run.result = .ok →
          Ended run.events ∧ run.outLen = (readBytes run.events).length ∧
            run.memory.take run.outLen = readBytes run.events ∧
            run.memory[run.outLen]? = some 0)) ∧
    (∀ (reader : GcUpdateReader) (sink : GcUpdateSink) (expectedBytes chunkSize : Nat),
      let run := gcUpdateStreamAsset reader sink expectedBytes chunkSize
      Streamed expectedBytes run.total run.events ∧
        (run.result = .ok ↔
          Ended run.events ∧ (acceptedBytes run.events).length = expectedBytes)) :=
  ⟨gcUpdateHttpOpen_proper, document_whole, asset_bounded⟩

end GreenCurve.Transport
