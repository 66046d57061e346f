import GreenCurve.LogFingerprint

/-! # Redaction of a log line

A formatted message may name paths that no call site has turned into tokens.  The line is
copied up to a place where a path starts, and from there to the end of the line, of the
quoted text or before a conventional error suffix it becomes a token.  Whether a slash starts
a path depends on the words before it: after `schtasks` and `setup` it starts a switch.

A place in a text is what lies before it, the nearest byte first, and what lies behind it.
What lies beyond the ends reads as the terminator. -/

namespace GreenCurve.LogRedaction

/-- The byte of a character literal. -/
abbrev byte (c : Char) : UInt8 := c.toNat.toUInt8

/-- `gc_log_path_boundary`. -/
def gcLogPathBoundary (value : UInt8) : Bool :=
  value == 0 || value == byte ' ' || value == byte '\t' || value == byte '\r' ||
    value == byte '\n' || value == byte '=' || value == byte '\'' || value == byte '"' ||
    value == byte '(' || value == byte ':'

def lowerByte (value : UInt8) : UInt8 :=
  if value ≥ byte 'A' ∧ value ≤ byte 'Z' then value + (byte 'a' - byte 'A') else value

/-- `gc_log_word_equal`. -/
def gcLogWordEqual (word : List UInt8) (expected : String) : Bool :=
  word.map lowerByte == ascii expected

/-- `gc_log_switch_group`. -/
def gcLogSwitchGroup (word : List UInt8) : Nat :=
  if word.headD 0 ≠ byte '/' then 0
  else
    let word := word.tail
    if ["delete", "query", "create", "tn", "xml", "f"].any (gcLogWordEqual word) then 1
    else if gcLogWordEqual word "s" || gcLogWordEqual word "d" then 2
    else 0

/-- A byte that the words of a command are made of. -/
def isWordByte (value : UInt8) : Bool := !gcLogPathBoundary value && value != byte ';'

def isBlankByte (value : UInt8) : Bool := value == byte ' ' || value == byte '\t'

/-- The last word before a place, blanks skipped. -/
def wordBefore (before : List UInt8) : List UInt8 :=
  ((before.dropWhile isBlankByte).takeWhile isWordByte).reverse

/-- What lies before that word. -/
def beforeWord (before : List UInt8) : List UInt8 :=
  (before.dropWhile isBlankByte).dropWhile isWordByte

theorem length_beforeWord_lt {before : List UInt8} (h : wordBefore before ≠ []) :
    (beforeWord before).length < before.length := by
  have hsplit := congrArg List.length
    (List.takeWhile_append_dropWhile (p := isWordByte) (l := before.dropWhile isBlankByte))
  have hblank := (List.dropWhile_suffix isBlankByte (l := before)).length_le
  have hword : 0 < ((before.dropWhile isBlankByte).takeWhile isWordByte).length := by
    rw [← List.length_reverse]
    exact List.length_pos_iff.mpr h
  rw [List.length_append] at hsplit
  unfold beforeWord
  omega

/-- The walk over the words before a switch of a group, up to the command. -/
def commandBefore (group : Nat) (before : List UInt8) : Bool :=
  let word := wordBefore before
  if _h : word = [] then false
  else if group = 1 ∧ (gcLogWordEqual word "schtasks" ∨ gcLogWordEqual word "schtasks.exe") then
    true
  else if group = 2 ∧ (gcLogWordEqual word "setup" ∨ gcLogWordEqual word "setup.exe") then true
  else if gcLogSwitchGroup word ≠ group then false
  else commandBefore group (beforeWord before)
termination_by before.length
decreasing_by exact length_beforeWord_lt _h

def isQuote (value : UInt8) : Bool := value == byte '\'' || value == byte '"'

/-- `gc_log_windows_switch`. -/
def gcLogWindowsSwitch (before rest : List UInt8) : Bool :=
  if isQuote (before.headD 0) then false
  else
    let group := gcLogSwitchGroup (rest.takeWhile isWordByte)
    if group = 0 then false else commandBefore group before

def isLetter (value : UInt8) : Bool :=
  (decide (value ≥ byte 'a') && decide (value ≤ byte 'z')) ||
    (decide (value ≥ byte 'A') && decide (value ≤ byte 'Z'))

/-- `gc_log_path_start`. -/
@[irreducible] def gcLogPathStart (before rest : List UInt8) : Bool :=
  let p0 := rest.headD 0
  let p1 := rest.getD 1 0
  let p2 := rest.getD 2 0
  if !gcLogPathBoundary (before.headD 0) then false
  else if isLetter p0 && p1 == byte ':' && (p2 == byte '\\' || p2 == byte '/') then true
  else if p0 == byte '\\' && p1 == byte '\\' then true
  else if p0 == byte '.' && (p1 == byte '\\' || p1 == byte '/') then true
  else if p0 != byte '/' || p1 == 0 || p1 == byte '/' || p1 == byte ' ' || p1 == byte '\n' then
    false
  else !gcLogWindowsSwitch before rest

/-! ## The redacted spans -/

/-- A span ends here: at the end of the line, at its quote, or before an error suffix. -/
def spanEnds (quote : UInt8) (rest : List UInt8) : Bool :=
  rest.headD 0 == byte '\r' || rest.headD 0 == byte '\n' ||
    (quote != 0 && rest.headD 0 == quote) ||
    (quote == 0 && ((ascii " (error ").isPrefixOf rest || (ascii " (hr ").isPrefixOf rest))

/-- The bytes of a span that begins here. -/
def spanBytes (quote : UInt8) : List UInt8 → List UInt8
  | [] => []
  | c :: rest => if spanEnds quote (c :: rest) then [] else c :: spanBytes quote rest

/-- The quote a span stands in. -/
def quoteBefore (before : List UInt8) : UInt8 :=
  if isQuote (before.headD 0) then before.headD 0 else 0

/-- A byte that a path can start with. -/
def isStarter (value : UInt8) : Bool :=
  isLetter value || value == byte '\\' || value == byte '.' || value == byte '/'

theorem isStarter_of_start {before rest : List UInt8} (h : gcLogPathStart before rest = true) :
    isStarter (rest.headD 0) = true ∧ gcLogPathBoundary (before.headD 0) = true := by
  unfold gcLogPathStart at h
  unfold isStarter
  dsimp only at h
  split_ifs at h <;> simp_all

theorem forall_byte {p : UInt8 → Bool} (h : ∀ k : Fin 256, p (UInt8.ofNat k) = true)
    (value : UInt8) : p value = true := by
  have hvalue := h ⟨value.toNat, value.toNat_lt⟩
  rwa [UInt8.ofNat_toNat] at hvalue

/-- A byte that the walk over the words before a switch does not pass. -/
def isWall (value : UInt8) : Bool := !isWordByte value && !isBlankByte value

theorem isQuote_wall (value : UInt8) (h : isQuote value = true) : isWall value = true := by
  simp only [isQuote, Bool.or_eq_true, beq_iff_eq] at h
  rcases h with rfl | rfl
  · decide
  · decide

/-- A path starts with a byte of a word. -/
theorem isStarter_word (value : UInt8) (h : isStarter value = true) : isWordByte value = true := by
  have hall := forall_byte (p := fun value => !isStarter value || isWordByte value)
    (by decide +kernel) value
  simpa [h] using hall

/-- What ends a span is a wall, or the blank before an opening parenthesis. -/
theorem spanEnds_wall {quote : UInt8} {rest : List UInt8}
    (hquote : quote = 0 ∨ isQuote quote = true) (h : spanEnds quote rest = true) :
    isWall (rest.headD 0) = true ∨ ∃ tail, rest = byte ' ' :: byte '(' :: tail := by
  simp only [spanEnds, Bool.or_eq_true, Bool.and_eq_true, beq_iff_eq, bne_iff_ne,
    List.isPrefixOf_iff_prefix] at h
  rcases h with ((hcr | hlf) | ⟨hne, heq⟩) | ⟨_, ⟨tail, rfl⟩ | ⟨tail, rfl⟩⟩
  · exact .inl (by rw [hcr]; decide)
  · exact .inl (by rw [hlf]; decide)
  · exact .inl (by rw [heq]; exact isQuote_wall quote (hquote.resolve_left hne))
  · exact .inr ⟨_, rfl⟩
  · exact .inr ⟨_, rfl⟩

theorem quoteBefore_quote (before : List UInt8) :
    quoteBefore before = 0 ∨ isQuote (quoteBefore before) = true := by
  unfold quoteBefore
  split
  · exact .inr ‹_›
  · exact .inl rfl

theorem spanEnds_start {before rest : List UInt8} (h : gcLogPathStart before rest = true) :
    spanEnds (quoteBefore before) rest = false := by
  obtain ⟨hstarter, -⟩ := isStarter_of_start h
  by_contra hends
  rw [Bool.not_eq_false] at hends
  rcases spanEnds_wall (quoteBefore_quote before) hends with hwall | ⟨tail, rfl⟩
  · rw [isWall, isStarter_word _ hstarter] at hwall
    exact absurd hwall Bool.false_ne_true
  · exact absurd (show isStarter (byte ' ') = true from hstarter) (by decide)

/-- A span has at least the byte it starts with. -/
theorem spanBytes_pos {before rest : List UInt8} (h : gcLogPathStart before rest = true) :
    0 < (spanBytes (quoteBefore before) rest).length := by
  have hends := spanEnds_start h
  cases rest with
  | nil => cases (isStarter_of_start h).1
  | cons c rest =>
    rw [spanBytes, hends]
    exact Nat.succ_pos _

theorem length_behind_span_lt {before rest : List UInt8} (h : gcLogPathStart before rest = true) :
    (rest.drop (spanBytes (quoteBefore before) rest).length).length < rest.length := by
  have hpos := spanBytes_pos h
  have hrest : 0 < rest.length := by
    cases rest with
    | nil => cases (isStarter_of_start h).1
    | cons c tail => exact Nat.succ_pos _
  rw [List.length_drop]
  omega

/-- The token of a span. -/
def spanToken (span : List UInt8) : List UInt8 := token "path" (span.foldl mix hashBasis)

/-- The loop of `gc_log_redact_paths`, with room for so many bytes. -/
def redactLoop (room : Nat) (before rest : List UInt8) : List UInt8 :=
  match rest with
  | [] => []
  | c :: tail =>
    if room = 0 then []
    else if _h : gcLogPathStart before (c :: tail) = true then
      let span := spanBytes (quoteBefore before) (c :: tail)
      (spanToken span).take room ++
        redactLoop (room - (spanToken span).length) (span.reverse ++ before)
          ((c :: tail).drop span.length)
    else c :: redactLoop (room - 1) (c :: before) tail
termination_by rest.length
decreasing_by
  · exact length_behind_span_lt _h
  · exact Nat.lt_succ_self _

/-- `gc_log_redact_paths`: what it leaves in a buffer of the given capacity. -/
def gcLogRedactPaths (input : List UInt8) (capacity : Nat) : List UInt8 :=
  if capacity = 0 then [] else redactLoop (capacity - 1) [] input

end GreenCurve.LogRedaction
