import GreenCurve.PathRedaction

/-! # A redacted line names no path

A line falls into the bytes that are copied and the spans that become tokens.  No path starts
in what is written: not in a token, and not at a copied byte, where the bytes that decide it
are copied as well.  For a slash these reach back to the command it is a switch of.  So a
second redaction changes nothing, and what is written depends on a span only through its
hash. -/

namespace GreenCurve.LogRedaction

variable {before rest : List UInt8}

/-! ## Segments -/

/-- A byte that is copied, or a span that becomes a token. -/
inductive Segment where
  | copy (c : UInt8)
  | span (bytes : List UInt8)
  deriving DecidableEq

def Segment.text : Segment → List UInt8
  | .copy c => [c]
  | .span bytes => bytes

/-- What is written for a segment. -/
def Segment.written : Segment → List UInt8
  | .copy c => [c]
  | .span bytes => spanToken bytes

/-- What a line falls into. -/
def segments : (before rest : List UInt8) → List Segment
  | _, [] => []
  | before, c :: tail =>
    if _h : gcLogPathStart before (c :: tail) = true then
      let span := spanBytes (quoteBefore before) (c :: tail)
      .span span :: segments (span.reverse ++ before) ((c :: tail).drop span.length)
    else .copy c :: segments (c :: before) tail
termination_by _ rest => rest.length
decreasing_by
  · exact length_behind_span_lt _h
  · exact Nat.lt_succ_self _

/-- All that there is to write. -/
def redacted (before rest : List UInt8) : List UInt8 :=
  (segments before rest).flatMap Segment.written

@[simp] theorem redacted_nil (before : List UInt8) : redacted before [] = [] := by
  rw [redacted, segments]
  rfl

theorem redacted_copy {c : UInt8} {tail : List UInt8}
    (h : gcLogPathStart before (c :: tail) = false) :
    redacted before (c :: tail) = c :: redacted (c :: before) tail := by
  rw [redacted, segments, dif_neg (by simp [h])]
  rfl

theorem redacted_span {c : UInt8} {tail : List UInt8}
    (h : gcLogPathStart before (c :: tail) = true) :
    redacted before (c :: tail) =
      spanToken (spanBytes (quoteBefore before) (c :: tail)) ++
        redacted ((spanBytes (quoteBefore before) (c :: tail)).reverse ++ before)
          ((c :: tail).drop (spanBytes (quoteBefore before) (c :: tail)).length) := by
  rw [redacted, segments, dif_pos h]
  rfl

theorem redactLoop_eq (room : Nat) (before rest : List UInt8) :
    redactLoop room before rest = (redacted before rest).take room := by
  fun_induction redactLoop room before rest with
  | case1 room before => simp
  | case2 before c tail => simp
  | case3 room before c tail hroom hstart span ih =>
    rw [redacted_span hstart, ih, List.take_append]
  | case4 room before c tail hroom hstart ih =>
    rw [redacted_copy (by simpa using hstart), ih]
    obtain ⟨k, rfl⟩ := Nat.exists_eq_succ_of_ne_zero hroom
    rfl

/-- With enough room, all of it is written. -/
theorem gcLogRedactPaths_eq {input : List UInt8} {capacity : Nat}
    (h : (redacted [] input).length < capacity) :
    gcLogRedactPaths input capacity = redacted [] input := by
  rw [gcLogRedactPaths, if_neg (Nat.ne_zero_of_lt h), redactLoop_eq]
  exact List.take_of_length_le (Nat.le_sub_one_of_lt h)

/-! ## Places where no path starts -/

/-- No path starts anywhere from a place on. -/
def NoStart : List UInt8 → List UInt8 → Prop
  | _, [] => True
  | before, c :: rest => gcLogPathStart before (c :: rest) = false ∧ NoStart (c :: before) rest

theorem start_inner (h : gcLogPathBoundary (before.headD 0) = false) (rest : List UInt8) :
    gcLogPathStart before rest = false := by
  unfold gcLogPathStart
  rw [h]
  rfl

theorem start_other (before : List UInt8) (h : isStarter (rest.headD 0) = false) :
    gcLogPathStart before rest = false := by
  by_contra hstart
  rw [Bool.not_eq_false] at hstart
  rw [(isStarter_of_start hstart).1] at h
  cases h

/-- In the inside of a word no path starts. -/
theorem NoStart.inner {word : List UInt8} (hword : ∀ c ∈ word, gcLogPathBoundary c = false)
    (hbefore : gcLogPathBoundary (before.headD 0) = false)
    (h : NoStart (word.reverse ++ before) rest) : NoStart before (word ++ rest) := by
  induction word generalizing before with
  | nil => exact h
  | cons c word ih =>
    refine ⟨start_inner hbefore _, ih (fun d hd => hword d (List.mem_cons_of_mem c hd)) ?_ ?_⟩
    · exact hword c List.mem_cons_self
    · simpa using h

theorem hexDigit_inner (hash shift : UInt64) : gcLogPathBoundary (hexDigit hash shift) = false := by
  have hall : ∀ k < 16, gcLogPathBoundary ((ascii "0123456789abcdef").getD k 0) = false := by
    decide
  have hsmall : ((hash >>> shift) &&& 0xF).toNat < 16 := by
    rw [UInt64.toNat_and]
    exact Nat.lt_succ_of_le Nat.and_le_right
  exact hall _ hsmall

/-- A token starts no path and ends in no boundary. -/
theorem NoStart.spanToken (span : List UInt8)
    (h : NoStart ((spanToken span).reverse ++ before) rest) :
    NoStart before (spanToken span ++ rest) := by
  have hsplit : LogRedaction.spanToken span = byte '[' :: (ascii "path" ++ byte ' ' :: byte '#' ::
      (hexDigits (span.foldl mix hashBasis) ++ ascii "]")) := by
    simp only [LogRedaction.spanToken, token, List.append_assoc]
    rfl
  rw [hsplit] at h ⊢
  rw [List.cons_append, List.append_assoc, List.cons_append, List.cons_append]
  have hword : (ascii "path").all (fun c => !gcLogPathBoundary c) = true := by decide
  refine ⟨start_other _ (show isStarter (byte '[') = false by decide), ?_⟩
  refine .inner (fun c hc => by simpa using List.all_eq_true.mp hword c hc)
    (show gcLogPathBoundary (byte '[') = false by decide) ?_
  refine ⟨start_other _ (show isStarter (byte ' ') = false by decide),
    start_other _ (show isStarter (byte '#') = false by decide), ?_⟩
  refine .inner (fun c hc => ?_) (show gcLogPathBoundary (byte '#') = false by decide)
    (by simpa using h)
  rcases List.mem_append.mp hc with hc | hc
  · obtain ⟨shift, -, rfl⟩ := List.mem_map.mp hc
    exact hexDigit_inner _ shift
  · obtain rfl := List.mem_singleton.mp hc
    decide

/-- A line in which no path starts is copied as it is. -/
theorem redacted_of_noStart (h : NoStart before rest) : redacted before rest = rest := by
  induction rest generalizing before with
  | nil => exact redacted_nil before
  | cons c rest ih => rw [redacted_copy h.1, ih h.2]

theorem NoStart.place (h : NoStart before rest) (k : Nat) :
    gcLogPathStart ((rest.take k).reverse ++ before) (rest.drop k) = false := by
  induction k generalizing before rest with
  | zero =>
    cases rest with
    | nil => exact start_other _ (show isStarter 0 = false by decide)
    | cons c rest => exact h.1
  | succ k ih =>
    cases rest with
    | nil => exact start_other _ (show isStarter 0 = false by decide)
    | cons c rest => simpa using ih h.2

/-! ## The walk to the command -/

theorem takeWhile_wall {p : UInt8 → Bool} {w : UInt8} (hw : p w = false) (pre x : List UInt8) :
    (pre ++ w :: x).takeWhile p = pre.takeWhile p := by
  induction pre with
  | nil => simp [hw]
  | cons c pre ih => simp [List.takeWhile_cons, ih]

theorem dropWhile_wall {p : UInt8 → Bool} {w : UInt8} (hw : p w = false) (pre x : List UInt8) :
    (pre ++ w :: x).dropWhile p = pre.dropWhile p ++ w :: x := by
  induction pre with
  | nil => simp [hw]
  | cons c pre ih =>
    rw [List.cons_append, List.dropWhile_cons, List.dropWhile_cons, ih]
    split <;> rfl

theorem isWall_iff {w : UInt8} :
    isWall w = true ↔ isWordByte w = false ∧ isBlankByte w = false := by
  simp [isWall]

theorem wordBefore_wall {w : UInt8} (hw : isWall w = true) (pre x : List UInt8) :
    wordBefore (pre ++ w :: x) = wordBefore pre := by
  obtain ⟨hword, hblank⟩ := isWall_iff.mp hw
  rw [wordBefore, dropWhile_wall hblank, takeWhile_wall hword, wordBefore]

theorem beforeWord_wall {w : UInt8} (hw : isWall w = true) (pre x : List UInt8) :
    beforeWord (pre ++ w :: x) = beforeWord pre ++ w :: x := by
  obtain ⟨hword, hblank⟩ := isWall_iff.mp hw
  rw [beforeWord, dropWhile_wall hblank, dropWhile_wall hword, beforeWord]

theorem commandBefore_eq (group : Nat) (before : List UInt8) :
    commandBefore group before =
      if wordBefore before = [] then false
      else if group = 1 ∧ (gcLogWordEqual (wordBefore before) "schtasks" = true ∨
          gcLogWordEqual (wordBefore before) "schtasks.exe" = true) then true
      else if group = 2 ∧ (gcLogWordEqual (wordBefore before) "setup" = true ∨
          gcLogWordEqual (wordBefore before) "setup.exe" = true) then true
      else if gcLogSwitchGroup (wordBefore before) ≠ group then false
      else commandBefore group (beforeWord before) := by
  rw [commandBefore]
  simp only [dite_eq_ite]

/-- What lies before a wall does not matter. -/
theorem commandBefore_wall (group : Nat) {w : UInt8} (hw : isWall w = true)
    (pre x y : List UInt8) :
    commandBefore group (pre ++ w :: x) = commandBefore group (pre ++ w :: y) := by
  induction hlength : pre.length using Nat.strong_induction_on generalizing pre with
  | _ n ih =>
    subst hlength
    rw [commandBefore_eq group (pre ++ w :: x), commandBefore_eq group (pre ++ w :: y),
      wordBefore_wall hw, wordBefore_wall hw, beforeWord_wall hw, beforeWord_wall hw]
    split
    · rfl
    · rename_i hword
      rw [ih _ (length_beforeWord_lt hword) _ rfl]

/-! ## What is read beside a copied byte is copied -/

/-- Two texts before a place that decide alike what starts there. -/
structure Alike (before out : List UInt8) : Prop where
  last : out.headD 0 = before.headD 0
  command : ∀ group, commandBefore group out = commandBefore group before

/-- The next byte of what is written is the next byte of the line, or opens a token. -/
theorem redacted_head (before rest : List UInt8) :
    (redacted before rest).headD 0 = rest.headD 0 ∨
      (redacted before rest).headD 0 = byte '[' := by
  cases rest with
  | nil => exact .inl (by rw [redacted_nil])
  | cons c tail =>
    cases hstart : gcLogPathStart before (c :: tail) with
    | false =>
      rw [redacted_copy hstart]
      exact .inl rfl
    | true =>
      rw [redacted_span hstart]
      exact .inr rfl

/-- So is the byte behind it, if the first does not open a token. -/
theorem redacted_second (before rest : List UInt8)
    (h : (redacted before rest).headD 0 ≠ byte '[') :
    (redacted before rest).getD 1 0 = rest.getD 1 0 ∨
      (redacted before rest).getD 1 0 = byte '[' := by
  cases rest with
  | nil => exact .inl (by rw [redacted_nil])
  | cons c tail =>
    cases hstart : gcLogPathStart before (c :: tail) with
    | false =>
      rw [redacted_copy hstart]
      have hhead := redacted_head (c :: before) tail
      cases htail : redacted (c :: before) tail <;> cases tail <;> simp_all
    | true =>
      rw [redacted_span hstart] at h
      exact absurd rfl h

/-- A word is copied to its end. -/
theorem redacted_word {c : UInt8} (hc : isWordByte c = true) (before rest : List UInt8) :
    (redacted (c :: before) rest).takeWhile isWordByte = rest.takeWhile isWordByte := by
  induction rest generalizing c before with
  | nil => rw [redacted_nil]
  | cons d rest ih =>
    have hinner : gcLogPathBoundary ((c :: before).headD 0) = false := by
      simp only [isWordByte, Bool.and_eq_true, Bool.not_eq_true'] at hc
      exact hc.1
    rw [redacted_copy (start_inner hinner _), List.takeWhile_cons, List.takeWhile_cons]
    cases hd : isWordByte d with
    | false => rfl
    | true => simp [ih hd]

/-- A switch of the line is one of what is written. -/
theorem windowsSwitch_written {out : List UInt8} (halike : Alike before out) {c : UInt8}
    (hc : isWordByte c = true) (tail : List UInt8) :
    gcLogWindowsSwitch out (c :: redacted (c :: before) tail) =
      gcLogWindowsSwitch before (c :: tail) := by
  unfold gcLogWindowsSwitch
  rw [halike.last, List.takeWhile_cons, List.takeWhile_cons, if_pos hc, if_pos hc,
    redacted_word hc before tail]
  simp only [halike.command]

/-- The bytes of a drive, a share or a relative path. -/
def NamesPath (p0 p1 p2 : UInt8) : Prop :=
  (isLetter p0 = true ∧ p1 = byte ':' ∧ (p2 = byte '\\' ∨ p2 = byte '/')) ∨
    (p0 = byte '\\' ∧ p1 = byte '\\') ∨ (p0 = byte '.' ∧ (p1 = byte '\\' ∨ p1 = byte '/'))

theorem start_iff : gcLogPathStart before rest = true ↔
    gcLogPathBoundary (before.headD 0) = true ∧
      (NamesPath (rest.headD 0) (rest.getD 1 0) (rest.getD 2 0) ∨
        (rest.headD 0 = byte '/' ∧ rest.getD 1 0 ≠ 0 ∧ rest.getD 1 0 ≠ byte '/' ∧
          rest.getD 1 0 ≠ byte ' ' ∧ rest.getD 1 0 ≠ byte '\n' ∧
            gcLogWindowsSwitch before rest = false)) := by
  unfold gcLogPathStart NamesPath
  dsimp only
  cases gcLogPathBoundary (before.headD 0) with
  | false => simp
  | true =>
    rw [Bool.not_true, if_neg Bool.false_ne_true]
    split
    · rename_i hdrive
      simp only [Bool.and_eq_true, Bool.or_eq_true, beq_iff_eq] at hdrive
      exact iff_of_true rfl ⟨rfl, .inl (.inl ⟨hdrive.1.1, hdrive.1.2, hdrive.2⟩)⟩
    split
    · rename_i hshare
      simp only [Bool.and_eq_true, beq_iff_eq] at hshare
      exact iff_of_true rfl ⟨rfl, .inl (.inr (.inl hshare))⟩
    split
    · rename_i hrelative
      simp only [Bool.and_eq_true, Bool.or_eq_true, beq_iff_eq] at hrelative
      exact iff_of_true rfl ⟨rfl, .inl (.inr (.inr hrelative))⟩
    rename_i hdrive hshare hrelative
    simp only [Bool.and_eq_true, Bool.or_eq_true, beq_iff_eq, and_assoc] at hdrive hshare hrelative
    simp only [hdrive, hshare, hrelative, false_or, true_and]
    split
    · rename_i hother
      simp only [Bool.or_eq_true, beq_iff_eq, bne_iff_ne] at hother
      refine iff_of_false Bool.false_ne_true ?_
      rintro ⟨hslash, hzero, htwice, hspace, hline, -⟩
      rcases hother with (((h | h) | h) | h) | h
      · exact h hslash
      · exact hzero h
      · exact htwice h
      · exact hspace h
      · exact hline h
    · rename_i hslash
      simp only [Bool.or_eq_true, beq_iff_eq, bne_iff_ne, not_or, not_not] at hslash
      obtain ⟨⟨⟨⟨hslash, hzero⟩, htwice⟩, hspace⟩, hline⟩ := hslash
      rw [Bool.not_eq_true']
      exact ⟨fun h => ⟨hslash, hzero, htwice, hspace, hline, h⟩, fun h => h.2.2.2.2.2⟩

/-- **At a copied byte no path starts** in what is written. -/
theorem start_written {out : List UInt8} (halike : Alike before out) {c : UInt8}
    {tail : List UInt8} (h : gcLogPathStart before (c :: tail) = false) :
    gcLogPathStart out (c :: redacted (c :: before) tail) = false := by
  by_contra hstart
  rw [Bool.not_eq_false, start_iff, halike.last] at hstart
  obtain ⟨hboundary, hstart⟩ := hstart
  refine Bool.eq_false_iff.mp h (start_iff.mpr ⟨hboundary, ?_⟩)
  -- The bytes looked at are none that a token opens with, so they are copied.
  have hfirst : ∀ d, (redacted (c :: before) tail).headD 0 = d → d ≠ byte '[' →
      tail.headD 0 = d := by
    rintro d rfl hd
    exact ((redacted_head (c :: before) tail).resolve_right hd).symm
  have hsecond : ∀ d e, (redacted (c :: before) tail).headD 0 = d → d ≠ byte '[' →
      (redacted (c :: before) tail).getD 1 0 = e → e ≠ byte '[' → tail.getD 1 0 = e := by
    rintro d e rfl hd rfl he
    exact ((redacted_second (c :: before) tail hd).resolve_right he).symm
  have hone : ∀ text : List UInt8, (c :: text).getD 1 0 = text.headD 0 := by
    intro text
    cases text <;> rfl
  rw [hone, List.getD_cons_succ, List.headD_cons] at hstart
  rw [hone, List.getD_cons_succ, List.headD_cons]
  rcases hstart with (⟨hletter, hcolon, hslash⟩ | ⟨hc, hshare⟩ | ⟨hc, hslash⟩) |
    ⟨hc, hzero, hslash, hspace, hline, hswitch⟩
  · refine .inl (.inl ⟨hletter, hfirst _ hcolon (by decide), ?_⟩)
    exact hslash.imp (fun h => hsecond _ _ hcolon (by decide) h (by decide))
      fun h => hsecond _ _ hcolon (by decide) h (by decide)
  · exact .inl (.inr (.inl ⟨hc, hfirst _ hshare (by decide)⟩))
  · refine .inl (.inr (.inr ⟨hc, ?_⟩))
    exact hslash.imp (fun h => hfirst _ h (by decide)) fun h => hfirst _ h (by decide)
  · subst hc
    -- What follows a slash never opens a token, and its switch is a switch of the line.
    have hcopied : (redacted (byte '/' :: before) tail).headD 0 = tail.headD 0 := by
      have hinner : gcLogPathBoundary ((byte '/' :: before).headD 0) = false :=
        show gcLogPathBoundary (byte '/') = false by decide
      cases tail with
      | nil => rw [redacted_nil]
      | cons d tail =>
        rw [redacted_copy (start_inner hinner _)]
        rfl
    rw [hcopied] at hzero hslash hspace hline
    rw [windowsSwitch_written halike (by decide)] at hswitch
    exact .inr ⟨rfl, hzero, hslash, hspace, hline, hswitch⟩

/-! ## The places of what is written -/

/-- What is written so far agrees with the line before a place: wholly, up to a wall, or not
yet, since a token has just ended. -/
inductive Aligned : List UInt8 → List UInt8 → List UInt8 → Prop
  | same (text rest : List UInt8) : Aligned text text rest
  | wall {w : UInt8} (hw : isWall w = true) (pre x y rest : List UInt8) :
      Aligned (pre ++ w :: x) (pre ++ w :: y) rest
  | fresh {rest : List UInt8} (x y : List UInt8)
      (ends : isWall (rest.headD 0) = true ∨ ∃ tail, rest = byte ' ' :: byte '(' :: tail) :
      Aligned x (byte ']' :: y) rest
  | blank (x y tail : List UInt8) :
      Aligned (byte ' ' :: x) (byte ' ' :: byte ']' :: y) (byte '(' :: tail)

/-- It stays so when a byte is copied. -/
theorem Aligned.copy {out : List UInt8} {c : UInt8} {tail : List UInt8}
    (h : Aligned before out (c :: tail)) : Aligned (c :: before) (c :: out) tail := by
  cases h with
  | same => exact .same _ _
  | wall hw pre x y => exact .wall hw (c :: pre) x y tail
  | fresh _ y ends =>
    rcases ends with hwall | ⟨tail, heq⟩
    · exact .wall hwall [] before (byte ']' :: y) tail
    · obtain ⟨rfl, rfl⟩ := List.cons.inj heq
      exact .blank before y tail
  | blank x y => exact .wall (by decide) [] (byte ' ' :: x) (byte ' ' :: byte ']' :: y) tail

/-- A path can only start in what is written where both texts decide alike. -/
theorem Aligned.alike {out : List UInt8} {c : UInt8} {tail text : List UInt8}
    (h : Aligned before out (c :: tail)) (hstart : gcLogPathStart out (c :: text) = true) :
    Alike before out := by
  obtain ⟨hstarter, hboundary⟩ := isStarter_of_start hstart
  cases h with
  | same => exact ⟨rfl, fun _ => rfl⟩
  | wall hw pre x y =>
    refine ⟨?_, fun group => commandBefore_wall group hw pre y x⟩
    cases pre <;> rfl
  | fresh x y ends => exact absurd hboundary (show ¬gcLogPathBoundary (byte ']') = true by decide)
  | blank x y => exact absurd hstarter (show ¬isStarter (byte '(') = true by decide)

/-- What follows a span ends it. -/
theorem drop_spanBytes (quote : UInt8) (rest : List UInt8) :
    rest.drop (spanBytes quote rest).length = [] ∨
      spanEnds quote (rest.drop (spanBytes quote rest).length) = true := by
  induction rest with
  | nil => exact .inl rfl
  | cons c rest ih =>
    rw [spanBytes]
    split
    · exact .inr ‹_›
    · simpa using ih

theorem Aligned.span {out : List UInt8} (before : List UInt8) (rest : List UInt8) :
    Aligned ((spanBytes (quoteBefore before) rest).reverse ++ before)
      ((spanToken (spanBytes (quoteBefore before) rest)).reverse ++ out)
      (rest.drop (spanBytes (quoteBefore before) rest).length) := by
  obtain ⟨y, hy⟩ : ∃ y, (spanToken (spanBytes (quoteBefore before) rest)).reverse
      = byte ']' :: y := by
    rw [spanToken, token, List.reverse_append]
    exact ⟨_, rfl⟩
  rw [hy]
  refine .fresh _ (y ++ out) ?_
  rcases drop_spanBytes (quoteBefore before) rest with hnil | hends
  · rw [hnil]
    exact .inl (by decide)
  · exact spanEnds_wall (quoteBefore_quote before) hends

/-- **No path starts in what is written.** -/
theorem noStart_redacted {out : List UInt8} (h : Aligned before out rest) :
    NoStart out (redacted before rest) := by
  induction hlength : rest.length using Nat.strong_induction_on generalizing before out rest with
  | _ n ih =>
    subst hlength
    cases rest with
    | nil =>
      rw [redacted_nil]
      trivial
    | cons c tail =>
      cases hstart : gcLogPathStart before (c :: tail) with
      | false =>
        rw [redacted_copy hstart]
        refine ⟨?_, ih _ (Nat.lt_succ_self _) h.copy rfl⟩
        by_contra hwritten
        rw [Bool.not_eq_false] at hwritten
        rw [start_written (h.alike hwritten) hstart] at hwritten
        cases hwritten
      | true =>
        rw [redacted_span hstart]
        exact .spanToken _ (ih _ (length_behind_span_lt hstart) (.span before (c :: tail)) rfl)

/-! ## Lines that differ in their spans -/

/-- The same byte is copied, or both are spans. -/
inductive Segment.Alike : Segment → Segment → Prop
  | copy (c : UInt8) : Segment.Alike (.copy c) (.copy c)
  | span (first second : List UInt8) : Segment.Alike (.span first) (.span second)

/-- Two lines differ only in the bytes of their redacted spans. -/
def SameOutsideSpans (first second : List UInt8) : Prop :=
  List.Forall₂ Segment.Alike (segments [] first) (segments [] second)

/-- A place among the digits of a token. -/
def TokenDigit (text : List UInt8) (k : Nat) : Prop :=
  ∃ pre hash post, text = pre ++ token "path" hash ++ post ∧
    pre.length + 7 ≤ k ∧ k < pre.length + 23

/-- Two texts differ only in the hash digits of their tokens. -/
def DifferInDigits (first second : List UInt8) : Prop :=
  ∀ k : Nat, first[k]? = second[k]? ∨ (TokenDigit first k ∧ TokenDigit second k)

theorem TokenDigit.front (hash : UInt64) (post : List UInt8) {k : Nat} (h : 7 ≤ k ∧ k < 23) :
    TokenDigit (token "path" hash ++ post) k :=
  ⟨[], hash, post, by rw [List.nil_append], by simpa using h⟩

theorem TokenDigit.append {text : List UInt8} {k : Nat} (h : TokenDigit text k)
    (front : List UInt8) : TokenDigit (front ++ text) (front.length + k) := by
  obtain ⟨pre, hash, post, rfl, hlow, hhigh⟩ := h
  refine ⟨front ++ pre, hash, post, by simp, ?_, ?_⟩
  · rw [List.length_append]
    omega
  · rw [List.length_append]
    omega

theorem token_eq (hash : UInt64) :
    token "path" hash = ascii "[path #" ++ (hexDigits hash ++ ascii "]") := by
  simp only [token, List.append_assoc]
  rfl

@[simp] theorem length_token (hash : UInt64) : (token "path" hash).length = 24 := rfl

/-- Two tokens differ in their digits. -/
theorem token_differs (first second : UInt64) {k : Nat} (hk : k < 24)
    (hdigit : ¬(7 ≤ k ∧ k < 23)) : (token "path" first)[k]? = (token "path" second)[k]? := by
  rw [token_eq, token_eq]
  by_cases hlow : k < 7
  · rw [List.getElem?_append_left (show k < (ascii "[path #").length from hlow),
      List.getElem?_append_left (show k < (ascii "[path #").length from hlow)]
  · have hdigits : ∀ hash, (hexDigits hash).length = 16 := fun _ => rfl
    have hprefix : (ascii "[path #").length = 7 := by decide
    obtain rfl : k = 7 + (16 + 0) := by omega
    rw [← hprefix, List.getElem?_append_right (Nat.le_add_right ..),
      List.getElem?_append_right (Nat.le_add_right ..), Nat.add_sub_cancel_left,
      ← hdigits first, List.getElem?_append_right (Nat.le_add_right ..), Nat.add_sub_cancel_left,
      hdigits, ← hdigits second, List.getElem?_append_right (Nat.le_add_right ..),
      Nat.add_sub_cancel_left]

theorem DifferInDigits.append {first second front back : List UInt8}
    (hlength : front.length = back.length) (hdiffer : ∀ k < front.length, front[k]? = back[k]? ∨
      (TokenDigit (front ++ first) k ∧ TokenDigit (back ++ second) k))
    (h : DifferInDigits first second) : DifferInDigits (front ++ first) (back ++ second) := by
  intro k
  by_cases hk : k < front.length
  · rw [List.getElem?_append_left hk, List.getElem?_append_left (hlength ▸ hk)]
    exact hdiffer k hk
  · obtain ⟨j, rfl⟩ := Nat.exists_eq_add_of_le (Nat.not_lt.mp hk)
    rw [List.getElem?_append_right (Nat.le_add_right ..), Nat.add_sub_cancel_left,
      List.getElem?_append_right (by omega), hlength, Nat.add_sub_cancel_left]
    rcases h j with hsame | ⟨hfirst, hsecond⟩
    · exact .inl hsame
    · refine .inr ⟨?_, hsecond.append back⟩
      rw [← hlength]
      exact hfirst.append front

theorem differInDigits_of_alike {first second : List Segment}
    (h : List.Forall₂ Segment.Alike first second) :
    DifferInDigits (first.flatMap Segment.written) (second.flatMap Segment.written) := by
  induction h with
  | nil => exact fun _ => .inl rfl
  | @cons s t first second halike _ ih =>
    rw [List.flatMap_cons, List.flatMap_cons]
    cases halike with
    | copy c => exact .append rfl (fun _ _ => .inl rfl) ih
    | span a b =>
      have hwritten : ∀ bytes, (Segment.span bytes).written.length = 24 := fun _ => length_token _
      refine .append ((hwritten a).trans (hwritten b).symm) (fun k hk => ?_) ih
      rw [hwritten] at hk
      by_cases hdigit : 7 ≤ k ∧ k < 23
      · exact .inr ⟨.front _ _ hdigit, .front _ _ hdigit⟩
      · exact .inl (token_differs _ _ hk hdigit)

/-! ## The law -/

/-- 24 bytes for each byte of the line are room enough. -/
theorem length_redacted_le (before rest : List UInt8) :
    (redacted before rest).length ≤ 24 * rest.length := by
  induction hlength : rest.length using Nat.strong_induction_on generalizing before rest with
  | _ n ih =>
    subst hlength
    cases rest with
    | nil => rw [redacted_nil, List.length_nil]
    | cons c tail =>
      cases hstart : gcLogPathStart before (c :: tail) with
      | false =>
        have htail := ih _ (Nat.lt_succ_self _) (c :: before) tail rfl
        rw [redacted_copy hstart, List.length_cons, List.length_cons]
        omega
      | true =>
        have hpos := spanBytes_pos hstart
        have hdrop := List.length_drop (l := c :: tail)
          (i := (spanBytes (quoteBefore before) (c :: tail)).length)
        have htail := ih _ (length_behind_span_lt hstart)
          ((spanBytes (quoteBefore before) (c :: tail)).reverse ++ before) _ rfl
        rw [redacted_span hstart, List.length_append, spanToken, length_token]
        rw [hdrop, List.length_cons] at htail
        rw [List.length_cons]
        omega

/-- **The law of a redacted line.**  With room enough no path starts in what is written, a
second redaction changes nothing, and a line that differs in the bytes of its redacted spans
gives a text that differs in the hash digits of its tokens. -/
theorem redact_paths_law (input : CString) {capacity : Nat}
    (henough : (redacted [] input.bytes).length < capacity) :
    let output := gcLogRedactPaths input.bytes capacity
    (∀ k, gcLogPathStart (output.take k).reverse (output.drop k) = false) ∧
      (∀ again, output.length < again → gcLogRedactPaths output again = output) ∧
      ∀ (other : CString) (room : Nat), (redacted [] other.bytes).length < room →
        SameOutsideSpans input.bytes other.bytes →
          DifferInDigits output (gcLogRedactPaths other.bytes room) := by
  intro output
  have houtput : output = redacted [] input.bytes := gcLogRedactPaths_eq henough
  have hnone : NoStart [] output := houtput ▸ noStart_redacted (.same [] _)
  have hstable : redacted [] output = output := redacted_of_noStart hnone
  refine ⟨fun k => ?_, fun again hagain => ?_, fun other room hroom hsame => ?_⟩
  · simpa using hnone.place k
  · rw [gcLogRedactPaths_eq (by rwa [hstable]), hstable]
  · rw [houtput, gcLogRedactPaths_eq hroom]
    exact differInDigits_of_alike hsame

/-- A line that is one span. -/
theorem segments_whole {c : UInt8} {tail : List UInt8}
    (hstart : gcLogPathStart before (c :: tail) = true)
    (hspan : spanBytes (quoteBefore before) (c :: tail) = c :: tail) :
    segments before (c :: tail) = [.span (c :: tail)] := by
  rw [segments, dif_pos hstart]
  dsimp only
  rw [hspan, List.drop_length, segments]

/-- Two names on a drive. -/
theorem redact_paths_law_drive :
    let output := gcLogRedactPaths (ascii "X:\\a") 200
    gcLogRedactPaths output 200 = output ∧
      DifferInDigits output (gcLogRedactPaths (ascii "X:\\b") 200) := by
  intro output
  have hfirst : gcLogPathStart [] (ascii "X:\\a") = true := by decide +kernel
  have hsecond : gcLogPathStart [] (ascii "X:\\b") = true := by decide +kernel
  have hfirstSpan : spanBytes (quoteBefore []) (ascii "X:\\a") = ascii "X:\\a" := by decide
  have hsecondSpan : spanBytes (quoteBefore []) (ascii "X:\\b") = ascii "X:\\b" := by decide
  have hsame : SameOutsideSpans (ascii "X:\\a") (ascii "X:\\b") := by
    rw [SameOutsideSpans]
    exact segments_whole hfirst hfirstSpan ▸ segments_whole hsecond hsecondSpan ▸
      .cons (.span _ _) .nil
  have henough : ∀ text : List UInt8, text.length = 4 → (redacted [] text).length < 200 :=
    fun text hlength => (length_redacted_le [] text).trans_lt (by rw [hlength]; decide)
  obtain ⟨-, hstable, hdiffer⟩ :=
    redact_paths_law ⟨ascii "X:\\a", by decide⟩ (henough _ (by decide))
  refine ⟨hstable 200 ?_, hdiffer ⟨ascii "X:\\b", by decide⟩ 200 (henough _ (by decide)) hsame⟩
  rw [gcLogRedactPaths_eq (henough _ (by decide))]
  exact henough _ (by decide)

end GreenCurve.LogRedaction
