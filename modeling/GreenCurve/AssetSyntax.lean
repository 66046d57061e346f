import Mathlib.Data.List.DropRight
import Mathlib.Tactic.Common

/-! # The grammars of the generated files

What a desktop entry and a systemd unit make of a line.  A desktop entry decodes its string
values first and then the quoted argument of a command; a unit takes C escapes out of a
quoted argument and expands specifiers and variables after that.  A text is read only where
its meaning does not depend on the machine: a specifier or a variable has none here, and an
escape the grammar does not list has none either.  A character is the byte of its code. -/

namespace GreenCurve.AssetSyntax

abbrev Text := List Char

/-- The value of the first line of a key. -/
def lineValue (key : Text) (file : Text) : Option Text :=
  (file.splitOn '\n').findSome? fun line =>
    if key ++ ['='] <+: line then some (line.drop (key.length + 1)) else none

/-- A character that stands for itself only when it stands twice. -/
def double (d : Char) (text : Text) : Text := text.flatMap fun c => if c = d then [d, d] else [c]

def undouble (d : Char) : Text → Option Text
  | [] => some []
  | [c] => if c = d then none else some [c]
  | c :: c' :: rest =>
    if c = d then
      if c' = d then (undouble d rest).map (d :: ·) else none
    else (undouble d (c' :: rest)).map (c :: ·)

/-! ## Desktop entries -/

/-- The escapes of a string value. -/
def stringEscape (c : Char) : Option Char :=
  if c = 's' then some ' '
  else if c = 'n' then some '\n'
  else if c = 't' then some '\t'
  else if c = 'r' then some '\r'
  else if c = '\\' then some '\\'
  else none

def stringValue : Text → Option Text
  | [] => some []
  | [c] => if c = '\\' then none else some [c]
  | c :: c' :: rest =>
    if c = '\\' then (stringEscape c').bind fun d => (stringValue rest).map (d :: ·)
    else (stringValue (c' :: rest)).map (c :: ·)

/-- What must stand behind a backslash in a quoted argument. -/
def execReserved : Text := ['"', '`', '$', '\\']

/-- A quoted argument, up to its closing quote, and what follows it. -/
def execQuoted : Text → Option (Text × Text)
  | [] => none
  | [c] => if c = '"' then some ([], []) else none
  | c :: c' :: rest =>
    if c = '"' then some ([], c' :: rest)
    else if c = '\\' then
      if c' ∈ execReserved then (execQuoted rest).map fun r => (c' :: r.1, r.2) else none
    else if c = '`' ∨ c = '$' then none
    else (execQuoted (c' :: rest)).map fun r => (c :: r.1, r.2)

/-- The argument of `sh -lc` in the command of a desktop entry. -/
def desktopArgument (file : Text) : Option Text := do
  let command ← (lineValue "Exec".toList file).bind stringValue
  if "sh -lc \"".toList <+: command then
    let (argument, rest) ← execQuoted (command.drop 8)
    if rest = [] then undouble '%' argument else none
  else none

/-! ## Units -/

def digitValue (c : Char) : Nat :=
  if '0' ≤ c ∧ c ≤ '9' then c.toNat - 48
  else if 'a' ≤ c ∧ c ≤ 'f' then c.toNat - 87
  else if 'A' ≤ c ∧ c ≤ 'F' then c.toNat - 55
  else 16

def isDigit (base : Nat) (c : Char) : Bool := digitValue c < base

/-- The number that so many digits begin with. -/
def number (base count : Nat) (text : Text) : Option Nat :=
  if (text.take count).length = count ∧ (text.take count).all (isDigit base) then
    some ((text.take count).foldl (fun n c => n * base + digitValue c) 0)
  else none

/-- A code point as the bytes of its encoding. -/
def codePoint (n : Nat) : Option Text :=
  if 0 < n ∧ n.isValidChar then
    some ((String.utf8EncodeChar (Char.ofNat n)).map fun b => Char.ofNat b.toNat)
  else none

def byteChar (n : Nat) : Option Text := if 0 < n ∧ n < 256 then some [Char.ofNat n] else none

/-- The escapes of one letter. -/
def letterEscape (c : Char) : Option Char :=
  if c = 'a' then some '\x07'
  else if c = 'b' then some '\x08'
  else if c = 'f' then some '\x0c'
  else if c = 'n' then some '\n'
  else if c = 'r' then some '\r'
  else if c = 't' then some '\t'
  else if c = 'v' then some '\x0b'
  else if c = '\\' ∨ c = '"' ∨ c = '\'' then some c
  else if c = 's' then some ' '
  else none

/-- A C escape behind its backslash: what it stands for, and its length. -/
def readEscape : Text → Option (Text × Nat)
  | [] => none
  | c :: rest =>
    match letterEscape c with
    | some d => some ([d], 1)
    | none =>
      if c = 'x' then ((number 16 2 rest).bind byteChar).map (·, 3)
      else if c = 'u' then ((number 16 4 rest).bind codePoint).map (·, 5)
      else if c = 'U' then ((number 16 8 rest).bind codePoint).map (·, 9)
      else ((number 8 3 (c :: rest)).bind byteChar).map (·, 3)

/-- A quoted argument up to its closing quote, and what follows; `skip` characters of an
escape are still to be passed over. -/
def unquote : Nat → Text → Option (Text × Text)
  | _, [] => none
  | skip + 1, _ :: rest => unquote skip rest
  | 0, c :: rest =>
    if c = '"' then some ([], rest)
    else if c = '\\' then
      match readEscape rest with
      | none => none
      | some (text, length) => (unquote length rest).map fun r => (text ++ r.1, r.2)
    else (unquote 0 rest).map fun r => (c :: r.1, r.2)

/-- The value of a directive: blanks around it go, and one that ends in a backslash goes on
in the next line. -/
def unitValue (key : Text) (file : Text) : Option Text :=
  (lineValue key file).bind fun value =>
    if value.getLast? = some '\\' then none
    else some ((value.dropWhile (· = ' ')).rdropWhile (· = ' '))

/-- The argument of `/bin/sh -lc` in the command of a unit. -/
def unitArgument (file : Text) : Option Text := do
  let command ← unitValue "ExecStart".toList file
  if "/bin/sh -lc \"".toList <+: command then
    let (argument, rest) ← unquote 0 (command.drop 13)
    if rest = [] then (undouble '%' argument).bind (undouble '$') else none
  else none

/-- A mark in front of a condition, with the blanks behind it. -/
def dropMark (mark : Char) : Text → Text
  | [] => []
  | c :: rest => if c = mark then rest.dropWhile (· = ' ') else c :: rest

/-- The path of a condition: marks in front of it say what to make of the answer. -/
def conditionPath (file : Text) : Option Text :=
  (unitValue "ConditionPathExists".toList file).bind fun value =>
    undouble '%' (dropMark '!' (dropMark '|' value))

/-! ## Doubled characters -/

example : undouble '%' ['5', '%', '%'] = some ['5', '%'] := by
  rw [undouble, undouble, undouble]
  decide

theorem undouble_cons {d c : Char} (h : c ≠ d) (text : Text) :
    undouble d (c :: text) = (undouble d text).map (c :: ·) := by
  cases text with
  | nil => simp [undouble, h]
  | cons c' rest => rw [undouble, if_neg h]

theorem undouble_double (d : Char) (text : Text) : undouble d (double d text) = some text := by
  induction text with
  | nil => rfl
  | cons c rest ih =>
    rw [double, List.flatMap_cons]
    by_cases hc : c = d
    · subst hc
      rw [if_pos rfl]
      change undouble c (c :: c :: double c rest) = _
      rw [undouble, if_pos rfl, if_pos rfl, ih]
      rfl
    · rw [if_neg hc, List.singleton_append, undouble_cons hc]
      change (undouble d (double d rest)).map _ = _
      rw [ih]
      rfl

/-- Only the doubled text is read as the text. -/
theorem double_of_undouble {d : Char} {text plain : Text} (h : undouble d text = some plain) :
    text = double d plain := by
  fun_induction undouble d text generalizing plain with
  | case1 => rw [← Option.some.inj h]; rfl
  | case2 => cases h
  | case3 c hc =>
    rw [← Option.some.inj h]
    simp [double, hc]
  | case4 rest ih =>
    obtain ⟨p, hp, rfl⟩ := Option.map_eq_some_iff.mp h
    simp only [double, List.flatMap_cons, if_pos]
    exact congrArg _ (congrArg _ (ih hp))
  | case5 => cases h
  | case6 c c' rest hc ih =>
    obtain ⟨p, hp, rfl⟩ := Option.map_eq_some_iff.mp h
    simp only [double, List.flatMap_cons, if_neg hc, List.singleton_append]
    exact congrArg _ (ih hp)

theorem double_append (d : Char) (a b : Text) : double d (a ++ b) = double d a ++ double d b :=
  List.flatMap_append

theorem mem_double {d c : Char} {text : Text} : c ∈ double d text ↔ c ∈ text := by
  simp only [double, List.mem_flatMap]
  constructor
  · rintro ⟨a, ha, hc⟩
    split at hc
    · rename_i had
      have hcd : c = d := by simpa using hc
      rwa [hcd, ← had]
    · rwa [List.mem_singleton.mp hc]
  · intro hc
    refine ⟨c, hc, ?_⟩
    split <;> simp [*]

theorem length_double (d : Char) (text : Text) :
    (double d text).length = text.length + text.count d := by
  induction text with
  | nil => rfl
  | cons c rest ih =>
    have hcons : double d (c :: rest) = (if c = d then [d, d] else [c]) ++ double d rest := rfl
    rw [hcons, List.length_append, ih, List.length_cons, List.count_cons]
    by_cases hc : c = d
    · simp [hc]
      omega
    · simp [hc]
      omega

theorem count_double_self (d : Char) (text : Text) :
    (double d text).count d = 2 * text.count d := by
  induction text with
  | nil => rfl
  | cons c rest ih =>
    have hcons : double d (c :: rest) = (if c = d then [d, d] else [c]) ++ double d rest := rfl
    rw [hcons, List.count_append, ih, List.count_cons]
    by_cases hc : c = d
    · simp [hc]
      omega
    · simp [hc]

theorem count_double_of_ne {d e : Char} (h : e ≠ d) (text : Text) :
    (double d text).count e = text.count e := by
  induction text with
  | nil => rfl
  | cons c rest ih =>
    have hcons : double d (c :: rest) = (if c = d then [d, d] else [c]) ++ double d rest := rfl
    rw [hcons, List.count_append, ih, List.count_cons]
    by_cases hc : c = d
    · simp [hc, Ne.symm h]
    · simp [hc, List.count_cons, Nat.add_comm]

/-! ## Quoted arguments of a unit -/

theorem number_eq_some {base count n : Nat} {text : Text} (h : number base count text = some n) :
    ∃ digits rest, text = digits ++ rest ∧ digits.length = count ∧
      ∀ c ∈ digits, isDigit base c = true := by
  unfold number at h
  split at h
  · rename_i hdigits
    exact ⟨text.take count, text.drop count, (List.take_append_drop count text).symm, hdigits.1,
      List.all_eq_true.mp hdigits.2⟩
  · cases h

/-- What an escape is: a character and the digits behind it, longer than what it stands
for. -/
structure IsEscape (out : Text) (size : Nat) (first : Char) (digits : Text) : Prop where
  hex : ∀ c ∈ digits, isDigit 16 c = true
  size_eq : size = digits.length + 1
  shorter : out.length ≤ size
  quote : first = '\'' → out = ['\'']
  percent : first ≠ '%'
  dollar : first ≠ '$'

theorem isDigit_mono {base : Nat} {c : Char} (hbase : base ≤ 16) (h : isDigit base c = true) :
    isDigit 16 c = true := by
  simp only [isDigit, decide_eq_true_eq] at h ⊢
  omega

theorem length_codePoint {n : Nat} {out : Text} (h : codePoint n = some out) : out.length ≤ 4 := by
  unfold codePoint at h
  split at h
  · rw [← Option.some.inj h, List.length_map, String.length_utf8EncodeChar]
    exact Char.utf8Size_le_four _
  · cases h

theorem length_byteChar {n : Nat} {out : Text} (h : byteChar n = some out) : out.length = 1 := by
  unfold byteChar at h
  split at h
  · rw [← Option.some.inj h]
    rfl
  · cases h

/-- A letter with so many digits behind it. -/
theorem isEscape_of_number {c : Char} {rest out : Text} {base count size : Nat}
    {f : Nat → Option Text} (hbase : base ≤ 16)
    (h : ((number base count rest).bind f).map (·, count + 1) = some (out, size))
    (hf : ∀ n o, f n = some o → o.length ≤ count + 1) (hquote : c ≠ '\'') (hpercent : c ≠ '%')
    (hdollar : c ≠ '$') :
    ∃ first digits tail, c :: rest = first :: (digits ++ tail) ∧
      IsEscape out size first digits := by
  obtain ⟨o, hbind, hpair⟩ := Option.map_eq_some_iff.mp h
  obtain ⟨rfl, rfl⟩ := Prod.mk.inj hpair
  obtain ⟨n, hn, ho⟩ := Option.bind_eq_some_iff.mp hbind
  obtain ⟨digits, tail, rfl, hlength, hdigit⟩ := number_eq_some hn
  exact ⟨c, digits, tail, rfl, fun d hd => isDigit_mono hbase (hdigit d hd), by rw [hlength],
    hf n o ho, fun heq => absurd heq hquote, hpercent, hdollar⟩

theorem readEscape_eq_some {text out : Text} {size : Nat} (h : readEscape text = some (out, size)) :
    ∃ first digits tail, text = first :: (digits ++ tail) ∧ IsEscape out size first digits := by
  cases text with
  | nil => cases h
  | cons c rest =>
    unfold readEscape at h
    cases hletter : letterEscape c with
    | some d =>
      simp only [hletter, Option.some.injEq, Prod.mk.injEq] at h
      obtain ⟨rfl, rfl⟩ := h
      refine ⟨c, [], rest, rfl, by simp, rfl, Nat.le_refl 1, ?_, ?_, ?_⟩
      · rintro rfl
        rw [← Option.some.inj hletter]
      · rintro rfl
        cases hletter
      · rintro rfl
        cases hletter
    | none =>
      have hquote : c ≠ '\'' := by
        rintro rfl
        cases hletter
      have hbyte : ∀ {count : Nat} (n : Nat) (o : Text), byteChar n = some o →
          o.length ≤ count + 1 := fun n o ho => by
        rw [length_byteChar ho]
        exact Nat.le_add_left 1 _
      have hcode : ∀ {count : Nat}, 4 ≤ count + 1 → ∀ (n : Nat) (o : Text),
          codePoint n = some o → o.length ≤ count + 1 :=
        fun hcount n o ho => (length_codePoint ho).trans hcount
      simp only [hletter] at h
      split_ifs at h with hx hu hU
      · subst hx
        exact isEscape_of_number (by decide) h hbyte hquote (by decide) (by decide)
      · subst hu
        exact isEscape_of_number (by decide) h (hcode (by decide)) hquote (by decide) (by decide)
      · subst hU
        exact isEscape_of_number (by decide) h (hcode (by decide)) hquote (by decide) (by decide)
      · -- The first of three octal digits stands right behind the backslash.
        obtain ⟨o, hbind, hpair⟩ := Option.map_eq_some_iff.mp h
        obtain ⟨rfl, rfl⟩ := Prod.mk.inj hpair
        obtain ⟨n, hn, ho⟩ := Option.bind_eq_some_iff.mp hbind
        obtain ⟨digits, tail, htext, hlength, hdigit⟩ := number_eq_some hn
        cases digits with
        | nil => cases hlength
        | cons d digits =>
          obtain ⟨rfl, rfl⟩ := List.cons.inj htext
          have hfirst := hdigit c List.mem_cons_self
          refine ⟨c, digits, tail, rfl, fun d hd =>
            isDigit_mono (by decide) (hdigit d (List.mem_cons_of_mem c hd)), ?_, hbyte n o ho,
            fun heq => absurd heq hquote, ?_, ?_⟩
          · rw [List.length_cons] at hlength
            omega
          · rintro rfl
            exact absurd hfirst (by decide)
          · rintro rfl
            exact absurd hfirst (by decide)

/-- **A text without quotes and backslashes** is read as it stands. -/
theorem unquote_plain {text : Text} (hquote : '"' ∉ text) (hback : '\\' ∉ text) (rest : Text) :
    unquote 0 (text ++ '"' :: rest) = some (text, rest) := by
  induction text with
  | nil => rw [List.nil_append, unquote, if_pos rfl]
  | cons c text ih =>
    rw [List.mem_cons, not_or] at hquote hback
    rw [List.cons_append, unquote, if_neg (Ne.symm hquote.1), if_neg (Ne.symm hback.1),
      ih hquote.2 hback.2]
    rfl

/-- A double quote behind a single one ends the argument: no escape reaches over it. -/
theorem le_length_of_unquote {before after : Text} : ∀ {skip : Nat} {out rest : Text},
    skip ≤ before.length + 1 →
      unquote skip (before ++ '\'' :: '"' :: after) = some (out, rest) →
        after.length ≤ rest.length := by
  induction before with
  | nil =>
    intro skip out rest hskip h
    have hlast : ∀ {out rest : Text}, unquote 0 ('"' :: after) = some (out, rest) →
        after.length ≤ rest.length := by
      intro out rest h
      rw [unquote, if_pos rfl] at h
      obtain ⟨-, rfl⟩ := Prod.mk.inj (Option.some.inj h)
      exact Nat.le_refl _
    cases skip with
    | zero =>
      rw [List.nil_append, unquote, if_neg (by decide), if_neg (by decide)] at h
      obtain ⟨⟨out', rest'⟩, hrest, hpair⟩ := Option.map_eq_some_iff.mp h
      obtain ⟨-, rfl⟩ := Prod.mk.inj hpair
      exact hlast hrest
    | succ skip =>
      obtain rfl : skip = 0 := by
        rw [List.length_nil] at hskip
        omega
      exact hlast h
  | cons c before ih =>
    intro skip out rest hskip h
    cases skip with
    | succ skip =>
      rw [List.length_cons] at hskip
      exact ih (by omega) h
    | zero =>
      rw [List.cons_append, unquote] at h
      split_ifs at h with hquote hback
      · obtain ⟨-, rfl⟩ := Prod.mk.inj (Option.some.inj h)
        simp only [List.length_append, List.length_cons]
        omega
      · cases hescape : readEscape (before ++ '\'' :: '"' :: after) with
        | none =>
          rw [hescape] at h
          cases h
        | some escape =>
          obtain ⟨text, size⟩ := escape
          simp only [hescape] at h
          obtain ⟨⟨out', rest'⟩, hrest, hpair⟩ := Option.map_eq_some_iff.mp h
          obtain ⟨-, rfl⟩ := Prod.mk.inj hpair
          obtain ⟨first, digits, tail, htext, hfirst⟩ := readEscape_eq_some hescape
          refine ih ?_ hrest
          rw [hfirst.size_eq]
          -- The quote is no digit, so the digits end before it or it is the first character.
          by_contra hlong
          have hmem : '\'' ∈ digits ∨ '"' ∈ digits := by
            cases before with
            | nil =>
              obtain ⟨-, htail⟩ := List.cons.inj htext
              cases digits with
              | nil => exact absurd (Nat.le_refl 1) hlong
              | cons d digits => exact .inr ((List.cons.inj htail).1 ▸ List.mem_cons_self)
            | cons b before =>
              obtain ⟨-, htail⟩ := List.cons.inj htext
              have hquote : before ++ ['\''] <+: digits ++ tail :=
                htail ▸ ⟨'"' :: after, by simp⟩
              have hwithin : before ++ ['\''] <+: digits := by
                refine List.prefix_of_prefix_length_le hquote (List.prefix_append digits tail) ?_
                simp only [List.length_cons, List.length_append, List.length_nil] at hlong ⊢
                omega
              exact .inl (hwithin.subset (by simp))
          rcases hmem with hmem | hmem <;> exact absurd (hfirst.hex _ hmem) (by decide)
      · obtain ⟨⟨out', rest'⟩, hrest, hpair⟩ := Option.map_eq_some_iff.mp h
        obtain ⟨-, rfl⟩ := Prod.mk.inj hpair
        exact ih (Nat.zero_le _) hrest

/-- What no escape takes away. -/
def kept : Text := ['\'', '%', '$']

theorem mem_kept {d : Char} (h : d ∈ kept) : d = '\'' ∨ d = '%' ∨ d = '$' := by
  simpa [kept] using h

/-- **An argument that is quoted to its end**: it is no longer than what it was written as,
shorter where a backslash stands, and no single quote, percent or dollar sign is lost. -/
structure Quoted (skip : Nat) (text out : Text) : Prop where
  length : out.length + 1 + skip ≤ text.length
  shorter : '\\' ∈ text.drop skip → out.length + 1 + skip < text.length
  count : ∀ d ∈ kept, (text.drop skip).count d ≤ out.count d

/-- An escape stands for no more than its characters, and for a quote if it holds one. -/
theorem Quoted.escape {out out' rest : Text} {size : Nat}
    (hescape : readEscape rest = some (out, size)) (h : Quoted size rest out') :
    Quoted 0 ('\\' :: rest) (out ++ out') := by
  obtain ⟨first, digits, tail, htext, hfirst⟩ := readEscape_eq_some hescape
  have hlength := h.length
  have hshorter := hfirst.shorter
  refine ⟨?_, fun _ => ?_, fun d hd => ?_⟩
  · rw [List.length_append, List.length_cons]
    omega
  · rw [List.length_append, List.length_cons]
    omega
  · have hne : '\\' ≠ d := by
      rintro rfl
      exact absurd hd (by decide)
    have hdigit : d ∉ digits := by
      intro hmem
      have hhex := hfirst.hex d hmem
      rcases mem_kept hd with rfl | rfl | rfl <;> exact absurd hhex (by decide)
    have htake : (rest.take size).count d ≤ out.count d := by
      have hsplit : rest.take size = first :: digits := by
        rw [htext, hfirst.size_eq, List.take_succ_cons, List.take_left' rfl]
      rw [hsplit, List.count_cons, List.count_eq_zero_of_not_mem hdigit]
      by_cases heq : first = d
      · have hquote : d = '\'' := by
          rcases mem_kept hd with hd | hd | hd
          · exact hd
          · exact absurd (heq.trans hd) hfirst.percent
          · exact absurd (heq.trans hd) hfirst.dollar
        rw [hfirst.quote (heq.trans hquote), hquote]
        simp [heq.trans hquote]
      · simp [heq]
    have hrest := h.count d hd
    have hcut : rest.count d = (rest.take size).count d + (rest.drop size).count d := by
      rw [← List.count_append, List.take_append_drop]
    rw [List.drop_zero, List.count_cons_of_ne hne, List.count_append, hcut]
    omega

theorem unquote_all {text : Text} : ∀ {skip : Nat} {out : Text},
    unquote skip text = some (out, []) → Quoted skip text out := by
  induction text with
  | nil =>
    intro skip out h
    cases skip <;> cases h
  | cons c text ih =>
    intro skip out h
    cases skip with
    | succ skip =>
      have hrest := ih h
      refine ⟨?_, fun hback => ?_, hrest.count⟩
      · have hlength := hrest.length
        rw [List.length_cons]
        omega
      · have hshorter := hrest.shorter hback
        rw [List.length_cons]
        omega
    | zero =>
      rw [unquote] at h
      split_ifs at h with hquote hback
      · obtain ⟨rfl, rfl⟩ := Prod.mk.inj (Option.some.inj h)
        subst hquote
        refine ⟨Nat.le_refl 1, by decide, fun d hd => ?_⟩
        rcases mem_kept hd with rfl | rfl | rfl <;> decide
      · cases hescape : readEscape text with
        | none =>
          rw [hescape] at h
          cases h
        | some escape =>
          obtain ⟨first, size⟩ := escape
          simp only [hescape] at h
          obtain ⟨⟨out', rest'⟩, hrest, hpair⟩ := Option.map_eq_some_iff.mp h
          obtain ⟨rfl, rfl⟩ := Prod.mk.inj hpair
          subst hback
          exact (ih hrest).escape hescape
      · obtain ⟨⟨out', rest'⟩, hrest, hpair⟩ := Option.map_eq_some_iff.mp h
        have hsame : c :: out' = out ∧ rest' = [] := Prod.mk.inj hpair
        obtain ⟨rfl, rfl⟩ := hsame
        obtain ⟨hlength, hshorter, hcount⟩ := ih hrest
        refine ⟨?_, fun hmem => ?_, fun d hd => ?_⟩
        · rw [List.length_cons, List.length_cons]
          omega
        · rw [List.drop_zero, List.mem_cons] at hmem
          have hlt := hshorter (hmem.resolve_left (Ne.symm hback))
          rw [List.length_cons, List.length_cons]
          omega
        · have hle := hcount d hd
          rw [List.drop_zero] at hle ⊢
          rw [List.count_cons, List.count_cons]
          omega

/-! ## Conditions -/

/-- What a condition makes of its value. -/
def stripped (value : Text) : Text :=
  dropMark '!' (dropMark '|' ((value.dropWhile (· = ' ')).rdropWhile (· = ' ')))

/-- A value that is its path: no blank and no mark in front, no blank behind. -/
structure Unmarked (value : Text) : Prop where
  blank : value.head? ≠ some ' '
  bar : value.head? ≠ some '|'
  bang : value.head? ≠ some '!'
  last : value.getLast? ≠ some ' '

theorem dropMark_of_ne {mark : Char} {text : Text} (h : text.head? ≠ some mark) :
    dropMark mark text = text := by
  cases text with
  | nil => rfl
  | cons c rest => exact if_neg fun hc => h (congrArg some hc)

theorem dropMark_suffix (mark : Char) (text : Text) : dropMark mark text <:+ text := by
  cases text with
  | nil => exact List.suffix_refl _
  | cons c rest =>
    rw [dropMark]
    split
    · exact (List.dropWhile_suffix _).trans (List.suffix_cons c rest)
    · exact List.suffix_refl _

theorem dropMark_ne {mark : Char} {text : Text} (h : text.head? = some mark) :
    (dropMark mark text).length < text.length := by
  cases text with
  | nil => cases h
  | cons c rest =>
    obtain rfl : c = mark := Option.some.inj h
    rw [dropMark, if_pos rfl, List.length_cons]
    exact Nat.lt_succ_of_le (List.dropWhile_suffix _).length_le

theorem count_dropWhile (text : Text) : (text.dropWhile (· = ' ')).count '$' = text.count '$' := by
  have hblank : (text.takeWhile (· = ' ')).count '$' = 0 := by
    refine List.count_eq_zero_of_not_mem fun hmem => ?_
    have hspace := List.mem_takeWhile_imp hmem
    exact absurd hspace (by decide)
  conv_rhs => rw [← List.takeWhile_append_dropWhile (p := (· = ' ')) (l := text)]
  rw [List.count_append, hblank, Nat.zero_add]

theorem count_dropMark {mark : Char} (h : mark ≠ '$') (text : Text) :
    (dropMark mark text).count '$' = text.count '$' := by
  cases text with
  | nil => rfl
  | cons c rest =>
    rw [dropMark]
    split
    · rename_i hc
      rw [count_dropWhile, List.count_cons_of_ne (hc ▸ h)]
    · rfl

/-- Nothing that is taken away is a dollar sign. -/
theorem count_stripped (value : Text) : (stripped value).count '$' = value.count '$' := by
  rw [stripped, count_dropMark (by decide), count_dropMark (by decide), List.rdropWhile,
    List.count_reverse, count_dropWhile, List.count_reverse, count_dropWhile]

theorem stripped_of_unmarked {value : Text} (h : Unmarked value) : stripped value = value := by
  have hfront : value.dropWhile (· = ' ') = value := by
    cases value with
    | nil => rfl
    | cons c rest =>
      refine List.dropWhile_cons_of_neg fun hc => h.blank ?_
      exact congrArg some (of_decide_eq_true hc)
  have hback : value.rdropWhile (· = ' ') = value := by
    rw [List.rdropWhile_eq_self_iff]
    intro hne hlast
    refine h.last ?_
    rw [List.getLast?_eq_some_getLast hne]
    exact congrArg some (of_decide_eq_true hlast)
  rw [stripped, hfront, hback, dropMark_of_ne h.bar, dropMark_of_ne h.bang]

/-- **What loses nothing is unmarked.** -/
theorem unmarked_of_length {value : Text} (h : value.length ≤ (stripped value).length) :
    Unmarked value := by
  have hfront : value.dropWhile (· = ' ') <:+ value := List.dropWhile_suffix _
  have hback := List.rdropWhile_prefix (· = ' ') (value.dropWhile (· = ' '))
  have hbar := dropMark_suffix '|' ((value.dropWhile (· = ' ')).rdropWhile (· = ' '))
  have hbang := dropMark_suffix '!'
    (dropMark '|' ((value.dropWhile (· = ' ')).rdropWhile (· = ' ')))
  have hlengths := And.intro hfront.length_le
    (And.intro hback.length_le (And.intro hbar.length_le hbang.length_le))
  rw [stripped] at h
  -- Every step leaves as much as it was given.
  have hfront' : value.dropWhile (· = ' ') = value := hfront.eq_of_length (by omega)
  rw [hfront'] at hback hbar hbang hlengths h
  have hback' : value.rdropWhile (· = ' ') = value := hback.eq_of_length (by omega)
  rw [hback'] at hbar hbang hlengths h
  have hbar' : dropMark '|' value = value := hbar.eq_of_length (by omega)
  rw [hbar'] at hbang hlengths h
  refine ⟨fun hhead => ?_, fun hhead => ?_, fun hhead => ?_, fun hlast => ?_⟩
  · cases value with
    | nil => cases hhead
    | cons c rest =>
      obtain rfl : c = ' ' := Option.some.inj hhead
      have hle := (List.dropWhile_suffix (· = ' ') (l := rest)).length_le
      rw [List.dropWhile_cons_of_pos (by decide)] at hfront'
      rw [hfront', List.length_cons] at hle
      omega
  · have hlt := dropMark_ne hhead
    rw [hbar'] at hlt
    exact Nat.lt_irrefl _ hlt
  · exact absurd (dropMark_ne hhead) (by omega)
  · have hne : value ≠ [] := by
      rintro rfl
      cases hlast
    refine List.rdropWhile_eq_self_iff.mp hback' hne ?_
    rw [List.getLast?_eq_some_getLast hne] at hlast
    exact decide_eq_true (Option.some.inj hlast)

theorem head?_double (d : Char) (text : Text) : (double d text).head? = text.head? := by
  cases text with
  | nil => rfl
  | cons c rest =>
    rw [double, List.flatMap_cons]
    split <;> simp [*]

theorem getLast?_double (d : Char) (text : Text) : (double d text).getLast? = text.getLast? := by
  induction text using List.reverseRecOn with
  | nil => rfl
  | append_singleton text c _ =>
    have hlast : (double d [c]).getLast? = some c := by
      unfold double
      by_cases hc : c = d <;> simp [hc]
    rw [double_append, List.getLast?_append, hlast, List.getLast?_concat]
    rfl

theorem unmarked_double {d : Char} {text : Text} : Unmarked (double d text) ↔ Unmarked text := by
  constructor
  · rintro ⟨hblank, hbar, hbang, hlast⟩
    rw [head?_double] at hblank hbar hbang
    rw [getLast?_double] at hlast
    exact ⟨hblank, hbar, hbang, hlast⟩
  · rintro ⟨hblank, hbar, hbang, hlast⟩
    refine ⟨?_, ?_, ?_, ?_⟩
    · rwa [head?_double]
    · rwa [head?_double]
    · rwa [head?_double]
    · rwa [getLast?_double]

/-- **A condition whose dollar signs were doubled** is read as the path exactly if the path
has none, and no mark. -/
theorem undouble_stripped {path : Text} :
    undouble '%' (stripped (double '%' (double '$' path))) = some path ↔
      '$' ∉ path ∧ Unmarked path := by
  constructor
  · intro h
    have hstripped := double_of_undouble h
    have hcount := count_stripped (double '%' (double '$' path))
    rw [hstripped, count_double_of_ne (by decide), count_double_of_ne (by decide),
      count_double_self] at hcount
    have hdollar : '$' ∉ path := by
      rw [← List.count_eq_zero]
      omega
    have hlength : (double '%' (double '$' path)).length ≤
        (stripped (double '%' (double '$' path))).length := by
      rw [hstripped, length_double, length_double, length_double, count_double_of_ne (by decide),
        List.count_eq_zero_of_not_mem hdollar]
      omega
    exact ⟨hdollar, unmarked_double.mp (unmarked_double.mp (unmarked_of_length hlength))⟩
  · rintro ⟨hdollar, hunmarked⟩
    have hpath : double '$' path = path := by
      refine (List.flatMap_congr fun c hc => ?_).trans (List.flatMap_singleton' path)
      rw [if_neg (ne_of_mem_of_not_mem hc hdollar)]
    rw [hpath, stripped_of_unmarked (unmarked_double.mpr hunmarked), undouble_double]

end GreenCurve.AssetSyntax
