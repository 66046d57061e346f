import GreenCurve.ManifestTools
import Mathlib.Data.Option.Basic

/-! # The fields of a manifest, read on both sides

The updater scans a field digit by digit, the release tool matches it against a pattern.  For
each kind of field the two accept the same texts, and the number is the one the text writes:
no step of the scan wraps. -/

namespace GreenCurve

open Ini (Text)

/-! ## Digits -/

theorem digit_lt {c : Char} (h : c.isDigit = true) : c.toNat - '0'.toNat < 10 := by
  have hle : c.toNat ≤ 57 := (Char.isDigit_iff_toNat.mp h).2
  change c.toNat - 48 < 10
  omega

theorem digit_pos {c : Char} (h : c.isDigit = true) (hne : c ≠ '0') : 1 ≤ c.toNat - '0'.toNat := by
  have hge : 48 ≤ c.toNat := (Char.isDigit_iff_toNat.mp h).1
  have hne : c.toNat ≠ 48 := fun heq => hne (Char.toNat_inj.mp heq)
  change 1 ≤ c.toNat - 48
  omega

theorem ofDigitChars_lt {digits : Text} (h : ∀ c ∈ digits, c.isDigit = true) :
    Nat.ofDigitChars 10 digits 0 < 10 ^ digits.length := by
  induction digits with
  | nil => simp
  | cons c rest ih =>
    obtain ⟨hc, hrest⟩ := List.forall_mem_cons.mp h
    have hdigit := digit_lt hc
    rw [Nat.ofDigitChars_cons, Nat.ofDigitChars_eq_ofDigitChars_zero, List.length_cons, pow_succ]
    have hlow := ih hrest
    have hhigh : 10 ^ rest.length * (10 * 0 + (c.toNat - '0'.toNat)) ≤ 10 ^ rest.length * 9 :=
      Nat.mul_le_mul_left _ (by omega)
    omega

theorem pow_le_ofDigitChars {c : Char} (hc : c.isDigit = true) (hne : c ≠ '0') (rest : Text) :
    10 ^ rest.length ≤ Nat.ofDigitChars 10 (c :: rest) 0 := by
  rw [Nat.ofDigitChars_cons, Nat.ofDigitChars_eq_ofDigitChars_zero]
  have hdigit := digit_pos hc hne
  have : 10 ^ rest.length * 1 ≤ 10 ^ rest.length * (10 * 0 + (c.toNat - '0'.toNat)) :=
    Nat.mul_le_mul_left _ (by omega)
  omega

theorem le_ofDigitChars (digits : Text) (total : Nat) : total ≤ Nat.ofDigitChars 10 digits total := by
  rw [Nat.ofDigitChars_eq_ofDigitChars_zero]
  have : 1 * total ≤ 10 ^ digits.length * total :=
    Nat.mul_le_mul_right _ (Nat.one_le_pow _ _ (by decide))
  omega

theorem head?_dropWhile_isDigit (t : Text) :
    ∀ c ∈ (t.dropWhile Char.isDigit).head?, c.isDigit = false := by
  intro c hc
  have hnot := List.head?_dropWhile_not Char.isDigit t
  rw [Option.mem_def.mp hc] at hnot
  exact hnot

theorem takeWhile_isDigit_append {d rest : Text} (hd : ∀ c ∈ d, c.isDigit = true)
    (hrest : ∀ c ∈ rest.head?, c.isDigit = false) : (d ++ rest).takeWhile Char.isDigit = d := by
  rw [List.takeWhile_append_of_pos hd]
  cases rest with
  | nil => exact List.append_nil d
  | cons c rest =>
    have hc : ¬c.isDigit = true := by simp [hrest c rfl]
    rw [List.takeWhile_cons_of_neg hc, List.append_nil]

theorem dropWhile_isDigit_append {d rest : Text} (hd : ∀ c ∈ d, c.isDigit = true)
    (hrest : ∀ c ∈ rest.head?, c.isDigit = false) :
    (d ++ rest).dropWhile Char.isDigit = rest := by
  rw [List.dropWhile_append_of_pos hd]
  cases rest with
  | nil => rfl
  | cons c rest => exact List.dropWhile_cons_of_neg (by simp [hrest c rfl])

/-! ## Versions -/

theorem isComponent_iff {d : Text} : Tools.isComponent d = true ↔
    (∀ c ∈ d, c.isDigit = true) ∧ d ≠ [] ∧ d.length ≤ 6 ∧ ¬(d.length > 1 ∧ d.head? = some '0') := by
  cases d with
  | nil => simp [Tools.isComponent]
  | cons c rest =>
    simp only [Tools.isComponent, Bool.or_eq_true, Bool.and_eq_true, beq_iff_eq, bne_iff_ne,
      List.isEmpty_iff, List.all_eq_true, decide_eq_true_eq, List.forall_mem_cons,
      List.length_cons, List.head?_cons, Option.some.injEq, ne_eq, reduceCtorEq, not_false_eq_true,
      true_and]
    constructor
    · rintro (⟨rfl, rfl⟩ | ⟨⟨⟨hc, hne⟩, hrest⟩, hlen⟩)
      · exact ⟨⟨by decide, by simp⟩, by decide, by simp⟩
      · exact ⟨⟨hc, hrest⟩, by omega, fun h => hne h.2⟩
    · rintro ⟨⟨hc, hrest⟩, hlen, hzero⟩
      by_cases hne : c = '0'
      · refine .inl ⟨hne, ?_⟩
        have : ¬rest.length + 1 > 1 := fun h => hzero ⟨h, hne⟩
        exact List.length_eq_zero_iff.mp (by omega)
      · exact .inr ⟨⟨⟨hc, hne⟩, hrest⟩, by omega⟩

theorem isDigit_of_isComponent {d : Text} (h : Tools.isComponent d = true) :
    ∀ c ∈ d, c.isDigit = true := (isComponent_iff.mp h).1

theorem dot_notMem_of_isComponent {d : Text} (h : Tools.isComponent d = true) : '.' ∉ d := fun hmem =>
  absurd (isDigit_of_isComponent h _ hmem) (by decide)

theorem head?_append_of_ne_nil {d : Text} (hne : d ≠ []) (rest : Text) :
    (d ++ rest).head? = d.head? := by
  cases d with
  | nil => exact absurd rfl hne
  | cons c d => rfl

/-- **The scan of one component is the pattern.** -/
theorem gcUpdateParseComponent_eq_some {p : Text} {value : Nat} {rest : Text} :
    gcUpdateParseComponent p = some (value, rest) ↔
      ∃ d, Tools.isComponent d = true ∧ p = d ++ rest ∧
        (∀ c ∈ rest.head?, c.isDigit = false) ∧ value = Tools.int d := by
  simp only [gcUpdateParseComponent, bind, pure, Option.bind_eq_some_iff]
  constructor
  · rintro ⟨⟨n, v, t⟩, hrun, u, hguard, heq⟩
    cases heq
    obtain ⟨rfl, hle, rfl, rfl⟩ := digitRun_eq_some.mp hrun
    obtain ⟨hne, hzero, -⟩ := (Option.guard_eq_some' u).mp hguard
    have hne : p.takeWhile Char.isDigit ≠ [] := fun hnil => hne (by rw [hnil]; rfl)
    have hsplit : p.takeWhile Char.isDigit ++ p.dropWhile Char.isDigit = p :=
      List.takeWhile_append_dropWhile
    refine ⟨p.takeWhile Char.isDigit, isComponent_iff.mpr ⟨?_, hne, hle, ?_⟩, hsplit.symm,
      head?_dropWhile_isDigit p, rfl⟩
    · exact fun c hc => List.mem_takeWhile_imp hc
    · rwa [← head?_append_of_ne_nil hne (p.dropWhile Char.isDigit), hsplit]
  · rintro ⟨d, hd, rfl, hrest, rfl⟩
    obtain ⟨hdigits, hne, hle, hzero⟩ := isComponent_iff.mp hd
    have htake := takeWhile_isDigit_append hdigits hrest
    have hdrop := dropWhile_isDigit_append hdigits hrest
    have hvalue : Tools.int d ≤ GC_UPDATE_VERSION_MAX_COMPONENT := by
      have hlt : Tools.int d < 10 ^ d.length := ofDigitChars_lt hdigits
      have hpow : 10 ^ d.length ≤ 10 ^ 6 := Nat.pow_le_pow_right (by decide) hle
      change Tools.int d ≤ 999999
      omega
    refine ⟨(d.length, Tools.int d, rest), digitRun_eq_some.mpr ⟨?_, hle, ?_, hdrop.symm⟩, (),
      (Option.guard_eq_some' ()).mpr ⟨?_, ?_, hvalue⟩, rfl⟩
    · rw [htake]
    · rw [htake]
      rfl
    · simpa using hne
    · rwa [head?_append_of_ne_nil hne]

/-- The components of a version text as numbers. -/
def versionNumbers (text : Text) : List Nat := (text.splitOn '.').map Tools.int

/-- A version and the numbers its text writes; an absent patch is zero. -/
structure GcUpdateVersion.Reads (v : GcUpdateVersion) (text : Text) : Prop where
  accepted : Tools.isVersion text = true
  text_eq : v.text = text
  numbers : versionNumbers text = [v.major, v.minor, v.patch] ∨
    (versionNumbers text = [v.major, v.minor] ∧ v.patch = 0)

theorem splitOn_two {a b : Text} (ha : '.' ∉ a) (hb : '.' ∉ b) :
    (a ++ '.' :: b).splitOn '.' = [a, b] := by
  rw [List.splitOn_append_cons_self_of_not_mem ha, List.splitOn_eq_singleton hb]

theorem splitOn_three {a b c : Text} (ha : '.' ∉ a) (hb : '.' ∉ b) (hc : '.' ∉ c) :
    (a ++ '.' :: (b ++ '.' :: c)).splitOn '.' = [a, b, c] := by
  rw [List.splitOn_append_cons_self_of_not_mem ha, splitOn_two hb hc]

theorem eq_of_splitOn {text : Text} {pieces : List Text} (h : text.splitOn '.' = pieces) :
    text = ['.'].intercalate pieces := by
  rw [← h, List.intercalate_splitOn]

theorem cons_tail_of_head? {t : Text} {c : Char} (h : t.head? = some c) : t = c :: t.tail := by
  cases t with
  | nil => cases h
  | cons d t =>
    cases h
    rfl

theorem isVersion_two {a b : Text} (ha : Tools.isComponent a = true)
    (hb : Tools.isComponent b = true) : Tools.isVersion (a ++ '.' :: b) = true := by
  rw [Tools.isVersion, splitOn_two (dot_notMem_of_isComponent ha) (dot_notMem_of_isComponent hb)]
  simp [ha, hb]

theorem isVersion_three {a b c : Text} (ha : Tools.isComponent a = true)
    (hb : Tools.isComponent b = true) (hc : Tools.isComponent c = true) :
    Tools.isVersion (a ++ '.' :: (b ++ '.' :: c)) = true := by
  rw [Tools.isVersion, splitOn_three (dot_notMem_of_isComponent ha) (dot_notMem_of_isComponent hb)
    (dot_notMem_of_isComponent hc)]
  simp [ha, hb, hc]

/-- A text of the pattern is two components or three. -/
theorem exists_of_isVersion {text : Text} (h : Tools.isVersion text = true) :
    (∃ a b, Tools.isComponent a = true ∧ Tools.isComponent b = true ∧ text = a ++ '.' :: b) ∨
    ∃ a b c, Tools.isComponent a = true ∧ Tools.isComponent b = true ∧
      Tools.isComponent c = true ∧ text = a ++ '.' :: (b ++ '.' :: c) := by
  unfold Tools.isVersion at h
  split at h
  · rename_i a b hsplit
    simp only [Bool.and_eq_true] at h
    exact .inl ⟨a, b, h.1, h.2, by simpa using eq_of_splitOn hsplit⟩
  · rename_i a b c hsplit
    simp only [Bool.and_eq_true] at h
    exact .inr ⟨a, b, c, h.1.1, h.1.2, h.2, by simpa using eq_of_splitOn hsplit⟩
  · cases h

theorem length_of_isComponent {d : Text} (h : Tools.isComponent d = true) :
    0 < d.length ∧ d.length ≤ 6 := by
  obtain ⟨-, hne, hle, -⟩ := isComponent_iff.mp h
  exact ⟨List.length_pos_iff.mpr hne, hle⟩

theorem isDigit_head?_dot (rest : Text) : ∀ c ∈ ('.' :: rest).head?, c.isDigit = false := by
  intro c hc
  cases hc
  rfl

theorem parseComponent_append {d rest : Text} (hd : Tools.isComponent d = true)
    (hrest : ∀ c ∈ rest.head?, c.isDigit = false) :
    gcUpdateParseComponent (d ++ rest) = some (Tools.int d, rest) :=
  gcUpdateParseComponent_eq_some.mpr ⟨d, hd, rfl, hrest, rfl⟩

theorem parseComponent_self {d : Text} (hd : Tools.isComponent d = true) :
    gcUpdateParseComponent d = some (Tools.int d, []) := by
  have h := @parseComponent_append d [] hd (fun c hc => nomatch hc)
  rwa [List.append_nil] at h

theorem gcUpdateVersionParse_two {a b : Text} (ha : Tools.isComponent a = true)
    (hb : Tools.isComponent b = true) : gcUpdateVersionParse (a ++ '.' :: b) =
      some ⟨Tools.int a, Tools.int b, 0, a ++ '.' :: b⟩ := by
  have hla := length_of_isComponent ha
  have hlb := length_of_isComponent hb
  have hlen : a.length + (b.length + 1) < GC_UPDATE_VERSION_MAX_CHARS := by
    change _ < 24
    omega
  have hmajor := parseComponent_append ha (isDigit_head?_dot b)
  have hminor := parseComponent_self hb
  simp [gcUpdateVersionParse, hmajor, hminor, hlen, gcUpdateParsePatch, guard]

theorem gcUpdateVersionParse_three {a b c : Text} (ha : Tools.isComponent a = true)
    (hb : Tools.isComponent b = true) (hc : Tools.isComponent c = true) :
    gcUpdateVersionParse (a ++ '.' :: (b ++ '.' :: c)) =
      some ⟨Tools.int a, Tools.int b, Tools.int c, a ++ '.' :: (b ++ '.' :: c)⟩ := by
  have hla := length_of_isComponent ha
  have hlb := length_of_isComponent hb
  have hlc := length_of_isComponent hc
  have hlen : a.length + (b.length + (c.length + 1) + 1) < GC_UPDATE_VERSION_MAX_CHARS := by
    change _ < 24
    omega
  have hmajor := parseComponent_append ha (isDigit_head?_dot (b ++ '.' :: c))
  have hminor := parseComponent_append hb (isDigit_head?_dot c)
  have hpatch := parseComponent_self hc
  simp [gcUpdateVersionParse, hmajor, hminor, hpatch, hlen, gcUpdateParsePatch, guard]

/-- **The updater and the release tool accept the same versions**, with the same numbers. -/
theorem gcUpdateVersionParse_eq_some {text : Text} {v : GcUpdateVersion} :
    gcUpdateVersionParse text = some v ↔ v.Reads text := by
  constructor
  · intro h
    simp only [gcUpdateVersionParse, bind, pure, Option.bind_eq_some_iff] at h
    obtain ⟨_, -, ⟨major, rest⟩, hmajor, u, hdot, ⟨minor, rest'⟩, hminor, ⟨patch, rest''⟩, hpatch,
      u', hend, heq⟩ := h
    cases heq
    obtain ⟨a, ha, rfl, -, rfl⟩ := gcUpdateParseComponent_eq_some.mp hmajor
    have hrest := cons_tail_of_head? ((Option.guard_eq_some' u).mp hdot)
    obtain ⟨b, hb, hrestTail, -, rfl⟩ := gcUpdateParseComponent_eq_some.mp hminor
    have hnil : rest'' = [] := (Option.guard_eq_some' u').mp hend
    subst hnil
    have hadot := dot_notMem_of_isComponent ha
    have hbdot := dot_notMem_of_isComponent hb
    simp only at hrest hrestTail hpatch
    unfold gcUpdateParsePatch at hpatch
    split at hpatch
    · rename_i hdot'
      obtain ⟨c, hc, hrestTail', -, rfl⟩ := gcUpdateParseComponent_eq_some.mp hpatch
      rw [List.append_nil] at hrestTail'
      have hrest' := cons_tail_of_head? hdot'
      rw [hrestTail'] at hrest'
      rw [hrestTail, hrest'] at hrest
      rw [hrest]
      exact ⟨isVersion_three ha hb hc, rfl, .inl (by
        rw [versionNumbers, splitOn_three hadot hbdot (dot_notMem_of_isComponent hc)]; rfl)⟩
    · cases hpatch
      rw [List.append_nil] at hrestTail
      rw [hrestTail] at hrest
      rw [hrest]
      exact ⟨isVersion_two ha hb, rfl, .inr ⟨by
        rw [versionNumbers, splitOn_two hadot hbdot]; rfl, rfl⟩⟩
  · rintro ⟨haccepted, htext, hnumbers⟩
    rcases exists_of_isVersion haccepted with ⟨a, b, ha, hb, rfl⟩ | ⟨a, b, c, ha, hb, hc, rfl⟩
    · rw [versionNumbers, splitOn_two (dot_notMem_of_isComponent ha)
        (dot_notMem_of_isComponent hb)] at hnumbers
      obtain ⟨major, minor, patch, text⟩ := v
      simp only [List.map_cons, List.map_nil, List.cons.injEq, and_true, reduceCtorEq, and_false,
        false_or] at hnumbers htext
      obtain ⟨⟨rfl, rfl⟩, rfl⟩ := hnumbers
      rw [gcUpdateVersionParse_two ha hb, htext]
    · rw [versionNumbers, splitOn_three (dot_notMem_of_isComponent ha)
        (dot_notMem_of_isComponent hb) (dot_notMem_of_isComponent hc)] at hnumbers
      obtain ⟨major, minor, patch, text⟩ := v
      simp only [List.map_cons, List.map_nil, List.cons.injEq, and_true, reduceCtorEq, and_false,
        false_and, or_false] at hnumbers htext
      obtain ⟨rfl, rfl, rfl⟩ := hnumbers
      rw [gcUpdateVersionParse_three ha hb hc, htext]

/-- The pattern is what the scan accepts. -/
theorem isSome_gcUpdateVersionParse (text : Text) :
    (gcUpdateVersionParse text).isSome = Tools.isVersion text := by
  rw [Bool.eq_iff_iff, Option.isSome_iff_exists]
  constructor
  · rintro ⟨v, hv⟩
    exact (gcUpdateVersionParse_eq_some.mp hv).accepted
  · intro h
    rcases exists_of_isVersion h with ⟨a, b, ha, hb, rfl⟩ | ⟨a, b, c, ha, hb, hc, rfl⟩
    · exact ⟨_, gcUpdateVersionParse_two ha hb⟩
    · exact ⟨_, gcUpdateVersionParse_three ha hb hc⟩

theorem length_of_isVersion {text : Text} (h : Tools.isVersion text = true) :
    text ≠ [] ∧ text.length ≤ 20 := by
  rcases exists_of_isVersion h with ⟨a, b, ha, hb, rfl⟩ | ⟨a, b, c, ha, hb, hc, rfl⟩
  · have hla := length_of_isComponent ha
    have hlb := length_of_isComponent hb
    refine ⟨by simp, ?_⟩
    rw [List.length_append, List.length_cons]
    omega
  · have hla := length_of_isComponent ha
    have hlb := length_of_isComponent hb
    have hlc := length_of_isComponent hc
    refine ⟨by simp, ?_⟩
    simp only [List.length_append, List.length_cons]
    omega

/-- A version is written with digits and dots. -/
theorem mem_of_isVersion {text : Text} (h : Tools.isVersion text = true) :
    ∀ c ∈ text, c.isDigit = true ∨ c = '.' := by
  rcases exists_of_isVersion h with ⟨a, b, ha, hb, rfl⟩ | ⟨a, b, c, ha, hb, hc, rfl⟩
  · intro c hmem
    simp only [List.mem_append, List.mem_cons] at hmem
    rcases hmem with hmem | rfl | hmem
    · exact .inl (isDigit_of_isComponent ha c hmem)
    · exact .inr rfl
    · exact .inl (isDigit_of_isComponent hb c hmem)
  · intro d hmem
    simp only [List.mem_append, List.mem_cons] at hmem
    rcases hmem with hmem | rfl | hmem | rfl | hmem
    · exact .inl (isDigit_of_isComponent ha d hmem)
    · exact .inr rfl
    · exact .inl (isDigit_of_isComponent hb d hmem)
    · exact .inr rfl
    · exact .inl (isDigit_of_isComponent hc d hmem)

/-! ## Sizes -/

/-- One digit of the scan: the total is small enough not to wrap. -/
theorem sizeDigits_cons {c : Char} (hc : c.isDigit = true) {total : Nat}
    (hsmall : total ≤ GC_UPDATE_ASSET_MAX_BYTES) (rest : Text) :
    sizeDigits (c :: rest) total = sizeDigits rest (10 * total + (c.toNat - '0'.toNat)) := by
  have hdigit := digit_lt hc
  have hsmall' : total ≤ 268435456 := hsmall
  have hwrap : (total * 10 + (c.toNat - '0'.toNat)) % 2 ^ 64 =
      10 * total + (c.toNat - '0'.toNat) := by
    rw [Nat.mod_eq_of_lt (by omega), Nat.mul_comm]
  rw [sizeDigits, hc, Bool.not_true, if_neg Bool.false_ne_true, if_neg (Nat.not_lt.mpr hsmall),
    hwrap]

/-- Up to the largest size, the scan adds up the number the text writes. -/
theorem sizeDigits_spec (t : Text) (total : Nat) :
    (∃ n ≤ GC_UPDATE_ASSET_MAX_BYTES, sizeDigits t total = some n) ↔
      (∀ c ∈ t, c.isDigit = true) ∧ Nat.ofDigitChars 10 t total ≤ GC_UPDATE_ASSET_MAX_BYTES ∧
        sizeDigits t total = some (Nat.ofDigitChars 10 t total) := by
  induction t generalizing total with
  | nil => simp [sizeDigits]
  | cons c rest ih =>
    by_cases hc : c.isDigit = true
    · by_cases hbig : total > GC_UPDATE_ASSET_MAX_BYTES
      · have hle := le_ofDigitChars (c :: rest) total
        have hmax : ¬Nat.ofDigitChars 10 (c :: rest) total ≤ GC_UPDATE_ASSET_MAX_BYTES := by omega
        simp [sizeDigits, hc, hbig, hmax]
      · rw [sizeDigits_cons hc (Nat.le_of_not_gt hbig), Nat.ofDigitChars_cons, ih,
          List.forall_mem_cons]
        simp [hc]
    · simp [sizeDigits, hc]

theorem sizeDigits_eq_some {t : Text} {total : Nat} (h : ∀ c ∈ t, c.isDigit = true)
    (hmax : Nat.ofDigitChars 10 t total ≤ GC_UPDATE_ASSET_MAX_BYTES) :
    sizeDigits t total = some (Nat.ofDigitChars 10 t total) := by
  induction t generalizing total with
  | nil => simp [sizeDigits]
  | cons c rest ih =>
    obtain ⟨hc, hrest⟩ := List.forall_mem_cons.mp h
    have hle := (le_ofDigitChars (c :: rest) total).trans hmax
    rw [Nat.ofDigitChars_cons] at hmax ⊢
    rw [sizeDigits_cons hc hle, ih hrest hmax]

/-- **The updater and the release tool accept the same sizes**: no digit of it wraps. -/
theorem gcUpdateParseSize_eq_some {value : Text} {n : Nat} :
    gcUpdateParseSize value = some n ↔
      Tools.isSize value = true ∧ Tools.int value ≤ Tools.MAX_ASSET_BYTES ∧ n = Tools.int value := by
  simp only [gcUpdateParseSize, bind, pure, Option.bind_eq_some_iff, Option.some.injEq]
  constructor
  · rintro ⟨u, hhead, u', hzero, total, htotal, u'', hrange, rfl⟩
    have hrange := (Option.guard_eq_some' u'').mp hrange
    obtain ⟨hdigits, hmax, hvalue⟩ := (sizeDigits_spec value 0).mp ⟨total, hrange.2, htotal⟩
    have hint : total = Tools.int value := Option.some.inj (htotal.symm.trans hvalue)
    obtain ⟨c, hc, hdigit⟩ := (Option.guard_eq_some' u).mp hhead
    have hzero := (Option.guard_eq_some' u').mp hzero
    refine ⟨?_, hmax, hint⟩
    cases value with
    | nil => cases hc
    | cons d rest =>
      cases hc
      obtain ⟨-, hrest⟩ := List.forall_mem_cons.mp hdigits
      have hne : c ≠ '0' := by
        rintro rfl
        have hnil : rest = [] := by
          by_contra hrest
          exact hzero ⟨rfl, hrest⟩
        subst hnil
        exact hrange.1 hint
      have hlen : rest.length ≤ 8 := by
        by_contra hlong
        have hpow : 10 ^ 9 ≤ 10 ^ rest.length := Nat.pow_le_pow_right (by decide) (by omega)
        have hle := pow_le_ofDigitChars hdigit hne rest
        have hmax : Nat.ofDigitChars 10 (c :: rest) 0 ≤ 268435456 := hmax
        omega
      simp only [Tools.isSize, Bool.and_eq_true, bne_iff_ne, List.all_eq_true, decide_eq_true_eq]
      exact ⟨⟨⟨hdigit, hne⟩, hrest⟩, hlen⟩
  · rintro ⟨hsize, hmax, rfl⟩
    cases value with
    | nil => cases hsize
    | cons c rest =>
      simp only [Tools.isSize, Bool.and_eq_true, bne_iff_ne, List.all_eq_true,
        decide_eq_true_eq] at hsize
      obtain ⟨⟨⟨hdigit, hne⟩, hrest⟩, -⟩ := hsize
      have hpos := pow_le_ofDigitChars hdigit hne rest
      have hone : 1 ≤ 10 ^ rest.length := Nat.one_le_pow _ _ (by decide)
      have hdigits : ∀ d ∈ c :: rest, d.isDigit = true := List.forall_mem_cons.mpr ⟨hdigit, hrest⟩
      have hnonzero : Tools.int (c :: rest) ≠ 0 := by
        change Nat.ofDigitChars 10 (c :: rest) 0 ≠ 0
        omega
      refine ⟨(), (Option.guard_eq_some' ()).mpr ⟨c, rfl, hdigit⟩, (),
        (Option.guard_eq_some' ()).mpr fun h => hne (Option.some.inj h.1), _,
        sizeDigits_eq_some hdigits hmax, (), (Option.guard_eq_some' ()).mpr ⟨hnonzero, hmax⟩, rfl⟩

/-- The manifest format is the one digit. -/
theorem gcUpdateParseSize_eq_format {value : Text} :
    gcUpdateParseSize value = some GC_UPDATE_MANIFEST_FORMAT ↔ value = ['1'] := by
  constructor
  · intro h
    obtain ⟨hsize, -, hint⟩ := gcUpdateParseSize_eq_some.mp h
    cases value with
    | nil => cases hsize
    | cons c rest =>
      simp only [Tools.isSize, Bool.and_eq_true, bne_iff_ne, List.all_eq_true,
        decide_eq_true_eq] at hsize
      obtain ⟨⟨⟨hdigit, hne⟩, -⟩, -⟩ := hsize
      have hle := pow_le_ofDigitChars hdigit hne rest
      have hone : Nat.ofDigitChars 10 (c :: rest) 0 = 1 := hint.symm
      have hnil : rest = [] := by
        by_contra hrest
        have hpow : 10 ^ 1 ≤ 10 ^ rest.length :=
          Nat.pow_le_pow_right (by decide) (List.length_pos_iff.mpr hrest)
        omega
      subst hnil
      have hc : c.toNat - 48 = 1 := by simpa [Nat.ofDigitChars_cons] using hone
      exact congrArg (fun d => [d]) (Char.toNat_inj.mp (show c.toNat = '1'.toNat by
        change c.toNat = 49
        omega))
  · rintro rfl
    rfl

/-- The digest of a manifest keeps its text. -/
theorem gcUpdateParseSha256_eq_some {value sha256 : Text} :
    gcUpdateParseSha256 value = some sha256 ↔
      value.length = 64 ∧ value.all isLowerHex = true ∧ sha256 = value := by
  unfold gcUpdateParseSha256
  split_ifs with h
  · exact ⟨fun heq => ⟨h.1, h.2, (Option.some.inj heq).symm⟩, fun heq => by rw [heq.2.2]⟩
  · constructor
    · exact fun heq => nomatch heq
    · exact fun heq => absurd ⟨heq.1, heq.2.1⟩ h

end GreenCurve
