import GreenCurve.Base64

/-! # The signature decoder

An update is installed only with a signature over its manifest, and the signature comes as
base64 text.  Two spellings of one signature would leave it open which bytes were signed, so
the decoder takes the canonical encoding only, and one line ending behind it
(`decode_canonical`). -/

namespace GreenCurve.Update

/-! ## The decoder -/

def LF : UInt8 := 0x0A
def CR : UInt8 := 0x0D

/-- `gc_update_base64_value`; `none` is `-1`. -/
def gcUpdateBase64Value (c : UInt8) : Option Nat :=
  if c ≥ 0x41 ∧ c ≤ 0x5A then some (c.toNat - 0x41)
  else if c ≥ 0x61 ∧ c ≤ 0x7A then some (c.toNat - 0x61 + 26)
  else if c ≥ 0x30 ∧ c ≤ 0x39 then some (c.toNat - 0x30 + 52)
  else if c = 0x2B then some 62
  else if c = 0x2F then some 63
  else none

/-- `quad` and `padding`. -/
structure Quad where
  quad : List Nat
  padding : Nat
  deriving DecidableEq

/-- The loop over `j`: the sextets of the characters from the `j`-th on.  `last` says that
they are the last of the text. -/
def readQuad (last : Bool) : Nat → List UInt8 → Quad → Option Quad
  | _, [], read => some read
  | j, c :: text, read =>
      if c = Base64.pad then
        if !last ∨ j < 2 then none
        else readQuad last (j + 1) text { quad := read.quad ++ [0], padding := read.padding + 1 }
      else if read.padding ≠ 0 then none
      else match gcUpdateBase64Value c with
        | none => none
        | some v => readQuad last (j + 1) text { read with quad := read.quad ++ [v] }

/-- The bits under the padding are not all zero. -/
def Quad.spare (read : Quad) : Bool :=
  (read.padding == 2 && (read.quad.getD 1 0 &&& 0x0F) != 0) ||
    (read.padding == 1 && (read.quad.getD 2 0 &&& 0x03) != 0)

/-- `triple`. -/
def Quad.triple (read : Quad) : Nat :=
  read.quad.getD 0 0 <<< 18 ||| read.quad.getD 1 0 <<< 12 ||| read.quad.getD 2 0 <<< 6 |||
    read.quad.getD 3 0

/-- The bytes of a group, `3 - padding` of them. -/
def Quad.bytes (read : Quad) : List UInt8 :=
  (List.range (3 - read.padding)).map fun j => (read.triple >>> (16 - 8 * j) &&& 0xFF).toUInt8

/-- The loop that stores the bytes of a group. -/
def store (outSize : Nat) (out : List UInt8) : List UInt8 → Option (List UInt8)
  | [] => some out
  | b :: bytes => if out.length ≥ outSize then none else store outSize (out ++ [b]) bytes

/-- The loop over the groups; `out` is what was produced. -/
def decodeGroups (outSize : Nat) : List UInt8 → List UInt8 → Option (List UInt8)
  | c0 :: c1 :: c2 :: c3 :: text, out =>
      match readQuad text.isEmpty 0 [c0, c1, c2, c3] { quad := [], padding := 0 } with
      | none => none
      | some read =>
          if read.spare then none
          else match store outSize out read.bytes with
            | none => none
            | some out => decodeGroups outSize text out
  | _, out => some out

/-- `textLen` without one line ending; a carriage return alone is refused. -/
def textLen (text : List UInt8) : Option Nat :=
  let textLen := text.length
  if textLen ≥ 2 ∧ text[textLen - 2]? = some CR ∧ text[textLen - 1]? = some LF then
    some (textLen - 2)
  else if textLen ≥ 1 ∧ text[textLen - 1]? = some LF then some (textLen - 1)
  else if textLen ≥ 1 ∧ text[textLen - 1]? = some CR then none
  else some textLen

/-- `gc_update_base64_decode`: the bytes stored, or `none` for `false`. -/
def gcUpdateBase64Decode (text : List UInt8) (outSize : Nat) : Option (List UInt8) :=
  match textLen text with
  | none => none
  | some textLen =>
      if textLen = 0 ∨ textLen % 4 ≠ 0 then none
      else match decodeGroups outSize (text.take textLen) [] with
        | none => none
        | some out => if 0 < out.length then some out else none

/-! ## One group -/

theorem value_letter {v : Nat} (hv : v < 64) : gcUpdateBase64Value (Base64.letter v) = some v := by
  have hnat := Base64.toNat_letter hv
  rw [gcUpdateBase64Value]
  simp only [ge_iff_le, UInt8.le_iff_toNat_le, ← UInt8.toNat_inj, UInt8.reduceToNat, hnat]
  split_ifs <;> first | omega | (congr 1; omega)

theorem letter_of_value {c : UInt8} {v : Nat} (h : gcUpdateBase64Value c = some v) :
    v < 64 ∧ c = Base64.letter v := by
  rw [gcUpdateBase64Value] at h
  simp only [ge_iff_le, UInt8.le_iff_toNat_le, ← UInt8.toNat_inj, UInt8.reduceToNat] at h
  have hv : v < 64 := by split_ifs at h <;> cases h <;> omega
  refine ⟨hv, UInt8.toNat_inj.mp ?_⟩
  rw [Base64.toNat_letter hv]
  split_ifs at h <;> cases h <;> split_ifs <;> omega

/-- The group of characters that was read: four letters, or fewer and padding at the end of
the text. -/
inductive Group (last : Bool) : List UInt8 → Quad → Prop
  | full {v0 v1 v2 v3 : Nat} (h0 : v0 < 64) (h1 : v1 < 64) (h2 : v2 < 64) (h3 : v3 < 64) :
      Group last [Base64.letter v0, Base64.letter v1, Base64.letter v2, Base64.letter v3]
        ⟨[v0, v1, v2, v3], 0⟩
  | two {v0 v1 v2 : Nat} (h0 : v0 < 64) (h1 : v1 < 64) (h2 : v2 < 64) (hlast : last = true) :
      Group last [Base64.letter v0, Base64.letter v1, Base64.letter v2, Base64.pad]
        ⟨[v0, v1, v2, 0], 1⟩
  | one {v0 v1 : Nat} (h0 : v0 < 64) (h1 : v1 < 64) (hlast : last = true) :
      Group last [Base64.letter v0, Base64.letter v1, Base64.pad, Base64.pad] ⟨[v0, v1, 0, 0], 2⟩

/-- A letter is read where no padding came before it. -/
theorem readQuad_letter {last : Bool} {j v : Nat} {text : List UInt8} {values : List Nat}
    (hv : v < 64) :
    readQuad last j (Base64.letter v :: text) ⟨values, 0⟩ =
      readQuad last (j + 1) text ⟨values ++ [v], 0⟩ := by
  rw [readQuad, if_neg (Base64.letter_ne_pad hv), value_letter hv]
  rfl

theorem readQuad_pad {last : Bool} {j : Nat} {text : List UInt8} {read : Quad} (hj : 2 ≤ j)
    (hlast : last = true) :
    readQuad last j (Base64.pad :: text) read =
      readQuad last (j + 1) text ⟨read.quad ++ [0], read.padding + 1⟩ := by
  rw [readQuad, if_pos rfl, if_neg (by rw [hlast]; simp; omega)]

theorem Group.readQuad_eq {last : Bool} {text : List UInt8} {read : Quad}
    (h : Group last text read) : readQuad last 0 text ⟨[], 0⟩ = some read := by
  cases h with
  | full h0 h1 h2 h3 =>
    rw [readQuad_letter h0, readQuad_letter h1, readQuad_letter h2, readQuad_letter h3]
    rfl
  | two h0 h1 h2 hlast =>
    rw [readQuad_letter h0, readQuad_letter h1, readQuad_letter h2,
      readQuad_pad (by decide) hlast]
    rfl
  | one h0 h1 hlast =>
    rw [readQuad_letter h0, readQuad_letter h1, readQuad_pad (by decide) hlast,
      readQuad_pad (by decide) hlast]
    rfl

/-- What one round of the loop took: a letter, or padding in the last two places. -/
theorem readQuad_cons {last : Bool} {j : Nat} {c : UInt8} {text : List UInt8} {read out : Quad}
    (h : readQuad last j (c :: text) read = some out) :
    (c = Base64.pad ∧ last = true ∧ 2 ≤ j ∧
      readQuad last (j + 1) text ⟨read.quad ++ [0], read.padding + 1⟩ = some out) ∨
    (read.padding = 0 ∧ ∃ v < 64, c = Base64.letter v ∧
      readQuad last (j + 1) text ⟨read.quad ++ [v], read.padding⟩ = some out) := by
  rw [readQuad] at h
  split_ifs at h with hpad hplace hdata
  · push Not at hplace
    exact .inl ⟨hpad, by simpa using hplace.1, hplace.2, h⟩
  · cases hvalue : gcUpdateBase64Value c with
    | none => simp only [hvalue, reduceCtorEq] at h
    | some v =>
      simp only [hvalue] at h
      obtain ⟨hv, hc⟩ := letter_of_value hvalue
      exact .inr ⟨not_not.mp hdata, v, hv, hc, h⟩

theorem group_of_readQuad {last : Bool} {c0 c1 c2 c3 : UInt8} {read : Quad}
    (h : readQuad last 0 [c0, c1, c2, c3] ⟨[], 0⟩ = some read) :
    Group last [c0, c1, c2, c3] read := by
  obtain ⟨-, -, hj, -⟩ | ⟨-, v0, h0, rfl, hread0⟩ := readQuad_cons h
  · omega
  obtain ⟨-, -, hj, -⟩ | ⟨-, v1, h1, rfl, hread1⟩ := readQuad_cons hread0
  · omega
  obtain ⟨rfl, hlast, -, hread2⟩ | ⟨-, v2, h2, rfl, hread2⟩ := readQuad_cons hread1
  · -- after padding only padding
    obtain ⟨rfl, -, -, hread3⟩ | ⟨hdata, -⟩ := readQuad_cons hread2
    · cases hread3
      exact .one h0 h1 hlast
    · simp at hdata
  · obtain ⟨rfl, hlast, -, hread3⟩ | ⟨-, v3, h3, rfl, hread3⟩ := readQuad_cons hread2
    · cases hread3
      exact .two h0 h1 h2 hlast
    · cases hread3
      exact .full h0 h1 h2 h3

/-! ## The bits of a group -/

/-- The sextets lie side by side. -/
theorem triple_eq {v0 v1 v2 v3 padding : Nat} (h1 : v1 < 64) (h2 : v2 < 64) (h3 : v3 < 64) :
    (Quad.mk [v0, v1, v2, v3] padding).triple = ((v0 * 64 + v1) * 64 + v2) * 64 + v3 := by
  have happend : ∀ a b : Nat, b < 64 → a <<< 6 ||| b = a * 64 + b := by
    intro a b hb
    rw [← Nat.shiftLeft_add_eq_or_of_lt (show b < 2 ^ 6 from hb), Nat.shiftLeft_eq]
  have h : (Quad.mk [v0, v1, v2, v3] padding).triple =
      ((v0 <<< 6 ||| v1) <<< 6 ||| v2) <<< 6 ||| v3 := by
    simp only [Quad.triple, List.getD_cons_zero, List.getD_cons_succ, Nat.shiftLeft_or_distrib,
      ← Nat.shiftLeft_add]
  rw [h, happend _ _ h1, happend _ _ h2, happend _ _ h3]

theorem and_low (n : Nat) : n &&& 0xFF = n % 256 := Nat.and_two_pow_sub_one_eq_mod n 8

section Bytes

variable {v0 v1 v2 v3 padding : Nat} (h0 : v0 < 64) (h1 : v1 < 64) (h2 : v2 < 64) (h3 : v3 < 64)

include h0 h1 h2 h3 in
theorem byte0_of_triple :
    ((Quad.mk [v0, v1, v2, v3] padding).triple >>> 16 &&& 0xFF).toUInt8 = Base64.byte0 v0 v1 := by
  rw [triple_eq h1 h2 h3, and_low, Nat.shiftRight_eq_div_pow, Base64.byte0]
  congr 1
  omega

include h1 h2 h3 in
theorem byte1_of_triple :
    ((Quad.mk [v0, v1, v2, v3] padding).triple >>> 8 &&& 0xFF).toUInt8 = Base64.byte1 v1 v2 := by
  rw [triple_eq h1 h2 h3, and_low, Nat.shiftRight_eq_div_pow, Base64.byte1]
  congr 1
  omega

include h1 h2 h3 in
theorem byte2_of_triple :
    ((Quad.mk [v0, v1, v2, v3] padding).triple >>> 0 &&& 0xFF).toUInt8 = Base64.byte2 v2 v3 := by
  rw [triple_eq h1 h2 h3, and_low, Nat.shiftRight_eq_div_pow, Base64.byte2]
  congr 1
  omega

include h0 h1 h2 h3 in
theorem bytes_full :
    (Quad.mk [v0, v1, v2, v3] 0).bytes =
      [Base64.byte0 v0 v1, Base64.byte1 v1 v2, Base64.byte2 v2 v3] :=
  congrArg₂ _ (byte0_of_triple h0 h1 h2 h3)
    (congrArg₂ _ (byte1_of_triple h1 h2 h3) (congrArg₂ _ (byte2_of_triple h1 h2 h3) rfl))

include h0 h1 h2 in
theorem bytes_two :
    (Quad.mk [v0, v1, v2, 0] 1).bytes = [Base64.byte0 v0 v1, Base64.byte1 v1 v2] :=
  congrArg₂ _ (byte0_of_triple h0 h1 h2 (by decide))
    (congrArg₂ _ (byte1_of_triple h1 h2 (by decide)) rfl)

include h0 h1 in
theorem bytes_one : (Quad.mk [v0, v1, 0, 0] 2).bytes = [Base64.byte0 v0 v1] :=
  congrArg₂ _ (byte0_of_triple h0 h1 (by decide) (by decide)) rfl

end Bytes

/-- The bits under one padding are the low two of the third sextet. -/
theorem spare_two {v0 v1 v2 : Nat} : (Quad.mk [v0, v1, v2, 0] 1).spare = false ↔ v2 % 4 = 0 := by
  have hand : v2 &&& 3 = v2 % 4 := Nat.and_two_pow_sub_one_eq_mod v2 2
  simp [Quad.spare, hand]

/-- Those under two are the low four of the second. -/
theorem spare_one {v0 v1 : Nat} : (Quad.mk [v0, v1, 0, 0] 2).spare = false ↔ v1 % 16 = 0 := by
  have hand : v1 &&& 15 = v1 % 16 := Nat.and_two_pow_sub_one_eq_mod v1 4
  simp [Quad.spare, hand]

/-- A group with no bit to spare is the encoding of its bytes. -/
theorem Group.encode_bytes {last : Bool} {text : List UInt8} {read : Quad}
    (h : Group last text read) (hspare : read.spare = false) (rest : List UInt8)
    (hlast : last = true → rest = []) :
    Base64.encode (read.bytes ++ rest) = text ++ Base64.encode rest := by
  cases h with
  | full h0 h1 h2 h3 =>
    rw [bytes_full h0 h1 h2 h3]
    exact Base64.encode_group h0 h1 h2 h3 rest
  | two h0 h1 h2 htrue =>
    rw [bytes_two h0 h1 h2, hlast htrue]
    exact Base64.encode_two h0 h1 h2 (spare_two.mp hspare)
  | one h0 h1 htrue =>
    rw [bytes_one h0 h1, hlast htrue]
    exact Base64.encode_one h0 h1 (spare_one.mp hspare)

/-! ## The loop -/

/-- The bytes are stored where they fit. -/
theorem store_eq {outSize : Nat} {bytes out : List UInt8}
    (h : out.length + bytes.length ≤ outSize) : store outSize out bytes = some (out ++ bytes) := by
  induction bytes generalizing out with
  | nil => rw [store, List.append_nil]
  | cons b bytes ih =>
    rw [List.length_cons] at h
    rw [store, if_neg (by omega), ih (by rw [List.length_append, List.length_singleton]; omega),
      List.append_assoc, List.singleton_append]

/-- Nothing is stored behind the end of the output. -/
theorem store_some {outSize : Nat} {bytes out stored : List UInt8} (hout : out.length ≤ outSize)
    (h : store outSize out bytes = some stored) :
    stored = out ++ bytes ∧ stored.length ≤ outSize := by
  induction bytes generalizing out with
  | nil =>
    rw [store, Option.some.injEq] at h
    rw [← h, List.append_nil]
    exact ⟨rfl, hout⟩
  | cons b bytes ih =>
    rw [store] at h
    split_ifs at h with hfull
    obtain ⟨heq, hlen⟩ := ih (by rw [List.length_append, List.length_singleton]; omega) h
    exact ⟨by rw [heq, List.append_assoc, List.singleton_append], hlen⟩

/-- What the loop decoded is what the text encodes. -/
theorem encode_of_decodeGroups {outSize : Nat} {text out stored : List UInt8}
    (hmod : text.length % 4 = 0) (hout : out.length ≤ outSize)
    (h : decodeGroups outSize text out = some stored) :
    ∃ bytes, text = Base64.encode bytes ∧ stored = out ++ bytes ∧ stored.length ≤ outSize := by
  fun_induction decodeGroups outSize text out with
  | case1 | case2 | case3 => cases h
  | case4 out c0 c1 c2 c3 text read hread hspare out' hstore ih =>
    obtain ⟨heq, hlen⟩ := store_some hout hstore
    obtain ⟨bytes, rfl, hstored, hfits⟩ :=
      ih (by simp only [List.length_cons] at hmod; omega) hlen h
    have hgroup := group_of_readQuad hread
    have hend : (Base64.encode bytes).isEmpty = true → bytes = [] := fun hempty =>
      Base64.encode_eq_nil.mp (List.isEmpty_iff.mp hempty)
    refine ⟨read.bytes ++ bytes, ?_, ?_, hfits⟩
    · exact (hgroup.encode_bytes (Bool.eq_false_of_not_eq_true hspare) bytes hend).symm
    · rw [hstored, heq, List.append_assoc]
  | case5 text out hshort =>
    cases h
    refine ⟨[], ?_, (List.append_nil _).symm, hout⟩
    match text, hmod with
    | [], _ => rfl
    | [_], hmod | [_, _], hmod | [_, _, _], hmod => simp at hmod
    | c0 :: c1 :: c2 :: c3 :: text, _ => exact (hshort c0 c1 c2 c3 text rfl).elim

/-- One round of the loop over a group with no bit to spare. -/
theorem decodeGroups_group {outSize : Nat} {c0 c1 c2 c3 : UInt8} {text out : List UInt8}
    {read : Quad} (hgroup : Group text.isEmpty [c0, c1, c2, c3] read)
    (hspare : read.spare = false) (hfits : out.length + read.bytes.length ≤ outSize) :
    decodeGroups outSize (c0 :: c1 :: c2 :: c3 :: text) out =
      decodeGroups outSize text (out ++ read.bytes) := by
  simp only [decodeGroups, hgroup.readQuad_eq, hspare, Bool.false_eq_true, if_false,
    store_eq hfits]

/-- The encoding is decoded where the bytes fit. -/
theorem decodeGroups_encode {outSize : Nat} {bytes out : List UInt8}
    (h : out.length + bytes.length ≤ outSize) :
    decodeGroups outSize (Base64.encode bytes) out = some (out ++ bytes) := by
  fun_induction Base64.encode bytes generalizing out with
  | case1 => simp only [decodeGroups, List.append_nil]
  | case2 a =>
    have ha := a.toNat_lt
    have h0 : a.toNat / 4 < 64 := by omega
    have h1 : a.toNat % 4 * 16 < 64 := by omega
    have hbytes := bytes_one h0 h1
    rw [show Base64.byte0 (a.toNat / 4) (a.toNat % 4 * 16) = a from Base64.byte0_sextets a 0]
      at hbytes
    rw [decodeGroups_group (.one h0 h1 rfl) (spare_one.mpr (by omega)) (by rwa [hbytes]), hbytes]
    simp only [decodeGroups]
  | case3 a b =>
    have ha := a.toNat_lt
    have hb := b.toNat_lt
    have h0 : a.toNat / 4 < 64 := by omega
    have h1 : a.toNat % 4 * 16 + b.toNat / 16 < 64 := by omega
    have h2 : b.toNat % 16 * 4 < 64 := by omega
    have hbytes := bytes_two h0 h1 h2
    rw [Base64.byte0_sextets,
      show Base64.byte1 _ (b.toNat % 16 * 4) = b from Base64.byte1_sextets a b 0] at hbytes
    rw [decodeGroups_group (.two h0 h1 h2 rfl) (spare_two.mpr (by omega)) (by rwa [hbytes]), hbytes]
    simp only [decodeGroups]
  | case4 a b c rest ih =>
    have ha := a.toNat_lt
    have hb := b.toNat_lt
    have hc := c.toNat_lt
    have h0 : a.toNat / 4 < 64 := by omega
    have h1 : a.toNat % 4 * 16 + b.toNat / 16 < 64 := by omega
    have h2 : b.toNat % 16 * 4 + c.toNat / 64 < 64 := by omega
    have h3 : c.toNat % 64 < 64 := by omega
    have hbytes := bytes_full h0 h1 h2 h3
    rw [Base64.byte0_sextets, Base64.byte1_sextets, Base64.byte2_sextets] at hbytes
    simp only [List.length_cons] at h
    rw [decodeGroups_group (.full h0 h1 h2 h3) rfl
        (by rw [hbytes]; simp only [List.length_cons, List.length_nil]; omega),
      hbytes,
      ih (by simp only [List.length_append, List.length_cons, List.length_nil]; omega),
      List.append_assoc]
    rfl

/-! ## The line ending -/

/-- What may follow the encoding: nothing, or the end of one line. -/
def lineEndings : List (List UInt8) := [[], [LF], [CR, LF]]

theorem drop_of_getElem? {text : List UInt8} {i : Nat} {c : UInt8} (h : text[i]? = some c) :
    text.drop i = c :: text.drop (i + 1) := by
  obtain ⟨hlt, rfl⟩ := List.getElem?_eq_some_iff.mp h
  exact List.drop_eq_getElem_cons hlt

/-- The end of the text, where the decoder takes it. -/
theorem textLen_some {text : List UInt8} {n : Nat} (h : textLen text = some n) :
    n ≤ text.length ∧ ∃ ending ∈ lineEndings, text = text.take n ++ ending := by
  rw [textLen] at h
  split_ifs at h with hcrlf hlf hcr
  · cases h
    obtain ⟨hlen, hcr, hlf⟩ := hcrlf
    have hnext : text.length - 2 + 1 = text.length - 1 := by omega
    have hend : text.length - 1 + 1 = text.length := by omega
    have hdrop : text.drop (text.length - 2) = [CR, LF] := by
      rw [drop_of_getElem? hcr, hnext, drop_of_getElem? hlf, hend, List.drop_length]
    exact ⟨by omega, [CR, LF], by decide, by rw [← hdrop, List.take_append_drop]⟩
  · cases h
    have hend : text.length - 1 + 1 = text.length := by omega
    have hdrop : text.drop (text.length - 1) = [LF] := by
      rw [drop_of_getElem? hlf.2, hend, List.drop_length]
    exact ⟨by omega, [LF], by decide, by rw [← hdrop, List.take_append_drop]⟩
  · cases h
    exact ⟨le_refl _, [], by decide, by rw [List.take_length, List.append_nil]⟩

/-- The line ending is taken off a text of printable characters. -/
theorem textLen_append {body ending : List UInt8} (hending : ending ∈ lineEndings)
    (hbody : ∀ c ∈ body, 0x20 < c.toNat) : textLen (body ++ ending) = some body.length := by
  have hcr : ∀ i : Nat, body[i]? ≠ some CR := fun i h =>
    absurd (hbody CR (List.mem_of_getElem? h)) (by decide)
  have hlf : ∀ i : Nat, body[i]? ≠ some LF := fun i h =>
    absurd (hbody LF (List.mem_of_getElem? h)) (by decide)
  simp only [lineEndings, List.mem_cons, List.not_mem_nil, or_false] at hending
  rcases hending with rfl | rfl | rfl
  · rw [List.append_nil, textLen]
    simp only [hlf, hcr, and_false, if_false]
  · have hlen : (body ++ [LF]).length = body.length + 1 := by simp
    have hlast : (body ++ [LF])[body.length + 1 - 1]? = some LF := by simp
    have hbefore : ¬(body.length + 1 ≥ 2 ∧ (body ++ [LF])[body.length + 1 - 2]? = some CR) := by
      rintro ⟨hlong, h⟩
      rw [List.getElem?_append_left (by omega)] at h
      exact hcr _ h
    rw [textLen]
    simp only [hlen, hlast]
    rw [if_neg (fun h => hbefore ⟨h.1, h.2.1⟩), if_pos ⟨by omega, trivial⟩]
    rfl
  · have hlen : (body ++ [CR, LF]).length = body.length + 2 := by simp
    have hlast : (body ++ [CR, LF])[body.length + 2 - 1]? = some LF := by
      rw [List.getElem?_append_right (by omega)]
      simp
    have hbefore : (body ++ [CR, LF])[body.length + 2 - 2]? = some CR := by simp
    rw [textLen]
    simp only [hlen, hlast, hbefore]
    rw [if_pos ⟨by omega, trivial, trivial⟩]
    rfl

/-- What the decoder accepts, in terms of the encoding. -/
theorem gcUpdateBase64Decode_iff {text : List UInt8} {outSize : Nat} {bytes : List UInt8} :
    gcUpdateBase64Decode text outSize = some bytes ↔
      bytes ≠ [] ∧ bytes.length ≤ outSize ∧
        ∃ ending ∈ lineEndings, text = Base64.encode bytes ++ ending := by
  constructor
  · intro h
    rw [gcUpdateBase64Decode] at h
    cases hlen : textLen text with
    | none => simp only [hlen, reduceCtorEq] at h
    | some n =>
      simp only [hlen] at h
      split_ifs at h with hshape
      push Not at hshape
      cases hgroups : decodeGroups outSize (text.take n) [] with
      | none => simp only [hgroups, reduceCtorEq] at h
      | some out =>
        simp only [hgroups] at h
        split_ifs at h with hsome
        cases h
        obtain ⟨hle, ending, hending, htext⟩ := textLen_some hlen
        obtain ⟨decoded, hencode, rfl, hfits⟩ := encode_of_decodeGroups
          (by rw [List.length_take, Nat.min_eq_left hle]; exact hshape.2) (Nat.zero_le _) hgroups
        exact ⟨List.ne_nil_of_length_pos hsome, hfits, ending, hending,
          by rw [htext, hencode]⟩
  · rintro ⟨hne, hfits, ending, hending, rfl⟩
    have hpos : 0 < (Base64.encode bytes).length :=
      List.length_pos_of_ne_nil fun h => hne (Base64.encode_eq_nil.mp h)
    have hmod := Base64.length_encode_mod bytes
    rw [gcUpdateBase64Decode, textLen_append hending fun c => Base64.encode_gt]
    have hgroups : decodeGroups outSize (Base64.encode bytes) [] = some ([] ++ bytes) :=
      decodeGroups_encode (by simpa using hfits)
    simp only [List.take_left, hgroups]
    rw [if_neg (by omega), List.nil_append, if_pos (List.length_pos_of_ne_nil hne)]

/-- **The decoder takes the canonical encoding and no other text**: the bytes it stores are
not empty, fit the output and are the ones that the text, without one line ending, encodes.
Two texts that decode to the same bytes differ in their line endings at most. -/
theorem decode_canonical (text : List UInt8) (outSize : Nat) (bytes : List UInt8) :
    (gcUpdateBase64Decode text outSize = some bytes ↔
      bytes ≠ [] ∧ bytes.length ≤ outSize ∧
        ∃ ending ∈ lineEndings, text = Base64.encode bytes ++ ending) ∧
    ∀ text' outSize', gcUpdateBase64Decode text outSize = some bytes →
      gcUpdateBase64Decode text' outSize' = some bytes →
      ∃ body, ∃ ending ∈ lineEndings, ∃ ending' ∈ lineEndings,
        text = body ++ ending ∧ text' = body ++ ending' := by
  refine ⟨gcUpdateBase64Decode_iff, fun text' outSize' h h' => ?_⟩
  obtain ⟨-, -, ending, hending, htext⟩ := gcUpdateBase64Decode_iff.mp h
  obtain ⟨-, -, ending', hending', htext'⟩ := gcUpdateBase64Decode_iff.mp h'
  exact ⟨Base64.encode bytes, ending, hending, ending', hending', htext, htext'⟩

/-- Two spellings of `Ma`, one with each line ending. -/
theorem decode_canonical_ma :
    ∃ body, ∃ ending ∈ lineEndings, ∃ ending' ∈ lineEndings,
      [0x54, 0x57, 0x45, 0x3D, LF] = body ++ ending ∧
        [0x54, 0x57, 0x45, 0x3D, CR, LF] = body ++ ending' :=
  (decode_canonical [0x54, 0x57, 0x45, 0x3D, LF] 8 [0x4D, 0x61]).2
    [0x54, 0x57, 0x45, 0x3D, CR, LF] 8 (by decide) (by decide)

example : gcUpdateBase64Decode [0x54, 0x57, 0x46, 0x3D] 8 = none := by decide

end GreenCurve.Update
