import GreenCurve.CString

/-! # PowerShell literals

Commands that the program shows to be pasted into an elevated PowerShell carry folder
names inside single quotes.  PowerShell takes five characters for a single quote, and two
of them in a row, equal or not, for one; any other ends the string.  The writer doubles
each quote of the name it copies into its buffer.  `scanLiteral` is PowerShell's side, on
the UTF-8 bytes, and reads back what the writer wrote. -/

namespace GreenCurve.PowerShell

/-! ## What PowerShell reads -/

/-- The characters PowerShell takes for a single quote, as UTF-8. -/
def quotes : List (List UInt8) := ['\'', '‘', '’', '‚', '‛'].map String.utf8EncodeChar

/-- The quote a text starts with. -/
def quoteAt (text : List UInt8) : Option (List UInt8) := quotes.find? (·.isPrefixOf text)

theorem mem_of_quoteAt {text q : List UInt8} (h : quoteAt text = some q) :
    q ∈ quotes ∧ q <+: text := by
  rw [quoteAt] at h
  have hprefix := List.find?_some h
  exact ⟨List.mem_of_find?_eq_some h, List.isPrefixOf_iff_prefix.mp hprefix⟩

theorem length_pos_of_quoteAt {text q : List UInt8} (h : quoteAt text = some q) :
    0 < q.length ∧ q.length ≤ text.length := by
  have hall : ∀ q ∈ quotes, 0 < q.length := by decide
  obtain ⟨hmem, hprefix⟩ := mem_of_quoteAt h
  exact ⟨hall q hmem, hprefix.length_le⟩

/-- The inside of a literal, up to its closing quote: what it stands for and what is left. -/
def scanBody (text : List UInt8) : Option (List UInt8 × List UInt8) :=
  match hq : quoteAt text with
  | some q =>
      have _ := length_pos_of_quoteAt hq
      match quoteAt (text.drop q.length) with
      | some q' =>
          (scanBody (text.drop (q.length + q'.length))).map fun (value, rest) => (q ++ value, rest)
      | none => some ([], text.drop q.length)
  | none =>
      match text with
      | [] => none
      | b :: rest => (scanBody rest).map fun (value, rest) => (b :: value, rest)
  termination_by text.length
  decreasing_by
    · simp only [List.length_drop]
      omega
    · simp

/-- A single-quoted string: what it stands for and what is left behind it. -/
def scanLiteral (text : List UInt8) : Option (List UInt8 × List UInt8) :=
  (quoteAt text).bind fun q => scanBody (text.drop q.length)

/-! ## What the program writes -/

/-- `u[0] == 0xE2 && u[1] == 0x80 && u[2] >= 0x98 && u[2] <= 0x9B`. -/
def typographic (u0 u1 u2 : UInt8) : Bool :=
  u0 == 0xE2 && u1 == 0x80 && decide (u2 ≥ 0x98) && decide (u2 ≤ 0x9B)

/-- The buffer and how much of it is used; a null buffer behaves as an empty one. -/
structure Out where
  memory : List UInt8
  used : Nat
  overflow : Bool
  deriving DecidableEq

/-- `memcpy(memory + place, bytes, n)`. -/
def copyTo (memory : List UInt8) (place : Nat) (bytes : List UInt8) : List UInt8 :=
  memory.take place ++ bytes ++ memory.drop (place + bytes.length)

/-- The lambda `put`: the bytes `copies` times and a terminator, or nothing. -/
def Out.put (out : Out) (bytes : List UInt8) (copies : Nat) : Out × Bool :=
  if out.used ≥ out.memory.length
      ∨ bytes.length * copies > out.memory.length - out.used - 1 then
    ({ out with overflow := true }, false)
  else
    let text := (List.replicate copies bytes).flatten
    ({ out with
        memory := copyTo (copyTo out.memory out.used text) (out.used + text.length) [0]
        used := out.used + text.length }, true)

/-- How often a character that is no typographic quote is put. -/
def copiesOf (u0 : UInt8) : Nat := if u0 == 0x27 then 2 else 1

/-- The loop over the text: no typographic quote starts where fewer than three bytes are
left. -/
def Out.putText (out : Out) : List UInt8 → Out × Bool
  | [] => (out, true)
  | u0 :: u1 :: u2 :: rest =>
      if typographic u0 u1 u2 then
        match out.put [u0, u1, u2] 2 with
        | (out, true) => out.putText rest
        | (out, false) => (out, false)
      else
        match out.put [u0] (copiesOf u0) with
        | (out, true) => out.putText (u1 :: u2 :: rest)
        | (out, false) => (out, false)
  | u0 :: rest =>
      match out.put [u0] (copiesOf u0) with
      | (out, true) => out.putText rest
      | (out, false) => (out, false)

/-- `gc_powershell_append_literal`. -/
def gcPowershellAppendLiteral (out : Out) (text : CString) : Out :=
  match out.put [0x27] 1 with
  | (out, false) => out
  | (out, true) =>
      match out.putText text.bytes with
      | (out, false) => out
      | (out, true) => (out.put [0x27] 1).1

/-! ## Pieces

A text is cut into its quotes and its other bytes, and each becomes one piece of the
literal. -/

/-- The pieces of a text: a doubled quote, or one other byte. -/
def pieces : List UInt8 → List (List UInt8)
  | [] => []
  | u0 :: u1 :: u2 :: rest =>
      if typographic u0 u1 u2 then [u0, u1, u2, u0, u1, u2] :: pieces rest
      else List.replicate (copiesOf u0) u0 :: pieces (u1 :: u2 :: rest)
  | u0 :: rest => List.replicate (copiesOf u0) u0 :: pieces rest

/-- The literal of a text. -/
def literal (text : List UInt8) : List UInt8 := 0x27 :: (pieces text).flatten ++ [0x27]

/-- A typographic quote stands in front. -/
def startsTypographic : List UInt8 → Bool
  | u0 :: u1 :: u2 :: _ => typographic u0 u1 u2
  | _ => false

theorem pieces_single {u0 : UInt8} {rest : List UInt8}
    (h : startsTypographic (u0 :: rest) = false) :
    pieces (u0 :: rest) = List.replicate (copiesOf u0) u0 :: pieces rest := by
  match rest with
  | [] => rfl
  | [_] => rfl
  | _ :: _ :: _ => exact if_neg (Bool.eq_false_iff.mp h)

theorem typographic_iff {u0 u1 u2 : UInt8} :
    typographic u0 u1 u2 = true ↔ u0 = 0xE2 ∧ u1 = 0x80 ∧ 0x98 ≤ u2 ∧ u2 ≤ 0x9B := by
  simp [typographic, and_assoc]

/-- The third byte of a typographic quote is one of four. -/
theorem third_byte {u2 : UInt8} (h : 0x98 ≤ u2 ∧ u2 ≤ 0x9B) :
    u2 = 0x98 ∨ u2 = 0x99 ∨ u2 = 0x9A ∨ u2 = 0x9B := by
  obtain ⟨hlow, hhigh⟩ := h
  have hlow : 0x98 ≤ u2.toNat := hlow
  have hhigh : u2.toNat ≤ 0x9B := hhigh
  simp only [← UInt8.toNat_inj]
  show u2.toNat = 0x98 ∨ u2.toNat = 0x99 ∨ u2.toNat = 0x9A ∨ u2.toNat = 0x9B
  omega

theorem quotes_eq : quotes =
    [[0x27], [0xE2, 0x80, 0x98], [0xE2, 0x80, 0x99], [0xE2, 0x80, 0x9A], [0xE2, 0x80, 0x9B]] := by
  decide

theorem quoteAt_apostrophe (rest : List UInt8) : quoteAt (0x27 :: rest) = some [0x27] := by
  simp [quoteAt, quotes_eq]

theorem quoteAt_typographic {u0 u1 u2 : UInt8} (h : typographic u0 u1 u2 = true)
    (rest : List UInt8) : quoteAt (u0 :: u1 :: u2 :: rest) = some [u0, u1, u2] := by
  obtain ⟨rfl, rfl, hthird⟩ := typographic_iff.mp h
  rcases third_byte hthird with rfl | rfl | rfl | rfl <;> simp [quoteAt, quotes_eq]

theorem quoteAt_none {u0 : UInt8} {rest : List UInt8} (hu : u0 ≠ 0x27)
    (h : startsTypographic (u0 :: rest) = false) : quoteAt (u0 :: rest) = none := by
  cases hq : quoteAt (u0 :: rest) with
  | none => rfl
  | some q =>
      obtain ⟨hmem, tail, htail⟩ := mem_of_quoteAt hq
      simp only [quotes_eq, List.mem_cons, List.not_mem_nil, or_false] at hmem
      rcases hmem with rfl | rfl | rfl | rfl | rfl
      · exact absurd (List.cons.inj htail).1.symm hu
      all_goals
        rw [← htail] at h
        exact Bool.noConfusion (show true = false from h)

/-! ## Reading back -/

theorem scanBody_pair {q q' rest : List UInt8} (text : List UInt8) (hq : quoteAt text = some q)
    (hq' : quoteAt (text.drop q.length) = some q')
    (hrest : text.drop (q.length + q'.length) = rest) :
    scanBody text = (scanBody rest).map fun (value, rest) => (q ++ value, rest) := by
  rw [scanBody]
  split
  · rename_i q₁ hq₁
    obtain rfl : q = q₁ := Option.some.inj (hq.symm.trans hq₁)
    rw [hq']
    dsimp only
    rw [hrest]
  · rename_i hnone
    exact absurd (hnone.symm.trans hq) (Option.some_ne_none q).symm

theorem scanBody_close {q rest : List UInt8} (text : List UInt8) (hq : quoteAt text = some q)
    (hrest : text.drop q.length = rest) (hopen : quoteAt rest = none) :
    scanBody text = some ([], rest) := by
  rw [scanBody]
  split
  · rename_i q₁ hq₁
    obtain rfl : q = q₁ := Option.some.inj (hq.symm.trans hq₁)
    rw [hrest, hopen]
  · rename_i hnone
    exact absurd (hnone.symm.trans hq) (Option.some_ne_none q).symm

theorem scanBody_byte {b : UInt8} {rest : List UInt8} (h : quoteAt (b :: rest) = none) :
    scanBody (b :: rest) = (scanBody rest).map fun (value, rest) => (b :: value, rest) := by
  rw [scanBody]
  split
  · rename_i q hq
    exact absurd (h.symm.trans hq) (Option.some_ne_none q).symm
  · rfl

/-- A typographic quote in front, with its bytes. -/
theorem startsTypographic_iff {text : List UInt8} :
    startsTypographic text = true ↔
      ∃ u0 u1 u2 rest, text = u0 :: u1 :: u2 :: rest ∧ typographic u0 u1 u2 = true := by
  constructor
  · intro h
    match text with
    | u0 :: u1 :: u2 :: rest => exact ⟨u0, u1, u2, rest, rfl, h⟩
  · rintro ⟨u0, u1, u2, rest, rfl, h⟩
    exact h

theorem pieces_typographic {u0 u1 u2 : UInt8} (h : typographic u0 u1 u2 = true)
    (rest : List UInt8) :
    pieces (u0 :: u1 :: u2 :: rest) = [u0, u1, u2, u0, u1, u2] :: pieces rest := if_pos h

theorem copiesOf_apostrophe : copiesOf 0x27 = 2 := rfl

theorem copiesOf_other {u0 : UInt8} (h : u0 ≠ 0x27) : copiesOf u0 = 1 := by
  rw [copiesOf, beq_eq_false_iff_ne.mpr h]
  rfl

/-- A literal goes on with the byte its text goes on with. -/
theorem pieces_head (u0 : UInt8) (text : List UInt8) :
    ∃ tail, (pieces (u0 :: text)).flatten = u0 :: tail := by
  cases h : startsTypographic (u0 :: text) with
  | true =>
      obtain ⟨_, u1, u2, rest, heq, htyp⟩ := startsTypographic_iff.mp h
      obtain ⟨rfl, rfl⟩ := List.cons.inj heq
      exact ⟨_, by rw [pieces_typographic htyp, List.flatten_cons]; rfl⟩
  | false =>
      by_cases hu : u0 = 0x27
      · exact ⟨_, by rw [pieces_single h, hu, copiesOf_apostrophe, List.flatten_cons]; rfl⟩
      · exact ⟨_, by rw [pieces_single h, copiesOf_other hu, List.flatten_cons]; rfl⟩

/-- Doubling makes no typographic quote out of bytes that were none: whatever is put
behind a byte starts as the text behind it did, or with the closing quote. -/
theorem startsTypographic_literal {u0 : UInt8} {text : List UInt8} (rest : List UInt8)
    (h : startsTypographic (u0 :: text) = false) :
    startsTypographic (u0 :: ((pieces text).flatten ++ 0x27 :: rest)) = false := by
  rw [Bool.eq_false_iff] at h ⊢
  intro hnew
  obtain ⟨_, u1, u2, tail, heq, htyp⟩ := startsTypographic_iff.mp hnew
  obtain ⟨rfl, hbehind⟩ := List.cons.inj heq
  obtain ⟨hlead, hsecond, hthird⟩ := typographic_iff.mp htyp
  cases text with
  | nil => exact absurd ((List.cons.inj hbehind).1.trans hsecond) (by decide)
  | cons c text =>
      obtain ⟨back, hback⟩ := pieces_head c text
      have hc : c = 0x80 := by
        rw [hback] at hbehind
        exact (List.cons.inj hbehind).1.trans hsecond
      subst hc
      have hsingle : startsTypographic (0x80 :: text) = false := by
        rw [Bool.eq_false_iff]
        intro hstart
        obtain ⟨_, _, _, _, heq, hc⟩ := startsTypographic_iff.mp hstart
        exact absurd ((List.cons.inj heq).1.trans (typographic_iff.mp hc).1) (by decide)
      rw [pieces_single hsingle, copiesOf_other (by decide), List.flatten_cons,
        List.replicate_one, List.append_assoc] at hbehind
      have hafter : (pieces text).flatten ++ 0x27 :: rest = u2 :: tail := (List.cons.inj hbehind).2
      cases text with
      | nil =>
          rw [← (List.cons.inj hafter).1] at hthird
          exact absurd hthird (by decide)
      | cons d text =>
          obtain ⟨back, hback⟩ := pieces_head d text
          rw [hback] at hafter
          rw [← (List.cons.inj hafter).1] at hthird
          exact h (typographic_iff.mpr ⟨hlead, rfl, hthird⟩)

/-- One byte that starts no typographic quote, in front of what is already read back. -/
theorem scanBody_single {u0 : UInt8} {text rest : List UInt8}
    (h : startsTypographic (u0 :: text) = false)
    (ih : scanBody ((pieces text).flatten ++ 0x27 :: rest) = some (text, rest)) :
    scanBody ((pieces (u0 :: text)).flatten ++ 0x27 :: rest) = some (u0 :: text, rest) := by
  rw [pieces_single h, List.flatten_cons, List.append_assoc]
  by_cases hu : u0 = 0x27
  · subst hu
    have hpair := scanBody_pair (0x27 :: 0x27 :: ((pieces text).flatten ++ 0x27 :: rest))
      (quoteAt_apostrophe _) (quoteAt_apostrophe _) rfl
    rw [copiesOf_apostrophe]
    refine hpair.trans ?_
    show (scanBody ((pieces text).flatten ++ 0x27 :: rest)).map _ = _
    rw [ih]
    rfl
  · have hnone := quoteAt_none hu (startsTypographic_literal rest h)
    rw [copiesOf_other hu, List.replicate_one, List.singleton_append, scanBody_byte hnone, ih]
    rfl

/-- The rest of a literal stands for the rest of its text. -/
theorem scanBody_pieces {rest : List UInt8} (hrest : quoteAt rest = none) :
    ∀ text : List UInt8,
      scanBody ((pieces text).flatten ++ 0x27 :: rest) = some (text, rest)
  | [] => scanBody_close _ (quoteAt_apostrophe rest) rfl hrest
  | [_] => scanBody_single rfl (scanBody_pieces hrest [])
  | [_, u1] => scanBody_single rfl (scanBody_pieces hrest [u1])
  | u0 :: u1 :: u2 :: text => by
      cases h : typographic u0 u1 u2 with
      | true =>
          have hpair := scanBody_pair
            (u0 :: u1 :: u2 :: u0 :: u1 :: u2 :: ((pieces text).flatten ++ 0x27 :: rest))
            (quoteAt_typographic h _) (quoteAt_typographic h _) rfl
          rw [pieces_typographic h, List.flatten_cons, List.append_assoc]
          refine hpair.trans ?_
          show (scanBody ((pieces text).flatten ++ 0x27 :: rest)).map _ = _
          rw [scanBody_pieces hrest text]
          rfl
      | false => exact scanBody_single h (scanBody_pieces hrest (u1 :: u2 :: text))

/-- **The literal of a text stands for it**, whatever follows that is no quote. -/
theorem scanLiteral_literal (text : List UInt8) {rest : List UInt8} (hrest : quoteAt rest = none) :
    scanLiteral (literal text ++ rest) = some (text, rest) := by
  have hopen := quoteAt_apostrophe ((pieces text).flatten ++ 0x27 :: rest)
  simp only [literal, List.cons_append, List.append_assoc, List.nil_append]
  rw [scanLiteral, hopen]
  exact scanBody_pieces hrest text

/-! ## The buffer -/

namespace Out

/-- Text behind what is used, and a terminator behind the text. -/
def wrote (out : Out) (bytes : List UInt8) : Out :=
  { out with
    memory := out.memory.take out.used ++ bytes
      ++ 0 :: out.memory.drop (out.used + bytes.length + 1)
    used := out.used + bytes.length }

/-- There is room for a text and its terminator. -/
def Room (out : Out) (bytes : List UInt8) : Prop := out.used + bytes.length < out.memory.length

instance (out : Out) (bytes : List UInt8) : Decidable (out.Room bytes) :=
  inferInstanceAs (Decidable (_ < _))

def Terminated (out : Out) : Prop := out.memory[out.used]? = some 0

theorem copyTo_terminated {memory bytes : List UInt8} {used : Nat}
    (h : used + bytes.length < memory.length) :
    copyTo (copyTo memory used bytes) (used + bytes.length) [0]
      = memory.take used ++ bytes ++ 0 :: memory.drop (used + bytes.length + 1) := by
  have hlength : (memory.take used ++ bytes).length = used + bytes.length := by
    rw [List.length_append, List.length_take]
    omega
  rw [copyTo, copyTo, List.take_left' hlength, ← hlength, List.length_singleton,
    ← List.drop_drop, List.drop_left, hlength, List.drop_drop, List.append_assoc]
  rfl

theorem put_eq (out : Out) (bytes : List UInt8) (copies : Nat) {text : List UInt8}
    (h : (List.replicate copies bytes).flatten = text) :
    out.put bytes copies
      = if out.Room text then (out.wrote text, true)
        else ({ out with overflow := true }, false) := by
  have hlength : bytes.length * copies = text.length := by
    simp [← h, Nat.mul_comm]
  rw [put, hlength, h]
  by_cases hroom : out.Room text
  · rw [if_neg, if_pos hroom, wrote, ← copyTo_terminated hroom]
    unfold Room at hroom
    omega
  · rw [if_pos, if_neg hroom]
    unfold Room at hroom
    omega

/-- A list of pieces, one after the other, until one does not fit. -/
def putAll (out : Out) : List (List UInt8) → Out × Bool
  | [] => (out, true)
  | piece :: rest =>
      if out.Room piece then (out.wrote piece).putAll rest
      else ({ out with overflow := true }, false)

theorem putAll_append (out : Out) (front back : List (List UInt8)) :
    out.putAll (front ++ back)
      = if (out.putAll front).2 then (out.putAll front).1.putAll back else out.putAll front := by
  induction front generalizing out with
  | nil => rfl
  | cons piece front ih =>
      rw [List.cons_append, putAll, putAll]
      by_cases hroom : out.Room piece
      · rw [if_pos hroom, if_pos hroom, ih]
      · rw [if_neg hroom, if_neg hroom]
        rfl

/-- A loop goes on when a piece was put. -/
theorem match_put (out : Out) (bytes : List UInt8) (copies : Nat) {text : List UInt8}
    (h : (List.replicate copies bytes).flatten = text) (next : Out → Out × Bool) :
    (match out.put bytes copies with
      | (out, true) => next out
      | (out, false) => (out, false))
      = if out.Room text then next (out.wrote text)
        else ({ out with overflow := true }, false) := by
  rw [out.put_eq bytes copies h]
  by_cases hroom : out.Room text
  · rw [if_pos hroom, if_pos hroom]
  · rw [if_neg hroom, if_neg hroom]

theorem putText_single {u0 : UInt8} {text : List UInt8} (out : Out)
    (h : startsTypographic (u0 :: text) = false)
    (ih : ∀ out : Out, out.putText text = out.putAll (pieces text)) :
    out.putText (u0 :: text) = out.putAll (pieces (u0 :: text)) := by
  have hput : out.putText (u0 :: text) =
      if out.Room (List.replicate (copiesOf u0) u0) then
        (out.wrote (List.replicate (copiesOf u0) u0)).putText text
      else ({ out with overflow := true }, false) := by
    refine Eq.trans ?_ (match_put out [u0] (copiesOf u0) (by simp) fun out => out.putText text)
    match text with
    | [] => rfl
    | [_] => rfl
    | _ :: _ :: _ => exact if_neg (Bool.eq_false_iff.mp h)
  rw [hput, pieces_single h, putAll, ih]

/-- The loop over the text puts its pieces. -/
theorem putText_eq : ∀ (text : List UInt8) (out : Out), out.putText text = out.putAll (pieces text)
  | [], _ => rfl
  | [_], out => putText_single out rfl (putText_eq [])
  | [_, u1], out => putText_single out rfl (putText_eq [u1])
  | u0 :: u1 :: u2 :: text, out => by
      cases h : typographic u0 u1 u2 with
      | true =>
          have hput := match_put out [u0, u1, u2] 2 rfl fun out => out.putText text
          rw [pieces_typographic h, putAll, putText, if_pos h, ← putText_eq text]
          exact hput
      | false => exact putText_single out h (putText_eq (u1 :: u2 :: text))

theorem put_quote (out : Out) :
    out.put [0x27] 1
      = if out.Room [0x27] then (out.wrote [0x27], true)
        else ({ out with overflow := true }, false) := out.put_eq [0x27] 1 rfl

/-- The whole literal, piece by piece. -/
theorem append_eq (out : Out) (text : CString) :
    gcPowershellAppendLiteral out text
      = (out.putAll ([0x27] :: (pieces text.bytes ++ [[0x27]]))).1 := by
  rw [gcPowershellAppendLiteral, putAll, put_quote]
  by_cases hroom : out.Room [0x27]
  · rw [if_pos hroom, if_pos hroom, putAll_append, ← putText_eq]
    dsimp only
    cases h : (out.wrote [0x27]).putText text.bytes with
    | mk out done =>
        cases done with
        | true =>
            dsimp only
            rw [if_pos rfl, putAll, put_quote]
            split_ifs <;> rfl
        | false => rfl
  · rw [if_neg hroom, if_neg hroom]

theorem length_wrote {out : Out} {bytes : List UInt8} (h : out.Room bytes) :
    (out.wrote bytes).memory.length = out.memory.length := by
  unfold Room at h
  simp only [wrote, List.length_append, List.length_take, List.length_cons, List.length_drop]
  omega

theorem room_wrote {out : Out} {front : List UInt8} (h : out.Room front) (back : List UInt8) :
    (out.wrote front).Room back ↔ out.Room (front ++ back) := by
  unfold Room
  rw [length_wrote h, List.length_append, ← Nat.add_assoc]
  rfl

/-- Two texts in a row are one text. -/
theorem wrote_wrote {out : Out} {front back : List UInt8} (h : out.Room (front ++ back)) :
    (out.wrote front).wrote back = out.wrote (front ++ back) := by
  have hlength : (out.memory.take out.used ++ front).length = out.used + front.length := by
    unfold Room at h
    rw [List.length_append] at h
    rw [List.length_append, List.length_take]
    omega
  have htake : (out.wrote front).memory.take (out.used + front.length)
      = out.memory.take out.used ++ front := List.take_left' hlength
  have hdrop : (out.wrote front).memory.drop (out.used + front.length + back.length + 1)
      = out.memory.drop (out.used + (front ++ back).length + 1) := by
    rw [Nat.add_assoc _ back.length, ← List.drop_drop, wrote, ← hlength, List.drop_left, hlength,
      List.drop_succ_cons, List.drop_drop, List.length_append]
    congr 1
    omega
  rw [wrote]
  show Out.mk ((out.wrote front).memory.take (out.used + front.length) ++ back
    ++ 0 :: (out.wrote front).memory.drop (out.used + front.length + back.length + 1))
      (out.used + front.length + back.length) out.overflow = _
  have hused : out.used + front.length + back.length = out.used + (front ++ back).length := by
    rw [List.length_append, Nat.add_assoc]
  rw [htake, hdrop, hused, List.append_assoc (out.memory.take out.used)]
  rfl

/-- What is left of a buffer by the pieces that were put. -/
def after (out : Out) (ps : List (List UInt8)) : Out :=
  if ps = [] then out else out.wrote ps.flatten

theorem after_cons {out : Out} {piece : List UInt8} {ps : List (List UInt8)}
    (h : out.Room (piece :: ps).flatten) :
    (out.wrote piece).after ps = out.after (piece :: ps) := by
  rw [after, after, if_neg (List.cons_ne_nil _ _)]
  cases ps with
  | nil => rw [if_pos rfl, List.flatten_cons, List.flatten_nil, List.append_nil]
  | cons next ps => rw [if_neg (List.cons_ne_nil _ _), wrote_wrote h, ← List.flatten_cons]

theorem Room.left {out : Out} {front back : List UInt8} (h : out.Room (front ++ back)) :
    out.Room front := by
  unfold Room at *
  rw [List.length_append] at h
  omega

/-- If there is room for everything, all pieces are put. -/
theorem putAll_of_room : ∀ (ps : List (List UInt8)) (out : Out), out.Room ps.flatten →
    out.putAll ps = (out.after ps, true)
  | [], _, _ => rfl
  | piece :: ps, out, h => by
      have hpiece : out.Room piece := Room.left (by rwa [List.flatten_cons] at h)
      have hrest : (out.wrote piece).Room ps.flatten :=
        (room_wrote hpiece _).mpr (by rwa [List.flatten_cons] at h)
      rw [putAll, if_pos hpiece, putAll_of_room ps _ hrest, after_cons h]

/-- **No piece is split**: if there is not, the ones that are put are put whole. -/
theorem putAll_of_not_room : ∀ (ps : List (List UInt8)) (out : Out), ps ≠ [] →
    ¬out.Room ps.flatten →
    ∃ done left, ps = done ++ left ∧ (done ≠ [] → out.Room done.flatten) ∧
      out.putAll ps = ({ out.after done with overflow := true }, false)
  | piece :: ps, out, _, h => by
      by_cases hpiece : out.Room piece
      · have hrest : ¬(out.wrote piece).Room ps.flatten := fun hroom =>
          h (by rw [List.flatten_cons]; exact (room_wrote hpiece _).mp hroom)
        have hne : ps ≠ [] := by
          rintro rfl
          exact h (by rwa [List.flatten_cons, List.flatten_nil, List.append_nil])
        obtain ⟨done, left, rfl, hdone, hput⟩ := putAll_of_not_room ps (out.wrote piece) hne hrest
        have hroom : out.Room (piece :: done).flatten := by
          rw [List.flatten_cons]
          by_cases hnil : done = []
          · rwa [hnil, List.flatten_nil, List.append_nil]
          · exact (room_wrote hpiece _).mp (hdone hnil)
        exact ⟨piece :: done, left, rfl, fun _ => hroom,
          by rw [putAll, if_pos hpiece, hput, after_cons hroom]⟩
      · refine ⟨[], piece :: ps, rfl, fun hnil => absurd rfl hnil, ?_⟩
        rw [putAll, if_neg hpiece]
        rfl

/-- The text between the old position and the new one. -/
def appended (before after : Out) : List UInt8 :=
  (after.memory.take after.used).drop before.used

theorem appended_wrote {out : Out} {bytes : List UInt8} (h : out.Room bytes) :
    appended out (out.wrote bytes) = bytes := by
  have hused : (out.memory.take out.used).length = out.used := by
    unfold Room at h
    rw [List.length_take]
    omega
  have hlength : (out.memory.take out.used ++ bytes).length = out.used + bytes.length := by
    rw [List.length_append, hused]
  have htake : (out.wrote bytes).memory.take (out.used + bytes.length)
      = out.memory.take out.used ++ bytes := List.take_left' hlength
  rw [appended]
  show ((out.wrote bytes).memory.take (out.used + bytes.length)).drop out.used = bytes
  rw [htake, List.drop_left' hused]

theorem terminated_wrote {out : Out} {bytes : List UInt8} (h : out.Room bytes) :
    (out.wrote bytes).Terminated := by
  have hlength : (out.memory.take out.used ++ bytes).length = out.used + bytes.length := by
    unfold Room at h
    rw [List.length_append, List.length_take]
    omega
  show (out.memory.take out.used ++ bytes ++ 0 :: _)[out.used + bytes.length]? = some 0
  rw [List.getElem?_append_right (by omega), hlength, Nat.sub_self]
  rfl

/-- The literal as its pieces. -/
theorem literal_eq (text : List UInt8) :
    literal text = ([0x27] :: (pieces text ++ [[0x27]])).flatten := by
  simp only [literal, List.flatten_cons, List.flatten_append, List.flatten_nil, List.append_nil,
    List.cons_append, List.nil_append]

end Out

/-- The buffer has room for the whole literal and its terminator. -/
def Fits (out : Out) (text : CString) : Prop := out.Room (literal text.bytes)

/-- **A literal that fits is written whole**, and the overflow flag stays as it was. -/
theorem append_of_fits {out : Out} {text : CString} (h : Fits out text) :
    gcPowershellAppendLiteral out text = out.wrote (literal text.bytes) := by
  rw [Fits, Out.literal_eq] at h
  rw [Out.append_eq, Out.putAll_of_room _ _ h, Out.after, if_neg (List.cons_ne_nil _ _),
    ← Out.literal_eq]

/-- A literal that does not fit is cut between two pieces. -/
theorem append_of_not_fits {out : Out} {text : CString} (h : ¬Fits out text) :
    gcPowershellAppendLiteral out text = { out with overflow := true } ∨
      ∃ done left, pieces text.bytes = done ++ left ∧ out.Room (0x27 :: done.flatten) ∧
        gcPowershellAppendLiteral out text
          = { out.wrote (0x27 :: done.flatten) with overflow := true } := by
  rw [Fits, Out.literal_eq] at h
  obtain ⟨done, left, heq, hdone, hput⟩ := Out.putAll_of_not_room _ out (List.cons_ne_nil _ _) h
  rw [Out.append_eq, hput]
  cases done with
  | nil => exact .inl rfl
  | cons first done =>
      right
      obtain ⟨rfl, hrest⟩ := List.cons.inj heq
      have hroom := hdone (List.cons_ne_nil _ _)
      rcases List.eq_nil_or_concat left with rfl | ⟨left, last, rfl⟩
      · rw [List.append_nil] at heq
        rw [heq] at h
        exact absurd hroom h
      · have hrest : pieces text.bytes ++ [[0x27]] = (done ++ left) ++ [last] := by
          rw [List.concat_eq_append] at hrest
          exact hrest.trans (List.append_assoc done left [last]).symm
        exact ⟨done, left, (List.append_inj' hrest rfl).1, hroom, rfl⟩

/-- **PowerShell literals are faithful.**  What was appended without an overflow is read
back whole and stands for the text.  What does not fit sets the flag and leaves the buffer
terminated behind nothing or behind whole pieces, a doubled quote being one. -/
theorem literal_faithful (out : Out) (text : CString) :
    let after := gcPowershellAppendLiteral out text
    (after.overflow = false →
        scanLiteral (out.appended after) = some (text.bytes, []) ∧ after.Terminated) ∧
      (¬Fits out text →
        after.overflow = true ∧ (out.Terminated → after.Terminated) ∧
          (out.appended after = [] ∨
            ∃ done left, pieces text.bytes = done ++ left ∧
              out.appended after = 0x27 :: done.flatten)) := by
  have hcut (h : ¬Fits out text) := append_of_not_fits h
  refine ⟨fun hkept => ?_, fun h => ?_⟩
  · have hfits : Fits out text := by
      by_contra h
      rcases hcut h with hafter | ⟨_, _, _, _, hafter⟩ <;> rw [hafter] at hkept <;> cases hkept
    have hscan := scanLiteral_literal text.bytes (show quoteAt [] = none by decide)
    rw [List.append_nil] at hscan
    rw [append_of_fits hfits, Out.appended_wrote hfits]
    exact ⟨hscan, Out.terminated_wrote hfits⟩
  · rcases hcut h with hafter | ⟨done, left, hpieces, hroom, hafter⟩
    · rw [hafter]
      refine ⟨rfl, id, .inl ?_⟩
      show (out.memory.take out.used).drop out.used = []
      exact List.drop_eq_nil_of_le (List.length_take_le _ _)
    · rw [hafter]
      exact ⟨rfl, fun _ => Out.terminated_wrote hroom,
        .inr ⟨done, left, hpieces, Out.appended_wrote hroom⟩⟩

/-- The folder `D:/it's` in a buffer of 32 bytes and in one of 8. -/
theorem literal_faithful_folder :
    scanLiteral (Out.appended ⟨List.replicate 32 0, 0, false⟩
        (gcPowershellAppendLiteral ⟨List.replicate 32 0, 0, false⟩ ⟨ascii "D:/it's", by decide⟩))
        = some (ascii "D:/it's", []) ∧
      (gcPowershellAppendLiteral ⟨List.replicate 8 0, 0, false⟩
        ⟨ascii "D:/it's", by decide⟩).overflow = true :=
  ⟨((literal_faithful ⟨List.replicate 32 0, 0, false⟩ ⟨ascii "D:/it's", by decide⟩).1
      (by decide)).1,
    ((literal_faithful ⟨List.replicate 8 0, 0, false⟩ ⟨ascii "D:/it's", by decide⟩).2
      (by unfold Fits Out.Room; decide)).1⟩

end GreenCurve.PowerShell
