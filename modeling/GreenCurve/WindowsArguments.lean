import Mathlib.Data.UInt
import Mathlib.Tactic.Common

/-! # The arguments of a Windows command line

A Windows process gets its arguments as one text, and splits it by the rules of
`CommandLineToArgvW`: the program's name is what stands up to the closing quote; behind it
blanks end an argument outside quotes; of the backslashes before a quote each two are one,
and one that is left makes the quote a character; other backslashes stand for themselves. -/

namespace WindowsArguments

def quote : UInt8 := 0x22
def backslash : UInt8 := 0x5C

def blank (c : UInt8) : Bool := c == 0x20 || c == 0x09

/-- An argument that is being read: whether quotes are open, the backslashes at its end, and
what stands before them. -/
structure Argument where
  quoted : Bool
  slashes : Nat
  text : List UInt8
  deriving DecidableEq

namespace Argument

def empty : Argument := ⟨false, 0, []⟩

/-- The argument, if it ends here. -/
def value (a : Argument) : List UInt8 := a.text ++ List.replicate a.slashes backslash

/-- One more character. -/
def step (a : Argument) (c : UInt8) : Argument :=
  if c = backslash then { a with slashes := a.slashes + 1 }
  else if c = quote then
    let text := a.text ++ List.replicate (a.slashes / 2) backslash
    if a.slashes % 2 = 0 then ⟨!a.quoted, 0, text⟩ else ⟨a.quoted, 0, text ++ [quote]⟩
  else ⟨a.quoted, 0, a.value ++ [c]⟩

end Argument

/-- The arguments behind the program's name; `none` is between two of them. -/
def arguments : Option Argument → List UInt8 → List (List UInt8)
  | none, [] => []
  | some a, [] => [a.value]
  | none, c :: rest =>
      if blank c then arguments none rest else arguments (some (Argument.empty.step c)) rest
  | some a, c :: rest =>
      if blank c ∧ !a.quoted then a.value :: arguments none rest
      else arguments (some (a.step c)) rest

/-- The program's name and what is left behind it. -/
def program : List UInt8 → List UInt8 × List UInt8
  | [] => ([], [])
  | c :: rest =>
      if c = quote then (rest.takeWhile (· ≠ quote), (rest.dropWhile (· ≠ quote)).tail)
      else ((c :: rest).takeWhile (!blank ·), (c :: rest).dropWhile (!blank ·))

/-- The arguments of a command line, the program's name first. -/
def commandLineToArgv (text : List UInt8) : List (List UInt8) :=
  (program text).1 :: arguments none (program text).2

/-! ## Characters that stand for themselves -/

variable {a : Argument} {text rest : List UInt8} {c : UInt8}

theorem Argument.step_literal (a : Argument) (hc : c ≠ quote) :
    (a.step c).quoted = a.quoted ∧ (a.step c).value = a.value ++ [c] ∧
      (c ≠ backslash → (a.step c).slashes = 0) := by
  rw [Argument.step]
  split_ifs with hslash
  · refine ⟨rfl, ?_, fun h => absurd hslash h⟩
    rw [Argument.value, Argument.value, List.replicate_succ', hslash, List.append_assoc]
  · exact ⟨rfl, by simp [Argument.value], fun _ => rfl⟩

/-- A text without quotes is added to the argument. -/
theorem Argument.foldl_literal (a : Argument) (hquote : quote ∉ text) :
    (text.foldl Argument.step a).quoted = a.quoted ∧
      (text.foldl Argument.step a).value = a.value ++ text := by
  induction text generalizing a with
  | nil => exact ⟨rfl, (List.append_nil _).symm⟩
  | cons c text ih =>
    rw [List.mem_cons, not_or] at hquote
    obtain ⟨hquoted, hvalue, -⟩ := a.step_literal (Ne.symm hquote.1)
    obtain ⟨ihquoted, ihvalue⟩ := ih (a.step c) hquote.2
    rw [List.foldl_cons]
    exact ⟨ihquoted.trans hquoted,
      by rw [ihvalue, hvalue, List.append_assoc, List.singleton_append]⟩

/-- No backslash is left at its end. -/
theorem Argument.foldl_slashes (a : Argument) (hlast : text.getLast? = some c) (hc : c ≠ quote)
    (hslash : c ≠ backslash) : (text.foldl Argument.step a).slashes = 0 := by
  obtain ⟨init, rfl⟩ := List.getLast?_eq_some_iff.mp hlast
  rw [List.foldl_append]
  exact ((init.foldl Argument.step a).step_literal hc).2.2 hslash

/-- It is read as it stands, inside quotes or where it has no blank. -/
theorem arguments_literal (hquote : quote ∉ text)
    (hblank : a.quoted = true ∨ ∀ c ∈ text, blank c = false) :
    arguments (some a) (text ++ rest) = arguments (some (text.foldl Argument.step a)) rest := by
  induction text generalizing a with
  | nil => rfl
  | cons c text ih =>
    rw [List.mem_cons, not_or] at hquote
    have hquoted := (a.step_literal (Ne.symm hquote.1)).1
    have hgoes : ¬(blank c = true ∧ (!a.quoted) = true) := by
      rintro ⟨hc, hopen⟩
      rcases hblank with hin | hnone
      · simp [hin] at hopen
      · simp [hnone c List.mem_cons_self] at hc
    have hnext : (a.step c).quoted = true ∨ ∀ c ∈ text, blank c = false :=
      hblank.imp (fun h => hquoted.trans h) fun h d hd => h d (List.mem_cons_of_mem c hd)
    rw [List.cons_append, arguments, if_neg hgoes, ih hquote.2 hnext, List.foldl_cons]

/-- A word that needs no quotes. -/
structure Plain (word : List UInt8) : Prop where
  ne_nil : word ≠ []
  noQuote : quote ∉ word
  noBlank : ∀ c ∈ word, blank c = false

theorem arguments_blank : arguments none (0x20 :: rest) = arguments none rest := rfl

/-- A blank ends an argument outside quotes. -/
theorem arguments_end (hquoted : a.quoted = false) :
    arguments (some a) (0x20 :: rest) = a.value :: arguments none rest := by
  rw [arguments, if_pos ⟨rfl, by rw [hquoted]; rfl⟩]

/-- **A plain word** behind a blank is an argument where another blank follows. -/
theorem arguments_word {word : List UInt8} (h : Plain word) :
    arguments none (0x20 :: word ++ 0x20 :: rest) = word :: arguments none (0x20 :: rest) := by
  obtain ⟨c, word, rfl⟩ := List.exists_cons_of_ne_nil h.ne_nil
  have hc : blank c = false := h.noBlank c List.mem_cons_self
  have hread : arguments none (0x20 :: (c :: word) ++ 0x20 :: rest) =
      arguments (some Argument.empty) ((c :: word) ++ 0x20 :: rest) := by
    rw [List.cons_append, arguments_blank, List.cons_append, arguments, arguments,
      if_neg (by simp [hc]), if_neg (by simp [hc])]
  obtain ⟨hquoted, hvalue⟩ := Argument.empty.foldl_literal h.noQuote
  rw [hread, arguments_literal h.noQuote (.inr h.noBlank), arguments_end hquoted, hvalue,
    arguments_blank]
  rfl

/-- The words of a line, up to a blank. -/
theorem arguments_words {words : List (List UInt8)} (h : ∀ word ∈ words, Plain word) :
    arguments none (words.flatMap (0x20 :: ·) ++ 0x20 :: rest) =
      words ++ arguments none (0x20 :: rest) := by
  induction words with
  | nil => rfl
  | cons word words ih =>
    rw [List.forall_mem_cons] at h
    obtain ⟨tail, htail⟩ : ∃ tail, words.flatMap (0x20 :: ·) ++ 0x20 :: rest = 0x20 :: tail := by
      cases words with
      | nil => exact ⟨rest, rfl⟩
      | cons word words => exact ⟨_, rfl⟩
    rw [List.flatMap_cons, List.append_assoc, htail, arguments_word h.1, ← htail, ih h.2,
      List.cons_append]

/-- **A quoted text** is the last argument, whatever blanks and backslashes stand in it, where
its end is no backslash. -/
theorem arguments_quoted (hquote : quote ∉ text) (hlast : text.getLast? = some c)
    (hslash : c ≠ backslash) :
    arguments none (0x20 :: quote :: text ++ [quote]) = [text] := by
  have hc : c ≠ quote := fun h => hquote (h ▸ List.mem_of_getLast? hlast)
  have hread : arguments none (0x20 :: quote :: text ++ [quote]) =
      arguments (some ⟨true, 0, []⟩) (text ++ [quote]) := rfl
  obtain ⟨hquoted, hvalue⟩ := Argument.foldl_literal ⟨true, 0, []⟩ hquote
  have hslashes := Argument.foldl_slashes ⟨true, 0, []⟩ hlast hc hslash
  rw [hread, arguments_literal hquote (.inl rfl)]
  rw [Argument.value, hslashes] at hvalue
  have hnoBlank : blank quote = false := rfl
  rw [arguments, if_neg (by simp [hnoBlank]), arguments, Argument.step, if_neg (by decide),
    if_pos rfl]
  simp only [Argument.value, hslashes, List.replicate_zero, Nat.zero_div, Nat.zero_mod, if_true,
    List.append_nil] at hvalue ⊢
  rw [hvalue]
  rfl

/-- The program's name inside quotes. -/
theorem program_quoted (hquote : quote ∉ text) :
    program (quote :: text ++ quote :: rest) = (text, rest) := by
  have hall : ∀ c ∈ text, decide (c ≠ quote) = true := fun c hc =>
    decide_eq_true fun h => hquote (h ▸ hc)
  rw [List.cons_append, program, if_pos rfl, List.takeWhile_append_of_pos hall,
    List.dropWhile_append_of_pos hall, List.takeWhile_cons_of_neg (by decide),
    List.dropWhile_cons_of_neg (by decide), List.append_nil, List.tail_cons]

end WindowsArguments
