import Mathlib.Data.List.Basic
import Mathlib.Tactic.Common

/-! # Words of a shell command

How a POSIX shell splits a command into words: blanks separate, quotes join, and what
stands in quotes or behind a backslash is taken as it is.  Only literal words are read; a
command in which the shell would expand or redirect something has none (`shellWords`).  A
text in single quotes comes back as one word (`run_quote`), and a command is as long as its
words, what separates them and the single quotes it does not print (`length_le`). -/

namespace GreenCurve.Shell

inductive Mode where
  | plain
  | escaped
  | single
  | double
  | doubleEscaped
  deriving DecidableEq

/-- A shell inside a command: the words it has read, and the one it is reading. -/
structure State where
  mode : Mode := .plain
  word : Option (List Char) := none
  done : List (List Char) := []

namespace State

/-- A quote opens a word, also an empty one. -/
def enter (s : State) (mode : Mode) : State :=
  { s with mode := mode, word := some (s.word.getD []) }

/-- A character of the word. -/
def push (s : State) (mode : Mode) (text : List Char) : State :=
  { s with mode := mode, word := some (s.word.getD [] ++ text) }

/-- A blank ends the word. -/
def separate (s : State) : State :=
  match s.word with
  | none => s
  | some w => { s with word := none, done := s.done ++ [w] }

end State

/-- What the shell does not take as it stands, outside quotes. -/
def special : List Char :=
  ['|', '&', ';', '<', '>', '(', ')', '$', '`', '*', '?', '[', '#', '~', '\n']

/-- What a backslash takes its meaning from, in double quotes. -/
def doubleSpecial : List Char := ['$', '`', '"', '\\']

def step (s : State) (c : Char) : Option State :=
  match s.mode with
  | .plain =>
    if c = ' ' ∨ c = '\t' then some s.separate
    else if c = '\'' then some (s.enter .single)
    else if c = '"' then some (s.enter .double)
    else if c = '\\' then some (s.enter .escaped)
    else if c ∈ special then none
    else some (s.push .plain [c])
  | .escaped => if c = '\n' then none else some (s.push .plain [c])
  | .single => some (if c = '\'' then s.enter .plain else s.push .single [c])
  | .double =>
    if c = '"' then some (s.enter .plain)
    else if c = '\\' then some (s.enter .doubleEscaped)
    else if c = '$' ∨ c = '`' then none
    else some (s.push .double [c])
  | .doubleEscaped =>
    if c = '\n' then none
    else some (s.push .double (if c ∈ doubleSpecial then [c] else ['\\', c]))

def run : State → List Char → Option State
  | s, [] => some s
  | s, c :: rest => (step s c).bind fun s => run s rest

/-- The words of a command, if they are literal. -/
def shellWords (command : List Char) : Option (List (List Char)) :=
  (run {} command).bind fun s => if s.mode = .plain then some (s.done ++ s.word.toList) else none

theorem run_append (s : State) (a b : List Char) :
    run s (a ++ b) = (run s a).bind fun s => run s b := by
  induction a generalizing s with
  | nil => rfl
  | cons c rest ih =>
    rw [List.cons_append, run, run, Option.bind_assoc]
    exact congrArg _ (funext ih)

/-! ## Plain words -/

/-- A character that stands for itself outside quotes. -/
def literalChar (c : Char) : Bool :=
  decide (c ∉ ' ' :: '\t' :: '\'' :: '"' :: '\\' :: special)

theorem step_literal {s : State} {c : Char} (hmode : s.mode = .plain)
    (h : literalChar c = true) : step s c = some (s.push .plain [c]) := by
  have hc := of_decide_eq_true h
  simp only [List.mem_cons, not_or] at hc
  obtain ⟨hblank, htab, hsingle, hdouble, hback, hspecial⟩ := hc
  rw [step, hmode]
  dsimp only
  rw [if_neg (not_or.mpr ⟨hblank, htab⟩), if_neg hsingle, if_neg hdouble, if_neg hback,
    if_neg hspecial]

theorem run_literal {text : List Char} (h : text.all literalChar = true) (w : List Char)
    (done : List (List Char)) :
    run ⟨.plain, some w, done⟩ text = some ⟨.plain, some (w ++ text), done⟩ := by
  induction text generalizing w with
  | nil => rw [List.append_nil]; rfl
  | cons c rest ih =>
    rw [List.all_cons, Bool.and_eq_true] at h
    rw [run, step_literal rfl h.1, Option.bind_some]
    change run ⟨.plain, some (w ++ [c]), done⟩ rest = _
    rw [ih h.2, List.append_assoc, List.singleton_append]

/-- **Words between blanks** are read as they stand. -/
theorem run_words {words : List (List Char)}
    (h : ∀ word ∈ words, word ≠ [] ∧ word.all literalChar = true) (w : List Char)
    (done : List (List Char)) :
    run ⟨.plain, some w, done⟩ (words.flatMap (' ' :: ·) ++ [' ']) =
      some ⟨.plain, none, done ++ w :: words⟩ := by
  induction words generalizing w done with
  | nil => rfl
  | cons word rest ih =>
    obtain ⟨⟨hne, hword⟩, hrest⟩ := List.forall_mem_cons.mp h
    obtain ⟨c, tail, rfl⟩ := List.exists_cons_of_ne_nil hne
    rw [List.all_cons, Bool.and_eq_true] at hword
    rw [List.flatMap_cons, List.append_assoc, List.cons_append, run]
    change run ⟨.plain, none, done ++ [w]⟩ (c :: tail ++ _) = _
    rw [List.cons_append, run, step_literal rfl hword.1, Option.bind_some]
    change run ⟨.plain, some [c], done ++ [w]⟩ (tail ++ _) = _
    rw [run_append, run_literal hword.2, Option.bind_some, ih hrest, List.append_assoc]
    rfl

/-! ## Quoted texts -/

/-- A text in single quotes; a single quote stands in double quotes of its own. -/
def quote (text : List Char) : List Char :=
  '\'' :: text.flatMap (fun c => if c = '\'' then "'\"'\"'".toList else [c]) ++ ['\'']

theorem run_quoteBody (text : List Char) (s : State) (w : List Char) (hmode : s.mode = .single)
    (hword : s.word = some w) :
    run s (text.flatMap fun c => if c = '\'' then "'\"'\"'".toList else [c]) =
      some { s with word := some (w ++ text) } := by
  obtain ⟨mode, word, done⟩ := s
  obtain rfl : mode = .single := hmode
  obtain rfl : word = some w := hword
  induction text generalizing w with
  | nil => simp [run]
  | cons c rest ih =>
    rw [List.flatMap_cons, run_append]
    have hc : run ⟨.single, some w, done⟩ (if c = '\'' then "'\"'\"'".toList else [c]) =
        some ⟨.single, some (w ++ [c]), done⟩ := by
      split
      · rename_i hquote
        subst hquote
        rfl
      · rename_i hquote
        have hstep : step ⟨.single, some w, done⟩ c = some ⟨.single, some (w ++ [c]), done⟩ :=
          congrArg some (if_neg hquote)
        rw [run, hstep]
        rfl
    rw [hc, Option.bind_some, ih, List.append_assoc, List.singleton_append]

/-- **A quoted text is one word.** -/
theorem run_quote (text : List Char) (s : State) (hmode : s.mode = .plain) :
    run s (quote text) = some { s with word := some (s.word.getD [] ++ text) } := by
  have hopen : step s '\'' = some (s.enter .single) := by
    rw [step, hmode]
    rfl
  have hclose : ∀ w, step ⟨.single, some w, s.done⟩ '\'' = some ⟨.plain, some w, s.done⟩ :=
    fun _ => rfl
  rw [quote, List.cons_append, run, hopen, Option.bind_some, run_append,
    run_quoteBody text (s.enter .single) (s.word.getD []) rfl rfl, Option.bind_some, run]
  simp only [State.enter, hclose, Option.bind_some, run]
  rw [hmode]

/-! ## The length of a command -/

def State.output (s : State) : List Char := s.done.flatten ++ s.word.getD []

/-- A backslash that was read and not printed yet. -/
def Mode.pending : Mode → Nat
  | .doubleEscaped => 1
  | _ => 0

/-- What was read covers what was printed, the blanks between the words and the single
quotes that were not printed. -/
def State.Covered (s : State) (read : List Char) : Prop :=
  s.output.length + s.done.length + read.count '\'' + s.mode.pending ≤
    read.length + s.output.count '\''

@[simp] theorem State.output_enter (s : State) (mode : Mode) :
    (s.enter mode).output = s.output := rfl

@[simp] theorem State.output_push (s : State) (mode : Mode) (text : List Char) :
    (s.push mode text).output = s.output ++ text := by
  simp [State.output, State.push]

theorem State.output_separate (s : State) : s.separate.output = s.output ∧
    s.separate.mode = s.mode ∧ s.separate.done.length ≤ s.done.length + 1 := by
  obtain ⟨mode, word, done⟩ := s
  cases word with
  | none => exact ⟨rfl, rfl, Nat.le_succ _⟩
  | some w => exact ⟨by simp [output, separate], rfl, by simp [separate]⟩

/-- A character that is printed is covered by itself. -/
theorem State.Covered.push {s : State} {read : List Char} (h : s.Covered read) (c : Char)
    {mode : Mode} (hmode : mode.pending = 0) : (s.push mode [c]).Covered (read ++ [c]) := by
  unfold Covered at h ⊢
  rw [output_push, List.count_append, List.count_append, List.length_append, List.length_append]
  change _ + s.done.length + _ + mode.pending ≤ _
  omega

/-- A character that is not printed makes room for what it does. -/
theorem State.Covered.enter {s : State} {read : List Char} (h : s.Covered read) (c : Char)
    {mode : Mode} (hmode : mode.pending + [c].count '\'' ≤ 1) :
    (s.enter mode).Covered (read ++ [c]) := by
  unfold Covered at h ⊢
  rw [output_enter, List.count_append, List.length_append]
  change _ + s.done.length + _ + mode.pending ≤ _
  simp only [List.length_singleton]
  omega

theorem covered_step {s s' : State} {read : List Char} {c : Char} (h : s.Covered read)
    (hstep : step s c = some s') : s'.Covered (read ++ [c]) := by
  have hother : ∀ d : Char, d ≠ '\'' → [d].count '\'' = 0 := by
    intro d hd
    simp [hd]
  have hsingle_ne : c = ' ' ∨ c = '\t' → c ≠ '\'' := by
    rintro (rfl | rfl)
    · exact show ' ' ≠ '\'' by decide
    · exact show '\t' ≠ '\'' by decide
  unfold step at hstep
  split at hstep
  · split_ifs at hstep with hblank hsingle hdouble hescape hspecial <;>
      obtain rfl := Option.some.inj hstep
    · obtain ⟨houtput, hmode, hdone⟩ := s.output_separate
      have hc : c ≠ '\'' := hsingle_ne hblank
      unfold State.Covered at h ⊢
      rw [houtput, hmode, List.count_append, List.length_append, hother c hc]
      simp only [List.length_singleton]
      omega
    · exact h.enter c (by rw [hsingle]; decide)
    · exact h.enter c (by rw [hdouble]; decide)
    · exact h.enter c (by rw [hescape]; decide)
    · exact h.push c rfl
  · split_ifs at hstep
    obtain rfl := Option.some.inj hstep
    exact h.push c rfl
  · obtain rfl := Option.some.inj hstep
    split_ifs with hsingle
    · exact h.enter c (by rw [hsingle]; decide)
    · exact h.push c rfl
  · split_ifs at hstep with hdouble hescape <;> obtain rfl := Option.some.inj hstep
    · exact h.enter c (by rw [hdouble]; decide)
    · exact h.enter c (by rw [hescape]; decide)
    · exact h.push c rfl
  · -- The backslash before was read and not printed; it is printed now or never.
    rename_i hmode
    split_ifs at hstep with hbreak hspecial <;> obtain rfl := Option.some.inj hstep
    · exact h.push c rfl
    · unfold State.Covered at h ⊢
      have hback : ['\\', c].count '\'' = [c].count '\'' := List.count_cons_of_ne (by decide)
      rw [State.output_push, List.count_append, List.count_append, List.length_append,
        List.length_append, hback]
      have hpending : s.mode.pending = 1 := by rw [hmode]; rfl
      change _ + s.done.length + _ + 0 ≤ _
      simp only [List.length_cons, List.length_nil]
      omega

theorem covered_run {text : List Char} : ∀ {s s' : State} {read : List Char}, s.Covered read →
    run s text = some s' → s'.Covered (read ++ text) := by
  induction text with
  | nil =>
    rintro s s' read h ⟨⟩
    rwa [List.append_nil]
  | cons c rest ih =>
    intro s s' read h hrun
    rw [run, Option.bind_eq_some_iff] at hrun
    obtain ⟨t, hstep, hrest⟩ := hrun
    have ht := ih (covered_step h hstep) hrest
    rwa [List.append_assoc, List.singleton_append] at ht

/-- **A command is as long as its words**, a blank between two of them, and the single
quotes that are not part of one. -/
theorem length_le {command : List Char} {words : List (List Char)}
    (h : shellWords command = some words) :
    words.flatten.length + (words.length - 1) + command.count '\'' ≤
      command.length + words.flatten.count '\'' := by
  unfold shellWords at h
  rw [Option.bind_eq_some_iff] at h
  obtain ⟨s, hrun, hs⟩ := h
  split_ifs at hs
  obtain rfl := Option.some.inj hs
  have hcovered := covered_run (show State.Covered {} [] from Nat.le_refl _) hrun
  unfold State.Covered at hcovered
  rw [List.nil_append] at hcovered
  have houtput : (s.done ++ s.word.toList).flatten = s.output := by
    cases hword : s.word <;> simp [State.output, hword]
  have hlength : (s.done ++ s.word.toList).length - 1 ≤ s.done.length := by
    cases s.word <;> simp
  rw [houtput]
  omega

end GreenCurve.Shell
