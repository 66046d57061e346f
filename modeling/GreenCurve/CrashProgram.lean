import Mathlib.Tactic.Common

/-! # Programs that may crash

A program calls its environment and each call consumes one answer.  A program
that runs out of answers dies at the call left unanswered and keeps the state it
died in, so the runs on every list of answers are the runs that crash at every
call, together with those that return. -/

namespace GreenCurve

/-- A program over states `σ` whose environment answers in `ι`. -/
def CrashM (ι σ α : Type) : Type :=
  List ι → σ → Option (α × List ι) × σ

namespace CrashM

variable {ι σ α β : Type}

instance : Monad (CrashM ι σ) where
  pure a := fun answers s => (some (a, answers), s)
  bind m f := fun answers s =>
    match m answers s with
    | (some (a, rest), s') => f a rest s'
    | (none, s') => (none, s')

/-- Call the environment. -/
def ask : CrashM ι σ ι := fun answers s =>
  match answers with
  | [] => (none, s)
  | answer :: rest => (some (answer, rest), s)

def get : CrashM ι σ σ := fun answers s => (some (s, answers), s)

def modify (f : σ → σ) : CrashM ι σ Unit := fun answers s => (some ((), answers), f s)

/-- The value returned, if the run returns, and the state it ends in. -/
def exec (m : CrashM ι σ α) (answers : List ι) (s : σ) : Option α × σ :=
  ((m answers s).1.map Prod.fst, (m answers s).2)

/-- Whatever the answers, a run of `m` from `s` returns in `Q` or dies in `C`. -/
def Ensures (m : CrashM ι σ α) (Q : α → σ → Prop) (C : σ → Prop) (s : σ) : Prop :=
  ∀ answers, match m answers s with
    | (some (a, _), s') => Q a s'
    | (none, s') => C s'

section Rules
variable {m : CrashM ι σ α} {f : α → CrashM ι σ β} {Q Q' : α → σ → Prop} {R : β → σ → Prop}
  {C C' : σ → Prop} {s : σ}

theorem ensures_pure {a : α} (h : Q a s) : Ensures (pure a : CrashM ι σ α) Q C s :=
  fun _ => h

theorem ensures_bind (h : Ensures m (fun a s' => Ensures (f a) R C s') C s) :
    Ensures (m >>= f) R C s := by
  intro answers
  have hm := h answers
  show match (match m answers s with
    | (some (a, rest), s') => f a rest s'
    | (none, s') => (none, s')) with
    | (some (b, _), s') => R b s'
    | (none, s') => C s'
  generalize m answers s = r at hm ⊢
  obtain ⟨_ | ⟨a, rest⟩, s'⟩ := r
  · exact hm
  · exact hm rest

theorem ensures_ask {Q : ι → σ → Prop} (hdie : C s) (h : ∀ answer, Q answer s) :
    Ensures ask Q C s := by
  intro answers
  cases answers with
  | nil => exact hdie
  | cons answer rest => exact h answer

theorem ensures_get {Q : σ → σ → Prop} (h : Q s s) : Ensures (get : CrashM ι σ σ) Q C s :=
  fun _ => h

theorem ensures_modify {g : σ → σ} {Q : Unit → σ → Prop} (h : Q () (g s)) :
    Ensures (modify g : CrashM ι σ Unit) Q C s :=
  fun _ => h

theorem Ensures.mono (h : Ensures m Q C s) (hQ : ∀ a s', Q a s' → Q' a s')
    (hC : ∀ s', C s' → C' s') : Ensures m Q' C' s := by
  intro answers
  have hm := h answers
  generalize m answers s = r at hm ⊢
  obtain ⟨_ | ⟨a, rest⟩, s'⟩ := r
  · exact hC s' hm
  · exact hQ a s' hm

theorem Ensures.and (h : Ensures m Q C s) (h' : Ensures m Q' C' s) :
    Ensures m (fun a s' => Q a s' ∧ Q' a s') (fun s' => C s' ∧ C' s') s := by
  intro answers
  have hm := h answers
  have hm' := h' answers
  generalize m answers s = r at hm hm' ⊢
  obtain ⟨_ | ⟨a, rest⟩, s'⟩ := r
  · exact ⟨hm, hm'⟩
  · exact ⟨hm, hm'⟩

/-- A run of a sequence dies in its first part, or goes on from where that returned. -/
theorem run_bind (m : CrashM ι σ α) (f : α → CrashM ι σ β) (answers : List ι) (s : σ) :
    (∃ s', m answers s = (none, s') ∧ (m >>= f) answers s = (none, s')) ∨
      ∃ a rest s', m answers s = (some (a, rest), s') ∧ (m >>= f) answers s = f a rest s' := by
  show (∃ s', _ ∧ (match m answers s with
    | (some (a, rest), s') => f a rest s'
    | (none, s') => (none, s')) = _) ∨ ∃ a rest s', _ ∧ (match m answers s with
    | (some (a, rest), s') => f a rest s'
    | (none, s') => (none, s')) = _
  generalize m answers s = r
  obtain ⟨_ | ⟨a, rest⟩, s'⟩ := r
  · exact .inl ⟨s', rfl, rfl⟩
  · exact .inr ⟨a, rest, s', rfl, rfl⟩

/-- Sequences associate. -/
theorem bind_assoc {γ : Type} (m : CrashM ι σ α) (f : α → CrashM ι σ β) (g : β → CrashM ι σ γ) :
    (m >>= f) >>= g = m >>= fun a => f a >>= g := by
  funext answers s
  show (match (match m answers s with
      | (some (a, rest), s') => f a rest s'
      | (none, s') => (none, s')) with
    | (some (b, rest), s') => g b rest s'
    | (none, s') => (none, s')) = match m answers s with
    | (some (a, rest), s') => (f a >>= g) rest s'
    | (none, s') => (none, s')
  generalize m answers s = r
  obtain ⟨_ | ⟨a, rest⟩, s'⟩ := r
  · rfl
  · rfl

theorem bind_pure (m : CrashM ι σ α) : (m >>= fun a => pure a) = m := by
  funext answers s
  show (match m answers s with
    | (some (a, rest), s') => (some (a, rest), s')
    | (none, s') => (none, s')) = m answers s
  generalize m answers s = r
  obtain ⟨_ | ⟨a, rest⟩, s'⟩ := r
  · rfl
  · rfl

/-- What holds of every run holds of one that returned. -/
theorem Ensures.of_run (h : Ensures m Q C s) {answers rest : List ι} {a : α} {s' : σ}
    (hrun : m answers s = (some (a, rest), s')) : Q a s' := by
  have hm := h answers
  rw [hrun] at hm
  exact hm

theorem ensures_true : Ensures m (fun _ _ => True) (fun _ => True) s := by
  intro answers
  generalize m answers s = r
  obtain ⟨_ | ⟨a, rest⟩, s'⟩ := r
  · trivial
  · trivial

/-- What holds of every run holds of the run on given answers. -/
theorem Ensures.exec (h : Ensures m Q C s) (answers : List ι) :
    match CrashM.exec m answers s with
    | (some a, s') => Q a s'
    | (none, s') => C s' := by
  have hm := h answers
  unfold CrashM.exec
  generalize m answers s = r at hm ⊢
  obtain ⟨_ | ⟨a, rest⟩, s'⟩ := r
  · exact hm
  · exact hm

/-- A predicate that covers the states it dies in holds wherever a run ends. -/
theorem Ensures.exec_snd (h : Ensures m (fun _ => C) C s) (answers : List ι) :
    C (CrashM.exec m answers s).2 := by
  have hrun := h.exec answers
  generalize CrashM.exec m answers s = r at hrun ⊢
  obtain ⟨_ | _, s'⟩ := r
  · exact hrun
  · exact hrun

end Rules

/-! ## Invariants

A program keeps `I`, and `C` where it dies, when it returns in `I` from every
state of `I`.  `C` may be weaker: what died keeps less. -/

/-- `m` returns in `I` and dies in `C`, started anywhere in `I`. -/
def Keeps (I C : σ → Prop) (m : CrashM ι σ α) : Prop :=
  ∀ s, I s → Ensures m (fun _ => I) C s

/-- `m` when `c` holds. -/
def when (c : Bool) (m : CrashM ι σ Unit) : CrashM ι σ Unit :=
  if c then m else pure ()

section Invariants
variable {I J C : σ → Prop} {m : CrashM ι σ α} {f : α → CrashM ι σ β}

theorem keeps_pure (a : α) : Keeps I C (pure a : CrashM ι σ α) :=
  fun _ hs => ensures_pure hs

theorem Keeps.bind (hm : Keeps I C m) (hf : ∀ a, Keeps I C (f a)) : Keeps I C (m >>= f) :=
  fun s hs => ensures_bind ((hm s hs).mono (fun a s' hs' => hf a s' hs') fun _ hs' => hs')

theorem keeps_ask (hdie : ∀ s, I s → C s) : Keeps I C (ask : CrashM ι σ ι) :=
  fun s hs => ensures_ask (hdie s hs) fun _ => hs

theorem keeps_get : Keeps I C (get : CrashM ι σ σ) :=
  fun _ hs => ensures_get hs

theorem keeps_modify {g : σ → σ} (h : ∀ s, I s → I (g s)) :
    Keeps I C (modify g : CrashM ι σ Unit) :=
  fun s hs => ensures_modify (h s hs)

theorem Keeps.ite {c : Prop} [Decidable c] {m m' : CrashM ι σ α} (hm : c → Keeps I C m)
    (hm' : ¬ c → Keeps I C m') : Keeps I C (if c then m else m') := by
  split
  · exact hm ‹_›
  · exact hm' ‹_›

theorem Keeps.when {c : Bool} {m : CrashM ι σ Unit} (hm : Keeps I C m) :
    Keeps I C (CrashM.when c m) :=
  Keeps.ite (fun _ => hm) fun _ => keeps_pure ()

/-- A program that reads the state first may use what the invariant says of it. -/
theorem keeps_get_bind {f : σ → CrashM ι σ β}
    (h : ∀ s, I s → Ensures (f s) (fun _ => I) C s) : Keeps I C (get >>= f) :=
  fun s hs => ensures_bind (ensures_get (h s hs))

theorem Keeps.weaken (h : Keeps I I m) (hdie : ∀ s, I s → C s) : Keeps I C m :=
  fun s hs => (h s hs).mono (fun _ _ hs' => hs') hdie

/-- A program that keeps `I`, and what follows it from there. -/
theorem Keeps.ensures_bind {R : β → σ → Prop} {s : σ} (hm : Keeps I I m) (hs : I s)
    (hdie : ∀ s, I s → C s) (hf : ∀ a s', I s' → Ensures (f a) R C s') :
    Ensures (m >>= f) R C s :=
  CrashM.ensures_bind ((hm s hs).mono hf hdie)

end Invariants

/-! ## Runs that return

Where only the runs that return matter, nothing is asked of the others. -/

/-- Whatever the answers, a run of `m` from `s` that returns does so in `Q`. -/
def Returns (m : CrashM ι σ α) (Q : α → σ → Prop) (s : σ) : Prop :=
  Ensures m Q (fun _ => True) s

section Returns
variable {m : CrashM ι σ α} {f : α → CrashM ι σ β} {Q Q' : α → σ → Prop} {R : β → σ → Prop} {s : σ}

theorem returns_pure {a : α} (h : Q a s) : Returns (pure a : CrashM ι σ α) Q s :=
  ensures_pure h

theorem Returns.bind (hm : Returns m Q s) (hf : ∀ a s', Q a s' → Returns (f a) R s') :
    Returns (m >>= f) R s :=
  ensures_bind (hm.mono hf fun _ h => h)

theorem Returns.mono (hm : Returns m Q s) (hQ : ∀ a s', Q a s' → Q' a s') : Returns m Q' s :=
  Ensures.mono hm hQ fun _ h => h

theorem returns_ask_bind {f : ι → CrashM ι σ β} (h : ∀ answer, Returns (f answer) R s) :
    Returns (ask >>= f) R s :=
  ensures_bind (ensures_ask trivial h)

theorem returns_get_bind {f : σ → CrashM ι σ β} (h : Returns (f s) R s) :
    Returns (get >>= f) R s :=
  ensures_bind (ensures_get h)

theorem returns_modify {g : σ → σ} {Q : Unit → σ → Prop} (h : Q () (g s)) :
    Returns (modify g : CrashM ι σ Unit) Q s :=
  ensures_modify h

theorem returns_modify_bind {g : σ → σ} {f : Unit → CrashM ι σ β} (h : Returns (f ()) R (g s)) :
    Returns (modify g >>= f) R s :=
  ensures_bind (ensures_modify h)

theorem returns_when {c : Bool} {g : σ → σ} {Q : Unit → σ → Prop}
    (hyes : c = true → Q () (g s)) (hno : c = false → Q () s) :
    Returns (CrashM.when c (modify g) : CrashM ι σ Unit) Q s := by
  cases c with
  | false => exact returns_pure (hno rfl)
  | true => exact returns_modify (hyes rfl)

/-- A program that gives up unless `c` holds. -/
theorem returns_unless {c : Bool} {refuse : CrashM ι σ α} (hno : c = false → Returns refuse Q s)
    (hyes : c = true → Returns m Q s) : Returns (if (!c) = true then refuse else m) Q s := by
  cases c with
  | false => exact hno rfl
  | true => exact hyes rfl

theorem Returns.of_exec (h : Returns m Q s) {answers : List ι} {a : α} {s' : σ}
    (hrun : exec m answers s = (some a, s')) : Q a s' := by
  have hexec := Ensures.exec h answers
  rw [hrun] at hexec
  exact hexec

end Returns

end CrashM

end GreenCurve
