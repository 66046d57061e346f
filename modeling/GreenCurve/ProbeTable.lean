import Mathlib.Data.List.Basic
import Mathlib.Data.List.Nodup
import Mathlib.Logic.Function.Basic

/-! # Open addressing

A table whose slots hold at most one key each.  Every key has a probe path, the
order in which its slots are tried, and a search for the key stops at the first
empty slot.  The search is right as long as the table is `Intact`: nothing before
a key on its own path is empty.  Slots are overwritten but never emptied, so a key
may be placed on an occupied slot of its path as well as on the first empty one. -/

namespace ProbeTable

variable {ι κ : Type*}

/-- A probe order tries every slot exactly once. -/
structure Probing (path : κ → List ι) : Prop where
  nodup : ∀ key, (path key).Nodup
  complete : ∀ key i, i ∈ path key

/-- No slot before a key on its own path is empty. -/
def Intact (path : κ → List ι) (view : ι → Option κ) : Prop :=
  ∀ key pre i post, path key = pre ++ i :: post → view i = some key →
    ∀ j ∈ pre, view j ≠ none

/-- No key is held twice. -/
def Unique (view : ι → Option κ) : Prop :=
  ∀ i j key, view i = some key → view j = some key → i = j

/-- A slot of the path of `key` with no empty slot before it. -/
def Placeable (path : κ → List ι) (view : ι → Option κ) (key : κ) (j : ι) : Prop :=
  ∃ pre post, path key = pre ++ j :: post ∧ ∀ x ∈ pre, view x ≠ none

section Lookup
variable [DecidableEq κ] (view : ι → Option κ) (key : κ)

/-- Search along a path up to the first empty slot. -/
def lookup : List ι → Option ι
  | [] => none
  | i :: rest =>
    match view i with
    | none => none
    | some k => if k = key then some i else lookup rest

variable {view key}

theorem view_of_lookup {l : List ι} {i : ι} (h : lookup view key l = some i) :
    view i = some key := by
  induction l with
  | nil => simp [lookup] at h
  | cons j rest ih =>
    rw [lookup] at h
    split at h
    · exact absurd h (by simp)
    · rename_i k hk
      split at h
      · rename_i hkey
        obtain rfl := Option.some.inj h
        rw [hk, hkey]
      · exact ih h

/-- A search passes the occupied slots of other keys and stops at its own. -/
theorem lookup_append {pre post : List ι} {i : ι} (hpre : ∀ j ∈ pre, view j ≠ none)
    (hother : ∀ j ∈ pre, view j ≠ some key) (hi : view i = some key) :
    lookup view key (pre ++ i :: post) = some i := by
  induction pre with
  | nil => simp [lookup, hi]
  | cons j pre ih =>
    obtain ⟨k, hk⟩ := Option.ne_none_iff_exists'.mp (hpre j List.mem_cons_self)
    have hne : k ≠ key := by
      rintro rfl
      exact hother j List.mem_cons_self hk
    rw [List.cons_append, lookup]
    simp only [hk, if_neg hne]
    exact ih (fun x hx => hpre x (List.mem_cons_of_mem _ hx))
      (fun x hx => hother x (List.mem_cons_of_mem _ hx))

variable {path : κ → List ι}

/-- **The search is right**: it finds the slot that holds the key. -/
theorem lookup_eq_some_iff (hp : Probing path) (hin : Intact path view) (hu : Unique view)
    {i : ι} : lookup view key (path key) = some i ↔ view i = some key := by
  constructor
  · exact view_of_lookup
  · intro hi
    obtain ⟨pre, post, hsplit⟩ := List.append_of_mem (hp.complete key i)
    have hnd := hp.nodup key
    rw [hsplit] at hnd
    rw [hsplit]
    refine lookup_append (hin key pre i post hsplit hi) ?_ hi
    intro j hj hjk
    obtain rfl := hu i j key hi hjk
    exact (List.nodup_middle.mp hnd).notMem (List.mem_append_left _ hj)

theorem lookup_eq_none_iff (hp : Probing path) (hin : Intact path view) (hu : Unique view) :
    lookup view key (path key) = none ↔ ∀ i, view i ≠ some key := by
  rw [Option.eq_none_iff_forall_ne_some]
  exact forall_congr' fun i => not_congr (lookup_eq_some_iff hp hin hu)

end Lookup

section Place
variable {path : κ → List ι} {view : ι → Option κ} {key : κ}

/-- If a search ends at an empty slot without meeting the key, the key is nowhere. -/
theorem absent_of_gap (hp : Probing path) (hin : Intact path view) {pre post : List ι} {i : ι}
    (hsplit : path key = pre ++ i :: post) (hempty : view i = none)
    (hpre : ∀ j ∈ pre, view j ≠ some key) (j : ι) : view j ≠ some key := by
  intro hj
  have hmem := hp.complete key j
  rw [hsplit] at hmem
  rcases List.mem_append.mp hmem with hmem | hmem
  · exact hpre j hmem hj
  · rcases List.mem_cons.mp hmem with rfl | hmem
    · simp [hempty] at hj
    · obtain ⟨mid, post', rfl⟩ := List.append_of_mem hmem
      refine hin key (pre ++ i :: mid) j post' (by simp [hsplit]) hj i ?_ hempty
      exact List.mem_append_right _ List.mem_cons_self

variable [DecidableEq ι] {j : ι}

/-- Placing a key on its own path keeps every search path intact. -/
theorem Intact.place (hp : Probing path) (hin : Intact path view)
    (hj : Placeable path view key j) :
    Intact path (Function.update view j (some key)) := by
  have hkeep : ∀ x, view x ≠ none → Function.update view j (some key) x ≠ none := by
    intro x hx
    by_cases hxj : x = j
    · subst hxj
      simp
    · rwa [Function.update_of_ne hxj]
  intro key' pre i post hsplit hi x hx
  by_cases hij : i = j
  · subst hij
    rw [Function.update_self] at hi
    obtain rfl := Option.some.inj hi
    obtain ⟨pre', post', hsplit', hpre'⟩ := hj
    have hnd := hp.nodup key
    rw [hsplit] at hnd
    have hfresh : i ∉ pre ++ post := (List.nodup_middle.mp hnd).notMem
    rw [List.mem_append, not_or] at hfresh
    obtain ⟨rfl, _⟩ :=
      (List.append_cons_inj_of_notMem hfresh.1 hfresh.2).mp (hsplit.symm.trans hsplit')
    exact hkeep x (hpre' x hx)
  · rw [Function.update_of_ne hij] at hi
    exact hkeep x (hin key' pre i post hsplit hi x hx)

theorem Unique.place (hu : Unique view) (habs : ∀ i, view i ≠ some key) :
    Unique (Function.update view j (some key)) := by
  intro a b k ha hb
  by_cases haj : a = j <;> by_cases hbj : b = j
  · rw [haj, hbj]
  · subst haj
    rw [Function.update_self] at ha
    obtain rfl := Option.some.inj ha
    rw [Function.update_of_ne hbj] at hb
    exact absurd hb (habs b)
  · subst hbj
    rw [Function.update_self] at hb
    obtain rfl := Option.some.inj hb
    rw [Function.update_of_ne haj] at ha
    exact absurd ha (habs a)
  · rw [Function.update_of_ne haj] at ha
    rw [Function.update_of_ne hbj] at hb
    exact hu a b k ha hb

end Place

end ProbeTable
