import Mathlib.Data.List.Basic
import Mathlib.Tactic.Common

/-! # Rings of keyed records

A ring puts every new record into the slot after the last one, over what stood there.  So
a record is held until as many others as there are slots came after it (`Held`), and as
long as no key is put twice, it is what its key finds (`Held.find_eq`). -/

structure RecordRing (ρ : Type*) where
  slots : List ρ
  next : Nat

namespace RecordRing

variable {ρ κ : Type*} [DecidableEq κ]

/-- The first record of a key. -/
def find (key : ρ → κ) (t : RecordRing ρ) (k : κ) : Option ρ :=
  t.slots.find? fun r => decide (key r = k)

/-- The record in the next slot. -/
def push (capacity : Nat) (t : RecordRing ρ) (r : ρ) : RecordRing ρ where
  slots := t.slots.set (t.next % capacity) r
  next := (t.next % capacity + 1) % capacity

/-- A change of the first record of a key. -/
def update (key : ρ → κ) (t : RecordRing ρ) (k : κ) (f : ρ → ρ) : RecordRing ρ :=
  { t with slots := t.slots.modify (t.slots.findIdx fun r => decide (key r = k)) f }

/-- The slot of the record that was put so many records ago, the last one counted. -/
def place (capacity next age : Nat) : Nat := (next + capacity - age) % capacity

/-- A ring of its capacity, in which no key but the empty one stands twice. -/
structure Wf (capacity : Nat) (key : ρ → κ) (empty : κ) (t : RecordRing ρ) : Prop where
  length : t.slots.length = capacity
  next : t.next < capacity
  distinct : ∀ {i j : Nat} {r r' : ρ}, t.slots[i]? = some r → t.slots[j]? = some r' →
    key r = key r' → key r ≠ empty → i = j

/-- The record stands in the ring at its age. -/
structure Held (capacity : Nat) (t : RecordRing ρ) (r : ρ) (age : Nat) : Prop where
  pos : 0 < age
  le : age ≤ capacity
  slot : t.slots[place capacity t.next age]? = some r

/-! ## Places -/

section Places
variable {capacity next age : Nat}

theorem place_one (h : next < capacity) : place capacity ((next + 1) % capacity) 1 = next := by
  unfold place
  rcases Nat.lt_or_ge (next + 1) capacity with hlt | hge
  · rw [Nat.mod_eq_of_lt hlt, show next + 1 + capacity - 1 = next + capacity by omega,
      Nat.add_mod_right, Nat.mod_eq_of_lt h]
  · obtain rfl : capacity = next + 1 := by omega
    rw [Nat.mod_self, show 0 + (next + 1) - 1 = next by omega, Nat.mod_eq_of_lt h]

/-- A push ages the others and leaves them where they are. -/
theorem place_succ (h : next < capacity) (hage : age < capacity) :
    place capacity ((next + 1) % capacity) (age + 1) = place capacity next age := by
  unfold place
  rcases Nat.lt_or_ge (next + 1) capacity with hlt | hge
  · rw [Nat.mod_eq_of_lt hlt, show next + 1 + capacity - (age + 1) = next + capacity - age by omega]
  · obtain rfl : capacity = next + 1 := by omega
    rw [Nat.mod_self, show next + (next + 1) - age = (next - age) + (next + 1) by omega,
      Nat.add_mod_right]
    congr 1
    omega

theorem place_ne_next (h : next < capacity) (hpos : 0 < age) (hage : age < capacity) :
    place capacity next age ≠ next := by
  unfold place
  rcases Nat.lt_or_ge next age with hlt | hge
  · rw [Nat.mod_eq_of_lt (by omega)]
    omega
  · rw [show next + capacity - age = (next - age) + capacity by omega, Nat.add_mod_right,
      Nat.mod_eq_of_lt (by omega)]
    omega

end Places

/-! ## What the ring holds -/

section Rules
variable {capacity : Nat} {key : ρ → κ} {empty k : κ} {t : RecordRing ρ} {r r' : ρ} {age : Nat}
  {f : ρ → ρ}

theorem Wf.find_eq (h : t.Wf capacity key empty) {i : Nat} (hslot : t.slots[i]? = some r)
    (hne : key r ≠ empty) : t.find key (key r) = some r := by
  have hmem : r ∈ t.slots := List.mem_of_getElem? hslot
  cases hfind : t.find key (key r) with
  | none =>
    have hnone := List.find?_eq_none.mp hfind r hmem
    exact absurd (decide_eq_true rfl) hnone
  | some r' =>
    have hkey : key r' = key r :=
      of_decide_eq_true (List.find?_some (p := fun r' => decide (key r' = key r)) hfind)
    obtain ⟨j, hj⟩ := List.mem_iff_getElem?.mp (List.mem_of_find?_eq_some hfind)
    obtain rfl := h.distinct hslot hj hkey.symm hne
    rw [hslot] at hj
    exact hj.symm

/-- A held record is what its key finds. -/
theorem Held.find_eq (hheld : Held capacity t r age) (h : t.Wf capacity key empty)
    (hne : key r ≠ empty) : t.find key (key r) = some r :=
  h.find_eq hheld.slot hne

theorem key_ne_of_find_eq_none (h : t.find key k = none) (hmem : r ∈ t.slots) : key r ≠ k := by
  intro hkey
  exact List.find?_eq_none.mp h r hmem (decide_eq_true hkey)

/-- A record of a key that was not there. -/
theorem Wf.push (h : t.Wf capacity key empty) (hfresh : t.find key (key r) = none) :
    (t.push capacity r).Wf capacity key empty where
  length := by
    rw [RecordRing.push, List.length_set]
    exact h.length
  next := Nat.mod_lt _ (Nat.lt_of_le_of_lt (Nat.zero_le _) h.next)
  distinct := by
    intro i j a b hi hj hkey hne
    simp only [RecordRing.push, List.getElem?_set] at hi hj
    split at hi <;> split at hj
    · omega
    · split at hi
      · obtain rfl := Option.some.inj hi
        exact absurd hkey.symm (key_ne_of_find_eq_none hfresh (List.mem_of_getElem? hj))
      · cases hi
    · split at hj
      · obtain rfl := Option.some.inj hj
        exact absurd hkey (key_ne_of_find_eq_none hfresh (List.mem_of_getElem? hi))
      · cases hj
    · exact h.distinct hi hj hkey hne

omit [DecidableEq κ] in
theorem held_push_self (h : t.Wf capacity key empty) (r : ρ) :
    Held capacity (t.push capacity r) r 1 where
  pos := Nat.one_pos
  le := Nat.lt_of_le_of_lt (Nat.zero_le _) h.next
  slot := by
    have hnext := h.next
    have hlength := h.length
    simp only [RecordRing.push, Nat.mod_eq_of_lt hnext, place_one hnext]
    rw [List.getElem?_set_self (by omega)]

omit [DecidableEq κ] in
/-- **A record survives the next one, until the ring has gone round.** -/
theorem Held.push (hheld : Held capacity t r age) (h : t.Wf capacity key empty)
    (hage : age < capacity) (r' : ρ) : Held capacity (t.push capacity r') r (age + 1) where
  pos := Nat.succ_pos _
  le := hage
  slot := by
    have hnext := h.next
    simp only [RecordRing.push, Nat.mod_eq_of_lt hnext, place_succ hnext hage]
    rw [List.getElem?_set_ne (place_ne_next hnext hheld.pos hage).symm]
    exact hheld.slot

theorem getElem?_update (t : RecordRing ρ) (k : κ) (f : ρ → ρ) (i : Nat) :
    (t.update key k f).slots[i]? =
      (t.slots[i]?).map fun r =>
        if t.slots.findIdx (fun r => decide (key r = k)) = i then f r else r := by
  rw [update, List.getElem?_modify]
  congr 1

theorem key_of_findIdx {i : Nat} (hfirst : t.slots.findIdx (fun r => decide (key r = k)) = i)
    (hslot : t.slots[i]? = some r) : key r = k := by
  rw [← hfirst] at hslot
  obtain ⟨hlt, hr⟩ := List.getElem?_eq_some_iff.mp hslot
  have hkey := of_decide_eq_true (List.findIdx_getElem (w := hlt))
  rwa [hr] at hkey

section Update
variable (hf : ∀ r, key r = k → key (f r) = k)
include hf

theorem getElem?_update_key {i : Nat} (h : t.slots[i]? = some r) :
    ∃ r', (t.update key k f).slots[i]? = some r' ∧ key r' = key r := by
  rw [getElem?_update, h, Option.map_some]
  refine ⟨_, rfl, ?_⟩
  split
  · rename_i hfirst
    have hkey := key_of_findIdx hfirst h
    rw [hf r hkey, hkey]
  · rfl

/-- A change that keeps the key keeps every key. -/
theorem exists_key_update (h : r ∈ t.slots) :
    ∃ r' ∈ (t.update key k f).slots, key r' = key r := by
  obtain ⟨i, hi⟩ := List.mem_iff_getElem?.mp h
  obtain ⟨r', hr', hkey⟩ := getElem?_update_key hf hi
  exact ⟨r', List.mem_of_getElem? hr', hkey⟩

theorem getElem?_of_update {i : Nat} (h : (t.update key k f).slots[i]? = some r) :
    ∃ r', t.slots[i]? = some r' ∧ key r' = key r := by
  have hupdate := h
  rw [getElem?_update] at hupdate
  obtain ⟨r', hr', -⟩ := Option.map_eq_some_iff.mp hupdate
  obtain ⟨r'', hr'', hkey⟩ := getElem?_update_key hf hr'
  rw [h] at hr''
  obtain rfl := Option.some.inj hr''
  exact ⟨r', hr', hkey.symm⟩

/-- And it brings none in. -/
theorem exists_key_of_update (h : r ∈ (t.update key k f).slots) :
    ∃ r' ∈ t.slots, key r' = key r := by
  obtain ⟨i, hi⟩ := List.mem_iff_getElem?.mp h
  obtain ⟨r', hr', hkey⟩ := getElem?_of_update hf hi
  exact ⟨r', List.mem_of_getElem? hr', hkey⟩

theorem Wf.update (h : t.Wf capacity key empty) :
    (t.update key k f).Wf capacity key empty where
  length := by
    rw [RecordRing.update, List.length_modify]
    exact h.length
  next := h.next
  distinct := by
    intro i j a b hi hj hkey hne
    obtain ⟨a', ha', ha⟩ := getElem?_of_update hf hi
    obtain ⟨b', hb', hb⟩ := getElem?_of_update hf hj
    exact h.distinct ha' hb' (ha.trans (hkey.trans hb.symm)) (ha ▸ hne)

end Update

theorem find_isSome_iff : (t.find key k).isSome = true ↔ ∃ r ∈ t.slots, key r = k := by
  rw [find, List.find?_isSome]
  simp only [decide_eq_true_eq]

/-- The first record of a key is the one that holds it. -/
theorem Wf.findIdx_eq (h : t.Wf capacity key empty) {i : Nat} (hslot : t.slots[i]? = some r)
    (hne : key r ≠ empty) : t.slots.findIdx (fun r' => decide (key r' = key r)) = i := by
  have hlt : t.slots.findIdx (fun r' => decide (key r' = key r)) < t.slots.length :=
    List.findIdx_lt_length_of_exists ⟨r, List.mem_of_getElem? hslot, decide_eq_true rfl⟩
  have hfirst := of_decide_eq_true (List.findIdx_getElem (w := hlt))
  exact (h.distinct hslot (List.getElem?_eq_getElem hlt) hfirst.symm hne).symm

theorem Held.update_of_ne (hheld : Held capacity t r age) (hne : key r ≠ k) :
    Held capacity (t.update key k f) r age where
  pos := hheld.pos
  le := hheld.le
  slot := by
    rw [getElem?_update]
    change ((t.slots[place capacity t.next age]?).map _) = _
    rw [hheld.slot]
    exact congrArg some (if_neg fun hfirst => hne (key_of_findIdx hfirst hheld.slot))

theorem Held.update_self (hheld : Held capacity t r age) (h : t.Wf capacity key empty)
    (hne : key r ≠ empty) : Held capacity (t.update key (key r) f) (f r) age where
  pos := hheld.pos
  le := hheld.le
  slot := by
    rw [getElem?_update]
    change ((t.slots[place capacity t.next age]?).map _) = _
    rw [hheld.slot]
    exact congrArg some (if_pos (h.findIdx_eq hheld.slot hne))

end Rules

end RecordRing
