import Mathlib.Data.List.Pairwise
import Mathlib.Data.UInt
import Mathlib.Tactic.Common

/-! # C structures as bytes

A structure is laid out as the C ABI lays it out: every member is placed at the
next multiple of its alignment, and the structure is padded to a multiple of
its own.  `Record l` is an object of the layout `l`: as many bytes as it takes,
padding included, so an object of the wrong size cannot be built.  Members are
read and written by name, and a write of one member leaves every other member
as it was (`get_set_of_ne`). -/

namespace GreenCurve

abbrev Bytes := List UInt8

/-- The first `n` bytes of a text, filled up with zeros. -/
def Bytes.fit (n : Nat) (bytes : Bytes) : Bytes :=
  bytes.take n ++ List.replicate (n - bytes.length) 0

@[simp] theorem Bytes.length_fit (n : Nat) (bytes : Bytes) : (Bytes.fit n bytes).length = n := by
  simp only [Bytes.fit, List.length_append, List.length_take, List.length_replicate]
  omega

theorem Bytes.fit_of_length {n : Nat} {bytes : Bytes} (h : bytes.length = n) :
    Bytes.fit n bytes = bytes := by
  simp [Bytes.fit, h, List.take_of_length_le]

/-! ## Words -/

/-- The four bytes of a word, the least significant first. -/
def le32 (value : UInt32) : Bytes :=
  [value.toUInt8, (value >>> 8).toUInt8, (value >>> 16).toUInt8, (value >>> 24).toUInt8]

def readLe32 : Bytes → UInt32
  | b₀ :: b₁ :: b₂ :: b₃ :: _ =>
    UInt32.ofNat (b₀.toNat + 256 * (b₁.toNat + 256 * (b₂.toNat + 256 * b₃.toNat)))
  | _ => 0

@[simp] theorem length_le32 (value : UInt32) : (le32 value).length = 4 := rfl

@[simp] theorem fit_le32 (value : UInt32) : Bytes.fit 4 (le32 value) = le32 value := rfl

@[simp] theorem readLe32_le32 (value : UInt32) : readLe32 (le32 value) = value := by
  apply UInt32.toNat_inj.mp
  have hlt := value.toNat_lt
  simp only [le32, readLe32, UInt32.toNat_ofNat', UInt32.toNat_toUInt8, UInt32.toNat_shiftRight,
    Nat.shiftRight_eq_div_pow, UInt32.reduceToNat, Nat.reduceMod, Nat.reducePow]
  omega

/-! ## Types and members -/

structure CType where
  size : Nat
  align : Nat
  align_pos : 0 < align

namespace CType

def u8 : CType := ⟨1, 1, by decide⟩
def u32 : CType := ⟨4, 4, by decide⟩
def u64 : CType := ⟨8, 8, by decide⟩

def array (t : CType) (n : Nat) : CType := ⟨n * t.size, t.align, t.align_pos⟩

end CType

/-- The next multiple of `a` from `n` on. -/
def alignUp (n a : Nat) : Nat := (n + a - 1) / a * a

theorem le_alignUp {a : Nat} (ha : 0 < a) (n : Nat) : n ≤ alignUp n a := by
  have hdiv := Nat.div_add_mod (n + a - 1) a
  have hmod := Nat.mod_lt (n + a - 1) ha
  rw [Nat.mul_comm] at hdiv
  unfold alignUp
  omega

/-- Where a member lies. -/
structure Span where
  offset : Nat
  size : Nat
  deriving DecidableEq

/-- Two members share no byte. -/
def Span.Disjoint (s t : Span) : Prop :=
  s.offset + s.size ≤ t.offset ∨ t.offset + t.size ≤ s.offset

/-- The members of a structure, in the order of their declaration. -/
abbrev Layout (F : Type) := List (F × CType)

section Layouts
variable {F : Type} [DecidableEq F]

/-- The members placed from `offset` on. -/
def Layout.place (offset : Nat) : Layout F → List (F × Span)
  | [] => []
  | (f, t) :: rest =>
    let start := alignUp offset t.align
    (f, ⟨start, t.size⟩) :: Layout.place (start + t.size) rest

/-- The first byte past the last member placed from `offset` on. -/
def Layout.extent (offset : Nat) : Layout F → Nat
  | [] => offset
  | (_, t) :: rest => Layout.extent (alignUp offset t.align + t.size) rest

def Layout.align (l : Layout F) : Nat := (l.map fun m => m.2.align).foldr max 1

omit [DecidableEq F] in
theorem Layout.align_pos (l : Layout F) : 0 < l.align := by
  unfold Layout.align
  induction l with
  | nil => exact Nat.one_pos
  | cons m rest ih => exact lt_of_lt_of_le ih (Nat.le_max_right _ _)

/-- `sizeof`. -/
def Layout.size (l : Layout F) : Nat := alignUp (Layout.extent 0 l) l.align

/-- A structure as the type of a member. -/
def Layout.toCType (l : Layout F) : CType := ⟨l.size, l.align, l.align_pos⟩

/-- Where `f` lies; nowhere, when it is not a member. -/
def Layout.span (l : Layout F) (f : F) : Span := ((Layout.place 0 l).lookup f).getD ⟨0, 0⟩

omit [DecidableEq F] in
theorem Layout.le_extent (l : Layout F) (offset : Nat) : offset ≤ Layout.extent offset l := by
  induction l generalizing offset with
  | nil => exact le_rfl
  | cons m rest ih =>
    have hstart := le_alignUp m.2.align_pos offset
    exact hstart.trans ((Nat.le_add_right _ _).trans (ih _))

omit [DecidableEq F] in
/-- Every member lies between the first byte and the extent. -/
theorem Layout.mem_place {l : Layout F} {offset : Nat} {p : F × Span}
    (h : p ∈ Layout.place offset l) :
    offset ≤ p.2.offset ∧ p.2.offset + p.2.size ≤ Layout.extent offset l := by
  induction l generalizing offset with
  | nil => exact absurd h List.not_mem_nil
  | cons m rest ih =>
    have hstart := le_alignUp m.2.align_pos offset
    rcases List.mem_cons.mp h with rfl | hrest
    · exact ⟨hstart, Layout.le_extent rest _⟩
    · obtain ⟨hlow, hhigh⟩ := ih hrest
      exact ⟨hstart.trans ((Nat.le_add_right _ _).trans hlow), hhigh⟩

omit [DecidableEq F] in
/-- A member ends before the next one starts. -/
theorem Layout.pairwise_place (l : Layout F) (offset : Nat) :
    (Layout.place offset l).Pairwise fun p q => p.2.offset + p.2.size ≤ q.2.offset := by
  induction l generalizing offset with
  | nil => exact List.Pairwise.nil
  | cons m rest ih =>
    refine List.Pairwise.cons (fun q hq => ?_) (ih _)
    exact (Layout.mem_place hq).1

theorem Layout.mem_place_of_lookup {l : Layout F} {f : F} {s : Span}
    (h : (Layout.place 0 l).lookup f = some s) : (f, s) ∈ Layout.place 0 l := by
  obtain ⟨before, after, heq, _⟩ := List.lookup_eq_some_iff.mp h
  rw [heq]
  exact List.mem_append_right _ List.mem_cons_self

/-- Distinct members share no byte. -/
theorem Layout.disjoint_span (l : Layout F) {f g : F} (h : f ≠ g) :
    (l.span f).Disjoint (l.span g) := by
  unfold Layout.span
  cases hf : (Layout.place 0 l).lookup f with
  | none => exact .inl (Nat.zero_le _)
  | some s =>
    cases hg : (Layout.place 0 l).lookup g with
    | none => exact .inr (Nat.zero_le _)
    | some t =>
      have hpair : (Layout.place 0 l).Pairwise fun p q => p.2.Disjoint q.2 :=
        (Layout.pairwise_place l 0).imp Or.inl
      have : Std.Symm fun p q : F × Span => p.2.Disjoint q.2 := ⟨fun _ _ h => h.symm⟩
      have hne : (f, s) ≠ (g, t) := fun heq => h (congrArg Prod.fst heq)
      exact hpair.forall (Layout.mem_place_of_lookup hf) (Layout.mem_place_of_lookup hg) hne

theorem Layout.span_le_size (l : Layout F) (f : F) :
    (l.span f).offset + (l.span f).size ≤ l.size := by
  have hextent := le_alignUp l.align_pos (Layout.extent 0 l)
  unfold Layout.span
  cases hf : (Layout.place 0 l).lookup f with
  | none => exact Nat.zero_le _
  | some s => exact (Layout.mem_place (Layout.mem_place_of_lookup hf)).2.trans hextent

end Layouts

/-! ## Records -/

/-- An object of the layout `l`. -/
structure Record {F : Type} (l : Layout F) where
  bytes : Bytes
  length_eq : bytes.length = l.size
  deriving DecidableEq

namespace Record
variable {F : Type} [DecidableEq F] {l : Layout F}

omit [DecidableEq F] in
@[ext] theorem ext {r r' : Record l} (h : r.bytes = r'.bytes) : r = r' := by
  cases r
  cases r'
  cases h
  rfl

/-- The object that a text of the right size is. -/
def ofBytes (l : Layout F) (bytes : Bytes) : Option (Record l) :=
  if h : bytes.length = l.size then some ⟨bytes, h⟩ else none

omit [DecidableEq F] in
@[simp] theorem ofBytes_bytes (r : Record l) : ofBytes l r.bytes = some r :=
  dif_pos r.length_eq

omit [DecidableEq F] in
theorem ofBytes_eq_some {bytes : Bytes} {r : Record l} :
    ofBytes l bytes = some r ↔ bytes = r.bytes := by
  constructor
  · intro h
    unfold ofBytes at h
    split at h
    · cases h
      rfl
    · exact nomatch h
  · rintro rfl
    exact r.ofBytes_bytes

omit [DecidableEq F] in
/-- A text of another size is no object of the layout. -/
theorem ofBytes_of_size_ne {G : Type} {l' : Layout G} (h : l'.size ≠ l.size) (r : Record l') :
    ofBytes l r.bytes = none :=
  dif_neg fun hlength => h (r.length_eq.symm.trans hlength)

/-- `memset` to zero. -/
def zero (l : Layout F) : Record l := ⟨List.replicate l.size 0, List.length_replicate⟩

def get (f : F) (r : Record l) : Bytes :=
  (r.bytes.drop (l.span f).offset).take (l.span f).size

/-- A member that is a word. -/
def word (f : F) (r : Record l) : UInt32 := readLe32 (r.get f)

/-- A member that is one byte. -/
def byte (f : F) (r : Record l) : UInt8 := (r.get f).headD 0

/-- The bytes before a member: as many as its `offsetof`. -/
def before (f : F) (r : Record l) : Bytes := r.bytes.take (l.span f).offset

def set (f : F) (value : Bytes) (r : Record l) : Record l where
  bytes := r.before f ++ Bytes.fit (l.span f).size value ++
    r.bytes.drop ((l.span f).offset + (l.span f).size)
  length_eq := by
    have hsize := l.span_le_size f
    simp only [before, List.length_append, List.length_take, List.length_drop, Bytes.length_fit,
      r.length_eq]
    omega

theorem length_before (f : F) (r : Record l) : (r.before f).length = (l.span f).offset := by
  have hsize := l.span_le_size f
  rw [before, List.length_take, r.length_eq]
  omega

@[simp] theorem length_get (f : F) (r : Record l) : (r.get f).length = (l.span f).size := by
  have hsize := l.span_le_size f
  rw [get, List.length_take, List.length_drop, r.length_eq]
  omega

theorem bytes_set (f : F) (value : Bytes) (r : Record l) :
    (r.set f value).bytes = r.before f ++ (Bytes.fit (l.span f).size value ++
      r.bytes.drop ((l.span f).offset + (l.span f).size)) :=
  List.append_assoc _ _ _

theorem get_set (f : F) (value : Bytes) (r : Record l) :
    (r.set f value).get f = Bytes.fit (l.span f).size value := by
  rw [get, bytes_set, List.drop_left' (r.length_before f)]
  exact List.take_left' (Bytes.length_fit _ _)

/-- A member that was written holds what was written to it. -/
theorem get_set_of_length {f : F} {value : Bytes} {r : Record l}
    (h : value.length = (l.span f).size) : (r.set f value).get f = value := by
  rw [get_set, Bytes.fit_of_length h]

/-- A write of one member leaves every other member as it was. -/
theorem get_set_of_ne {f g : F} (h : g ≠ f) (value : Bytes) (r : Record l) :
    (r.set f value).get g = r.get g := by
  have hbefore := r.length_before f
  rw [get, get, bytes_set]
  rcases l.disjoint_span h with hlow | hhigh
  · -- `g` ends before `f` starts.
    have hoffset : (l.span g).offset ≤ (r.before f).length := by omega
    rw [List.drop_append_of_le_length hoffset, List.take_append_of_le_length, before,
      List.drop_take, List.take_take, Nat.min_eq_left (by omega)]
    rw [List.length_drop]
    omega
  · have hfit := Bytes.length_fit (l.span f).size value
    rw [List.drop_append, List.drop_append, List.drop_eq_nil_of_le (by omega),
      List.drop_eq_nil_of_le (by omega), List.nil_append, List.nil_append, List.drop_drop]
    congr 2
    omega

theorem before_set (f : F) (value : Bytes) (r : Record l) :
    (r.set f value).before f = r.before f := by
  rw [before, bytes_set, List.take_left' (r.length_before f)]

theorem get_zero (f : F) : (zero l).get f = List.replicate (l.span f).size 0 := by
  have hsize := l.span_le_size f
  rw [get, zero, List.drop_replicate, List.take_replicate]
  congr 1
  omega

theorem word_set {f : F} {value : UInt32} {r : Record l} (h : (l.span f).size = 4) :
    (r.set f (le32 value)).word f = value := by
  rw [word, get_set_of_length (h := (length_le32 value).trans h.symm), readLe32_le32]

/-- A word that the layout does not have reads as zero. -/
theorem word_of_absent {f : F} (h : (l.span f).size = 0) (r : Record l) : r.word f = 0 := by
  rw [word, List.length_eq_zero_iff.mp ((r.length_get f).trans h)]
  rfl

/-! ### Nested structures -/

variable {G : Type}

/-- A member that is a structure of the layout `l'`. -/
def nested (l' : Layout G) (f : F) (r : Record l) : Record l' :=
  ⟨Bytes.fit l'.size (r.get f), Bytes.length_fit _ _⟩

theorem nested_of_get {l' : Layout G} {f : F} {r : Record l} {inner : Record l'}
    (h : r.get f = inner.bytes) : r.nested l' f = inner := by
  apply Record.ext
  show Bytes.fit l'.size (r.get f) = inner.bytes
  rw [h, Bytes.fit_of_length inner.length_eq]

/-! ### Copies between layouts -/

/-- Members copied one by one from an object of another layout. -/
def copy {l' : Layout F} (dst : Record l) (fields : List F) (src : Record l') : Record l :=
  fields.foldl (fun out f => out.set f (src.get f)) dst

section Copy
variable {l' : Layout F} {fields : List F} {src : Record l'} {dst : Record l} {f : F}

theorem get_copy_of_not_mem (h : f ∉ fields) : (dst.copy fields src).get f = dst.get f := by
  induction fields generalizing dst with
  | nil => rfl
  | cons g rest ih =>
    have hne : f ≠ g := fun heq => h (heq ▸ List.mem_cons_self)
    have hrest : f ∉ rest := fun hmem => h (List.mem_cons_of_mem _ hmem)
    exact (ih hrest).trans (get_set_of_ne hne _ dst)

/-- A member that is copied holds what the source holds. -/
theorem get_copy (h : f ∈ fields) (hsize : (l'.span f).size = (l.span f).size) :
    (dst.copy fields src).get f = src.get f := by
  induction fields generalizing dst with
  | nil => exact absurd h List.not_mem_nil
  | cons g rest ih =>
    by_cases hrest : f ∈ rest
    · exact ih hrest
    · -- The last copy of `f` is this one.
      obtain rfl : f = g := (List.mem_cons.mp h).resolve_right hrest
      have hlength := (src.length_get f).trans hsize
      exact (get_copy_of_not_mem hrest).trans (get_set_of_length hlength)

end Copy

/-! ### Checksums -/

/-- The hash of everything before a member, as that member. -/
def sealed (hash : Bytes → UInt32) (f : F) (r : Record l) : Record l :=
  r.set f (le32 (hash (r.before f)))

theorem word_sealed {hash : Bytes → UInt32} {f : F} {r : Record l} (h : (l.span f).size = 4) :
    (r.sealed hash f).word f = hash ((r.sealed hash f).before f) := by
  rw [sealed, word_set h, before_set]

theorem get_sealed_of_ne {hash : Bytes → UInt32} {f g : F} (h : g ≠ f) (r : Record l) :
    (r.sealed hash f).get g = r.get g :=
  get_set_of_ne h _ r

end Record

end GreenCurve
