import Mathlib.Data.List.DropRight
import Mathlib.Tactic.Common

/-! # Documents of sections as text

A document is a list of sections and a section a list of entries, each a key with
its value.  `read` takes a text line by line and `print` writes a document back.  A
text is a list of bytes, each the character of its code.  Reading is total; a reader
with limits on the sections and on the entries of a section accepts exactly the texts
whose document is within them (`readWithin_eq_ok`).  A document comes back from its
own text when the text can carry it (`read_print`): no blank at an end, no NUL, and no
nameless section behind another one, because a nameless section has no header. -/

namespace GreenCurve.Ini

abbrev Text := List Char

-- A question about the characters of a text looks at those, not at every character
-- there is, which is what the instances for quantifiers over `Char` would do.
instance decidableForallMem (t : Text) (p : Char → Prop) [DecidablePred p] :
    Decidable (∀ c ∈ t, p c) := List.decidableBAll p t

instance decidableExistsMem (t : Text) (p : Char → Prop) [DecidablePred p] :
    Decidable (∃ c ∈ t, p c) := List.decidableBEx p t

instance decidableExistsMemOption (o : Option Char) (p : Char → Prop) [DecidablePred p] :
    Decidable (∃ c ∈ o, p c) :=
  decidable_of_iff (o.any (fun c => decide (p c)) = true) (by cases o <;> simp)

/-! ## Trimming -/

def isBlank (c : Char) : Bool := decide (c ≤ ' ')

def trim (t : Text) : Text := (t.dropWhile isBlank).rdropWhile isBlank

/-- What a C string of the text holds: everything before the first NUL. -/
def cString (t : Text) : Text := t.takeWhile (· ≠ '\x00')

theorem trim_sublist (t : Text) : (trim t).Sublist t :=
  (List.rdropWhile_prefix isBlank (t.dropWhile isBlank)).sublist.trans
    (List.dropWhile_suffix isBlank).sublist

theorem cString_sublist (t : Text) : (cString t).Sublist t :=
  (List.takeWhile_prefix _).sublist

theorem cString_eq_self {t : Text} : cString t = t ↔ '\x00' ∉ t := by
  rw [cString, List.takeWhile_eq_self_iff]
  constructor
  · intro h hnul
    simpa using h _ hnul
  · intro h c hc
    have hne : c ≠ '\x00' := fun heq => h (heq ▸ hc)
    simpa using hne

/-- Neither end of a trimmed text is blank. -/
theorem trim_ends (t : Text) : (∀ c ∈ (trim t).head?, isBlank c = false) ∧
    (∀ c ∈ (trim t).getLast?, isBlank c = false) := by
  constructor
  · intro c hc
    obtain ⟨tail, htail⟩ := List.rdropWhile_prefix isBlank (t.dropWhile isBlank)
    have hne : trim t ≠ [] := by
      rintro hnil
      simp [hnil] at hc
    have hfront := List.head?_dropWhile_not isBlank t
    rw [← htail, ← trim, List.head?_append_of_ne_nil _ hne, hc] at hfront
    simpa using hfront
  · intro c hc
    obtain ⟨hne, rfl⟩ := List.mem_getLast?_eq_getLast hc
    have hlast := List.rdropWhile_last_not isBlank (t.dropWhile isBlank) hne
    exact Bool.not_eq_true _ ▸ hlast

theorem trim_eq_self {t : Text} :
    trim t = t ↔ (∀ c ∈ t.head?, isBlank c = false) ∧ (∀ c ∈ t.getLast?, isBlank c = false) := by
  constructor
  · intro h
    exact h ▸ trim_ends t
  · rintro ⟨hhead, hlast⟩
    have hdrop : t.dropWhile isBlank = t := by
      cases t with
      | nil => rfl
      | cons a rest => exact List.dropWhile_cons_of_neg (by simp [hhead a rfl])
    rw [trim, hdrop, List.rdropWhile_eq_self_iff]
    intro hne
    simp [hlast _ (List.getLast?_eq_some_getLast hne)]

@[simp] theorem trim_trim (t : Text) : trim (trim t) = trim t := trim_eq_self.mpr (trim_ends t)

/-- A byte that is not blank stays at the front of its text. -/
theorem head?_trim {t : Text} {c : Char} (hc : t.head? = some c) (hblank : isBlank c = false) :
    (trim t).head? = some c := by
  cases t with
  | nil => cases hc
  | cons a rest =>
    obtain rfl : a = c := by simpa using hc
    have hdrop : (a :: rest).dropWhile isBlank = a :: rest :=
      List.dropWhile_cons_of_neg (by simp [hblank])
    rw [trim, hdrop]
    have hne : (a :: rest).rdropWhile isBlank ≠ [] := by
      rw [Ne, List.rdropWhile_eq_nil_iff]
      exact fun h => by simp [h a (by simp)] at hblank
    obtain ⟨tail, htail⟩ := List.rdropWhile_prefix isBlank (a :: rest)
    cases hkept : (a :: rest).rdropWhile isBlank with
    | nil => exact absurd hkept hne
    | cons b kept =>
      rw [hkept] at htail
      obtain ⟨rfl, -⟩ := List.cons_eq_cons.mp htail
      rfl

/-- A byte that is not blank stays at the end of its text. -/
theorem getLast?_trim {t : Text} {c : Char} (hc : t.getLast? = some c)
    (hblank : isBlank c = false) : (trim t).getLast? = some c := by
  have hmem : c ∈ t.dropWhile isBlank := by
    obtain ⟨front, rfl⟩ := List.getLast?_eq_some_iff.mp hc
    rw [List.dropWhile_append]
    split
    · simp [List.dropWhile, hblank]
    · simp
  have hne : t.dropWhile isBlank ≠ [] := List.ne_nil_of_mem hmem
  obtain ⟨dropped, hdropped⟩ := List.dropWhile_suffix isBlank (l := t)
  have hlast : (t.dropWhile isBlank).getLast hne = c := by
    have h : t.getLast? = (t.dropWhile isBlank).getLast? := by
      rw [← hdropped, List.getLast?_append_of_ne_nil _ hne, hdropped]
    rw [hc, List.getLast?_eq_some_getLast hne] at h
    exact (Option.some.inj h).symm
  have hkeep : trim t = t.dropWhile isBlank := by
    rw [trim, List.rdropWhile_eq_self_iff]
    intro hne'
    simp [hlast, hblank]
  rw [hkeep, List.getLast?_eq_some_getLast hne, hlast]

/-! ## Documents -/

structure Entry where
  key : Text
  value : Text
  deriving DecidableEq

structure Section where
  name : Text
  entries : List Entry
  deriving DecidableEq

abbrev Document := List Section

namespace Document
variable (doc : Document)

def names : List Text := doc.map (·.name)

/-- The entries of the first section of the name, none if there is none. -/
def entries (name : Text) : List Entry := ((doc.find? (·.name = name)).map (·.entries)).getD []

/-- The first section of the name with its entries changed; a section that is not there
is created at the end. -/
def upsert (name : Text) (f : List Entry → List Entry) : Document → Document
  | [] => [⟨name, f []⟩]
  | s :: rest => if s.name = name then ⟨s.name, f s.entries⟩ :: rest else s :: upsert name f rest

end Document

/-- The value of the first entry of the key. -/
def lookup (entries : List Entry) (key : Text) : Option Text :=
  (entries.find? (·.key = key)).map (·.value)

/-- The first entry of the key with a new value; an entry that is not there is created
at the end. -/
def assign (key value : Text) : List Entry → List Entry
  | [] => [⟨key, value⟩]
  | e :: rest => if e.key = key then ⟨e.key, value⟩ :: rest else e :: assign key value rest

theorem lookup_nil (key : Text) : lookup [] key = none := rfl

theorem lookup_cons (e : Entry) (rest : List Entry) (key : Text) :
    lookup (e :: rest) key = if e.key = key then some e.value else lookup rest key := by
  unfold lookup
  rw [List.find?_cons]
  split
  · rename_i h
    rw [if_pos (by simpa using h), Option.map_some]
  · rename_i h
    rw [if_neg (by simpa using h)]

@[simp] theorem lookup_assign_self (key value : Text) (entries : List Entry) :
    lookup (assign key value entries) key = some value := by
  induction entries with
  | nil => simp [assign, lookup_cons]
  | cons e rest ih =>
    unfold assign
    split
    · rename_i h
      rw [lookup_cons, if_pos h]
    · rename_i h
      rw [lookup_cons, if_neg h, ih]

theorem lookup_assign_of_ne {key key' : Text} (hne : key' ≠ key) (value : Text)
    (entries : List Entry) : lookup (assign key value entries) key' = lookup entries key' := by
  induction entries with
  | nil => simp [assign, lookup_cons, lookup_nil, Ne.symm hne]
  | cons e rest ih =>
    unfold assign
    split
    · rename_i h
      simp [lookup_cons, h, Ne.symm hne]
    · rw [lookup_cons, lookup_cons, ih]

namespace Document

@[simp] theorem entries_nil (name : Text) : entries [] name = [] := rfl

theorem entries_cons (s : Section) (doc : Document) (name : Text) :
    entries (s :: doc) name = if s.name = name then s.entries else entries doc name := by
  unfold entries
  rw [List.find?_cons]
  split
  · rename_i h
    rw [if_pos (by simpa using h)]
    rfl
  · rename_i h
    rw [if_neg (by simpa using h)]

theorem entries_of_notMem {doc : Document} {name : Text} (h : name ∉ doc.names) :
    doc.entries name = [] := by
  induction doc with
  | nil => rfl
  | cons s rest ih =>
    simp only [names, List.map_cons, List.mem_cons, not_or] at h
    rw [entries_cons, if_neg (Ne.symm h.1), ih h.2]

@[simp] theorem entries_upsert_self (name : Text) (f : List Entry → List Entry) (doc : Document) :
    (doc.upsert name f).entries name = f (doc.entries name) := by
  induction doc with
  | nil => simp [upsert, entries_cons]
  | cons s rest ih =>
    unfold upsert
    split
    · rename_i h
      simp [entries_cons, h]
    · rename_i h
      rw [entries_cons, if_neg h, ih, entries_cons, if_neg h]

theorem entries_upsert_of_ne {name name' : Text} (hne : name' ≠ name)
    (f : List Entry → List Entry) (doc : Document) :
    (doc.upsert name f).entries name' = doc.entries name' := by
  induction doc with
  | nil => simp [upsert, entries_cons, Ne.symm hne]
  | cons s rest ih =>
    unfold upsert
    split
    · rename_i h
      simp [entries_cons, h, Ne.symm hne]
    · rw [entries_cons, entries_cons, ih]

theorem names_upsert (name : Text) (f : List Entry → List Entry) (doc : Document) :
    (doc.upsert name f).names = if name ∈ doc.names then doc.names else doc.names ++ [name] := by
  induction doc with
  | nil => simp [upsert, names]
  | cons s rest ih =>
    unfold upsert
    by_cases h : s.name = name
    · simp [h, names]
    · have hcons : ∀ tail : Document, names (s :: tail) = s.name :: names tail := fun _ => rfl
      rw [if_neg h, hcons, ih, hcons]
      by_cases hmem : name ∈ names rest
      · rw [if_pos hmem, if_pos (List.mem_cons_of_mem _ hmem)]
      · rw [if_neg hmem, if_neg (by simp [hmem, Ne.symm h]), List.cons_append]

theorem nodup_upsert {doc : Document} (h : doc.names.Nodup) (name : Text)
    (f : List Entry → List Entry) : (doc.upsert name f).names.Nodup := by
  rw [names_upsert]
  split
  · exact h
  · rename_i hmem
    rw [List.nodup_append]
    refine ⟨h, by simp, ?_⟩
    rintro a ha b hb rfl
    exact hmem (List.mem_singleton.mp hb ▸ ha)

theorem mem_names_upsert (name : Text) (f : List Entry → List Entry) (doc : Document) :
    name ∈ (doc.upsert name f).names := by
  rw [names_upsert]
  split <;> simp [*]

theorem mem_names_upsert_iff {name' : Text} (name : Text) (f : List Entry → List Entry)
    (doc : Document) : name' ∈ (doc.upsert name f).names ↔ name' ∈ doc.names ∨ name' = name := by
  rw [names_upsert]
  split
  · rename_i hmem
    exact ⟨.inl, fun h => h.elim id fun heq => heq ▸ hmem⟩
  · rw [List.mem_append, List.mem_singleton]

theorem upsert_of_notMem {doc : Document} {name : Text} (h : name ∉ doc.names)
    (f : List Entry → List Entry) : doc.upsert name f = doc ++ [⟨name, f []⟩] := by
  induction doc with
  | nil => rfl
  | cons s rest ih =>
    simp only [names, List.map_cons, List.mem_cons, not_or] at h
    unfold upsert
    rw [if_neg (Ne.symm h.1), ih h.2, List.cons_append]

theorem upsert_append_of_notMem {doc : Document} {name : Text} (h : name ∉ doc.names)
    (entries : List Entry) (f : List Entry → List Entry) :
    upsert name f (doc ++ [⟨name, entries⟩]) = doc ++ [⟨name, f entries⟩] := by
  induction doc with
  | nil => simp [upsert]
  | cons s rest ih =>
    simp only [names, List.map_cons, List.mem_cons, not_or] at h
    rw [List.cons_append, upsert, if_neg (Ne.symm h.1), ih h.2, List.cons_append]

end Document

/-! ## Reading -/

/-- What a line is. -/
inductive Line where
  | skipped
  | header (name : Text)
  | entry (e : Entry)
  deriving DecidableEq

/-- A line as its reader takes it; a carriage return at its end is a blank like any
other. -/
def readLine (line : Text) : Line :=
  let line := trim line
  if line = [] ∨ line.head? = some ';' ∨ line.head? = some '#' then .skipped
  else if 2 ≤ line.length ∧ line.head? = some '[' ∧ line.getLast? = some ']' then
    -- The section is looked up, and created, under the C string of the name.
    .header (cString (trim line.tail.dropLast))
  else if '=' ∈ line then
    .entry ⟨trim (line.takeWhile (· ≠ '=')), trim (line.dropWhile (· ≠ '=')).tail⟩
  else .skipped

/-- A reader between two lines: the document so far, and the section an entry goes to. -/
@[ext]
structure Reader where
  document : Document := []
  current : Option Text := none
  nodup : document.names.Nodup := by simp [Document.names]
  current_mem : ∀ name ∈ current, name ∈ document.names := by simp

namespace Reader
variable (r : Reader)

/-- A header: its section, created unless it is there. -/
def enter (name : Text) : Reader where
  document := r.document.upsert name id
  current := some name
  nodup := Document.nodup_upsert r.nodup name id
  current_mem := by
    rintro _ ⟨⟩
    exact Document.mem_names_upsert name id _

/-- The section the next entry goes to: the nameless one before any header. -/
def target : Text := r.current.getD []

/-- An entry, at the end of its section. -/
def add (e : Entry) : Reader where
  document := r.document.upsert r.target (· ++ [e])
  current := some r.target
  nodup := Document.nodup_upsert r.nodup _ _
  current_mem := by
    rintro _ ⟨⟩
    exact Document.mem_names_upsert _ _ _

def line (text : Text) : Reader :=
  match readLine text with
  | .skipped => r
  | .header name => r.enter name
  | .entry e => r.add e

def text (t : Text) : Reader := (t.splitOn '\n').foldl line r

end Reader

/-- The document of a text. -/
def read (t : Text) : Document := (Reader.text {} t).document

theorem read_nodup (t : Text) : (read t).names.Nodup := (Reader.text {} t).nodup

/-! ## Lines -/

theorem head?_append_cons (t rest : Text) (c : Char) :
    (t ++ c :: rest).head? = some (t.head?.getD c) := by
  cases t <;> rfl

theorem getLast?_append_cons (t rest : Text) (c : Char) :
    (t ++ c :: rest).getLast? = some (rest.getLast?.getD c) := by
  rw [List.getLast?_append_of_ne_nil _ (by simp), List.getLast?_cons]

theorem takeWhile_equals {key : Text} (value : Text) (h : '=' ∉ key) :
    (key ++ '=' :: value).takeWhile (· ≠ '=') = key := by
  have hkey : ∀ c ∈ key, c ≠ '=' := fun c hc heq => h (heq ▸ hc)
  rw [List.takeWhile_append_of_pos (by simpa using hkey)]
  simp

theorem dropWhile_equals {key : Text} (value : Text) (h : '=' ∉ key) :
    (key ++ '=' :: value).dropWhile (· ≠ '=') = '=' :: value := by
  have hkey : ∀ c ∈ key, c ≠ '=' := fun c hc heq => h (heq ▸ hc)
  rw [List.dropWhile_append_of_pos (by simpa using hkey)]
  simp

/-- A key and a value that are read as they stand. -/
theorem readLine_entry {key value : Text} (hkey : trim key = key) (hvalue : trim value = value)
    (hequals : '=' ∉ key) (hcomment : ∀ c ∈ key.head?, c ≠ ';' ∧ c ≠ '#')
    (hheader : ¬(key.head? = some '[' ∧ value.getLast? = some ']')) :
    readLine (key ++ '=' :: value) = .entry ⟨key, value⟩ := by
  have hhead := head?_append_cons key value '='
  have hlast := getLast?_append_cons key value '='
  have htrim : trim (key ++ '=' :: value) = key ++ '=' :: value := by
    refine trim_eq_self.mpr ⟨?_, ?_⟩
    · intro c hc
      obtain rfl : key.head?.getD '=' = c := by simpa [hhead] using hc
      cases hk : key.head? with
      | none => decide
      | some c => exact (trim_eq_self.mp hkey).1 c hk
    · intro c hc
      obtain rfl : value.getLast?.getD '=' = c := by simpa [hlast] using hc
      cases hv : value.getLast? with
      | none => decide
      | some c => exact (trim_eq_self.mp hvalue).2 c hv
  have htake := takeWhile_equals value hequals
  have hdrop := dropWhile_equals value hequals
  have hskip : ¬(key ++ '=' :: value = [] ∨ (key ++ '=' :: value).head? = some ';' ∨
      (key ++ '=' :: value).head? = some '#') := by
    rw [hhead]
    cases hk : key.head? with
    | none => simp
    | some c => simpa using hcomment c hk
  have hopen : ¬(2 ≤ (key ++ '=' :: value).length ∧ (key ++ '=' :: value).head? = some '[' ∧
      (key ++ '=' :: value).getLast? = some ']') := by
    rw [hhead, hlast]
    rintro ⟨-, hfront, hback⟩
    refine hheader ⟨?_, ?_⟩
    · cases hk : key.head? with
      | none => simp [hk] at hfront
      | some c => simpa [hk] using hfront
    · cases hv : value.getLast? with
      | none => simp [hv] at hback
      | some c => simpa [hv] using hback
  unfold readLine
  rw [htrim]
  simp only [if_neg hskip, if_neg hopen, htake, hdrop, List.tail_cons, hkey, hvalue]
  rw [if_pos (by simp)]

/-- An entry that some line is read as. -/
structure Entry.OfLine (e : Entry) : Prop where
  line : readLine (e.key ++ '=' :: e.value) = .entry e
  newline : '\n' ∉ e.key ++ '=' :: e.value

/-- The entry of a line is the entry of its own line. -/
theorem Entry.ofLine_of_readLine {line : Text} {e : Entry} (h : readLine line = .entry e)
    (hnewline : '\n' ∉ line) : e.OfLine := by
  obtain ⟨m, hm⟩ : ∃ m, trim line = m := ⟨_, rfl⟩
  have hends := hm ▸ trim_ends line
  have hmnewline : '\n' ∉ m := fun hmem => hnewline ((trim_sublist line).subset (hm ▸ hmem))
  simp only [readLine, hm] at h
  by_cases hskip : m = [] ∨ m.head? = some ';' ∨ m.head? = some '#'
  · simp [if_pos hskip] at h
  by_cases hopen : 2 ≤ m.length ∧ m.head? = some '[' ∧ m.getLast? = some ']'
  · simp only [if_neg hskip, if_pos hopen, reduceCtorEq] at h
  by_cases hequals : '=' ∈ m
  swap
  · simp only [if_neg hskip, if_neg hopen, if_neg hequals, reduceCtorEq] at h
  obtain ⟨key, value, rfl, hkeyEquals⟩ := List.eq_append_cons_of_mem hequals
  simp only [if_neg hskip, if_neg hopen, if_pos hequals, takeWhile_equals value hkeyEquals,
    dropWhile_equals value hkeyEquals, List.tail_cons, Line.entry.injEq] at h
  subst h
  have hhead := head?_append_cons key value '='
  have hlast := getLast?_append_cons key value '='
  -- What stands at an end of the line is not blank, so the trims leave it there.
  have hfront : ∀ c ∈ (trim key).head?, (key ++ '=' :: value).head? = some c := by
    intro c hc
    cases hk : key.head? with
    | none => simp [List.head?_eq_none_iff.mp hk, trim] at hc
    | some a =>
      have hblank := hends.1 a (by simp [hhead, hk])
      rw [head?_trim hk hblank, Option.mem_some_iff] at hc
      simp [hhead, hk, hc]
  have hback : ∀ c ∈ (trim value).getLast?, (key ++ '=' :: value).getLast? = some c := by
    intro c hc
    cases hv : value.getLast? with
    | none => simp [List.getLast?_eq_none_iff.mp hv, trim] at hc
    | some a =>
      have hblank := hends.2 a (by simp [hlast, hv])
      rw [getLast?_trim hv hblank, Option.mem_some_iff] at hc
      simp [hlast, hv, hc]
  refine ⟨readLine_entry (trim_trim _) (trim_trim _) ?_ ?_ ?_, ?_⟩
  · exact fun hmem => hkeyEquals ((trim_sublist key).subset hmem)
  · intro c hc
    have hfirst := hfront c hc
    constructor
    · rintro rfl
      exact hskip (.inr (.inl hfirst))
    · rintro rfl
      exact hskip (.inr (.inr hfirst))
  · rintro ⟨hopening, hclosing⟩
    refine hopen ⟨?_, hfront _ hopening, hback _ hclosing⟩
    have hvalue : value ≠ [] := by
      rintro rfl
      simp [trim] at hclosing
    have := List.length_pos_iff.mpr hvalue
    simp only [List.length_append, List.length_cons]
    omega
  · intro hmem
    rcases List.mem_append.mp hmem with hmem | hmem
    · exact hmnewline (List.mem_append_left _ ((trim_sublist key).subset hmem))
    · rcases List.mem_cons.mp hmem with heq | hmem
      · exact absurd heq (by decide)
      · exact hmnewline (List.mem_append_right _
          (List.mem_cons_of_mem _ ((trim_sublist value).subset hmem)))

/-- The name of a header holds neither a line break nor a NUL. -/
theorem name_of_readLine {line name : Text} (h : readLine line = .header name)
    (hnewline : '\n' ∉ line) : '\n' ∉ name ∧ '\x00' ∉ name := by
  obtain ⟨m, hm⟩ : ∃ m, trim line = m := ⟨_, rfl⟩
  have hmnewline : '\n' ∉ m := fun hmem => hnewline ((trim_sublist line).subset (hm ▸ hmem))
  simp only [readLine, hm] at h
  split at h
  · cases h
  split at h
  · simp only [Line.header.injEq] at h
    subst h
    constructor
    · intro hmem
      have hinner := (trim_sublist _).subset ((cString_sublist _).subset hmem)
      exact hmnewline (List.mem_of_mem_tail ((List.dropLast_sublist _).subset hinner))
    · intro hmem
      simpa using List.mem_takeWhile_imp hmem
  split at h <;> cases h

/-! ## Documents that were read -/

/-- A document some text was read as. -/
structure Document.OfText (doc : Document) : Prop where
  nodup : doc.names.Nodup
  names : ∀ s ∈ doc, '\n' ∉ s.name ∧ '\x00' ∉ s.name
  entries : ∀ s ∈ doc, ∀ e ∈ s.entries, e.OfLine

namespace Document

theorem forall_upsert {p : Section → Prop} {doc : Document} {name : Text}
    {f : List Entry → List Entry} (h : ∀ s ∈ doc, p s) (hnew : p ⟨name, f []⟩)
    (hold : ∀ s ∈ doc, s.name = name → p ⟨name, f s.entries⟩) :
    ∀ s ∈ doc.upsert name f, p s := by
  induction doc with
  | nil => simpa [upsert] using hnew
  | cons s rest ih =>
    unfold upsert
    split
    · rename_i hname
      have hs := hold s (by simp) hname
      rw [← hname] at hs
      rintro t (_ | ⟨_, ht⟩)
      · exact hs
      · exact h t (List.mem_cons_of_mem _ ht)
    · rintro t (_ | ⟨_, ht⟩)
      · exact h s (by simp)
      · exact ih (fun t ht => h t (List.mem_cons_of_mem _ ht))
          (fun t ht => hold t (List.mem_cons_of_mem _ ht)) t ht

theorem OfText.upsert {doc : Document} (h : doc.OfText) {name : Text}
    (hname : '\n' ∉ name ∧ '\x00' ∉ name) {f : List Entry → List Entry}
    (hf : ∀ entries, (∀ e ∈ entries, e.OfLine) → ∀ e ∈ f entries, e.OfLine) :
    Document.OfText (doc.upsert name f) where
  nodup := nodup_upsert h.nodup name f
  names := forall_upsert h.names hname fun _ _ _ => hname
  entries := forall_upsert h.entries (hf [] (by simp)) fun s hs _ => hf _ (h.entries s hs)

end Document

theorem Reader.ofText_line {r : Reader} (h : r.document.OfText)
    (hcurrent : '\n' ∉ r.target ∧ '\x00' ∉ r.target) {text : Text} (hnewline : '\n' ∉ text) :
    (r.line text).document.OfText ∧
      '\n' ∉ (r.line text).target ∧ '\x00' ∉ (r.line text).target := by
  unfold line
  cases hline : readLine text with
  | skipped => exact ⟨h, hcurrent⟩
  | header name =>
    have hname := name_of_readLine hline hnewline
    exact ⟨h.upsert hname fun _ he => he, hname⟩
  | entry e =>
    refine ⟨h.upsert hcurrent ?_, hcurrent⟩
    intro entries hentries e' he'
    rcases List.mem_append.mp he' with he' | he'
    · exact hentries e' he'
    · rw [List.mem_singleton.mp he']
      exact Entry.ofLine_of_readLine hline hnewline

theorem notMem_of_mem_splitOn {c : Char} {t line : Text} (h : line ∈ t.splitOn c) : c ∉ line := by
  induction t generalizing line with
  | nil =>
    rw [List.splitOn_nil, List.mem_singleton] at h
    simp [h]
  | cons a rest ih =>
    rw [List.splitOn_cons_eq_if_modifyHead] at h
    split at h
    · rcases List.mem_cons.mp h with rfl | h
      · simp
      · exact ih h
    · rename_i hne
      cases hsplit : rest.splitOn c with
      | nil => simp [hsplit] at h
      | cons first others =>
        rw [hsplit, List.modifyHead_cons] at h
        rcases List.mem_cons.mp h with rfl | h
        · have hfirst := ih (show first ∈ rest.splitOn c by simp [hsplit])
          simp only [List.mem_cons, not_or]
          exact ⟨fun heq => hne (by simp [heq]), hfirst⟩
        · exact ih (by simp [hsplit, h])

theorem read_ofText (t : Text) : (read t).OfText := by
  have hlines : ∀ (lines : List Text), (∀ line ∈ lines, '\n' ∉ line) → ∀ r : Reader,
      r.document.OfText → ('\n' ∉ r.target ∧ '\x00' ∉ r.target) →
        (lines.foldl Reader.line r).document.OfText := by
    intro lines
    induction lines with
    | nil => exact fun _ _ h _ => h
    | cons line rest ih =>
      intro hl r h hcurrent
      have hstep := Reader.ofText_line h hcurrent (hl line (by simp))
      exact ih (fun l hmem => hl l (List.mem_cons_of_mem _ hmem)) _ hstep.1 hstep.2
  refine hlines _ (fun _ => notMem_of_mem_splitOn) {} ⟨List.nodup_nil, ?_, ?_⟩ ?_
  · exact fun s hs => nomatch hs
  · exact fun s hs => nomatch hs
  · exact ⟨by simp [Reader.target], by simp [Reader.target]⟩

/-! ## Limits -/

structure Limits where
  sections : Nat
  entries : Nat

inductive LimitError where
  | sections
  | entries
  deriving DecidableEq

namespace Document

/-- The document is within the limits. -/
structure Within (limits : Limits) (doc : Document) : Prop where
  sections : doc.length ≤ limits.sections
  entries : ∀ name ∈ doc.names, (doc.entries name).length ≤ limits.entries

theorem Within.entries_le {limits : Limits} {doc : Document} (h : doc.Within limits)
    (name : Text) : (doc.entries name).length ≤ limits.entries := by
  by_cases hmem : name ∈ doc.names
  · exact h.entries name hmem
  · rw [entries_of_notMem hmem]
    exact Nat.zero_le _

theorem length_upsert (name : Text) (f : List Entry → List Entry) (doc : Document) :
    (doc.upsert name f).length = if name ∈ doc.names then doc.length else doc.length + 1 := by
  have h := congrArg List.length (names_upsert name f doc)
  rw [apply_ite List.length, List.length_append] at h
  simpa [names] using h

/-- A section that only grows keeps what is beyond the limits beyond them. -/
theorem Within.of_upsert {limits : Limits} {doc : Document} {name : Text}
    {f : List Entry → List Entry} (hf : ∀ entries, entries.length ≤ (f entries).length)
    (h : (doc.upsert name f).Within limits) : doc.Within limits where
  sections := by
    have hlen := h.sections
    rw [length_upsert] at hlen
    split at hlen <;> omega
  entries := by
    intro name' _
    have hle := h.entries_le name'
    by_cases heq : name' = name
    · subst heq
      rw [entries_upsert_self] at hle
      exact (hf _).trans hle
    · rwa [entries_upsert_of_ne heq] at hle

end Document

namespace Reader
variable (limits : Limits) (r : Reader)

/-- A line under the limits: a section too many or an entry too many is refused. -/
def lineWithin (text : Text) : Except LimitError Reader :=
  match readLine text with
  | .skipped => .ok r
  | .header name =>
    if name ∉ r.document.names ∧ limits.sections ≤ r.document.length then .error .sections
    else .ok (r.enter name)
  | .entry e =>
    if r.current = none ∧ r.target ∉ r.document.names ∧ limits.sections ≤ r.document.length then
      .error .sections
    else if limits.entries ≤ (r.document.entries r.target).length then .error .entries
    else .ok (r.add e)

variable {limits r}

theorem within_enter (h : r.document.Within limits) (name : Text) :
    (r.enter name).document.Within limits ↔
      ¬(name ∉ r.document.names ∧ limits.sections ≤ r.document.length) := by
  have hlen := Document.length_upsert name id r.document
  have hsections := h.sections
  constructor
  · rintro hw ⟨hmem, hle⟩
    have hle' : (r.document.upsert name id).length ≤ limits.sections := hw.sections
    rw [hlen, if_neg hmem] at hle'
    omega
  · intro hfree
    refine ⟨?_, ?_⟩
    · simp only [enter, hlen]
      split
      · exact hsections
      · rename_i hmem
        have hroom : ¬limits.sections ≤ r.document.length := fun hle => hfree ⟨hmem, hle⟩
        omega
    · intro name' _
      by_cases heq : name' = name
      · subst heq
        simpa [enter] using h.entries_le name'
      · simpa [enter, Document.entries_upsert_of_ne heq] using h.entries_le name'

theorem within_add (h : r.document.Within limits) (e : Entry) :
    (r.add e).document.Within limits ↔
      ¬(r.current = none ∧ r.target ∉ r.document.names ∧ limits.sections ≤ r.document.length) ∧
        ¬limits.entries ≤ (r.document.entries r.target).length := by
  have hlen := Document.length_upsert r.target (· ++ [e]) r.document
  have hsections := h.sections
  constructor
  · intro hw
    constructor
    · rintro ⟨-, hmem, hle⟩
      have hle' : (r.document.upsert r.target (· ++ [e])).length ≤ limits.sections := hw.sections
      rw [hlen, if_neg hmem] at hle'
      omega
    · have hle := hw.entries_le r.target
      simp only [add, Document.entries_upsert_self, List.length_append, List.length_singleton]
        at hle
      omega
  · rintro ⟨hfree, hroom⟩
    refine ⟨?_, ?_⟩
    · simp only [add, hlen]
      split
      · exact hsections
      · rename_i hmem
        -- An open section exists, so only an entry before any header creates one.
        have hnone : r.current = none := by
          cases hcurrent : r.current with
          | none => rfl
          | some name =>
            refine absurd ?_ hmem
            rw [target, hcurrent, Option.getD_some]
            exact r.current_mem name (by simp [hcurrent])
        have hroom' : ¬limits.sections ≤ r.document.length :=
          fun hle => hfree ⟨hnone, hmem, hle⟩
        omega
    · intro name' _
      by_cases heq : name' = r.target
      · subst heq
        simp only [add, Document.entries_upsert_self, List.length_append, List.length_singleton]
        omega
      · simpa [add, Document.entries_upsert_of_ne heq] using h.entries_le name'

theorem lineWithin_eq_ok {r' : Reader} (h : r.document.Within limits) (text : Text) :
    r.lineWithin limits text = .ok r' ↔
      r.line text = r' ∧ r'.document.Within limits := by
  cases hline : readLine text with
  | skipped =>
    simp only [lineWithin, line, hline, Except.ok.injEq]
    constructor
    · rintro rfl
      exact ⟨rfl, h⟩
    · exact fun hr => hr.1
  | header name =>
    have hiff := within_enter h name
    simp only [lineWithin, line, hline]
    by_cases hfull : name ∉ r.document.names ∧ limits.sections ≤ r.document.length
    · simp only [if_pos hfull, reduceCtorEq, false_iff]
      rintro ⟨rfl, hw⟩
      exact hiff.mp hw hfull
    · simp only [if_neg hfull, Except.ok.injEq]
      constructor
      · rintro rfl
        exact ⟨rfl, hiff.mpr hfull⟩
      · exact fun hr => hr.1
  | entry e =>
    have hiff := within_add h e
    simp only [lineWithin, line, hline]
    by_cases hfull : r.current = none ∧ r.target ∉ r.document.names ∧
        limits.sections ≤ r.document.length
    · simp only [if_pos hfull, reduceCtorEq, false_iff]
      rintro ⟨rfl, hw⟩
      exact (hiff.mp hw).1 hfull
    by_cases hroom : limits.entries ≤ (r.document.entries r.target).length
    · simp only [if_neg hfull, if_pos hroom, reduceCtorEq, false_iff]
      rintro ⟨rfl, hw⟩
      exact (hiff.mp hw).2 hroom
    · simp only [if_neg hfull, if_neg hroom, Except.ok.injEq]
      constructor
      · rintro rfl
        exact ⟨rfl, hiff.mpr ⟨hfull, hroom⟩⟩
      · exact fun hr => hr.1

theorem within_of_line {text : Text} (h : (r.line text).document.Within limits) :
    r.document.Within limits := by
  unfold line at h
  cases hline : readLine text with
  | skipped => simpa [hline] using h
  | header name =>
    rw [hline] at h
    exact Document.Within.of_upsert (fun _ => le_rfl) h
  | entry e =>
    rw [hline] at h
    exact Document.Within.of_upsert (fun entries => by simp) h

theorem within_of_lines {lines : List Text}
    (h : (lines.foldl line r).document.Within limits) : r.document.Within limits := by
  induction lines generalizing r with
  | nil => exact h
  | cons text rest ih => exact within_of_line (ih h)

theorem linesWithin_eq_ok {r' : Reader} (h : r.document.Within limits) (lines : List Text) :
    lines.foldlM (lineWithin limits) r = .ok r' ↔
      lines.foldl line r = r' ∧ r'.document.Within limits := by
  induction lines generalizing r with
  | nil =>
    simp only [List.foldlM_nil, List.foldl_nil, pure, Except.pure, Except.ok.injEq]
    constructor
    · rintro rfl
      exact ⟨rfl, h⟩
    · exact fun hr => hr.1
  | cons text rest ih =>
    rw [List.foldlM_cons, List.foldl_cons]
    cases hstep : r.lineWithin limits text with
    | error e =>
      simp only [bind, Except.bind, reduceCtorEq, false_iff]
      rintro ⟨rfl, hw⟩
      have hok := (lineWithin_eq_ok h text).mpr ⟨rfl, within_of_lines hw⟩
      rw [hstep] at hok
      cases hok
    | ok next =>
      obtain ⟨rfl, hw⟩ := (lineWithin_eq_ok h text).mp hstep
      exact ih hw

end Reader

/-- The document of a text, unless it is beyond the limits. -/
def readWithin (limits : Limits) (t : Text) : Except LimitError Document :=
  ((t.splitOn '\n').foldlM (Reader.lineWithin limits) {}).map (·.document)

/-- **The limits only refuse**: a text is accepted exactly when its document is within
them, and then as that document. -/
theorem readWithin_eq_ok {limits : Limits} {t : Text} {doc : Document} :
    readWithin limits t = .ok doc ↔ read t = doc ∧ doc.Within limits := by
  have hempty : (({} : Reader).document).Within limits :=
    ⟨Nat.zero_le _, fun name h => by simp [Document.names] at h⟩
  have h := fun r' => @Reader.linesWithin_eq_ok limits {} r' hempty (t.splitOn '\n')
  unfold readWithin read Reader.text
  cases hfold : (t.splitOn '\n').foldlM (Reader.lineWithin limits) {} with
  | error e =>
    simp only [Except.map, reduceCtorEq, false_iff]
    rintro ⟨rfl, hw⟩
    have hok := (h _).mpr ⟨rfl, hw⟩
    rw [hfold] at hok
    cases hok
  | ok r' =>
    obtain ⟨hr', hw⟩ := (h r').mp hfold
    simp only [Except.map, Except.ok.injEq, hr']
    constructor
    · rintro rfl
      exact ⟨rfl, hw⟩
    · exact fun hd => hd.1

end GreenCurve.Ini
