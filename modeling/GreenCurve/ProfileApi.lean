import GreenCurve.DecimalText
import Mathlib.Algebra.BigOperators.Group.List.Basic

/-! # The profile calls of Windows

A file of sections and entries is read call by call: the names of the sections, the keys of a
section, the value of a key.  Names are compared without case and the first one found counts.
A value is read without the blanks around it and without one pair of quotes, and what does not
fit the buffer of the caller is cut: a list at the size of the buffer, with the last name
truncated, a value likewise, and a value whose UTF-8 form does not fit is lost whole.

Sections are replaced by name in the text of the file, which leaves all others as they are.  A
section that is read call by call and written out again comes back the same for every reader
if nothing of it is cut (`Copyable`). -/

namespace GreenCurve.Ini

/-! ## Names -/

/-- `_stricmp`. -/
def sameName (a b : Text) : Bool := a.map Char.toLower == b.map Char.toLower

theorem sameName_iff {a b : Text} :
    sameName a b = true ↔ a.map Char.toLower = b.map Char.toLower := beq_iff_eq

@[simp] theorem sameName_refl (a : Text) : sameName a a = true := sameName_iff.mpr rfl

theorem sameName_comm (a b : Text) : sameName a b = sameName b a := by
  rw [Bool.eq_iff_iff, sameName_iff, sameName_iff]
  exact eq_comm

/-- A name is found alike under two names that are the same. -/
theorem sameName_congr {a b : Text} (h : sameName a b = true) (c : Text) :
    sameName c a = sameName c b := by
  rw [Bool.eq_iff_iff, sameName_iff, sameName_iff, sameName_iff.mp h]

/-! ## Values -/

/-- One pair of enclosing quotes is dropped. -/
def unquote : Text → Text
  | [] => []
  | q :: rest =>
    if (q = '"' ∨ q = '\'') ∧ rest.getLast? = some q then rest.dropLast else q :: rest

/-- A value as it is read. -/
def stored (value : Text) : Text := unquote (trim value)

/-- The bytes of a text in UTF-8. -/
def utf8Length (t : Text) : Nat := (t.map Char.utf8Size).sum

theorem length_le_utf8Length (t : Text) : t.length ≤ utf8Length t := by
  induction t with
  | nil => exact Nat.le_refl 0
  | cons c rest ih =>
    have hc := c.utf8Size_pos
    simp only [utf8Length, List.map_cons, List.sum_cons, List.length_cons] at ih ⊢
    omega

/-! ## The calls -/

/-- The first section of a name. -/
def findSection (doc : Document) (name : Text) : Option Section :=
  doc.find? fun s => sameName s.name name

/-- The keys of a section, in their order. -/
def keysOf (doc : Document) (name : Text) : List Text :=
  ((findSection doc name).map fun s => s.entries.map (·.key)).getD []

/-- The value of the first entry of a key. -/
def entryValue (entries : List Entry) (key : Text) : Text :=
  ((entries.find? fun e => sameName e.key key).map fun e => stored e.value).getD []

def valueOf (doc : Document) (name key : Text) : Text :=
  ((findSection doc name).map fun s => entryValue s.entries key).getD []

/-- A list of names in room for so many characters, each with its terminator. -/
def cutNames : Nat → List Text → List Text
  | _, [] => []
  | room, n :: rest =>
    if n.length + 1 ≤ room then n :: cutNames (room - (n.length + 1)) rest else [n.take room]

/-- The names that are converted before the buffer is full. -/
def convertNames : Nat → List Text → List Text
  | _, [] => []
  | room, n :: rest =>
    if utf8Length n + 1 ≤ room then n :: convertNames (room - (utf8Length n + 1)) rest else []

/-- A list of names in a buffer; an empty name ends the list. -/
def listNames (size : Nat) (names : List Text) : List Text :=
  let wide :=
    if (names.map fun n => n.length + 1).sum + 1 ≤ size then names else cutNames (size - 2) names
  (convertNames (size - 1) wide).takeWhile (· ≠ [])

/-- `GetPrivateProfileString` without a key. -/
def getKeys (doc : Document) (name : Text) (size : Nat) : List Text :=
  listNames size (keysOf doc name)

/-- A value in a buffer, with the number of bytes the call returns. -/
def fitValue (size : Nat) (value : Text) : Nat × Text :=
  let wide := value.take (size - 1)
  if utf8Length wide + 1 ≤ size then (utf8Length wide, wide) else (size - 1, [])

/-- `GetPrivateProfileString` with an empty default. -/
def getString (doc : Document) (name key : Text) (size : Nat) : Nat × Text :=
  fitValue size (valueOf doc name key)

/-! ## The readers of the program -/

/-- `config_section_has_keys`. -/
def configSectionHasKeys (doc : Document) (name : Text) : Bool :=
  decide (getKeys doc name 256 ≠ [])

/-- `get_config_string`; nothing where it returns false. -/
def getConfigString (doc : Document) (name key : Text) (outSize : Nat) : Option Text :=
  let read := getString doc name key 512
  if read.1 = 0 ∨ 511 ≤ read.1 then none
  else
    let text := trim read.2
    if text = [] ∨ outSize ≤ utf8Length text then none else some text

/-- `get_config_int`. -/
def getConfigInt (doc : Document) (name key : Text) (default : Int) : Int :=
  let read := getString doc name key 32
  if 31 ≤ read.1 then default
  else
    let text := trim read.2
    if text = [] then default else (parseIntStrict text).getD default

/-! ## Writing sections -/

/-- `write_config_sections_atomic`: the sections of some names are replaced. -/
def replaceSections (doc : Document) (names : List Text) (new : Document) : Document :=
  doc.filter (fun s => !names.any (sameName s.name)) ++ new

/-- A section of a file read key by key, for a file that is written anew. -/
def copySection (doc : Document) (name : Text) : Section where
  name := name
  entries := (getKeys doc name 16384).map fun key => ⟨key, (getString doc name key 4096).2⟩

/-! ## What a reader can tell -/

/-- No reader of a section can tell two files apart. -/
structure SameSection (doc doc' : Document) (name : Text) : Prop where
  keys : keysOf doc' name = keysOf doc name
  values : ∀ key, valueOf doc' name key = valueOf doc name key

/-- A section that is not cut and not changed when it is copied. -/
structure Copyable (s : Section) : Prop where
  named : ∀ e ∈ s.entries, e.key ≠ []
  keysFit : (s.entries.map fun e => utf8Length e.key + 1).sum + 1 ≤ 16384
  fits : ∀ e ∈ s.entries, utf8Length (stored e.value) + 1 ≤ 4096
  stable : ∀ e ∈ s.entries, stored (stored e.value) = stored e.value

section Reading
variable {doc doc' : Document} {name key : Text} {s : Section}

theorem SameSection.refl (doc : Document) (name : Text) : SameSection doc doc name :=
  ⟨rfl, fun _ => rfl⟩

theorem SameSection.symm (h : SameSection doc doc' name) : SameSection doc' doc name :=
  ⟨h.keys.symm, fun key => (h.values key).symm⟩

theorem SameSection.trans {doc'' : Document} (h : SameSection doc doc' name)
    (h' : SameSection doc' doc'' name) : SameSection doc doc'' name :=
  ⟨h'.keys.trans h.keys, fun key => (h'.values key).trans (h.values key)⟩

theorem SameSection.of_find (h : findSection doc' name = findSection doc name) :
    SameSection doc doc' name := by
  constructor
  · unfold keysOf
    rw [h]
  · intro key
    unfold valueOf
    rw [h]

theorem SameSection.getKeys (h : SameSection doc doc' name) (size : Nat) :
    getKeys doc' name size = getKeys doc name size := by
  unfold Ini.getKeys
  rw [h.keys]

theorem SameSection.getString (h : SameSection doc doc' name) (key : Text) (size : Nat) :
    getString doc' name key size = getString doc name key size := by
  unfold Ini.getString
  rw [h.values key]

theorem SameSection.hasKeys (h : SameSection doc doc' name) :
    configSectionHasKeys doc' name = configSectionHasKeys doc name := by
  unfold configSectionHasKeys
  rw [h.getKeys 256]

theorem SameSection.getConfigString (h : SameSection doc doc' name) (key : Text) (outSize : Nat) :
    getConfigString doc' name key outSize = getConfigString doc name key outSize := by
  unfold Ini.getConfigString
  rw [h.getString key 512]

end Reading

/-! ## Copies -/

section Copies
variable {doc : Document} {name key : Text} {s : Section}

theorem convertNames_eq_self {room : Nat} {names : List Text}
    (h : (names.map fun n => utf8Length n + 1).sum ≤ room) : convertNames room names = names := by
  induction names generalizing room with
  | nil => rfl
  | cons n rest ih =>
    simp only [List.map_cons, List.sum_cons] at h
    have hn : utf8Length n + 1 ≤ room := by omega
    rw [convertNames, if_pos hn, ih (by omega)]

theorem sum_length_le (names : List Text) :
    (names.map fun n => n.length + 1).sum ≤ (names.map fun n => utf8Length n + 1).sum := by
  induction names with
  | nil => exact Nat.le_refl 0
  | cons n rest ih =>
    have hn := length_le_utf8Length n
    simp only [List.map_cons, List.sum_cons]
    omega

/-- A list that fits is read whole. -/
theorem listNames_eq_self {size : Nat} {names : List Text} (hnamed : ∀ n ∈ names, n ≠ [])
    (hfits : (names.map fun n => utf8Length n + 1).sum + 1 ≤ size) :
    listNames size names = names := by
  have hwide : (names.map fun n => n.length + 1).sum + 1 ≤ size :=
    (Nat.succ_le_succ (sum_length_le names)).trans hfits
  unfold listNames
  rw [if_pos hwide]
  show (convertNames (size - 1) names).takeWhile _ = names
  rw [convertNames_eq_self (Nat.le_sub_one_of_lt hfits), List.takeWhile_eq_self_iff]
  intro n hn
  simpa using hnamed n hn

/-- A value that fits is read whole. -/
theorem fitValue_eq {size : Nat} {value : Text} (hfits : utf8Length value + 1 ≤ size) :
    fitValue size value = (utf8Length value, value) := by
  have hlength := length_le_utf8Length value
  unfold fitValue
  rw [List.take_of_length_le (by omega), if_pos hfits]

theorem findSection_name (h : findSection doc name = some s) : sameName s.name name = true :=
  List.find?_some (p := fun s : Section => sameName s.name name) h

theorem findSection_mem (h : findSection doc name = some s) : s ∈ doc :=
  List.mem_of_find?_eq_some h

theorem keysOf_eq (h : findSection doc name = some s) : keysOf doc name = s.entries.map (·.key) := by
  unfold keysOf
  rw [h]
  rfl

theorem valueOf_eq (h : findSection doc name = some s) (key : Text) :
    valueOf doc name key = entryValue s.entries key := by
  unfold valueOf
  rw [h]
  rfl

/-- A value is empty, or the one of an entry. -/
theorem entryValue_cases (entries : List Entry) (key : Text) :
    entryValue entries key = [] ∨ ∃ e ∈ entries, entryValue entries key = stored e.value := by
  unfold entryValue
  cases hfind : entries.find? fun e => sameName e.key key with
  | none => exact .inl rfl
  | some e => exact .inr ⟨e, List.mem_of_find?_eq_some hfind, rfl⟩

/-- Keys that are the same have the same value. -/
theorem entryValue_congr (entries : List Entry) {key key' : Text}
    (h : sameName key key' = true) : entryValue entries key = entryValue entries key' := by
  unfold entryValue
  rw [show (fun e : Entry => sameName e.key key) = fun e => sameName e.key key' from
    funext fun e => sameName_congr h e.key]

/-- The entries of a copy, each with the value of its key. -/
theorem entryValue_copied (keys : List Text) (value : Text → Text)
    (hcongr : ∀ k k', sameName k k' = true → value k = value k') (key : Text) :
    entryValue (keys.map fun k => ⟨k, value k⟩) key =
      if keys.any (sameName · key) then stored (value key) else [] := by
  induction keys with
  | nil => rfl
  | cons k rest ih =>
    unfold entryValue at ih ⊢
    rw [List.map_cons, List.find?_cons]
    cases hk : sameName k key with
    | true => simp [hk, hcongr k key hk]
    | false => simpa [hk] using ih

theorem entryValue_eq_nil {entries : List Entry}
    (h : (entries.map (·.key)).any (sameName · key) = false) : entryValue entries key = [] := by
  have hnone : entries.find? (fun e => sameName e.key key) = none := by
    rw [List.find?_eq_none]
    intro e he
    simpa using List.any_eq_false.mp h e.key (List.mem_map_of_mem he)
  unfold entryValue
  rw [hnone]
  rfl

theorem Copyable.getKeys (hs : Copyable s) (hfind : findSection doc name = some s) :
    getKeys doc name 16384 = s.entries.map (·.key) := by
  unfold Ini.getKeys
  rw [keysOf_eq hfind]
  refine listNames_eq_self (fun n hn => ?_) ?_
  · obtain ⟨e, he, rfl⟩ := List.mem_map.mp hn
    exact hs.named e he
  · rw [List.map_map]
    exact hs.keysFit

theorem Copyable.getString (hs : Copyable s) (hfind : findSection doc name = some s) (key : Text) :
    (getString doc name key 4096).2 = entryValue s.entries key := by
  unfold Ini.getString
  rw [valueOf_eq hfind key]
  rcases entryValue_cases s.entries key with hnil | ⟨e, he, hvalue⟩
  · rw [hnil]
    rfl
  · rw [fitValue_eq]
    rw [hvalue]
    exact hs.fits e he

/-- **A copy reads like the section.** -/
theorem Copyable.entries_copy (hs : Copyable s) (hfind : findSection doc name = some s) :
    (copySection doc name).entries.map (·.key) = s.entries.map (·.key) ∧
      ∀ key, entryValue (copySection doc name).entries key = entryValue s.entries key := by
  have hentries : (copySection doc name).entries =
      (s.entries.map (·.key)).map fun key => ⟨key, entryValue s.entries key⟩ := by
    unfold copySection
    rw [hs.getKeys hfind]
    refine List.map_congr_left fun key _ => ?_
    rw [hs.getString hfind key]
  rw [hentries]
  constructor
  · rw [List.map_map]
    exact List.map_id _
  · intro key
    rw [entryValue_copied _ _ (fun k k' => entryValue_congr s.entries) key]
    split
    · rcases entryValue_cases s.entries key with hnil | ⟨e, he, hvalue⟩
      · rw [hnil]
        rfl
      · rw [hvalue]
        exact hs.stable e he
    · rename_i hkeys
      exact (entryValue_eq_nil (by simpa using hkeys)).symm

/-- A copy can be copied again. -/
theorem Copyable.copy (hs : Copyable s) (hfind : findSection doc name = some s) :
    Copyable (copySection doc name) := by
  have hvalue : ∀ e ∈ (copySection doc name).entries, e.key ∈ s.entries.map (·.key) ∧
      (e.value = [] ∨ ∃ e' ∈ s.entries, e.value = stored e'.value) := by
    intro e he
    obtain ⟨key, hkey, rfl⟩ := List.mem_map.mp he
    rw [hs.getKeys hfind] at hkey
    refine ⟨hkey, ?_⟩
    dsimp only
    rw [hs.getString hfind]
    exact entryValue_cases s.entries key
  have hstored : ∀ e ∈ (copySection doc name).entries, stored e.value = e.value := by
    intro e he
    rcases (hvalue e he).2 with hnil | ⟨e', he', heq⟩
    · rw [hnil]
      rfl
    · rw [heq]
      exact hs.stable e' he'
  refine ⟨fun e he => ?_, ?_, fun e he => ?_, fun e he => ?_⟩
  · obtain ⟨e', he', heq⟩ := List.mem_map.mp (hvalue e he).1
    exact heq ▸ hs.named e' he'
  · have hkeys := (hs.entries_copy hfind).1
    have hsum : ∀ entries : List Entry, (entries.map fun e => utf8Length e.key + 1).sum =
        ((entries.map (·.key)).map fun key => utf8Length key + 1).sum := by
      intro entries
      rw [List.map_map]
      rfl
    rw [hsum, hkeys, ← hsum]
    exact hs.keysFit
  · rw [hstored e he]
    rcases (hvalue e he).2 with hnil | ⟨e', he', heq⟩
    · rw [hnil]
      decide
    · rw [heq]
      exact hs.fits e' he'
  · rw [hstored e he, hstored e he]

end Copies

end GreenCurve.Ini
