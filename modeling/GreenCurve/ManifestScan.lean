import GreenCurve.ManifestFields
import Mathlib.Data.List.Forall2
import Mathlib.Data.List.Nodup

/-! # The two scans of a manifest

Both readers go through the same lines and take the same key and value from each.  What they
do with a line differs: the updater parses the value at once into its field, the release tool
keeps the text and looks at it later.  `Accepted` is what the updater accepts of one entry, and
`fieldsOf` are the fields it holds after a list of entries, so that each reader becomes a list
of entries with a condition on each. -/

namespace GreenCurve

open Ini (Text)

theorem bind_eq_ok {ε α β : Type} {x : Except ε α} {f : α → Except ε β} {b : β} :
    (x >>= f) = .ok b ↔ ∃ a, x = .ok a ∧ f a = .ok b := by
  cases x with
  | error e =>
    constructor
    · exact fun h => nomatch h
    · rintro ⟨_, h, -⟩
      cases h
  | ok a =>
    constructor
    · exact fun h => ⟨a, rfl, h⟩
    · rintro ⟨_, h, hf⟩
      cases h
      exact hf

/-! ## Lines -/

/-- The line without its CR, where it is neither blank nor a comment. -/
def fieldLine (raw : Text) : Option Text :=
  if stripCr raw = [] ∨ (stripCr raw).head? = some '#' then none else some (stripCr raw)

/-- The key and the value of a line that both readers take apart. -/
def readField (line : Text) : Option (Text × Text) :=
  if line.length < 512 ∧ '\x00' ∉ line ∧ '=' ∈ line then
    some (line.takeWhile (· ≠ '='), (line.dropWhile (· ≠ '=')).tail)
  else none

theorem splitOn_eq_manifestLines (text : Text) : text.splitOn '\n' = manifestLines text ∨
    text.splitOn '\n' = manifestLines text ++ [[]] := by
  induction text with
  | nil => exact .inr rfl
  | cons c rest ih =>
    by_cases hc : c = '\n'
    · subst hc
      rw [List.splitOn_cons_eq_if_modifyHead, manifestLines]
      simpa using ih
    · rw [List.splitOn_cons_eq_if_modifyHead, manifestLines, if_neg hc, if_neg (by simpa using hc)]
      rcases ih with hsame | hmore
      · rw [hsame]
        cases hlines : manifestLines rest with
        | nil => exact absurd (hsame.trans hlines) (List.splitOn_ne_nil _ _)
        | cons line lines => exact .inl rfl
      · rw [hmore]
        cases manifestLines rest with
        | nil => exact .inl rfl
        | cons line lines => exact .inr rfl

/-- **Both readers see the same lines.** -/
theorem filterMap_fieldLine_splitOn (text : Text) :
    (text.splitOn '\n').filterMap fieldLine = (manifestLines text).filterMap fieldLine := by
  rcases splitOn_eq_manifestLines text with hsame | hmore
  · rw [hsame]
  · rw [hmore, List.filterMap_append]
    exact List.append_nil _

theorem fieldLine_eq_some {raw line : Text} : fieldLine raw = some line ↔
    line = stripCr raw ∧ ¬(stripCr raw = [] ∨ (stripCr raw).head? = some '#') := by
  unfold fieldLine
  split_ifs with h
  · simp [h]
  · simp [h, eq_comm]

theorem readField_eq_some {line : Text} {e : Text × Text} : readField line = some e ↔
    line.length < 512 ∧ '\x00' ∉ line ∧ '=' ∈ line ∧
      e = (line.takeWhile (· ≠ '='), (line.dropWhile (· ≠ '=')).tail) := by
  unfold readField
  split_ifs with h
  · rw [Option.some.injEq]
    exact ⟨fun heq => ⟨h.1, h.2.1, h.2.2, heq.symm⟩, fun heq => heq.2.2.2.symm⟩
  · constructor
    · exact fun heq => nomatch heq
    · exact fun heq => absurd ⟨heq.1, heq.2.1, heq.2.2.1⟩ h

theorem eq_of_readField {line : Text} {entry : Text × Text} (h : readField line = some entry) :
    line = entry.1 ++ '=' :: entry.2 := by
  unfold readField at h
  split_ifs at h with hline
  cases h
  have hne : line.dropWhile (· ≠ '=') ≠ [] := by
    intro hnil
    have := List.dropWhile_eq_nil_iff.mp hnil '=' hline.2.2
    simp at this
  have hhead := List.head?_dropWhile_not (· ≠ '=') line
  have hsplit : line.takeWhile (· ≠ '=') ++ line.dropWhile (· ≠ '=') = line :=
    List.takeWhile_append_dropWhile
  cases hdrop : line.dropWhile (· ≠ '=') with
  | nil => exact absurd hdrop hne
  | cons c rest =>
    rw [hdrop] at hhead hsplit
    have hc : c = '=' := by simpa using hhead
    rw [hc] at hsplit
    exact hsplit.symm

/-! ## A scan is a list of entries -/

def keys (entries : Tools.Entries) : List Text := entries.map Prod.fst

theorem lookup_isSome_iff_mem_keys {entries : Tools.Entries} {key : Text} :
    (entries.lookup key).isSome = true ↔ key ∈ keys entries := by
  rw [List.lookup_isSome_iff]
  constructor
  · rintro ⟨p, hp, hkey⟩
    rw [beq_iff_eq] at hkey
    rw [hkey]
    exact List.mem_map_of_mem hp
  · intro hmem
    obtain ⟨p, hp, rfl⟩ := List.mem_map.mp hmem
    exact ⟨p, hp, beq_self_eq_true _⟩

theorem lookup_eq_none_of_notMem {entries : Tools.Entries} {key : Text} (h : key ∉ keys entries) :
    entries.lookup key = none := by
  rw [← Option.not_isSome_iff_eq_none, lookup_isSome_iff_mem_keys]
  exact h

theorem lookup_cons_pair (e : Text × Text) (rest : Tools.Entries) (key : Text) :
    List.lookup key (e :: rest) = if key = e.1 then some e.2 else rest.lookup key := by
  rw [List.lookup_cons]
  by_cases hkey : key = e.1
  · rw [if_pos hkey, hkey, beq_self_eq_true]
  · rw [if_neg hkey, beq_false_of_ne hkey]

theorem mem_of_lookup {entries : Tools.Entries} {key value : Text}
    (h : entries.lookup key = some value) : (key, value) ∈ entries := by
  induction entries with
  | nil => cases h
  | cons e rest ih =>
    rw [lookup_cons_pair] at h
    split_ifs at h with hkey
    · cases h
      rw [hkey]
      exact List.mem_cons_self
    · exact List.mem_cons_of_mem _ (ih h)

theorem lookup_of_mem {entries : Tools.Entries} (hnodup : (keys entries).Nodup) {e : Text × Text}
    (he : e ∈ entries) : entries.lookup e.1 = some e.2 := by
  induction entries with
  | nil => cases he
  | cons d rest ih =>
    obtain ⟨hd, hrest⟩ := List.nodup_cons.mp hnodup
    rw [lookup_cons_pair]
    rcases List.mem_cons.mp he with rfl | he
    · rw [if_pos rfl]
    · have hne : e.1 ≠ d.1 := fun heq => hd (heq ▸ List.mem_map_of_mem he)
      rw [if_neg hne]
      exact ih hrest he

theorem lookup_snoc {entries : Tools.Entries} {key value : Text} (h : key ∉ keys entries)
    (key' : Text) : (entries ++ [(key, value)]).lookup key' =
      if key' = key then some value else entries.lookup key' := by
  rw [List.lookup_append, List.lookup_singleton]
  by_cases hkey : key' = key
  · rw [if_pos hkey, if_pos (beq_iff_eq.mpr hkey), hkey, lookup_eq_none_of_notMem h,
      Option.none_or]
  · rw [if_neg hkey, if_neg (by simpa using hkey), Option.or_none]

theorem nodup_keys_snoc {entries : Tools.Entries} {e : Text × Text} :
    (keys (entries ++ [e])).Nodup ↔ e.1 ∉ keys entries ∧ (keys entries).Nodup := by
  have hconcat : keys (entries ++ [e]) = (keys entries).concat e.1 := by
    rw [keys, List.map_append, List.concat_eq_append]
    rfl
  rw [hconcat, List.nodup_concat]

theorem nodup_keys_of_append {entries more : Tools.Entries} (h : (keys (entries ++ more)).Nodup) :
    (keys entries).Nodup :=
  h.sublist ((List.sublist_append_left _ _).map _)

section Scan
variable {σ ε : Type} {step : σ → Text → Except ε σ} {state : Tools.Entries → σ}
  {ok : Text → Text × Text → Prop} {good : Text × Text → Prop}

/-- A line either is skipped or adds one entry with a new key. -/
def ScansFields (step : σ → Text → Except ε σ) (state : Tools.Entries → σ)
    (ok : Text → Text × Text → Prop) (good : Text × Text → Prop) : Prop :=
  ∀ entries raw out, (keys entries).Nodup → (∀ e ∈ entries, good e) →
    (step (state entries) raw = .ok out ↔
      (fieldLine raw = none ∧ out = state entries) ∨
      ∃ line e, fieldLine raw = some line ∧ readField line = some e ∧ e.1 ∉ keys entries ∧
        ok line e ∧ out = state (entries ++ [e]))

theorem ScansFields.of_lines
    (hskip : ∀ s raw, fieldLine raw = none → step s raw = .ok s)
    (hline : ∀ entries raw line out, (keys entries).Nodup → (∀ e ∈ entries, good e) →
      fieldLine raw = some line → (step (state entries) raw = .ok out ↔
        ∃ e, readField line = some e ∧ e.1 ∉ keys entries ∧ ok line e ∧
          out = state (entries ++ [e]))) :
    ScansFields step state ok good := by
  intro entries raw out hnodup hentries
  cases hraw : fieldLine raw with
  | none =>
    rw [hskip _ _ hraw]
    constructor
    · exact fun h => .inl ⟨rfl, (Except.ok.inj h).symm⟩
    · rintro (⟨-, rfl⟩ | ⟨line, e, h, -⟩)
      · rfl
      · cases h
  | some line =>
    rw [hline entries raw line out hnodup hentries hraw]
    constructor
    · rintro ⟨e, h⟩
      exact .inr ⟨line, e, rfl, h⟩
    · rintro (⟨h, -⟩ | ⟨line', e, h, hrest⟩)
      · cases h
      · cases h
        exact ⟨e, hrest⟩

/-- **A scan that succeeds is the list of its entries**, each of them acceptable and no key
twice. -/
theorem ScansFields.foldlM_eq_ok (h : ScansFields step state ok good)
    (hgood : ∀ line e, ok line e → good e) (raws : List Text) {entries : Tools.Entries} {out : σ}
    (hnodup : (keys entries).Nodup) (hentries : ∀ e ∈ entries, good e) :
    raws.foldlM step (state entries) = .ok out ↔
      ∃ more, List.Forall₂ (fun line e => readField line = some e ∧ ok line e)
          (raws.filterMap fieldLine) more ∧
        (keys (entries ++ more)).Nodup ∧ out = state (entries ++ more) := by
  induction raws generalizing entries with
  | nil =>
    constructor
    · intro hout
      cases hout
      exact ⟨[], .nil, by rwa [List.append_nil], by rw [List.append_nil]⟩
    · rintro ⟨more, hmore, -, rfl⟩
      cases hmore
      rw [List.append_nil]
      rfl
  | cons raw raws ih =>
    rw [List.foldlM_cons, bind_eq_ok]
    constructor
    · rintro ⟨mid, hmid, hout⟩
      rcases (h entries raw mid hnodup hentries).mp hmid with
        ⟨hskip, rfl⟩ | ⟨line, e, hline, hread, hnew, hok, rfl⟩
      · rw [List.filterMap_cons_none hskip]
        exact (ih hnodup hentries).mp hout
      · have hnodup' := nodup_keys_snoc.mpr ⟨hnew, hnodup⟩
        have hentries' : ∀ d ∈ entries ++ [e], good d :=
          List.forall_mem_append.mpr ⟨hentries, by simpa using hgood line e hok⟩
        obtain ⟨more, hmore, hkeys, rfl⟩ := (ih hnodup' hentries').mp hout
        rw [List.filterMap_cons_some hline]
        rw [List.append_assoc] at hkeys
        refine ⟨e :: more, .cons ⟨hread, hok⟩ hmore, hkeys, ?_⟩
        rw [List.append_assoc]
        rfl
    · rintro ⟨more, hmore, hkeys, rfl⟩
      cases hline : fieldLine raw with
      | none =>
        rw [List.filterMap_cons_none hline] at hmore
        exact ⟨state entries, (h _ _ _ hnodup hentries).mpr (.inl ⟨hline, rfl⟩),
          (ih hnodup hentries).mpr ⟨more, hmore, hkeys, rfl⟩⟩
      | some line =>
        rw [List.filterMap_cons_some hline] at hmore
        obtain ⟨e, more, ⟨hread, hok⟩, hrest, rfl⟩ := List.forall₂_cons_left_iff.mp hmore
        have hsplit : entries ++ e :: more = (entries ++ [e]) ++ more := by
          rw [List.append_assoc]
          rfl
        rw [hsplit] at hkeys
        have hnodup' := nodup_keys_of_append hkeys
        have hnew := (nodup_keys_snoc.mp hnodup').1
        have hentries' : ∀ d ∈ entries ++ [e], good d :=
          List.forall_mem_append.mpr ⟨hentries, by simpa using hgood line e hok⟩
        refine ⟨state (entries ++ [e]), ?_, ?_⟩
        · exact (h _ _ _ hnodup hentries).mpr (.inr ⟨line, e, hline, hread, hnew, hok, rfl⟩)
        · exact (ih hnodup' hentries').mpr ⟨more, hrest, hkeys, congrArg state hsplit⟩

end Scan

end GreenCurve
