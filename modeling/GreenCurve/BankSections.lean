import GreenCurve.MachineBank

/-! # The sections of the bank

A reader of the bank only sees the keys and values of sections.  A write that replaces the
sections of one slot leaves all others as they read.  So does the write that builds the whole
file anew, if every section of the file is one that a copy keeps whole (`Transcribable`), and
what it builds is such a file again. -/

namespace GreenCurve.MachineBank

open Ini (Text Entry Document sameName findSection SameSection Copyable)
open Profile (slotControls slotSections legacySections validSlot)
open Gpu (GpuLocationRole configuredGpuLocationRoleName)
open WinProfile (settingsSections savedDocument saveProfileToConfig copiedSections
  profileSections legacyCopies metaSection profilesSection startupSection writtenNames isWritten)

/-! ## Names -/

theorem sameName_left_congr {a b : Text} (h : sameName a b = true) (c : Text) :
    sameName a c = sameName b c := by
  rw [Ini.sameName_comm a, Ini.sameName_comm b, Ini.sameName_congr h]

/-- What is listed under a name is listed under every name that is the same. -/
theorem any_sameName_congr {a b : Text} (h : sameName a b = true) (names : List Text) :
    names.any (sameName a) = names.any (sameName b) := by
  rw [show sameName a = sameName b from funext fun c => sameName_left_congr h c]

/-- The sections every save writes. -/
def commonNames : List Text := ["meta".toList, "profiles".toList, "startup".toList]

section Names
variable {slot slot' : Nat} {name name' : Text}

theorem mem_slots (h : validSlot slot = true) : slot ∈ [1, 2, 3, 4, 5] := by
  have hbounds := of_decide_eq_true h
  simp only [List.mem_cons, List.not_mem_nil, or_false]
  have hhigh : slot ≤ 5 := hbounds.2
  omega

theorem slotNames_apart (h : validSlot slot = true) (h' : validSlot slot' = true)
    (hne : slot ≠ slot') (hname : name ∈ slotNames slot) (hname' : name' ∈ slotNames slot') :
    sameName name name' = false := by
  have hall : ∀ s ∈ [1, 2, 3, 4, 5], ∀ t ∈ [1, 2, 3, 4, 5], s ≠ t → ∀ a ∈ slotNames s,
      ∀ b ∈ slotNames t, sameName a b = false := by decide
  exact hall slot (mem_slots h) slot' (mem_slots h') hne name hname name' hname'

theorem slotNames_common (h : validSlot slot = true) (hname : name ∈ slotNames slot)
    (hname' : name' ∈ commonNames) : sameName name name' = false := by
  have hall : ∀ s ∈ [1, 2, 3, 4, 5], ∀ a ∈ slotNames s, ∀ b ∈ commonNames,
      sameName a b = false := by decide
  exact hall slot (mem_slots h) name hname name' hname'

end Names

/-! ## Replaced sections -/

section Replace
variable {doc new : Document} {names : List Text} {name : Text}

theorem findSection_append (doc new : Document) (name : Text) :
    findSection (doc ++ new) name = (findSection doc name).or (findSection new name) :=
  List.find?_append

theorem find_replaced (h : names.any (sameName name) = true) :
    findSection (Ini.replaceSections doc names new) name = findSection new name := by
  have hnone : findSection (doc.filter fun s => !names.any (sameName s.name)) name = none := by
    refine List.find?_eq_none.mpr fun s hs hsame => ?_
    rw [List.mem_filter, any_sameName_congr hsame, h] at hs
    exact absurd hs.2 (by decide)
  unfold Ini.replaceSections
  rw [findSection_append, hnone, Option.none_or]

theorem find_kept (h : names.any (sameName name) = false) (hnew : findSection new name = none) :
    findSection (Ini.replaceSections doc names new) name = findSection doc name := by
  unfold Ini.replaceSections
  rw [findSection_append, hnew, Option.or_none]
  unfold Ini.findSection
  rw [List.find?_filter]
  congr 1
  funext s
  cases hsame : sameName s.name name with
  | false => simp
  | true => simp [any_sameName_congr hsame, h]

/-- Sections of other names are not found. -/
theorem findSection_eq_none (h : ∀ s ∈ doc, sameName s.name name = false) :
    findSection doc name = none :=
  List.find?_eq_none.mpr fun s hs hsame => by rw [h s hs] at hsame; cases hsame

/-- A section that is not replaced reads as before. -/
theorem same_kept (h : names.any (sameName name) = false)
    (hnew : ∀ s ∈ new, sameName s.name name = false) :
    SameSection doc (Ini.replaceSections doc names new) name :=
  .of_find (find_kept h (findSection_eq_none hnew))

/-- Replacing the same sections keeps documents alike that read alike. -/
theorem same_replaced {doc' : Document} (h : SameSection doc doc' name)
    (hnew : ∀ s ∈ new, names.any (sameName s.name) = true) :
    SameSection (Ini.replaceSections doc names new) (Ini.replaceSections doc' names new) name := by
  cases hany : names.any (sameName name) with
  | true => exact .of_find (by rw [find_replaced hany, find_replaced hany])
  | false =>
    have hapart : ∀ s ∈ new, sameName s.name name = false := by
      intro s hs
      cases hsame : sameName s.name name with
      | false => rfl
      | true =>
        have hin := hnew s hs
        rw [any_sameName_congr hsame, hany] at hin
        cases hin
    exact ((same_kept hany hapart).symm.trans h).trans (same_kept hany hapart)

end Replace

/-! ## The copied file -/

/-- Every section of a file is copied whole when the file is written anew. -/
structure Transcribable (doc : Document) : Prop where
  named : ∀ s ∈ doc, s.name ≠ []
  copyable : ∀ s ∈ doc, Copyable s

theorem Transcribable.nil : Transcribable [] := ⟨nofun, nofun⟩

theorem Transcribable.replace {doc new : Document} (h : Transcribable doc)
    (hnew : Transcribable new) (names : List Text) :
    Transcribable (Ini.replaceSections doc names new) where
  named s hs := (List.mem_append.mp hs).elim
    (fun hold => h.named s (List.mem_filter.mp hold).1) (hnew.named s)
  copyable s hs := (List.mem_append.mp hs).elim
    (fun hold => h.copyable s (List.mem_filter.mp hold).1) (hnew.copyable s)

section Saved
variable {doc : Document} {slot : Nat} {name : Text} (desired : DesiredSettings)
  (live : WinProfile.LiveReadback)

theorem isWritten_eq (slot : Nat) (name : Text) : isWritten slot name =
    ((settingsNames slot).any (sameName name) || commonNames.any (sameName name)) := by
  unfold isWritten writtenNames settingsNames
  rw [List.any_append, List.any_append, List.any_append, Bool.or_assoc, Bool.or_assoc]
  congr 1
  exact Bool.or_comm _ _

theorem isWritten_congr {a b : Text} (h : sameName a b = true) (slot : Nat) :
    isWritten slot a = isWritten slot b := any_sameName_congr h _

/-- A list of names that passed the check of a save is read whole. -/
theorem listNames_of_saved {new : Document} (hdoc : Transcribable doc)
    (h : saveProfileToConfig doc slot desired live = some new) :
    new = savedDocument doc slot desired live ∧
      Ini.listNames WinProfile.CFG_BUFFER_SIZE (doc.map (·.name)) = doc.map (·.name) := by
  unfold saveProfileToConfig at h
  split at h
  · cases h
  · rename_i hfits
    dsimp only at h
    split at h
    · cases h
    · refine ⟨(Option.some.inj h).symm, Ini.listNames_eq_self (fun n hn => ?_) ?_⟩
      · obtain ⟨s, hs, rfl⟩ := List.mem_map.mp hn
        exact hdoc.named s hs
      · have hsize : WinProfile.CFG_BUFFER_SIZE = 131072 := rfl
        omega

/-- The copies of the sections that are not written. -/
theorem find_copied (hlist : Ini.listNames WinProfile.CFG_BUFFER_SIZE (doc.map (·.name)) =
      doc.map (·.name)) :
    findSection (copiedSections doc slot) name =
      if isWritten slot name then none
      else (findSection doc name).map fun s => Ini.copySection doc s.name := by
  unfold copiedSections Ini.findSection
  rw [hlist, List.find?_map, List.find?_filter, List.find?_map, Option.map_map]
  cases hwritten : isWritten slot name with
  | true =>
    rw [if_pos rfl, Option.map_eq_none_iff, List.find?_eq_none]
    intro s _ hs
    simp only [Function.comp_apply, Bool.decide_and, Bool.and_eq_true, decide_eq_true_eq,
      Bool.not_eq_true'] at hs
    rw [isWritten_congr (show sameName s.name name = true from hs.2), hwritten] at hs
    exact absurd hs.1 (by decide)
  | false =>
    rw [if_neg Bool.false_ne_true]
    congr 1
    congr 1
    funext s
    cases hsame : sameName s.name name with
    | false => simp [Ini.copySection, hsame]
    | true => simp [Ini.copySection, hsame, isWritten_congr hsame, hwritten]

theorem findSection_cons (s : Ini.Section) (rest : Document) (h : sameName s.name name = false) :
    findSection (s :: rest) name = findSection rest name := by
  unfold Ini.findSection
  rw [List.find?_cons, h]

theorem find_saved (hcommon : commonNames.any (sameName name) = false) :
    findSection (savedDocument doc slot desired live) name =
      ((findSection (profileSections slot desired live) name).or
        (findSection (copiedSections doc slot) name)).or
        (findSection (legacyCopies slot desired live) name) := by
  have hapart : ∀ n ∈ commonNames, sameName n name = false := by
    intro n hn
    rw [Ini.sameName_comm]
    simpa using List.any_eq_false.mp hcommon n hn
  unfold savedDocument
  rw [findSection_append, findSection_append, findSection_append,
    findSection_cons _ _ (hapart _ (List.mem_cons_self ..)),
    findSection_cons _ _ (hapart _ (List.mem_cons_of_mem _ (List.mem_cons_self ..))),
    findSection_cons (startupSection doc) [] (hapart _ (List.mem_of_mem_getLast? rfl))]
  exact Option.or_none

/-- The sections of the settings, under the names of the slot. -/
theorem settings_named (slot : Nat) :
    ∀ s ∈ profileSections slot desired live ++ legacyCopies slot desired live,
      s.name ∈ settingsNames slot := by
  intro s hs
  have hnames : ∀ names : Profile.SlotSections, ∀ s ∈ settingsSections desired live names,
      s.name ∈ names.names := by
    intro names s hs
    simp only [settingsSections, List.mem_cons, List.not_mem_nil, or_false] at hs
    rcases hs with rfl | rfl | rfl
    · exact List.mem_cons_self ..
    · exact List.mem_cons_of_mem _ (List.mem_cons_self ..)
    · exact List.mem_cons_of_mem _ (List.mem_cons_of_mem _ (List.mem_cons_self ..))
  unfold settingsNames
  rcases List.mem_append.mp hs with hs | hs
  · exact List.mem_append_left _ (hnames _ s hs)
  · refine List.mem_append_right _ ?_
    unfold legacyCopies at hs
    split at hs
    · rename_i hslot
      rw [if_pos hslot]
      exact hnames _ s hs
    · cases hs

/-- A section that a save does not write reads as before. -/
theorem same_saved (hdoc : Transcribable doc)
    (hlist : Ini.listNames WinProfile.CFG_BUFFER_SIZE (doc.map (·.name)) = doc.map (·.name))
    (h : isWritten slot name = false) :
    SameSection doc (savedDocument doc slot desired live) name := by
  have hparts := h
  rw [isWritten_eq, Bool.or_eq_false_iff] at hparts
  have hsettings : ∀ s ∈ profileSections slot desired live ++ legacyCopies slot desired live,
      sameName s.name name = false := by
    intro s hs
    rw [Ini.sameName_comm]
    simpa using List.any_eq_false.mp hparts.1 _ (settings_named desired live slot s hs)
  have hfind : findSection (savedDocument doc slot desired live) name =
      (findSection doc name).map fun s => Ini.copySection doc s.name := by
    rw [find_saved desired live hparts.2, find_copied hlist, if_neg (by simp [h]),
      findSection_eq_none fun s hs => hsettings s (List.mem_append_left _ hs),
      findSection_eq_none fun s hs => hsettings s (List.mem_append_right _ hs)]
    rw [Option.none_or, Option.or_none]
  cases hold : findSection doc name with
  | none =>
    rw [hold] at hfind
    exact .of_find (hfind.trans hold.symm)
  | some s =>
    rw [hold] at hfind
    have hsame := Ini.findSection_name hold
    have hown : findSection doc s.name = some s := by
      rw [← hold]
      unfold Ini.findSection
      rw [show (fun t : Ini.Section => sameName t.name s.name) = fun t => sameName t.name name from
        funext fun t => Ini.sameName_congr hsame t.name]
    obtain ⟨hkeys, hvalues⟩ := (hdoc.copyable s (Ini.findSection_mem hold)).entries_copy hown
    constructor
    · rw [Ini.keysOf_eq hfind, Ini.keysOf_eq hold]
      exact hkeys
    · intro key
      rw [Ini.valueOf_eq hfind, Ini.valueOf_eq hold]
      exact hvalues key

/-- The settings of the slot are the saved ones, whatever the file held. -/
theorem find_saved_settings (hslot : validSlot slot = true) (hname : name ∈ settingsNames slot)
    (hlist : Ini.listNames WinProfile.CFG_BUFFER_SIZE (doc.map (·.name)) = doc.map (·.name)) :
    findSection (savedDocument doc slot desired live) name =
      findSection (profileSections slot desired live ++ legacyCopies slot desired live) name := by
  have hcommon : commonNames.any (sameName name) = false := by
    refine List.any_eq_false.mpr fun n hn => ?_
    rw [slotNames_common hslot (List.mem_append_left _ hname) hn]
    exact Bool.false_ne_true
  have hwritten : isWritten slot name = true := by
    rw [isWritten_eq, Bool.or_eq_true]
    exact .inl (List.any_eq_true.mpr ⟨name, hname, Ini.sameName_refl name⟩)
  rw [find_saved desired live hcommon, find_copied hlist, if_pos hwritten, Option.or_none,
    findSection_append]

end Saved

/-! ### What is written can be copied again -/

section Transcribed
variable {doc new : Document} {slot : Nat}

theorem Transcribable.append (h : Transcribable doc) (hnew : Transcribable new) :
    Transcribable (doc ++ new) where
  named s hs := (List.mem_append.mp hs).elim (h.named s) (hnew.named s)
  copyable s hs := (List.mem_append.mp hs).elim (h.copyable s) (hnew.copyable s)

theorem Transcribable.single {s : Ini.Section} (hnamed : s.name ≠ []) (hcopyable : Copyable s) :
    Transcribable [s] where
  named s' hs' := by rw [List.mem_singleton.mp hs']; exact hnamed
  copyable s' hs' := by rw [List.mem_singleton.mp hs']; exact hcopyable

theorem slotNames_named (h : validSlot slot = true) : ∀ name ∈ slotNames slot, name ≠ [] := by
  have hall : ∀ s ∈ [1, 2, 3, 4, 5], ∀ a ∈ slotNames s, a ≠ [] := by decide
  exact hall slot (mem_slots h)

theorem copyable_meta : Copyable metaSection := by
  refine WinProfile.copyable_of_fields (fun e he => ?_) (by decide)
  rw [List.mem_singleton.mp he]
  exact WinProfile.field_word (by decide)

theorem copyable_profiles (doc : Document) (selected : Nat) :
    Copyable (profilesSection doc selected) := by
  have hroom : ∀ selected applied launch logon shared : Text,
      WinProfile.keyRoom [⟨"selected_slot".toList, selected⟩, ⟨"applied_slot".toList, applied⟩,
        ⟨"app_launch_slot".toList, launch⟩, ⟨"logon_slot".toList, logon⟩,
        ⟨"logon_shared_slot".toList, shared⟩] = 72 := fun _ _ _ _ _ => rfl
  refine WinProfile.copyable_of_fields ?_ ?_
  · unfold profilesSection
    simp only [List.forall_mem_cons]
    refine ⟨?_, ?_, ?_, ?_, ?_, nofun⟩
    all_goals exact WinProfile.field_printD (by decide) (by decide) _
  · unfold profilesSection
    rw [hroom]
    omega

theorem copyable_startup (doc : Document) : Copyable (startupSection doc) := by
  have hroom : ∀ launch start : Text,
      WinProfile.keyRoom [⟨"apply_on_launch".toList, launch⟩,
        ⟨"start_program_on_logon".toList, start⟩] = 39 := fun _ _ => rfl
  refine WinProfile.copyable_of_fields ?_ ?_
  · unfold startupSection
    simp only [List.forall_mem_cons]
    refine ⟨?_, ?_, nofun⟩
    all_goals exact WinProfile.field_flag (by decide) (by decide) _
  · unfold startupSection
    rw [hroom]
    omega

theorem Transcribable.settings (hslot : validSlot slot = true) (desired : DesiredSettings)
    (live : WinProfile.LiveReadback) :
    Transcribable (profileSections slot desired live ++ legacyCopies slot desired live) where
  named s hs := slotNames_named hslot _
    (List.mem_append_left _ (settings_named desired live slot s hs))
  copyable s hs := by
    rcases List.mem_append.mp hs with hs | hs
    · exact WinProfile.copyable_settings desired live _ s hs
    · unfold legacyCopies at hs
      split at hs
      · exact WinProfile.copyable_settings desired live _ s hs
      · cases hs

theorem Transcribable.copied (h : Transcribable doc)
    (hlist : Ini.listNames WinProfile.CFG_BUFFER_SIZE (doc.map (·.name)) = doc.map (·.name)) :
    Transcribable (copiedSections doc slot) := by
  have hfound : ∀ s ∈ copiedSections doc slot, ∃ s' ∈ doc, s = Ini.copySection doc s'.name := by
    intro s hs
    obtain ⟨name, hname, rfl⟩ := List.mem_map.mp hs
    rw [hlist] at hname
    obtain ⟨s', hs', rfl⟩ := List.mem_map.mp (List.mem_filter.mp hname).1
    exact ⟨s', hs', rfl⟩
  constructor
  · intro s hs
    obtain ⟨s', hs', rfl⟩ := hfound s hs
    exact h.named s' hs'
  · intro s hs
    obtain ⟨s', hs', rfl⟩ := hfound s hs
    cases hfind : findSection doc s'.name with
    | none =>
      have hmissing := List.find?_eq_none.mp hfind s' hs'
      rw [Ini.sameName_refl] at hmissing
      exact absurd rfl hmissing
    | some first => exact (h.copyable first (Ini.findSection_mem hfind)).copy hfind

/-- A new file can be copied again. -/
theorem Transcribable.saved (h : Transcribable doc) (hslot : validSlot slot = true)
    (desired : DesiredSettings) (live : WinProfile.LiveReadback)
    (hlist : Ini.listNames WinProfile.CFG_BUFFER_SIZE (doc.map (·.name)) = doc.map (·.name)) :
    Transcribable (savedDocument doc slot desired live) := by
  have hsettings := Transcribable.settings hslot desired live
  have hhead : Transcribable (metaSection :: profilesSection doc slot ::
      profileSections slot desired live) := by
    refine (single (by decide) copyable_meta).append
      ((single (show "profiles".toList ≠ [] by decide) (copyable_profiles doc slot)).append
        ⟨fun s hs => ?_, fun s hs => ?_⟩)
    · exact hsettings.named s (List.mem_append_left _ hs)
    · exact hsettings.copyable s (List.mem_append_left _ hs)
  have hlegacy : Transcribable (legacyCopies slot desired live) :=
    ⟨fun s hs => hsettings.named s (List.mem_append_right _ hs),
      fun s hs => hsettings.copyable s (List.mem_append_right _ hs)⟩
  exact ((hhead.append (h.copied hlist)).append hlegacy).append
    (single (show "startup".toList ≠ [] by decide) (copyable_startup doc))

end Transcribed

/-! ## The GPU section -/

theorem mem_toDigits_hex {c : Char} {n : Nat} (h : c ∈ Nat.toDigits 16 n) :
    ∃ d ∈ List.range 16, c = d.digitChar := by
  induction n using Nat.strongRecOn with
  | _ n ih =>
    by_cases hn : n < 16
    · rw [Nat.toDigits_of_lt_base hn] at h
      exact ⟨n, List.mem_range.mpr hn, List.mem_singleton.mp h⟩
    · rw [Nat.toDigits_of_base_le (by decide) (Nat.le_of_not_lt hn)] at h
      rcases List.mem_append.mp h with h | h
      · exact ih (n / 16) (by omega) h
      · exact ⟨n % 16, List.mem_range.mpr (Nat.mod_lt n (by decide)), List.mem_singleton.mp h⟩

theorem field_printHex {key : Text} (hnamed : key ≠ []) (hkey : key.all Ini.isWord = true)
    (n : UInt32) : WinProfile.Field ⟨key, printHex n⟩ := by
  have hlength : (Hex.print 8 n.toNat).length = 8 :=
    Hex.length_print (by decide) (by exact n.toNat_lt)
  have hdigit : ∀ d ∈ List.range 16, Ini.isWord d.digitChar.toUpper = true := by decide
  refine ⟨hnamed, hkey, List.all_eq_true.mpr fun c hc => ?_, ?_⟩
  · obtain ⟨lower, hlower, rfl⟩ := List.mem_map.mp hc
    rcases List.mem_append.mp hlower with hpad | hnumber
    · rw [List.eq_of_mem_replicate hpad]
      decide
    · obtain ⟨d, hd, rfl⟩ := mem_toDigits_hex hnumber
      exact hdigit d hd
  · show ((Hex.print 8 n.toNat).map Char.toUpper).length ≤ 32
    rw [List.length_map, hlength]
    decide

theorem field_role (role : GpuLocationRole) : WinProfile.Field
    ⟨"selected_pci_location_role".toList, (configuredGpuLocationRoleName role).toList⟩ := by
  cases role with
  | unrecorded => exact WinProfile.field_word (by decide)
  | advisory => exact WinProfile.field_word (by decide)
  | required => exact WinProfile.field_word (by decide)

theorem field_when (c : Bool) {e : Entry} (h : WinProfile.Field e) :
    ∀ e' ∈ (if c then [e] else []), WinProfile.Field e' := by
  intro e' he
  cases c with
  | false => cases he
  | true => rw [List.mem_singleton.mp he]; exact h

set_option maxRecDepth 2048 in
theorem copyable_gpu (name : Text) (selection : ConfiguredGpuSelection) :
    Copyable ⟨name, gpuEntries selection⟩ := by
  have hroom : ∀ a b c d e f g h i j k : Text,
      WinProfile.keyRoom [⟨"selected_index".toList, a⟩, ⟨"selected_identity_version".toList, b⟩,
        ⟨"selected_device_id".toList, c⟩, ⟨"selected_subsystem_id".toList, d⟩,
        ⟨"selected_revision_id".toList, e⟩, ⟨"selected_ext_device_id".toList, f⟩,
        ⟨"selected_bdf_valid".toList, g⟩, ⟨"selected_pci_domain".toList, h⟩,
        ⟨"selected_pci_bus".toList, i⟩, ⟨"selected_pci_device".toList, j⟩,
        ⟨"selected_pci_function".toList, k⟩] = 224 := by
    simp [WinProfile.keyRoom]
  have hrole : ∀ (c : Bool) (value : Text), WinProfile.keyRoom
      (if c then [⟨"selected_pci_location_role".toList, value⟩] else []) ≤ 27 := by
    intro c value
    cases c with
    | false => exact Nat.zero_le _
    | true => exact Nat.le_refl _
  refine WinProfile.copyable_of_fields ?_ ?_
  · unfold gpuEntries
    simp only [List.forall_mem_append, List.forall_mem_cons]
    refine ⟨⟨?_, ?_, ?_, ?_, ?_, ?_, ?_, ?_, ?_, ?_, ?_, List.forall_mem_nil _⟩, ?_⟩
    · exact WinProfile.field_printU (by decide) (by decide) _
    · exact WinProfile.field_flag (by decide) (by decide) _
    · exact field_printHex (by decide) (by decide) _
    · exact field_printHex (by decide) (by decide) _
    · exact field_printHex (by decide) (by decide) _
    · exact field_printHex (by decide) (by decide) _
    · exact WinProfile.field_flag (by decide) (by decide) _
    · exact WinProfile.field_printU (by decide) (by decide) _
    · exact WinProfile.field_printU (by decide) (by decide) _
    · exact WinProfile.field_printU (by decide) (by decide) _
    · exact WinProfile.field_printU (by decide) (by decide) _
    · exact field_when _ (field_role _)
  · unfold gpuEntries
    dsimp only
    rw [WinProfile.keyRoom_append, hroom]
    exact (Nat.add_le_add_right (Nat.add_le_add_left (hrole _ _) 224) 1).trans (by decide)

end GreenCurve.MachineBank
