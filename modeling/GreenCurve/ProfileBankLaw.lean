import GreenCurve.ProfileLoad

/-! # What an operation on one slot does to the others

A load sees a section of the file in display MHz, converted in memory if the file has no
marker (`displayEntries`).  Saves and clears of a slot leave what a load sees of every
other slot as it was, and an offset of a file without the marker is converted at the
moment the marker appears and never again.  This rests on the file coming back from its
own text: the parser takes sections without a name and bytes that end a C string, the
printer cannot write them, and the limits of the parser are not the printer's. -/

namespace GreenCurve.Profile

open Ini (Text Entry Document)

/-! ## The file -/

/-- What a load sees of a section. -/
def displayEntries (doc : Document) (name : Text) : List Entry :=
  if markerSet doc = false ∧ isControlSection name = true then
    convertMemOffset (doc.entries name)
  else doc.entries name

/-- The printed document is within the limits of the parser. -/
structure Fits (doc : Document) : Prop where
  bytes : (Ini.print doc).length ≤ LINUX_INI_MAX_BYTES
  within : Document.Within linuxIniLimits (doc.filter Ini.Section.shown)

theorem loadIniDocument_eq_ok {text : Text} {doc : Document} :
    loadIniDocument text = .ok doc ↔
      text.length ≤ LINUX_INI_MAX_BYTES ∧ Ini.read (Ini.decode text) = doc ∧
        doc.Within linuxIniLimits := by
  have hiff := @Ini.readWithin_eq_ok linuxIniLimits (Ini.decode text) doc
  unfold loadIniDocument
  by_cases hlarge : text.length > LINUX_INI_MAX_BYTES
  · rw [if_pos hlarge]
    simp only [reduceCtorEq, false_iff]
    exact fun h => absurd h.1 (by omega)
  · rw [if_neg hlarge]
    have hsize : text.length ≤ LINUX_INI_MAX_BYTES := by omega
    cases hread : Ini.readWithin linuxIniLimits (Ini.decode text) with
    | error e =>
      rw [hread] at hiff
      simp only [reduceCtorEq, false_iff] at hiff ⊢
      exact fun h => hiff h.2
    | ok doc' =>
      rw [hread] at hiff
      simp only [Except.ok.injEq] at hiff ⊢
      exact hiff.trans (and_iff_right hsize).symm

/-- A document the text can carry is loaded from its text exactly when it fits. -/
theorem loadIniDocument_print {doc doc' : Document} (h : doc.Carried) :
    loadIniDocument (Ini.print doc) = .ok doc' ↔ doc.filter Ini.Section.shown = doc' ∧ Fits doc := by
  rw [loadIniDocument_eq_ok, Ini.read_decode_print h]
  constructor
  · rintro ⟨hbytes, rfl, hwithin⟩
    exact ⟨rfl, hbytes, hwithin⟩
  · rintro ⟨rfl, hbytes, hwithin⟩
    exact ⟨hbytes, rfl, hwithin⟩

theorem nodup_of_loadIniDocument {text : Text} {doc : Document}
    (h : loadIniDocument text = .ok doc) : doc.names.Nodup := by
  obtain ⟨-, rfl, -⟩ := loadIniDocument_eq_ok.mp h
  exact Ini.read_nodup _

/-! ## Edits -/

theorem entries_setSectionValue_of_ne {name : Text} {sectionName : String}
    (h : name ≠ sectionName.toList) (doc : Document) (key : String) (v : Text) :
    (setSectionValue doc sectionName key v).entries name = doc.entries name :=
  Document.entries_upsert_of_ne h _ doc

theorem entries_setSectionInt_of_ne {name : Text} {sectionName : String}
    (h : name ≠ sectionName.toList) (doc : Document) (key : String) (n : Int) :
    (setSectionInt doc sectionName key n).entries name = doc.entries name :=
  entries_setSectionValue_of_ne h doc key _

theorem entries_writeProfileSections_of_notMem {name : Text} {s : SlotSections}
    (h : name ∉ s.names) (doc : Document) (d : DesiredSettings) :
    (writeProfileSections doc s d).entries name = doc.entries name := by
  simp only [SlotSections.names, List.mem_cons, List.not_mem_nil, or_false, not_or] at h
  obtain ⟨hcontrols, hcurve, hfan⟩ := h
  simp only [writeProfileSections, replaceSection]
  rw [Document.entries_upsert_of_ne hfan, Document.entries_upsert_of_ne hcurve,
    Document.entries_upsert_of_ne hcontrols]

/-- The sections that belong to no profile and that every save writes. -/
def bookkeeping : List Text :=
  ["meta".toList, "profiles".toList, "startup".toList, "debug".toList]

/-- A section that is neither the slot's nor book-keeping. -/
structure Foreign (slot : Nat) (name : Text) : Prop where
  owned : name ∉ ownedSections slot
  kept : name ∉ bookkeeping

theorem Foreign.ne {slot : Nat} {name : Text} (h : Foreign slot name) :
    name ≠ "meta".toList ∧ name ≠ "profiles".toList ∧ name ≠ "startup".toList ∧
      name ≠ "debug".toList := by
  have hkept := h.kept
  simp only [bookkeeping, List.mem_cons, List.not_mem_nil, or_false, not_or] at hkept
  exact hkept

theorem markerSet_stampMarker (doc : Document) : markerSet (stampMarker doc) = true := by
  have hentries : (stampMarker doc).entries "meta".toList =
      Ini.assign markerKey "1".toList (doc.entries "meta".toList) :=
    Document.entries_upsert_self _ _ doc
  rw [markerSet, hentries, Ini.lookup_assign_self]
  exact decide_eq_true rfl

theorem markerSet_congr {doc doc' : Document}
    (h : Ini.lookup (doc.entries "meta".toList) markerKey =
      Ini.lookup (doc'.entries "meta".toList) markerKey) : markerSet doc = markerSet doc' := by
  simp only [markerSet, h]

theorem markerSet_of_entries {doc doc' : Document}
    (h : doc.entries "meta".toList = doc'.entries "meta".toList) : markerSet doc = markerSet doc' :=
  markerSet_congr (by rw [h])

/-! ## Migration -/

theorem convertMemOffset_nil : convertMemOffset [] = [] := rfl

theorem entries_map_convertSection (doc : Document) (name : Text) :
    Document.entries (doc.map convertSection) name =
      if isControlSection name then convertMemOffset (doc.entries name) else doc.entries name := by
  induction doc with
  | nil => simp [convertMemOffset_nil]
  | cons s rest ih =>
    have hname : (convertSection s).name = s.name := by
      unfold convertSection
      split <;> rfl
    rw [List.map_cons, Document.entries_cons, Document.entries_cons, hname]
    by_cases h : s.name = name
    · rw [if_pos h, if_pos h, convertSection, h]
      split <;> rfl
    · rw [if_neg h, if_neg h, ih]

/-- Without a profile in the document there is no controls section to convert. -/
theorem entries_eq_nil_of_not_any {doc : Document} {name : Text}
    (h : ¬(doc.any fun s => isControlSection s.name) = true) (hname : isControlSection name = true) :
    doc.entries name = [] := by
  refine Document.entries_of_notMem fun hmem => h ?_
  obtain ⟨s, hs, rfl⟩ := List.mem_map.mp hmem
  exact List.any_eq_true.mpr ⟨s, hs, hname⟩

/-- The migration stores what a load sees. -/
theorem entries_migrateMemOffsets {doc : Document} {name : Text} (h : name ≠ "meta".toList) :
    (migrateMemOffsets doc).entries name = displayEntries doc name := by
  unfold migrateMemOffsets displayEntries
  cases hmarker : markerSet doc
  · rw [if_neg (by decide)]
    by_cases hany : (doc.any fun s => isControlSection s.name) = true
    · rw [if_pos hany, stampMarker, entries_setSectionValue_of_ne h, entries_map_convertSection]
      simp only [true_and]
    · rw [if_neg hany]
      by_cases hname : isControlSection name = true
      · rw [if_pos ⟨rfl, hname⟩, entries_eq_nil_of_not_any hany hname, convertMemOffset_nil]
      · rw [if_neg fun hboth => hname hboth.2]
  · rw [if_pos rfl, if_neg fun hboth => Bool.noConfusion hboth.1]

theorem displayEntries_of_marker {doc : Document} (h : markerSet doc = true) (name : Text) :
    displayEntries doc name = doc.entries name := by
  rw [displayEntries, if_neg]
  rintro ⟨hfalse, -⟩
  rw [h] at hfalse
  cases hfalse

/-! ## The documents that are written -/

theorem entries_saveDocument {slot : Nat} {name : Text} (h : Foreign slot name) (doc : Document)
    (d : DesiredSettings) : (saveDocument doc slot d).entries name = displayEntries doc name := by
  obtain ⟨hmeta, hprofiles, hstartup, hdebug⟩ := h.ne
  have howned := h.owned
  simp only [ownedSections, List.mem_append, not_or] at howned
  simp only [saveDocument]
  rw [entries_setSectionInt_of_ne hdebug, entries_setSectionInt_of_ne hstartup,
    entries_setSectionInt_of_ne hstartup]
  have hlegacy : ∀ doc : Document, (if slot = 1 then writeProfileSections doc legacySections
      (normalizeDesiredSettingsForUi d) else doc).entries name = doc.entries name := by
    intro doc
    split
    · rename_i hslot
      rw [if_pos hslot] at howned
      exact entries_writeProfileSections_of_notMem howned.2 doc _
    · rfl
  rw [hlegacy, entries_writeProfileSections_of_notMem howned.1,
    entries_setSectionInt_of_ne hprofiles, entries_setSectionInt_of_ne hprofiles,
    entries_setSectionInt_of_ne hprofiles, entries_setSectionInt_of_ne hprofiles,
    entries_setSectionInt_of_ne hmeta, stampMarker, entries_setSectionValue_of_ne hmeta,
    entries_migrateMemOffsets hmeta]

theorem entries_retained {doc : Document} {slot : Nat} {name : Text}
    (h : name ∉ ownedSections slot) : (retained doc slot).entries name = doc.entries name := by
  induction doc with
  | nil => rfl
  | cons s rest ih =>
    rw [retained, List.filter_cons]
    split
    · rw [Document.entries_cons, Document.entries_cons]
      split
      · rfl
      · exact ih
    · rename_i hs
      have hne : s.name ≠ name := by
        rintro rfl
        exact hs (decide_eq_true h)
      rw [Document.entries_cons, if_neg hne]
      exact ih

theorem entries_clearDocument {slot : Nat} {name : Text} (howned : name ∉ ownedSections slot)
    (hprofiles : name ≠ "profiles".toList) (hstartup : name ≠ "startup".toList) (doc : Document) :
    (clearDocument doc slot).entries name = doc.entries name := by
  simp only [clearDocument]
  rw [entries_setSectionInt_of_ne hstartup, entries_setSectionInt_of_ne hprofiles,
    entries_setSectionInt_of_ne hprofiles, entries_setSectionInt_of_ne hprofiles,
    entries_setSectionInt_of_ne hprofiles, entries_retained howned]

/-! ## Slots do not share sections -/

theorem slot_lt_of_validSlot {slot : Nat} (h : validSlot slot = true) : slot < 6 := by
  have hle : 1 ≤ slot ∧ slot ≤ 5 := of_decide_eq_true h
  omega

theorem foreign_of_ne {slot other : Nat} (hslot : validSlot slot = true)
    (hother : validSlot other = true) (hne : other ≠ slot) {name : Text}
    (h : name ∈ ownedSections other) : Foreign slot name := by
  have hall : ∀ other ∈ List.range 6, ∀ slot ∈ List.range 6, validSlot slot = true →
      other ≠ slot → ∀ name ∈ ownedSections other,
        name ∉ ownedSections slot ∧ name ∉ bookkeeping := by
    decide
  have h := hall other (List.mem_range.mpr (slot_lt_of_validSlot hother)) slot
    (List.mem_range.mpr (slot_lt_of_validSlot hslot)) hslot hne name h
  exact ⟨h.1, h.2⟩

theorem meta_notMem_ownedSections {slot : Nat} (hslot : validSlot slot = true) :
    "meta".toList ∉ ownedSections slot := by
  have hall : ∀ slot ∈ List.range 6, "meta".toList ∉ ownedSections slot := by decide
  exact hall slot (List.mem_range.mpr (slot_lt_of_validSlot hslot))

theorem markerSet_saveDocument {slot : Nat} (hslot : validSlot slot = true) (doc : Document)
    (d : DesiredSettings) : markerSet (saveDocument doc slot d) = true := by
  have howned := meta_notMem_ownedSections hslot
  simp only [ownedSections, List.mem_append, not_or] at howned
  have hlegacy : ∀ doc : Document, (if slot = 1 then writeProfileSections doc legacySections
      (normalizeDesiredSettingsForUi d) else doc).entries "meta".toList =
        doc.entries "meta".toList := by
    intro doc
    split
    · rename_i hone
      rw [if_pos hone] at howned
      exact entries_writeProfileSections_of_notMem howned.2 doc _
    · rfl
  have hmeta : (saveDocument doc slot d).entries "meta".toList =
      Ini.assign "format_version".toList (printInt 2)
        ((stampMarker (migrateMemOffsets doc)).entries "meta".toList) := by
    simp only [saveDocument]
    rw [entries_setSectionInt_of_ne (by decide), entries_setSectionInt_of_ne (by decide),
      entries_setSectionInt_of_ne (by decide), hlegacy,
      entries_writeProfileSections_of_notMem howned.1, entries_setSectionInt_of_ne (by decide),
      entries_setSectionInt_of_ne (by decide), entries_setSectionInt_of_ne (by decide),
      entries_setSectionInt_of_ne (by decide)]
    exact Document.entries_upsert_self _ _ _
  rw [← markerSet_stampMarker (migrateMemOffsets doc)]
  refine markerSet_congr ?_
  rw [hmeta, Ini.lookup_assign_of_ne (by decide)]

theorem markerSet_clearDocument {slot : Nat} (hslot : validSlot slot = true) (doc : Document) :
    markerSet (clearDocument doc slot) = markerSet doc :=
  markerSet_of_entries (entries_clearDocument (meta_notMem_ownedSections hslot)
    (by decide) (by decide) doc)

/-! ## What the text can carry -/

theorem all_isWord_printInt (n : Int) : (printInt n).all Ini.isWord = true := by
  refine List.all_eq_true.mpr fun c hc => ?_
  rcases printInt_isDigit_or_minus n c hc with h | rfl
  · simp [Ini.isWord, Char.isAlphanum, h]
  · decide

theorem all_isWord_numbered {stem : String} (h : stem.toList.all Ini.isWord = true) (i : Nat) :
    (numbered stem i).all Ini.isWord = true := by
  rw [numbered, List.all_append, h, all_isWord_printInt, Bool.true_and]

theorem carried_setSectionValue {doc : Document} (h : doc.Carried) {sectionName key : String}
    (hname : sectionName.toList.all Ini.isWord = true) (hne : sectionName.toList ≠ [])
    (hkey : key.toList.all Ini.isWord = true) {v : Text} (hv : v.all Ini.isWord = true) :
    (setSectionValue doc sectionName key v).Carried :=
  h.upsert hname hne fun _ => Ini.carried_assign hkey hv

theorem carried_setSectionInt {doc : Document} (h : doc.Carried) {sectionName key : String}
    (hname : sectionName.toList.all Ini.isWord = true) (hne : sectionName.toList ≠ [])
    (hkey : key.toList.all Ini.isWord = true) (n : Int) :
    (setSectionInt doc sectionName key n).Carried :=
  carried_setSectionValue h hname hne hkey (all_isWord_printInt n)

theorem carried_replaceSection {doc : Document} (h : doc.Carried) {name : Text}
    (hname : name.all Ini.isWord = true) (hne : name ≠ []) {entries : List Entry}
    (hentries : ∀ e ∈ entries, e.Carried) : (replaceSection doc name entries).Carried :=
  h.upsert hname hne fun _ _ => hentries

theorem carried_convertMemOffset {entries : List Entry} (h : ∀ e ∈ entries, e.Carried) :
    ∀ e ∈ convertMemOffset entries, e.Carried := by
  unfold convertMemOffset
  split
  · exact Ini.carried_assign (by decide) (all_isWord_printInt _) h
  · exact h

theorem carried_migrateMemOffsets {doc : Document} (h : doc.Carried) :
    (migrateMemOffsets doc).Carried := by
  unfold migrateMemOffsets
  split
  · exact h
  split
  · have hmap : Document.Carried (doc.map convertSection) := by
      refine h.map ?_ ?_ ?_
      · intro s
        unfold convertSection
        split <;> rfl
      · intro s hnil
        rw [convertSection, hnil, if_neg (by decide)]
      · intro s hs
        unfold convertSection
        split
        · exact carried_convertMemOffset (h.entries s hs)
        · exact h.entries s hs
    exact carried_setSectionValue hmap (by decide) (by decide) (by decide) (by decide)
  · exact h

theorem carried_intEntry {key : Text} (h : key.all Ini.isWord = true) (n : Int) :
    (⟨key, printInt n⟩ : Entry).Carried :=
  Ini.Entry.carried_of_isWord h (all_isWord_printInt n)

theorem carried_textEntry {key v : Text} (h : key.all Ini.isWord = true)
    (hv : v.all Ini.isWord = true) : (⟨key, v⟩ : Entry).Carried :=
  Ini.Entry.carried_of_isWord h hv

theorem carried_ownedEntry {key : String} (h : key.toList.all Ini.isWord = true) (owned : Bool)
    (n : Int) : ∀ e ∈ ownedEntry owned key n, e.Carried := by
  cases owned with
  | false => exact fun e he => nomatch he
  | true =>
    intro e he
    rw [List.mem_singleton.mp he]
    exact carried_intEntry h n

theorem carried_controlsEntries (d : DesiredSettings) : ∀ e ∈ controlsEntries d, e.Carried := by
  have hmode : ((fanModeToConfigValue d.fanMode).toList).all Ini.isWord = true := by
    cases d.fanMode <;> decide
  have hfan : (if d.fanMode = .auto then "auto".toList
      else printInt (clampInt d.fanPercent 0 100)).all Ini.isWord = true := by
    split
    · decide
    · exact all_isWord_printInt _
  simp only [controlsEntries, List.forall_mem_append, List.forall_mem_cons]
  refine ⟨⟨⟨⟨⟨⟨?_, ?_, ?_, ?_, ?_, ?_, ?_, ?_, ?_⟩, ?_⟩, ?_⟩, ?_⟩, ?_⟩, ?_, ?_, ?_, ?_⟩
  all_goals first
    | exact carried_intEntry (by decide) _
    | exact carried_ownedEntry (by decide) _ _
    | exact fun e he => nomatch he
    | exact carried_textEntry (by decide) hmode
    | exact carried_textEntry (by decide) hfan

theorem carried_curveEntries (d : DesiredSettings) : ∀ e ∈ curveEntries d, e.Carried := by
  have hkey : ∀ i, (pointKey i).all Ini.isWord = true := fun i =>
    all_isWord_numbered (by decide) i
  intro e he
  rcases List.mem_cons.mp he with rfl | he
  · exact carried_textEntry (by decide) (by decide)
  · obtain ⟨i, -, he⟩ := List.mem_flatMap.mp he
    unfold pointEntries at he
    split at he
    · rcases List.mem_cons.mp he with rfl | he
      · exact carried_intEntry (hkey i) _
      · split at he
        · rw [List.mem_singleton.mp he]
          refine carried_textEntry ?_ (by decide)
          rw [pointOriginKey, List.all_append, hkey]
          decide
        · cases he
    · cases he

theorem carried_fanCurveEntries (curve : FanCurveConfig) :
    ∀ e ∈ fanCurveEntries curve, e.Carried := by
  have henabled : (if curve.zeroRpmEnabled then "1".toList else "0".toList).all Ini.isWord =
      true := by
    split <;> decide
  have hpoint : ∀ e ∈ (List.range FAN_CURVE_MAX_POINTS).flatMap (fanPointEntries curve),
      e.Carried := by
    intro e he
    obtain ⟨i, -, he⟩ := List.mem_flatMap.mp he
    simp only [fanPointEntries, List.mem_cons, List.not_mem_nil, or_false] at he
    rcases he with rfl | rfl | rfl
    all_goals exact carried_intEntry (all_isWord_numbered (by decide) i) _
  simp only [fanCurveEntries, List.forall_mem_append, List.forall_mem_cons]
  refine ⟨⟨?_, ?_, ?_, ?_, ?_⟩, hpoint⟩
  · exact carried_intEntry (by decide) _
  · exact carried_intEntry (by decide) _
  · exact carried_intEntry (by decide) _
  · exact carried_textEntry (by decide) henabled
  · exact fun e he => nomatch he

theorem carried_writeProfileSections {doc : Document} (h : doc.Carried) {s : SlotSections}
    (hs : ∀ name ∈ s.names, name.all Ini.isWord = true ∧ name ≠ []) (d : DesiredSettings) :
    (writeProfileSections doc s d).Carried := by
  have hcontrols := hs s.controls (by simp [SlotSections.names])
  have hcurve := hs s.curve (by simp [SlotSections.names])
  have hfan := hs s.fanCurve (by simp [SlotSections.names])
  exact carried_replaceSection (carried_replaceSection (carried_replaceSection h hcontrols.1
    hcontrols.2 (carried_controlsEntries d)) hcurve.1 hcurve.2 (carried_curveEntries d))
    hfan.1 hfan.2 (carried_fanCurveEntries d.fanCurve)

theorem isWord_slotSections (slot : Nat) :
    ∀ name ∈ (slotSections slot).names, name.all Ini.isWord = true ∧ name ≠ [] := by
  have hcontrols : (slotControls slot).all Ini.isWord = true :=
    all_isWord_numbered (by decide) slot
  have hne : ∀ suffix : Text, slotControls slot ++ suffix ≠ [] := by
    intro suffix h
    exact absurd (List.append_eq_nil_iff.mp (List.append_eq_nil_iff.mp h).1).1 (by decide)
  have hsuffix : ∀ suffix : Text, suffix.all Ini.isWord = true →
      (slotControls slot ++ suffix).all Ini.isWord = true := by
    intro suffix h
    rw [List.all_append, hcontrols, h, Bool.true_and]
  intro name hname
  simp only [SlotSections.names, slotSections, List.mem_cons, List.not_mem_nil, or_false] at hname
  rcases hname with rfl | rfl | rfl
  · exact ⟨hcontrols, by simpa using hne []⟩
  · exact ⟨hsuffix _ (by decide), hne _⟩
  · exact ⟨hsuffix _ (by decide), hne _⟩

/-- A save keeps what the text can carry. -/
theorem carried_saveDocument {doc : Document} (h : doc.Carried) (slot : Nat)
    (d : DesiredSettings) : (saveDocument doc slot d).Carried := by
  simp only [saveDocument]
  have hlegacy : ∀ name ∈ legacySections.names, name.all Ini.isWord = true ∧ name ≠ [] := by
    decide
  have hstamped : (stampMarker (migrateMemOffsets doc)).Carried :=
    carried_setSectionValue (carried_migrateMemOffsets h) (by decide) (by decide) (by decide)
      (by decide)
  refine carried_setSectionInt (carried_setSectionInt (carried_setSectionInt ?_ ?_ ?_ ?_ _)
    ?_ ?_ ?_ _) ?_ ?_ ?_ _
  rotate_left
  any_goals decide
  have hbank : ∀ doc : Document, doc.Carried →
      (writeProfileSections doc (slotSections slot) (normalizeDesiredSettingsForUi d)).Carried :=
    fun doc hdoc => carried_writeProfileSections hdoc (isWord_slotSections slot) _
  have hboth : ∀ doc : Document, doc.Carried → (if slot = 1 then writeProfileSections doc
      legacySections (normalizeDesiredSettingsForUi d) else doc).Carried := by
    intro doc hdoc
    split
    · exact carried_writeProfileSections hdoc hlegacy _
    · exact hdoc
  refine hboth _ (hbank _ ?_)
  refine carried_setSectionInt (carried_setSectionInt (carried_setSectionInt
    (carried_setSectionInt (carried_setSectionInt hstamped ?_ ?_ ?_ _) ?_ ?_ ?_ _) ?_ ?_ ?_ _)
    ?_ ?_ ?_ _) ?_ ?_ ?_ _
  all_goals decide

/-- A clear keeps what the text can carry, if what it retains is that. -/
theorem carried_clearDocument {doc : Document} {slot : Nat} (h : (retained doc slot).Carried) :
    (clearDocument doc slot).Carried := by
  simp only [clearDocument]
  refine carried_setSectionInt (carried_setSectionInt (carried_setSectionInt
    (carried_setSectionInt (carried_setSectionInt h ?_ ?_ ?_ _) ?_ ?_ ?_ _) ?_ ?_ ?_ _)
    ?_ ?_ ?_ _) ?_ ?_ ?_ _
  all_goals decide

/-! ## What a load sees -/

theorem SlotSections.hasKeys_congr {s : SlotSections} {doc doc' : Document}
    (h : ∀ name ∈ s.names, doc.entries name = doc'.entries name) :
    s.hasKeys doc = s.hasKeys doc' := by
  unfold hasKeys
  rw [Bool.eq_iff_iff, List.any_eq_true, List.any_eq_true]
  constructor
  · rintro ⟨name, hname, hne⟩
    exact ⟨name, hname, by rwa [← h name hname]⟩
  · rintro ⟨name, hname, hne⟩
    exact ⟨name, hname, by rwa [h name hname]⟩

theorem loadSections_congr {s : SlotSections} {doc doc' : Document} (slot : Nat)
    (h : ∀ name ∈ s.names, doc.entries name = doc'.entries name) :
    loadSections doc s slot = loadSections doc' s slot := by
  unfold loadSections
  rw [h s.controls (by simp [SlotSections.names]), h s.curve (by simp [SlotSections.names]),
    h s.fanCurve (by simp [SlotSections.names])]

/-- A load reads the sections of its slot and no others. -/
theorem loadSlot_congr {doc doc' : Document} {slot : Nat}
    (h : ∀ name ∈ ownedSections slot, doc.entries name = doc'.entries name) :
    loadSlot doc slot = loadSlot doc' slot := by
  have hown : ∀ name ∈ (slotSections slot).names, doc.entries name = doc'.entries name :=
    fun name hname => h name (List.mem_append_left _ hname)
  have hlegacy : slot = 1 → ∀ name ∈ legacySections.names, doc.entries name = doc'.entries name := by
    rintro hslot name hname
    refine h name (List.mem_append_right _ ?_)
    rwa [if_pos hslot]
  unfold loadSlot
  rw [SlotSections.hasKeys_congr hown, loadSections_congr slot hown]
  by_cases hslot : slot = 1
  · rw [SlotSections.hasKeys_congr (hlegacy hslot), loadSections_congr slot (hlegacy hslot)]
  · simp only [hslot, false_and, if_false]

theorem meta_ne_of_mem_ownedSections {slot : Nat} (hslot : validSlot slot = true) {name : Text}
    (h : name ∈ ownedSections slot) : name ≠ "meta".toList := by
  rintro rfl
  exact meta_notMem_ownedSections hslot h

/-- A load depends on what it sees of the sections of its slot. -/
theorem loadProfile_congr {text text' : Text} {doc doc' : Document} {slot : Nat}
    (hdoc : loadIniDocument text = .ok doc) (hdoc' : loadIniDocument text' = .ok doc')
    (h : validSlot slot = true →
      ∀ name ∈ ownedSections slot, displayEntries doc' name = displayEntries doc name) :
    loadProfile text' slot = loadProfile text slot := by
  unfold loadProfile
  by_cases hslot : validSlot slot = true
  · rw [if_pos hslot, if_pos hslot, hdoc, hdoc']
    refine loadSlot_congr fun name hname => ?_
    have hmeta := meta_ne_of_mem_ownedSections hslot hname
    rw [entries_migrateMemOffsets hmeta, entries_migrateMemOffsets hmeta, h hslot name hname]
  · rw [if_neg hslot, if_neg hslot]

/-! ## Operations and runs -/

inductive BankOp where
  | save (slot : Nat) (d : DesiredSettings) (written : Bool)
  | clear (slot : Nat) (written : Bool)
  | load (slot : Nat)

namespace BankOp

/-- The slot the operation writes to. -/
def edits : BankOp → Option Nat
  | save slot _ _ => some slot
  | clear slot _ => some slot
  | load _ => none

/-- The section is neither the edited slot's nor book-keeping. -/
def Leaves (op : BankOp) (name : Text) : Prop :=
  ∀ slot, op.edits = some slot → validSlot slot = true → Foreign slot name

/-- The file after the operation.  A load writes nothing, and a write that fails leaves
the file as it was. -/
def run (text : Text) : BankOp → Text
  | save slot d written =>
    match saveProfile text slot d with
    | .ok text' => if written then text' else text
    | .error _ => text
  | clear slot written =>
    match clearProfile text slot with
    | .ok text' => if written then text' else text
    | .error _ => text
  | load _ => text

/-- **When the file comes back from its own text**: what the operation keeps of the file
is what a text can carry, and what it writes is within the limits of the parser. -/
def Safe (text : Text) : BankOp → Prop
  | save slot d written => ∀ doc, loadIniDocument text = .ok doc → validSlot slot = true →
      written = true → doc.Carried ∧ Fits (saveDocument doc slot d)
  | clear slot written => ∀ doc, loadIniDocument text = .ok doc → validSlot slot = true →
      written = true → (retained doc slot).Carried ∧ Fits (clearDocument doc slot)
  | load _ => True

end BankOp

/-- The unit of the offset a section stores: it stays as it is, or it is converted once,
when the marker appears. -/
structure UnitLaw (doc doc' : Document) (name : Text) : Prop where
  stored : markerSet doc' = markerSet doc ∧ doc'.entries name = doc.entries name ∨
    markerSet doc = false ∧ markerSet doc' = true ∧
      doc'.entries name = convertMemOffset (doc.entries name)
  seen : displayEntries doc' name = displayEntries doc name

theorem displayEntries_congr {doc doc' : Document} {name : Text}
    (hmarker : markerSet doc' = markerSet doc) (h : doc'.entries name = doc.entries name) :
    displayEntries doc' name = displayEntries doc name := by
  simp only [displayEntries, hmarker, h]

theorem UnitLaw.refl (doc : Document) (name : Text) : UnitLaw doc doc name where
  stored := .inl ⟨rfl, rfl⟩
  seen := rfl

/-- A step of the unit law and then another: the marker appears in one of them at most. -/
theorem UnitLaw.trans {doc₁ doc₂ doc₃ : Document} {name : Text} (h : UnitLaw doc₁ doc₂ name)
    (h' : UnitLaw doc₂ doc₃ name) : UnitLaw doc₁ doc₃ name where
  stored := by
    rcases h.stored with ⟨hmarker, hentries⟩ | ⟨hold, hnew, hentries⟩
    · rw [← hmarker, ← hentries]
      exact h'.stored
    · rcases h'.stored with ⟨hmarker, hentries'⟩ | ⟨hunset, -, -⟩
      · exact .inr ⟨hold, hmarker.trans hnew, hentries'.trans hentries⟩
      · rw [hnew] at hunset
        cases hunset
  seen := h'.seen.trans h.seen

/-- A document comes back from its text with every section it had. -/
theorem load_print {doc : Document} (h : doc.Carried) (hfits : Fits doc) :
    ∃ doc', loadIniDocument (Ini.print doc) = .ok doc' ∧
      (∀ name, doc'.entries name = doc.entries name) ∧ markerSet doc' = markerSet doc := by
  have hentries : ∀ name, Document.entries (doc.filter Ini.Section.shown) name = doc.entries name :=
    Ini.Document.entries_filter_shown h.nodup
  exact ⟨_, (loadIniDocument_print h).mpr ⟨rfl, hfits⟩, hentries,
    markerSet_of_entries (hentries _)⟩

/-- What a written save leaves of the rest of the file. -/
theorem documents_save {doc : Document} {slot : Nat} (hslot : validSlot slot = true)
    (d : DesiredSettings) (hcarried : doc.Carried) (hfits : Fits (saveDocument doc slot d)) :
    ∃ doc', loadIniDocument (Ini.print (saveDocument doc slot d)) = .ok doc' ∧
      (∀ name, Foreign slot name → displayEntries doc' name = displayEntries doc name) ∧
      ∀ name, isControlSection name = true → Foreign slot name → UnitLaw doc doc' name := by
  obtain ⟨doc', hread, hentries, hsame⟩ := load_print (carried_saveDocument hcarried slot d) hfits
  have hmarker : markerSet doc' = true := hsame.trans (markerSet_saveDocument hslot doc d)
  have hstored : ∀ name, Foreign slot name → doc'.entries name = displayEntries doc name :=
    fun name hname => (hentries name).trans (entries_saveDocument hname doc d)
  have hseen : ∀ name, Foreign slot name → displayEntries doc' name = displayEntries doc name :=
    fun name hname => (displayEntries_of_marker hmarker name).trans (hstored name hname)
  refine ⟨doc', hread, hseen, fun name hcontrol hname => ⟨?_, hseen name hname⟩⟩
  cases hold : markerSet doc with
  | true =>
    exact .inl ⟨hmarker, (hstored name hname).trans (displayEntries_of_marker hold name)⟩
  | false =>
    refine .inr ⟨rfl, hmarker, (hstored name hname).trans ?_⟩
    rw [displayEntries, if_pos ⟨hold, hcontrol⟩]

/-- What a written clear leaves of the rest of the file. -/
theorem documents_clear {doc : Document} {slot : Nat} (hslot : validSlot slot = true)
    (hcarried : (retained doc slot).Carried) (hfits : Fits (clearDocument doc slot)) :
    ∃ doc', loadIniDocument (Ini.print (clearDocument doc slot)) = .ok doc' ∧
      (∀ name, Foreign slot name → displayEntries doc' name = displayEntries doc name) ∧
      ∀ name, isControlSection name = true → Foreign slot name → UnitLaw doc doc' name := by
  obtain ⟨doc', hread, hentries, hsame⟩ := load_print (carried_clearDocument hcarried) hfits
  have hmarker : markerSet doc' = markerSet doc := hsame.trans (markerSet_clearDocument hslot doc)
  have hstored : ∀ name, Foreign slot name → doc'.entries name = doc.entries name := by
    intro name hname
    obtain ⟨-, hprofiles, hstartup, -⟩ := hname.ne
    exact (hentries name).trans (entries_clearDocument hname.owned hprofiles hstartup doc)
  refine ⟨doc', hread, fun name hname => displayEntries_congr hmarker (hstored name hname),
    fun name _ hname => ⟨.inl ⟨hmarker, hstored name hname⟩, ?_⟩⟩
  exact displayEntries_congr hmarker (hstored name hname)

/-- What the operations leave of a file: what a load sees of the sections they are not
about, and the unit of the offsets there. -/
structure Frame (ops : List BankOp) (doc doc' : Document) : Prop where
  seen : ∀ name, (∀ op ∈ ops, op.Leaves name) → displayEntries doc' name = displayEntries doc name
  unit : ∀ name, isControlSection name = true → (∀ op ∈ ops, op.Leaves name) → UnitLaw doc doc' name

theorem Frame.refl (ops : List BankOp) (doc : Document) : Frame ops doc doc where
  seen := fun _ _ => rfl
  unit := fun name _ _ => UnitLaw.refl doc name

theorem Frame.cons {op : BankOp} {rest : List BankOp} {doc₁ doc₂ doc₃ : Document}
    (h : Frame [op] doc₁ doc₂) (h' : Frame rest doc₂ doc₃) : Frame (op :: rest) doc₁ doc₃ where
  seen := by
    intro name hname
    rw [List.forall_mem_cons] at hname
    exact (h'.seen name hname.2).trans (h.seen name fun o ho => List.mem_singleton.mp ho ▸ hname.1)
  unit := by
    intro name hcontrol hname
    rw [List.forall_mem_cons] at hname
    exact (h.unit name hcontrol fun o ho => List.mem_singleton.mp ho ▸ hname.1).trans
      (h'.unit name hcontrol hname.2)

theorem Frame.of_edit {op : BankOp} {slot : Nat} (hedits : op.edits = some slot)
    (hslot : validSlot slot = true) {doc doc' : Document}
    (hseen : ∀ name, Foreign slot name → displayEntries doc' name = displayEntries doc name)
    (hunit : ∀ name, isControlSection name = true → Foreign slot name → UnitLaw doc doc' name) :
    Frame [op] doc doc' where
  seen := fun name hname => hseen name (hname op List.mem_cons_self slot hedits hslot)
  unit := fun name hcontrol hname =>
    hunit name hcontrol (hname op List.mem_cons_self slot hedits hslot)

/-- What one operation leaves of the rest of the file. -/
theorem run_documents {text : Text} {op : BankOp} {doc : Document}
    (hdoc : loadIniDocument text = .ok doc) (hsafe : op.Safe text) :
    ∃ doc', loadIniDocument (op.run text) = .ok doc' ∧ Frame [op] doc doc' := by
  cases op with
  | load slot => exact ⟨doc, hdoc, Frame.refl _ doc⟩
  | save slot d written =>
    simp only [BankOp.run, saveProfile]
    by_cases hslot : validSlot slot = true
    · rw [if_pos hslot, hdoc]
      cases written with
      | false => exact ⟨doc, hdoc, Frame.refl _ doc⟩
      | true =>
        obtain ⟨hcarried, hfits⟩ := hsafe doc hdoc hslot rfl
        obtain ⟨doc', hread, hseen, hunit⟩ := documents_save hslot d hcarried hfits
        exact ⟨doc', hread, Frame.of_edit rfl hslot hseen hunit⟩
    · rw [if_neg hslot]
      exact ⟨doc, hdoc, Frame.refl _ doc⟩
  | clear slot written =>
    simp only [BankOp.run, clearProfile]
    by_cases hslot : validSlot slot = true
    · rw [if_pos hslot, hdoc]
      cases written with
      | false => exact ⟨doc, hdoc, Frame.refl _ doc⟩
      | true =>
        obtain ⟨hcarried, hfits⟩ := hsafe doc hdoc hslot rfl
        obtain ⟨doc', hread, hseen, hunit⟩ := documents_clear hslot hcarried hfits
        exact ⟨doc', hread, Frame.of_edit rfl hslot hseen hunit⟩
    · rw [if_neg hslot]
      exact ⟨doc, hdoc, Frame.refl _ doc⟩

/-! ## Runs -/

/-- The file after the operations. -/
def runBank (text : Text) (ops : List BankOp) : Text := ops.foldl BankOp.run text

/-- Every operation of the run finds a file that survives it. -/
def SafeRun : Text → List BankOp → Prop
  | _, [] => True
  | text, op :: rest => op.Safe text ∧ SafeRun (op.run text) rest

theorem runBank_append (text : Text) (first rest : List BankOp) :
    runBank text (first ++ rest) = runBank (runBank text first) rest :=
  List.foldl_append

theorem SafeRun.of_append {first rest : List BankOp} {text : Text}
    (h : SafeRun text (first ++ rest)) :
    SafeRun text first ∧ SafeRun (runBank text first) rest := by
  induction first generalizing text with
  | nil => exact ⟨trivial, h⟩
  | cons op first ih =>
    obtain ⟨hfirst, hrest⟩ := ih h.2
    exact ⟨⟨h.1, hfirst⟩, hrest⟩

/-- What a run leaves of the sections no operation is about. -/
theorem runBank_documents {ops : List BankOp} {text : Text} {doc : Document}
    (hdoc : loadIniDocument text = .ok doc) (hsafe : SafeRun text ops) :
    ∃ doc', loadIniDocument (runBank text ops) = .ok doc' ∧ Frame ops doc doc' := by
  induction ops generalizing text doc with
  | nil => exact ⟨doc, hdoc, Frame.refl _ doc⟩
  | cons op rest ih =>
    obtain ⟨doc', hdoc', hframe⟩ := run_documents hdoc hsafe.1
    obtain ⟨doc'', hdoc'', hrest⟩ := ih hdoc' hsafe.2
    exact ⟨doc'', hdoc'', hframe.cons hrest⟩

/-- The operations before, the operations that follow, and the document between them. -/
theorem runBank_segments {first rest : List BankOp} {text : Text} {doc : Document}
    (hdoc : loadIniDocument text = .ok doc) (hsafe : SafeRun text (first ++ rest)) :
    ∃ doc₁ doc₂, loadIniDocument (runBank text first) = .ok doc₁ ∧
      loadIniDocument (runBank text (first ++ rest)) = .ok doc₂ ∧ Frame rest doc₁ doc₂ := by
  obtain ⟨hfirst, hrest⟩ := hsafe.of_append
  obtain ⟨doc₁, hdoc₁, -⟩ := runBank_documents hdoc hfirst
  obtain ⟨doc₂, hdoc₂, hframe⟩ := runBank_documents hdoc₁ hrest
  rw [runBank_append]
  exact ⟨doc₁, doc₂, hdoc₁, hdoc₂, hframe⟩

theorem BankOp.leaves_of_edits {op : BankOp} {slot : Nat} (hslot : validSlot slot = true)
    (h : op.edits ≠ some slot) {name : Text} (hname : name ∈ ownedSections slot) :
    op.Leaves name := by
  intro edited hedits hedited
  refine foreign_of_ne hedited hslot ?_ hname
  rintro rfl
  exact h hedits

/-- **The profile bank frame and unit law**: in a run whose writes survive their own text,
from any point on, the file stays readable, every slot that is not edited loads as it did,
and the memory offset of every section of such a slot stays as it is stored or is
converted once, when the marker appears. -/
theorem bank_frame_and_unit {text : Text} {doc : Document} {first rest : List BankOp}
    (hdoc : loadIniDocument text = .ok doc) (hsafe : SafeRun text (first ++ rest)) :
    ∃ doc₁ doc₂, loadIniDocument (runBank text first) = .ok doc₁ ∧
      loadIniDocument (runBank text (first ++ rest)) = .ok doc₂ ∧
      ∀ slot, (∀ op ∈ rest, op.edits ≠ some slot) →
        loadProfile (runBank text (first ++ rest)) slot = loadProfile (runBank text first) slot ∧
        (validSlot slot = true → ∀ name ∈ ownedSections slot, isControlSection name = true →
          UnitLaw doc₁ doc₂ name) := by
  obtain ⟨doc₁, doc₂, hdoc₁, hdoc₂, hframe⟩ := runBank_segments hdoc hsafe
  refine ⟨doc₁, doc₂, hdoc₁, hdoc₂, fun slot hedits => ?_⟩
  have hleaves : validSlot slot = true → ∀ name ∈ ownedSections slot, ∀ op ∈ rest, op.Leaves name :=
    fun hslot name hname op hop => BankOp.leaves_of_edits hslot (hedits op hop) hname
  constructor
  · exact loadProfile_congr hdoc₁ hdoc₂ fun hslot name hname =>
      hframe.seen name (hleaves hslot name hname)
  · exact fun hslot name hname hcontrol => hframe.unit name hcontrol (hleaves hslot name hname)

/-- A file of an older build with two profiles, read and edited. -/
def twoProfiles : Document :=
  [⟨"profile1".toList, [⟨"mem_offset_mhz".toList, "1000".toList⟩]⟩,
    ⟨"profile2".toList, [⟨"gpu_offset_mhz".toList, "50".toList⟩]⟩]

theorem carried_twoProfiles : (retained twoProfiles 2).Carried where
  nodup := by decide
  headers := by
    have hwords : ∀ s ∈ retained twoProfiles 2, s.name.all Ini.isWord = true := by decide
    exact fun s hs => Ini.carriedName_of_isWord (hwords s hs)
  entries := by
    have hwords : ∀ s ∈ retained twoProfiles 2, ∀ e ∈ s.entries,
        e.key.all Ini.isWord = true ∧ e.value.all Ini.isWord = true := by decide
    exact fun s hs e he => Ini.Entry.carried_of_isWord (hwords s hs e he).1 (hwords s hs e he).2
  nameless := by decide
  mark := by
    have hnamed : ∀ s ∈ (retained twoProfiles 2).head?, s.name ≠ [] := by decide
    exact fun s hs hnil => absurd hnil (hnamed s hs)

theorem fits_twoProfiles : Fits (clearDocument twoProfiles 2) where
  bytes := by decide +kernel
  within := ⟨by decide +kernel, by decide +kernel⟩

theorem bank_frame_and_unit_twoProfiles :
    ∃ doc₁ doc₂, loadIniDocument (runBank (Ini.print twoProfiles) [.load 1]) = .ok doc₁ ∧
      loadIniDocument (runBank (Ini.print twoProfiles) ([.load 1] ++ [.clear 2 true])) = .ok doc₂ ∧
      ∀ slot, (∀ op ∈ [BankOp.clear 2 true], op.edits ≠ some slot) →
        loadProfile (runBank (Ini.print twoProfiles) ([.load 1] ++ [.clear 2 true])) slot =
          loadProfile (runBank (Ini.print twoProfiles) [.load 1]) slot ∧
        (validSlot slot = true → ∀ name ∈ ownedSections slot, isControlSection name = true →
          UnitLaw doc₁ doc₂ name) := by
  have hdoc : loadIniDocument (Ini.print twoProfiles) = .ok twoProfiles := by decide +kernel
  refine @bank_frame_and_unit _ _ [.load 1] _ hdoc ⟨trivial, fun doc h _ _ => ?_, trivial⟩
  obtain rfl : twoProfiles = doc := by simpa only [BankOp.run, hdoc, Except.ok.injEq] using h
  exact ⟨carried_twoProfiles, fits_twoProfiles⟩

/-- A section without a name is parsed and printed without its header: what it holds
joins the section before it, and the memory offset of another slot appears. -/
theorem nameless_section_joins :
    (do return (← loadProfile "[controls]\ngpu_offset_mhz=100\n[]\nmem_offset_mhz=1000\n".toList
        1).memOffsetMHz : Except LoadError Int) = .ok 0 ∧
    (do return (← loadProfile (runBank
        "[controls]\ngpu_offset_mhz=100\n[]\nmem_offset_mhz=1000\n".toList [.clear 2 true])
        1).memOffsetMHz : Except LoadError Int) = .ok 500 := by
  decide +kernel

end GreenCurve.Profile
