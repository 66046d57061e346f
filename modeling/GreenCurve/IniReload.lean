import GreenCurve.IniLines
import GreenCurve.ProfileBankLaw
import Mathlib.Algebra.BigOperators.Group.List.Basic

/-! # What a save and a load make of a document

A document that was read is printed and read again.  It comes back as it was exactly when
its keys and values hold no NUL, its names are trimmed, a nameless section stands in front
and has entries, and the text does not begin with a byte order mark of its own
(`Document.Kept`, `read_decode_print_iff`).  All of this, and the size of the file that is
written, can be seen in the lines of the text the document was read from. -/

namespace GreenCurve.Ini

/-! ## The lines of a printed document -/

/-- The lines a section is printed as. -/
def Section.lines (s : Section) : List Line :=
  (if s.name = [] then [] else [.header s.name]) ++ s.entries.map .entry

/-- Nothing that a C string or a trim takes away. -/
structure Document.Plain (doc : Document) : Prop where
  nul : ∀ s ∈ doc, ∀ e ∈ s.entries, '\x00' ∉ e.key ∧ '\x00' ∉ e.value
  trimmed : ∀ s ∈ doc, trim s.name = s.name

section
variable {doc : Document}

theorem Document.Plain.headers (h : doc.Plain) (htext : doc.OfText) :
    ∀ s ∈ doc, CarriedName s.name := fun s hs =>
  ⟨h.trimmed s hs, (htext.names s hs).1, (htext.names s hs).2⟩

theorem Document.Plain.entries (h : doc.Plain) (htext : doc.OfText) :
    ∀ s ∈ doc, ∀ e ∈ s.entries, e.Carried := fun s hs e he =>
  ⟨(htext.entries s hs e he).line, (htext.entries s hs e he).newline, h.nul s hs e he⟩

end

theorem lines_entry {e : Entry} (h : e.Carried) (rest : Text) :
    Ini.lines (e.print ++ rest) = .entry e :: Ini.lines rest := by
  have hprint : e.print ++ rest = (e.key ++ '=' :: e.value) ++ '\n' :: rest := by
    simp [Entry.print, cString_eq_self.mpr h.nul.1, cString_eq_self.mpr h.nul.2]
  rw [hprint, lines_append_newline, lines_of_notMem h.newline, h.line]
  rfl

theorem lines_entries {entries : List Entry} (h : ∀ e ∈ entries, e.Carried) (rest : Text) :
    Ini.lines (entries.flatMap Entry.print ++ rest) = entries.map .entry ++ Ini.lines rest := by
  induction entries with
  | nil => rfl
  | cons e tail ih =>
    rw [List.flatMap_cons, List.append_assoc, lines_entry (h e (by simp)),
      ih fun e' he' => h e' (List.mem_cons_of_mem _ he')]
    rfl

theorem lines_section {s : Section} (hname : CarriedName s.name)
    (hentries : ∀ e ∈ s.entries, e.Carried) (rest : Text) :
    Ini.lines (s.print ++ rest) = s.lines ++ Ini.lines rest := by
  unfold Section.print Section.lines
  by_cases h : s.name = []
  · rw [if_pos h, if_pos h, List.nil_append, List.nil_append, lines_entries hentries]
  · have hheader : '[' :: cString s.name ++ [']', '\n'] ++ s.entries.flatMap Entry.print ++ rest =
        ('[' :: s.name ++ [']']) ++ '\n' :: (s.entries.flatMap Entry.print ++ rest) := by
      simp [cString_eq_self.mpr hname.nul]
    have hnewline : '\n' ∉ '[' :: s.name ++ [']'] := by simp [hname.newline]
    rw [if_neg h, if_neg h, hheader, lines_append_newline, lines_of_notMem hnewline, hname.header,
      lines_entries hentries]
    rfl

theorem lines_print {doc : Document} (hnames : ∀ s ∈ doc, CarriedName s.name)
    (hentries : ∀ s ∈ doc, ∀ e ∈ s.entries, e.Carried) :
    Ini.lines (print doc) = doc.flatMap Section.lines := by
  induction doc with
  | nil => rfl
  | cons s rest ih =>
    have hs := hnames s (by simp)
    have hse := hentries s (by simp)
    have hrest := ih (fun s hs => hnames s (List.mem_cons_of_mem _ hs))
      (fun s hs => hentries s (List.mem_cons_of_mem _ hs))
    cases rest with
    | nil =>
      have h := lines_section hs hse []
      rw [List.append_nil, lines_nil] at h
      exact h
    | cons s' rest =>
      have hprint : print (s :: s' :: rest) = s.print ++ '\n' :: print (s' :: rest) := rfl
      have hline : Ini.lines ('\n' :: print (s' :: rest)) = Ini.lines (print (s' :: rest)) :=
        lines_append_newline [] _
      rw [hprint, lines_section hs hse, hline, hrest]
      rfl

theorem entriesOf_lines (doc : Document) :
    entriesOf (doc.flatMap Section.lines) = doc.flatMap Section.entries := by
  induction doc with
  | nil => rfl
  | cons s rest ih =>
    have hs : entriesOf s.lines = s.entries := by
      unfold Section.lines
      split
      · exact entriesOf_map s.entries
      · exact entriesOf_map s.entries
    rw [List.flatMap_cons, entriesOf_append, hs, ih, List.flatMap_cons]

/-! ## What comes back -/

/-- **What comes back from its own text**, of the documents that were read. -/
structure Document.Kept (doc : Document) : Prop extends doc.Plain where
  nameless : [] ∈ doc.names → doc.head?.map (·.name) = some [] ∧ doc.entries [] ≠ []
  mark : ∀ s ∈ doc.head?, s.name = [] → ∀ e ∈ s.entries.head?, ¬byteOrderMark <+: e.key

theorem Document.Kept.carried {doc : Document} (h : doc.Kept) (htext : doc.OfText) :
    doc.Carried where
  nodup := htext.nodup
  headers := h.toPlain.headers htext
  entries := h.toPlain.entries htext
  nameless := by
    intro s hs hname
    have hmem : [] ∈ doc.names := hname ▸ List.mem_map_of_mem (List.mem_of_mem_tail hs)
    have hnodup := htext.nodup
    have hfirst := (h.nameless hmem).1
    cases doc with
    | nil => cases hs
    | cons first rest =>
      have hnil : first.name = s.name := by simpa [hname] using hfirst
      have hagain : s.name ∈ Document.names rest := List.mem_map_of_mem hs
      rw [← hnil] at hagain
      exact absurd hagain (List.nodup_cons.mp hnodup).1
  mark := h.mark

theorem Document.Kept.shown {doc : Document} (h : doc.Kept) (htext : doc.OfText) :
    doc.filter Section.shown = doc := by
  refine List.filter_eq_self.mpr fun s hs => ?_
  by_cases hname : s.name = []
  · have hentries := (h.nameless (hname ▸ List.mem_map_of_mem hs)).2
    rw [← hname, Document.entries_of_mem htext.nodup hs] at hentries
    simp [Section.shown, hentries]
  · simp [Section.shown, hname]

/-- A text without a NUL is read as a document of plain names and entries. -/
theorem plain_read {t : Text} (h : '\x00' ∉ t) : (read t).Plain where
  nul := by
    intro s hs e he
    obtain ⟨line, hline, hread⟩ := exists_line_of_mem_lines (exists_entry_read.mp ⟨s, hs, he⟩)
    exact nul_of_readLine hread fun hnul => h (subset_of_mem_splitOn hline hnul)
  trimmed := by
    intro s hs
    have hname : s.name ∈ (read t).names := List.mem_map_of_mem hs
    rcases mem_sectionsOf.mp (mem_names_read.mp hname) with hheader | ⟨hnil, -⟩
    · obtain ⟨line, hline, hread⟩ := exists_line_of_mem_lines hheader
      exact trim_of_readLine hread fun hnul => h (subset_of_mem_splitOn hline hnul)
    · rw [hnil]
      rfl

theorem nul_notMem_print (doc : Document) : '\x00' ∉ print doc := by
  have hcString : ∀ t : Text, '\x00' ∉ cString t := fun t hmem => by
    simpa using List.mem_takeWhile_imp hmem
  have hentry : ∀ e : Entry, '\x00' ∉ e.print := by
    intro e
    simp [Entry.print, hcString]
  have hsection : ∀ s : Section, '\x00' ∉ s.print := by
    intro s hmem
    rw [Section.print, List.mem_append] at hmem
    rcases hmem with hmem | hmem
    · split at hmem
      · cases hmem
      · simp [hcString] at hmem
    · obtain ⟨e, -, he⟩ := List.mem_flatMap.mp hmem
      exact hentry e he
  induction doc with
  | nil => exact List.not_mem_nil
  | cons s rest ih =>
    cases rest with
    | nil => exact hsection s
    | cons s' rest =>
      have hprint : print (s :: s' :: rest) = s.print ++ '\n' :: print (s' :: rest) := rfl
      rw [hprint, List.mem_append, List.mem_cons]
      rintro (hmem | heq | hmem)
      · exact hsection s hmem
      · exact absurd heq (by decide)
      · exact ih hmem

theorem decode_sublist (t : Text) : (decode t).Sublist t := by
  unfold decode
  split
  · exact List.drop_sublist 3 t
  · exact List.Sublist.refl t

/-- The first line of a printed document that begins with an entry. -/
theorem print_cons {s : Section} {e : Entry} {es : List Entry} (hname : s.name = [])
    (hentries : s.entries = e :: es) (he : e.Carried) (rest : Document) :
    ∃ tail, print (s :: rest) = (e.key ++ '=' :: e.value) ++ '\n' :: tail := by
  have hprint : ∀ tail, s.print ++ tail =
      (e.key ++ '=' :: e.value) ++ '\n' :: (es.flatMap Entry.print ++ tail) := by
    intro tail
    simp [Section.print, hname, hentries, Entry.print, cString_eq_self.mpr he.nul.1,
      cString_eq_self.mpr he.nul.2]
  cases rest with
  | nil => exact ⟨_, (List.append_nil _).symm.trans (hprint [])⟩
  | cons s' rest => exact ⟨_, hprint _⟩

section
variable {doc : Document} (htext : doc.OfText) (hplain : doc.Plain)
include htext hplain

theorem entriesOf_lines_print : entriesOf (Ini.lines (print doc)) = doc.flatMap Section.entries := by
  rw [lines_print (hplain.headers htext) (hplain.entries htext), entriesOf_lines]

/-- A text that begins with the byte order mark comes back without it: one entry is
another one then, or none. -/
theorem mark_of_reload (hread : read (decode (print doc)) = doc) :
    ∀ s ∈ doc.head?, s.name = [] → ∀ e ∈ s.entries.head?, ¬byteOrderMark <+: e.key := by
  rintro s hs hname e he ⟨key, hkey⟩
  obtain ⟨rest, rfl⟩ := List.head?_eq_some_iff.mp hs
  obtain ⟨es, hes⟩ := List.head?_eq_some_iff.mp he
  have hcarried : e.Carried := hplain.entries htext s (by simp) e (by simp [hes])
  obtain ⟨tail, hprint⟩ := print_cons hname hes hcarried rest
  obtain ⟨first, hfirst⟩ : ∃ first, key ++ '=' :: e.value = first := ⟨_, rfl⟩
  have hmarked : e.key ++ '=' :: e.value = byteOrderMark ++ first := by
    rw [← hkey, ← hfirst, List.append_assoc]
  have hdecode : decode (print (s :: rest)) = first ++ '\n' :: tail := by
    rw [hprint, hmarked, List.append_assoc, decode, if_pos (List.prefix_append _ _)]
    rfl
  have hnewline : '\n' ∉ first := fun hmem =>
    hcarried.newline (hmarked ▸ List.mem_append_right _ hmem)
  have hall := entriesOf_lines_print htext hplain
  rw [hprint, lines_append_newline, lines_of_notMem hcarried.newline, hcarried.line,
    entriesOf_append] at hall
  have hperm := entries_read_perm (decode (print (s :: rest)))
  rw [hread, hdecode, lines_append_newline, entriesOf_append, ← hall,
    List.perm_append_right_iff, lines_of_notMem hnewline] at hperm
  have hsole : entriesOf ([readLine first].filter (· ≠ .skipped)) = [e] :=
    (List.singleton_perm.mp hperm).symm
  have hmem : .entry e ∈ [readLine first].filter (· ≠ .skipped) :=
    mem_entriesOf.mp (hsole ▸ List.mem_singleton_self e)
  have hline : readLine first = .entry e :=
    (List.mem_singleton.mp (List.mem_filter.mp hmem).1).symm
  have hshort := length_of_readLine hline
  have hlength := congrArg List.length hmarked
  simp only [List.length_append, List.length_cons, byteOrderMark, List.length_nil] at hlength
  omega

/-- A nameless section has no header, so it comes back only where entries come first. -/
theorem nameless_of_reload (hread : read (print doc) = doc) (hmem : [] ∈ doc.names) :
    doc.head?.map (·.name) = some [] ∧ doc.entries [] ≠ [] := by
  have hlines := lines_print (hplain.headers htext) (hplain.entries htext)
  have hheader : .header [] ∉ Ini.lines (print doc) := by
    rw [hlines, List.mem_flatMap]
    rintro ⟨s, -, hs⟩
    unfold Section.lines at hs
    split at hs
    · simp at hs
    · rename_i hname
      simp [Ne.symm hname] at hs
  have hnames := hmem
  rw [← hread, mem_names_read, mem_sectionsOf] at hnames
  obtain ⟨-, e, he⟩ := hnames.resolve_left hheader
  obtain ⟨rest, hrest⟩ := List.head?_eq_some_iff.mp he
  have hfirst := head?_read (print doc)
  have hentries := entries_read_nil (print doc)
  rw [hread, hrest] at hfirst hentries
  refine ⟨hfirst, ?_⟩
  rw [hentries]
  exact List.cons_ne_nil _ _

end

/-- **A document that was read comes back from its own text** exactly when it is of those
that can. -/
theorem read_decode_print_iff {doc : Document} (htext : doc.OfText) :
    read (decode (print doc)) = doc ↔ doc.Kept := by
  constructor
  · intro hread
    have hplain : doc.Plain := by
      rw [← hread]
      exact plain_read fun hnul => nul_notMem_print doc ((decode_sublist _).subset hnul)
    have hmark := mark_of_reload htext hplain hread
    rw [decode_print_of_entries (hplain.entries htext) hmark] at hread
    exact ⟨hplain, nameless_of_reload htext hplain hread, hmark⟩
  · intro h
    rw [read_decode_print (h.carried htext), h.shown htext]

/-! ## The same, in the lines of the text -/

/-- **What a save and a load keep**, in the lines of the text that was loaded: no NUL in
an entry, no blank behind a name that a NUL ends, a nameless header only where the first
section is nameless and gets an entry, and no byte order mark in front of its first key. -/
structure Keeps (ls : List Line) : Prop where
  nul : ∀ e, .entry e ∈ ls → '\x00' ∉ e.key ∧ '\x00' ∉ e.value
  trimmed : ∀ name, .header name ∈ ls → trim name = name
  nameless : .header [] ∈ ls → (sectionsOf ls).head? = some [] ∧ namelessOf true ls ≠ []
  mark : ∀ e ∈ (namelessOf true ls).head?, ¬byteOrderMark <+: e.key

theorem plain_iff (t : Text) : (read t).Plain ↔
    (∀ e, .entry e ∈ lines t → '\x00' ∉ e.key ∧ '\x00' ∉ e.value) ∧
      ∀ name, .header name ∈ lines t → trim name = name := by
  constructor
  · intro h
    refine ⟨fun e he => ?_, fun name hname => ?_⟩
    · obtain ⟨s, hs, hes⟩ := exists_entry_read.mpr he
      exact h.nul s hs e hes
    · obtain ⟨s, hs, rfl⟩ :=
        List.mem_map.mp (mem_names_read.mpr (mem_sectionsOf.mpr (.inl hname)))
      exact h.trimmed s hs
  · rintro ⟨hnul, htrimmed⟩
    refine ⟨fun s hs e he => hnul e (exists_entry_read.mp ⟨s, hs, he⟩), fun s hs => ?_⟩
    have hname : s.name ∈ (read t).names := List.mem_map_of_mem hs
    rcases mem_sectionsOf.mp (mem_names_read.mp hname) with hheader | ⟨hnil, -⟩
    · exact htrimmed s.name hheader
    · rw [hnil]
      rfl

theorem kept_iff (t : Text) : (read t).Kept ↔ Keeps (lines t) := by
  constructor
  · intro h
    obtain ⟨hnul, htrimmed⟩ := (plain_iff t).mp h.toPlain
    refine ⟨hnul, htrimmed, fun hheader => ?_, fun e he => ?_⟩
    · have hnameless := h.nameless (mem_names_read.mpr (mem_sectionsOf.mpr (.inl hheader)))
      rwa [head?_read, entries_read_nil] at hnameless
    · rw [← entries_read_nil] at he
      have hmem : [] ∈ (read t).names := by
        by_contra hno
        rw [Document.entries_of_notMem hno] at he
        cases he
      obtain ⟨s, hs, hname⟩ := Option.map_eq_some_iff.mp (h.nameless hmem).1
      have hentries : (read t).entries [] = s.entries :=
        hname ▸ Document.entries_of_mem (read_nodup t) (List.mem_of_mem_head? hs)
      exact h.mark s hs hname e (hentries ▸ he)
  · intro h
    refine ⟨(plain_iff t).mpr ⟨h.nul, h.trimmed⟩, fun hmem => ?_, fun s hs hname e he => ?_⟩
    · rw [head?_read, entries_read_nil]
      rcases mem_sectionsOf.mp (mem_names_read.mp hmem) with hheader | ⟨-, e, he⟩
      · exact h.nameless hheader
      · obtain ⟨rest, hrest⟩ := List.head?_eq_some_iff.mp he
        rw [hrest]
        exact ⟨rfl, List.cons_ne_nil _ _⟩
    · have hentries : (read t).entries [] = s.entries :=
        hname ▸ Document.entries_of_mem (read_nodup t) (List.mem_of_mem_head? hs)
      refine h.mark e ?_
      rwa [← entries_read_nil, hentries]

/-! ## The size of what is written -/

def headerLength (name : Text) : Nat := if name = [] then 0 else name.length + 3

def entryLength (e : Entry) : Nat := e.key.length + e.value.length + 2

/-- The bytes a save writes: every entry once more, every header once, and an empty line
between two sections. -/
def savedLength (ls : List Line) : Nat :=
  ((entriesOf ls).map entryLength).sum + ((sectionsOf ls).dedup.map headerLength).sum +
    ((sectionsOf ls).dedup.length - 1)

theorem length_section {s : Section} (hname : '\x00' ∉ s.name)
    (hentries : ∀ e ∈ s.entries, '\x00' ∉ e.key ∧ '\x00' ∉ e.value) :
    s.print.length = headerLength s.name + (s.entries.map entryLength).sum := by
  have hsum : (s.entries.flatMap Entry.print).length = (s.entries.map entryLength).sum := by
    rw [List.length_flatMap]
    refine congrArg List.sum (List.map_congr_left fun e he => ?_)
    obtain ⟨hkey, hvalue⟩ := hentries e he
    simp only [Entry.print, cString_eq_self.mpr hkey, cString_eq_self.mpr hvalue, entryLength,
      List.length_append, List.length_cons, List.length_nil]
    omega
  rw [Section.print, List.length_append, hsum, headerLength]
  split
  · rfl
  · simp [cString_eq_self.mpr hname]

theorem length_print {doc : Document} (hnames : ∀ s ∈ doc, '\x00' ∉ s.name)
    (hentries : ∀ s ∈ doc, ∀ e ∈ s.entries, '\x00' ∉ e.key ∧ '\x00' ∉ e.value) :
    (print doc).length = ((doc.flatMap Section.entries).map entryLength).sum +
      (doc.names.map headerLength).sum + (doc.names.length - 1) := by
  induction doc with
  | nil => rfl
  | cons s rest ih =>
    have hs := length_section (hnames s (by simp)) (hentries s (by simp))
    have hrest := ih (fun s hs => hnames s (List.mem_cons_of_mem _ hs))
      (fun s hs => hentries s (List.mem_cons_of_mem _ hs))
    have hnames : Document.names (s :: rest) = s.name :: Document.names rest := rfl
    rw [List.flatMap_cons, List.map_append, List.sum_append, hnames, List.map_cons, List.sum_cons]
    cases rest with
    | nil =>
      have hprint : print [s] = s.print := rfl
      rw [hprint, hs]
      simp [Document.names]
      omega
    | cons s' rest =>
      have hprint : print (s :: s' :: rest) = s.print ++ '\n' :: print (s' :: rest) := rfl
      rw [hprint, List.length_append, List.length_cons, hs, hrest]
      simp only [Document.names, List.map_cons, List.length_cons]
      omega

theorem length_print_read {t : Text} (h : (read t).Plain) :
    (print (read t)).length = savedLength (lines t) := by
  have hnames : (read t).names.Perm (sectionsOf (lines t)).dedup := by
    refine (List.perm_ext_iff_of_nodup (read_nodup t) (List.nodup_dedup _)).mpr fun name => ?_
    rw [mem_names_read, List.mem_dedup]
  rw [length_print (fun s hs => ((read_ofText t).names s hs).2) h.nul, savedLength,
    ((entries_read_perm t).map entryLength).sum_eq, (hnames.map headerLength).sum_eq,
    hnames.length_eq]

end GreenCurve.Ini

namespace GreenCurve.Profile

open Ini (Text Document Keeps savedLength)

/-- **A save and a load of an accepted file give the same document back**, and accept it,
exactly when the lines of the file are of those that a save and a load keep and what is
written is no larger than a file may be. -/
theorem ini_reload {text : Text} {doc : Document} (h : loadIniDocument text = .ok doc) :
    loadIniDocument (Ini.print doc) = .ok doc ↔
      Keeps (Ini.lines (Ini.decode text)) ∧
        savedLength (Ini.lines (Ini.decode text)) ≤ LINUX_INI_MAX_BYTES := by
  obtain ⟨-, rfl, hwithin⟩ := loadIniDocument_eq_ok.mp h
  have htext := Ini.read_ofText (Ini.decode text)
  rw [loadIniDocument_eq_ok, Ini.read_decode_print_iff htext, ← Ini.kept_iff]
  constructor
  · rintro ⟨hsize, hkept, -⟩
    exact ⟨hkept, Ini.length_print_read hkept.toPlain ▸ hsize⟩
  · rintro ⟨hkept, hsize⟩
    exact ⟨(Ini.length_print_read hkept.toPlain).symm ▸ hsize, hkept, hwithin⟩

theorem ini_reload_named :
    loadIniDocument (Ini.print [⟨"fan".toList, [⟨"mode".toList, "auto".toList⟩]⟩]) =
        .ok [⟨"fan".toList, [⟨"mode".toList, "auto".toList⟩]⟩] ↔
      Keeps (Ini.lines (Ini.decode "[ fan ]\r\n; by hand\r\nmode = auto".toList)) ∧
        savedLength (Ini.lines (Ini.decode "[ fan ]\r\n; by hand\r\nmode = auto".toList)) ≤
          LINUX_INI_MAX_BYTES :=
  ini_reload (by decide +kernel)

/-- A section without a name is written without a header: what it holds joins the section
before it. -/
theorem nameless_section_lost :
    loadIniDocument "[controls]\n[]\nmem_offset_mhz=1000\n".toList =
        .ok [⟨"controls".toList, []⟩, ⟨[], [⟨"mem_offset_mhz".toList, "1000".toList⟩]⟩] ∧
      loadIniDocument (Ini.print
          [⟨"controls".toList, []⟩, ⟨[], [⟨"mem_offset_mhz".toList, "1000".toList⟩]⟩]) =
        .ok [⟨"controls".toList, [⟨"mem_offset_mhz".toList, "1000".toList⟩]⟩] := by
  constructor <;> decide +kernel

end GreenCurve.Profile
