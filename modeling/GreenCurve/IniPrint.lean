import GreenCurve.IniText

/-! # Printing documents

A document is printed section by section.  What the text can carry comes back from it:
names and entries without a blank at an end and without a NUL, no two sections of one
name, and no nameless section with entries behind another section, because a nameless
section is printed without a header. -/

namespace GreenCurve.Ini

def Entry.print (e : Entry) : Text := cString e.key ++ '=' :: cString e.value ++ ['\n']

/-- A section as it is printed: the nameless one has no header. -/
def Section.print (s : Section) : Text :=
  (if s.name = [] then [] else '[' :: cString s.name ++ [']', '\n']) ++
    s.entries.flatMap Entry.print

/-- The sections one after the other, with an empty line between two. -/
def print : Document → Text
  | [] => []
  | [s] => s.print
  | s :: rest => s.print ++ '\n' :: print rest

/-- An entry whose line is read as the entry. -/
structure Entry.Carried (e : Entry) : Prop where
  line : readLine (e.key ++ '=' :: e.value) = .entry e
  newline : '\n' ∉ e.key ++ '=' :: e.value
  nul : '\x00' ∉ e.key ∧ '\x00' ∉ e.value

/-- A name whose header is read as the name. -/
structure CarriedName (name : Text) : Prop where
  trimmed : trim name = name
  newline : '\n' ∉ name
  nul : '\x00' ∉ name

def byteOrderMark : Text := ['\u00ef', '\u00bb', '\u00bf']

/-- The text without the byte order mark in front of it. -/
def decode (t : Text) : Text := if byteOrderMark <+: t then t.drop 3 else t

/-- **What a text can carry**: every name and every entry, no two sections of one name,
a nameless section only in front (it has no header), and no byte order mark where the
text begins. -/
structure Document.Carried (doc : Document) : Prop where
  nodup : doc.names.Nodup
  headers : ∀ s ∈ doc, CarriedName s.name
  entries : ∀ s ∈ doc, ∀ e ∈ s.entries, e.Carried
  nameless : ∀ s ∈ doc.tail, s.name = [] → s.entries = []
  mark : ∀ s ∈ doc.head?, s.name = [] → ∀ e ∈ s.entries.head?, ¬byteOrderMark <+: e.key

theorem CarriedName.header {name : Text} (h : CarriedName name) :
    readLine ('[' :: name ++ [']']) = .header name := by
  have htrim : trim ('[' :: name ++ [']']) = '[' :: name ++ [']'] := by
    refine trim_eq_self.mpr ⟨?_, ?_⟩
    · rintro _ ⟨⟩
      decide
    · intro c hc
      rw [List.getLast?_append, List.getLast?_singleton] at hc
      obtain rfl : ']' = c := by simpa using hc
      decide
  have hlast : ('[' :: (name ++ [']'])).getLast? = some ']' := by
    rw [← List.cons_append, List.getLast?_append, List.getLast?_singleton]
    rfl
  unfold readLine
  rw [htrim]
  simp [h.trimmed, cString_eq_self.mpr h.nul, hlast]

namespace Reader

theorem text_append_newline (r : Reader) (t rest : Text) :
    r.text (t ++ '\n' :: rest) = (r.text t).text rest := by
  rw [text, List.splitOn_append_cons_self, List.foldl_append]
  rfl

theorem text_of_notMem (r : Reader) {t : Text} (h : '\n' ∉ t) : r.text t = r.line t := by
  rw [text, List.splitOn_eq_singleton h]
  rfl

@[simp] theorem text_nil (r : Reader) : r.text [] = r := rfl

theorem text_line (r : Reader) {t : Text} (h : '\n' ∉ t) (rest : Text) :
    r.text (t ++ '\n' :: rest) = (r.line t).text rest := by
  rw [text_append_newline, text_of_notMem r h]

def addAll (r : Reader) (entries : List Entry) : Reader := entries.foldl add r

/-- A section as its text is read. -/
def readSection (r : Reader) (s : Section) : Reader :=
  (if s.name = [] then r else r.enter s.name).addAll s.entries

theorem text_entry (r : Reader) {e : Entry} (h : e.Carried) (rest : Text) :
    r.text (e.print ++ rest) = (r.add e).text rest := by
  have hprint : e.print ++ rest = (e.key ++ '=' :: e.value) ++ '\n' :: rest := by
    simp [Entry.print, cString_eq_self.mpr h.nul.1, cString_eq_self.mpr h.nul.2]
  rw [hprint, text_line r h.newline, line, h.line]

theorem text_entries (r : Reader) {entries : List Entry} (h : ∀ e ∈ entries, e.Carried)
    (rest : Text) : r.text (entries.flatMap Entry.print ++ rest) = (r.addAll entries).text rest := by
  induction entries generalizing r with
  | nil => rfl
  | cons e tail ih =>
    rw [List.flatMap_cons, List.append_assoc, text_entry r (h e (by simp)),
      ih _ fun e' he' => h e' (List.mem_cons_of_mem _ he')]
    rfl

theorem text_section (r : Reader) {s : Section} (hname : CarriedName s.name)
    (hentries : ∀ e ∈ s.entries, e.Carried) (rest : Text) :
    r.text (s.print ++ rest) = (r.readSection s).text rest := by
  unfold Section.print readSection
  by_cases h : s.name = []
  · rw [if_pos h, if_pos h, List.nil_append, text_entries r hentries]
  · have hheader : '[' :: cString s.name ++ [']', '\n'] ++ s.entries.flatMap Entry.print ++ rest =
        ('[' :: s.name ++ [']']) ++ '\n' :: (s.entries.flatMap Entry.print ++ rest) := by
      simp [cString_eq_self.mpr hname.nul]
    have hnewline : '\n' ∉ '[' :: s.name ++ [']'] := by simp [hname.newline]
    rw [if_neg h, if_neg h, hheader, text_line r hnewline, line, hname.header,
      text_entries _ hentries]

theorem text_print (r : Reader) {doc : Document} (hnames : ∀ s ∈ doc, CarriedName s.name)
    (hentries : ∀ s ∈ doc, ∀ e ∈ s.entries, e.Carried) :
    r.text (print doc) = doc.foldl readSection r := by
  induction doc generalizing r with
  | nil => rfl
  | cons s rest ih =>
    have hs := hnames s (by simp)
    have hse := hentries s (by simp)
    have hrest := fun r => ih r (fun s hs => hnames s (List.mem_cons_of_mem _ hs))
      (fun s hs => hentries s (List.mem_cons_of_mem _ hs))
    cases rest with
    | nil =>
      have h := text_section r hs hse []
      rw [List.append_nil, text_nil] at h
      exact h
    | cons s' rest =>
      have hline : ∀ r : Reader, r.text ('\n' :: print (s' :: rest)) = r.text (print (s' :: rest)) :=
        fun r => text_append_newline r [] _
      have hprint : print (s :: s' :: rest) = s.print ++ '\n' :: print (s' :: rest) := rfl
      rw [hprint, text_section r hs hse, hline, hrest]
      rfl

/-! ### The document of a printed document -/

theorem document_addAll {doc : Document} {name : Text} (hfresh : name ∉ doc.names)
    (entries : List Entry) : ∀ {r : Reader} {first : List Entry},
      r.document = doc ++ [⟨name, first⟩] → r.current = some name →
        (r.addAll entries).document = doc ++ [⟨name, first ++ entries⟩] := by
  induction entries with
  | nil =>
    intro r first hdoc _
    simpa [addAll] using hdoc
  | cons e rest ih =>
    intro r first hdoc hcurrent
    have htarget : r.target = name := by rw [target, hcurrent, Option.getD_some]
    have hadd : (r.add e).document = doc ++ [⟨name, first ++ [e]⟩] := by
      change r.document.upsert r.target (· ++ [e]) = _
      rw [htarget, hdoc, Document.upsert_append_of_notMem hfresh]
    have hcurrent' : (r.add e).current = some name := congrArg some htarget
    have h := ih hadd hcurrent'
    rwa [List.append_assoc, List.singleton_append] at h

/-- A section of a new name is read as itself, behind what is there. -/
theorem document_readSection {r : Reader} {s : Section} (hname : s.name ≠ [])
    (hfresh : s.name ∉ r.document.names) : (r.readSection s).document = r.document ++ [s] := by
  rw [readSection, if_neg hname]
  have henter : (r.enter s.name).document = r.document ++ [⟨s.name, []⟩] :=
    Document.upsert_of_notMem hfresh id
  exact document_addAll hfresh s.entries henter rfl

end Reader

/-- A section that leaves a trace in the text. -/
def Section.shown (s : Section) : Bool := decide (s.name ≠ [] ∨ s.entries ≠ [])

namespace Reader

theorem document_readSections {doc : Document} (hnameless : ∀ s ∈ doc, s.name = [] → s.entries = [])
    (hnodup : doc.names.Nodup) : ∀ {r : Reader}, (∀ s ∈ doc, s.name ∉ r.document.names ∨ s.name = []) →
      (doc.foldl readSection r).document = r.document ++ doc.filter Section.shown := by
  induction doc with
  | nil =>
    intro r _
    simp
  | cons s rest ih =>
    intro r hfresh
    simp only [Document.names, List.map_cons, List.nodup_cons] at hnodup
    have ih' := fun {r} => ih (fun s hs => hnameless s (List.mem_cons_of_mem _ hs)) hnodup.2 (r := r)
    rw [List.foldl_cons]
    by_cases hname : s.name = []
    · have hentries := hnameless s (by simp) hname
      have hread : r.readSection s = r := by
        rw [readSection, if_pos hname, hentries]
        rfl
      have hshown : s.shown = false := by simp [Section.shown, hname, hentries]
      rw [hread, List.filter_cons, hshown, ih' fun s hs => hfresh s (List.mem_cons_of_mem _ hs)]
      rfl
    · have hdoc := document_readSection hname ((hfresh s (by simp)).resolve_right hname)
      have hshown : s.shown = true := by simp [Section.shown, hname]
      rw [List.filter_cons, hshown, if_pos rfl, ih', hdoc, List.append_assoc,
        List.singleton_append]
      intro s' hs'
      rcases hfresh s' (List.mem_cons_of_mem _ hs') with hnew | hnil
      · left
        have hne : s'.name ≠ s.name := fun heq => hnodup.1 (heq ▸ List.mem_map_of_mem hs')
        rw [hdoc]
        simpa [Document.names] using ⟨by simpa [Document.names] using hnew, hne⟩
      · exact .inr hnil

theorem document_readFirst (s : Section) :
    (readSection {} s).document = [s].filter Section.shown := by
  by_cases hname : s.name = []
  · rw [readSection, if_pos hname]
    cases hentries : s.entries with
    | nil => simp [addAll, Section.shown, hname, hentries]
    | cons e es =>
      have hadd : ((({} : Reader).add e).addAll es).document = [] ++ [⟨[], [e] ++ es⟩] :=
        document_addAll (show [] ∉ Document.names [] by simp [Document.names]) es rfl rfl
      have hs : s = ⟨[], e :: es⟩ := by
        rw [← hname, ← hentries]
      have hshown : s.shown = true := by simp [Section.shown, hentries]
      rw [List.filter_cons, hshown, if_pos rfl, List.filter_nil, hs]
      exact hadd
  · have hshown : s.shown = true := by simp [Section.shown, hname]
    rw [document_readSection hname (by simp [Document.names]), List.filter_cons, hshown]
    rfl

end Reader

/-- **A document the text can carry comes back from its text**, without the nameless
section that has no entry. -/
theorem read_print {doc : Document} (h : doc.Carried) :
    read (print doc) = doc.filter Section.shown := by
  rw [read, Reader.text_print _ h.headers h.entries]
  cases doc with
  | nil => rfl
  | cons s rest =>
    have hnodup : s.name ∉ Document.names rest ∧ (Document.names rest).Nodup := by
      simpa [Document.names] using h.nodup
    have hfirst : (Reader.readSection {} s).document = [s].filter Section.shown :=
      Reader.document_readFirst s
    have hfresh : ∀ s' ∈ rest, s'.name ∉ (Reader.readSection {} s).document.names ∨
        s'.name = [] := by
      intro s' hs'
      left
      rw [hfirst]
      intro hmem
      obtain ⟨t, ht, heq⟩ := List.mem_map.mp hmem
      obtain rfl : t = s := List.mem_singleton.mp (List.mem_filter.mp ht).1
      exact hnodup.1 (heq ▸ List.mem_map_of_mem hs')
    have hnameless : ∀ s ∈ rest, s.name = [] → s.entries = [] := h.nameless
    rw [List.foldl_cons, Reader.document_readSections hnameless hnodup.2 hfresh, hfirst,
      ← List.filter_append, List.singleton_append]

theorem prefix_of_prefix_append_cons {p a b : Text} {c : Char} (hc : c ∉ p)
    (h : p <+: a ++ c :: b) : p <+: a := by
  rcases Nat.lt_or_ge a.length p.length with hlt | hle
  · have hac : a ++ [c] <+: a ++ c :: b := ⟨b, by simp⟩
    have hlen : (a ++ [c]).length ≤ p.length := by
      rw [List.length_append, List.length_singleton]
      exact hlt
    obtain ⟨rest, rfl⟩ := List.prefix_of_prefix_length_le hac h hlen
    simp at hc
  · exact List.prefix_of_prefix_length_le h (List.prefix_append a _) hle

/-- A printed document begins with the byte order mark only if the first key of its first,
nameless section does. -/
theorem decode_print_of_entries {doc : Document}
    (hentries : ∀ s ∈ doc, ∀ e ∈ s.entries, e.Carried)
    (hfirst : ∀ s ∈ doc.head?, s.name = [] → ∀ e ∈ s.entries.head?, ¬byteOrderMark <+: e.key) :
    decode (print doc) = print doc := by
  unfold decode
  rw [if_neg]
  intro hmark
  cases doc with
  | nil => exact absurd hmark (by decide)
  | cons s rest =>
    obtain ⟨tail, htail, hbreak⟩ : ∃ tail, print (s :: rest) = s.print ++ tail ∧
        ∀ c ∈ tail.head?, c = '\n' := by
      cases rest with
      | nil => exact ⟨[], (List.append_nil _).symm, by simp⟩
      | cons s' rest => exact ⟨_, rfl, by simp⟩
    rw [htail, Section.print] at hmark
    by_cases hname : s.name = []
    · rw [if_pos hname, List.nil_append] at hmark
      cases hs : s.entries with
      | nil =>
        rw [hs, List.flatMap_nil, List.nil_append] at hmark
        cases tail with
        | nil => exact absurd hmark (by decide)
        | cons c tail =>
          have hhead := (List.cons_prefix_cons.mp hmark).1
          rw [hbreak c rfl] at hhead
          exact absurd hhead (by decide)
      | cons e es =>
        have he := hentries s (by simp) e (by simp [hs])
        rw [hs, List.flatMap_cons, Entry.print, cString_eq_self.mpr he.nul.1,
          List.append_assoc, List.append_assoc, List.append_assoc, List.cons_append] at hmark
        exact hfirst s rfl hname e (by simp [hs])
          (prefix_of_prefix_append_cons (by decide) hmark)
    · rw [if_neg hname] at hmark
      have hhead := (List.cons_prefix_cons.mp hmark).1
      exact absurd hhead (by decide)

/-- The byte order mark is no part of what is printed. -/
theorem decode_print {doc : Document} (h : doc.Carried) : decode (print doc) = print doc :=
  decode_print_of_entries h.entries h.mark

/-! ## Words -/

/-- What the names, keys and values of a program are written with. -/
def isWord (c : Char) : Bool := c.isAlphanum || c == '_' || c == '-'

theorem notMem_of_isWord {t : Text} (h : t.all isWord = true) {c : Char}
    (hc : isWord c = false) : c ∉ t := by
  intro hmem
  rw [List.all_eq_true.mp h c hmem] at hc
  cases hc

theorem not_isBlank_of_isWord {c : Char} (h : isWord c = true) : isBlank c = false := by
  by_contra hblank
  have hle : c ≤ ' ' := by simpa [isBlank] using hblank
  have hle : c.toNat ≤ 32 := hle
  delta isWord Char.isAlphanum Char.isAlpha Char.isUpper Char.isLower Char.isDigit at h
  simp only [Bool.or_eq_true, Bool.and_eq_true, decide_eq_true_eq, beq_iff_eq, ge_iff_le,
    UInt32.le_iff_toNat_le] at h
  have hval : c.val.toNat = c.toNat := rfl
  rcases h with (((h | h) | h) | rfl) | rfl
  · have hge := h.1
    simp only [Char.reduceVal, UInt32.reduceToNat] at hge
    omega
  · have hge := h.1
    simp only [Char.reduceVal, UInt32.reduceToNat] at hge
    omega
  · have hge := h.1
    simp only [Char.reduceVal, UInt32.reduceToNat] at hge
    omega
  · exact absurd hle (by decide)
  · exact absurd hle (by decide)

theorem trim_of_isWord {t : Text} (h : t.all isWord = true) : trim t = t := by
  refine trim_eq_self.mpr ⟨fun c hc => ?_, fun c hc => ?_⟩
  · exact not_isBlank_of_isWord (List.all_eq_true.mp h c (List.mem_of_mem_head? hc))
  · exact not_isBlank_of_isWord (List.all_eq_true.mp h c (List.mem_of_mem_getLast? hc))

theorem carriedName_of_isWord {name : Text} (h : name.all isWord = true) : CarriedName name where
  trimmed := trim_of_isWord h
  newline := notMem_of_isWord h (by decide)
  nul := notMem_of_isWord h (by decide)

theorem Entry.carried_of_isWord {e : Entry} (hkey : e.key.all isWord = true)
    (hvalue : e.value.all isWord = true) : e.Carried where
  line := by
    refine readLine_entry (trim_of_isWord hkey) (trim_of_isWord hvalue)
      (notMem_of_isWord hkey (by decide)) ?_ ?_
    · intro c hc
      have hword := List.all_eq_true.mp hkey c (List.mem_of_mem_head? hc)
      constructor <;> rintro rfl <;> exact absurd hword (by decide)
    · rintro ⟨hopening, -⟩
      exact notMem_of_isWord hkey (by decide) (List.mem_of_mem_head? hopening)
  newline := by
    have hk := notMem_of_isWord hkey (c := '\n') (by decide)
    have hv := notMem_of_isWord hvalue (c := '\n') (by decide)
    simp [hk, hv]
  nul := ⟨notMem_of_isWord hkey (by decide), notMem_of_isWord hvalue (by decide)⟩

/-- The sections that leave no trace are no loss to who looks a section up. -/
theorem Document.entries_filter_shown {doc : Document} (h : doc.names.Nodup) (name : Text) :
    Document.entries (doc.filter Section.shown) name = doc.entries name := by
  induction doc with
  | nil => rfl
  | cons s rest ih =>
    simp only [names, List.map_cons, List.nodup_cons] at h
    rw [List.filter_cons, entries_cons]
    split
    · rw [entries_cons, ih h.2]
    · rename_i hhidden
      rw [ih h.2]
      by_cases hname : s.name = name
      · have hentries : s.entries = [] := by
          simp only [Section.shown, decide_eq_true_eq, not_or, not_not] at hhidden
          exact hhidden.2
        rw [if_pos hname, hentries, entries_of_notMem (hname ▸ h.1)]
      · rw [if_neg hname]

/-! ## Edits the text can carry -/

/-- A named section with entries the text can carry. -/
theorem Document.Carried.upsert {doc : Document} (h : doc.Carried) {name : Text}
    (hname : name.all isWord = true) (hne : name ≠ []) {f : List Entry → List Entry}
    (hf : ∀ entries, (∀ e ∈ entries, e.Carried) → ∀ e ∈ f entries, e.Carried) :
    Document.Carried (doc.upsert name f) where
  nodup := nodup_upsert h.nodup name f
  headers := forall_upsert h.headers (carriedName_of_isWord hname)
    fun _ _ _ => carriedName_of_isWord hname
  entries := forall_upsert h.entries (hf [] (by simp)) fun s hs _ => hf _ (h.entries s hs)
  nameless := by
    have hnameless := h.nameless
    cases doc with
    | nil => simp [Document.upsert]
    | cons s rest =>
      unfold Document.upsert
      split
      · exact hnameless
      · exact forall_upsert hnameless (fun heq => absurd heq hne) fun _ _ _ heq => absurd heq hne
  mark := by
    have hmark := h.mark
    cases doc with
    | nil =>
      rintro _ ⟨⟩ heq
      exact absurd heq hne
    | cons s rest =>
      unfold Document.upsert
      split
      · rename_i heq
        rintro _ ⟨⟩ hnil
        exact absurd (heq.symm.trans hnil) hne
      · exact hmark

/-- New entries in named sections. -/
theorem Document.Carried.map {doc : Document} (h : doc.Carried) {f : Section → Section}
    (hname : ∀ s, (f s).name = s.name) (hnameless : ∀ s, s.name = [] → f s = s)
    (hf : ∀ s ∈ doc, ∀ e ∈ (f s).entries, e.Carried) : Document.Carried (doc.map f) where
  nodup := by
    have hnames : Document.names (doc.map f) = doc.names := by
      simp [Document.names, hname]
    rw [hnames]
    exact h.nodup
  headers := by
    intro t ht
    obtain ⟨s, hs, rfl⟩ := List.mem_map.mp ht
    rw [hname]
    exact h.headers s hs
  entries := by
    intro t ht
    obtain ⟨s, hs, rfl⟩ := List.mem_map.mp ht
    exact hf s hs
  nameless := by
    intro t ht hnil
    rw [← List.map_tail] at ht
    obtain ⟨s, hs, rfl⟩ := List.mem_map.mp ht
    rw [hname] at hnil
    rw [hnameless s hnil]
    exact h.nameless s hs hnil
  mark := by
    intro t ht hnil
    rw [List.head?_map] at ht
    obtain ⟨s, hs, rfl⟩ := Option.map_eq_some_iff.mp ht
    rw [hname] at hnil
    rw [hnameless s hnil]
    exact h.mark s hs hnil

/-- An entry of words in a list of entries. -/
theorem carried_assign {key value : Text} (hkey : key.all isWord = true)
    (hvalue : value.all isWord = true) {entries : List Entry} (h : ∀ e ∈ entries, e.Carried) :
    ∀ e ∈ assign key value entries, e.Carried := by
  induction entries with
  | nil =>
    intro e he
    rw [assign, List.mem_singleton] at he
    subst he
    exact Entry.carried_of_isWord hkey hvalue
  | cons a rest ih =>
    unfold assign
    split
    · rename_i heq
      rintro e (_ | ⟨_, he⟩)
      · exact Entry.carried_of_isWord (by rw [heq]; exact hkey) hvalue
      · exact h e (List.mem_cons_of_mem _ he)
    · rintro e (_ | ⟨_, he⟩)
      · exact h a (by simp)
      · exact ih (fun e he => h e (List.mem_cons_of_mem _ he)) e he

theorem read_decode_print {doc : Document} (h : doc.Carried) :
    read (decode (print doc)) = doc.filter Section.shown := by
  rw [decode_print h, read_print h]

end GreenCurve.Ini
