import GreenCurve.IniPrint
import Mathlib.Data.List.Dedup

/-! # A document and the lines of its text

What a document holds is settled by the lines of its text, without a reader: the entries
are those of the lines (`entries_read_perm`), the names are those of the headers, with
the nameless section in front of them when an entry comes before any header
(`mem_names_read`), and the entries of the nameless section are those that follow no
header of another name (`entries_read_nil`). -/

namespace GreenCurve.Ini

/-- The lines of a text that say something. -/
def lines (t : Text) : List Line := ((t.splitOn '\n').map readLine).filter (· ≠ .skipped)

/-- The entries of the lines, in their order. -/
def entriesOf : List Line → List Entry
  | [] => []
  | .entry e :: rest => e :: entriesOf rest
  | _ :: rest => entriesOf rest

/-- The names of the headers, in their order. -/
def headersOf : List Line → List Text
  | [] => []
  | .header name :: rest => name :: headersOf rest
  | _ :: rest => headersOf rest

/-- The names of the sections: an entry before any header opens the nameless one. -/
def sectionsOf : List Line → List Text
  | .entry e :: rest => [] :: headersOf (.entry e :: rest)
  | ls => headersOf ls

/-- The entries of the nameless section; `here` says that the line stands in it. -/
def namelessOf : Bool → List Line → List Entry
  | _, [] => []
  | _, .header name :: rest => namelessOf (decide (name = [])) rest
  | here, .entry e :: rest => if here then e :: namelessOf here rest else namelessOf here rest
  | here, .skipped :: rest => namelessOf here rest

theorem mem_entriesOf {ls : List Line} {e : Entry} : e ∈ entriesOf ls ↔ .entry e ∈ ls := by
  fun_induction entriesOf ls <;> grind

theorem mem_headersOf {ls : List Line} {name : Text} :
    name ∈ headersOf ls ↔ .header name ∈ ls := by
  fun_induction headersOf ls <;> grind

theorem mem_sectionsOf {ls : List Line} {name : Text} :
    name ∈ sectionsOf ls ↔ .header name ∈ ls ∨ name = [] ∧ ∃ e, ls.head? = some (.entry e) := by
  fun_cases sectionsOf ls with
  | case1 e rest => grind [mem_headersOf]
  | case2 ls hfirst =>
    have hno : ¬∃ e, ls.head? = some (.entry e) := by
      rintro ⟨e, he⟩
      obtain ⟨rest, rfl⟩ := List.head?_eq_some_iff.mp he
      exact hfirst e rest rfl
    simp [mem_headersOf, hno]

@[simp] theorem entriesOf_append (ls ls' : List Line) :
    entriesOf (ls ++ ls') = entriesOf ls ++ entriesOf ls' := by
  fun_induction entriesOf ls <;> simp_all [entriesOf]

@[simp] theorem entriesOf_map (entries : List Entry) :
    entriesOf (entries.map .entry) = entries := by
  induction entries with
  | nil => rfl
  | cons e rest ih => rw [List.map_cons, entriesOf, ih]

/-! ## Lines of texts -/

theorem lines_append_newline (t rest : Text) :
    lines (t ++ '\n' :: rest) = lines t ++ lines rest := by
  rw [lines, List.splitOn_append_cons_self, List.map_append, List.filter_append]
  rfl

theorem lines_of_notMem {t : Text} (h : '\n' ∉ t) :
    lines t = [readLine t].filter (· ≠ .skipped) := by
  rw [lines, List.splitOn_eq_singleton h]
  rfl

@[simp] theorem lines_nil : lines [] = [] := rfl

/-- What every line of a text has, if the text has it. -/
theorem subset_of_mem_splitOn {c : Char} {t line : Text} (h : line ∈ t.splitOn c) : line ⊆ t := by
  induction t generalizing line with
  | nil =>
    rw [List.splitOn_nil, List.mem_singleton] at h
    simp [h]
  | cons a rest ih =>
    rw [List.splitOn_cons_eq_if_modifyHead] at h
    split at h
    · rcases List.mem_cons.mp h with rfl | h
      · simp
      · exact List.Subset.trans (ih h) (List.subset_cons_self a rest)
    · cases hsplit : rest.splitOn c with
      | nil => simp [hsplit] at h
      | cons first others =>
        rw [hsplit, List.modifyHead_cons] at h
        rcases List.mem_cons.mp h with rfl | h
        · exact List.cons_subset_cons a (ih (by simp [hsplit]))
        · exact List.Subset.trans (ih (by simp [hsplit, h])) (List.subset_cons_self a rest)

theorem exists_line_of_mem_lines {t : Text} {l : Line} (h : l ∈ lines t) :
    ∃ line ∈ t.splitOn '\n', readLine line = l :=
  List.mem_map.mp (List.mem_filter.mp h).1

/-- What an entry is read from holds its key, the sign and its value. -/
theorem length_of_readLine {line : Text} {e : Entry} (h : readLine line = .entry e) :
    e.key.length + e.value.length + 1 ≤ line.length := by
  obtain ⟨m, hm⟩ : ∃ m, trim line = m := ⟨_, rfl⟩
  have hlength : m.length ≤ line.length := hm ▸ (trim_sublist line).length_le
  simp only [readLine, hm] at h
  split at h
  · cases h
  split at h
  · cases h
  split at h
  · rename_i hequals
    obtain ⟨key, value, rfl, hkey⟩ := List.eq_append_cons_of_mem hequals
    simp only [takeWhile_equals value hkey, dropWhile_equals value hkey, List.tail_cons,
      Line.entry.injEq] at h
    subst h
    have hk := (trim_sublist key).length_le
    have hv := (trim_sublist value).length_le
    simp only [List.length_append, List.length_cons] at hlength ⊢
    omega
  · cases h

/-- A line without a NUL names its section as it stands. -/
theorem trim_of_readLine {line name : Text} (h : readLine line = .header name)
    (hnul : '\x00' ∉ line) : trim name = name := by
  obtain ⟨m, hm⟩ : ∃ m, trim line = m := ⟨_, rfl⟩
  have hmnul : '\x00' ∉ m := fun hmem => hnul ((trim_sublist line).subset (hm ▸ hmem))
  simp only [readLine, hm] at h
  split at h
  · cases h
  split at h
  · have hinner : '\x00' ∉ trim m.tail.dropLast := fun hmem =>
      hmnul (List.mem_of_mem_tail ((List.dropLast_sublist _).subset ((trim_sublist _).subset hmem)))
    rw [cString_eq_self.mpr hinner, Line.header.injEq] at h
    rw [← h, trim_trim]
  split at h <;> cases h

/-- A line without a NUL has an entry without one. -/
theorem nul_of_readLine {line : Text} {e : Entry} (h : readLine line = .entry e)
    (hnul : '\x00' ∉ line) : '\x00' ∉ e.key ∧ '\x00' ∉ e.value := by
  obtain ⟨m, hm⟩ : ∃ m, trim line = m := ⟨_, rfl⟩
  have hmnul : '\x00' ∉ m := fun hmem => hnul ((trim_sublist line).subset (hm ▸ hmem))
  simp only [readLine, hm] at h
  split at h
  · cases h
  split at h
  · cases h
  split at h
  · rw [Line.entry.injEq] at h
    subst h
    constructor
    · exact fun hmem => hmnul ((List.takeWhile_sublist _).subset ((trim_sublist _).subset hmem))
    · exact fun hmem => hmnul ((List.dropWhile_sublist _).subset
        (List.mem_of_mem_tail ((trim_sublist _).subset hmem)))
  · cases h

/-! ## Readers -/

namespace Reader

/-- A reader behind a line. -/
def take (r : Reader) : Line → Reader
  | .skipped => r
  | .header name => r.enter name
  | .entry e => r.add e

theorem text_eq_foldl (r : Reader) (t : Text) : r.text t = (lines t).foldl take r := by
  have hline : ∀ (ts : List Text) (r : Reader),
      ts.foldl line r = ((ts.map readLine).filter (· ≠ .skipped)).foldl take r := by
    intro ts
    induction ts with
    | nil => exact fun _ => rfl
    | cons t rest ih =>
      intro r
      rw [List.foldl_cons, ih, List.map_cons, List.filter_cons, line]
      cases readLine t <;> rfl
  exact hline _ r

/-- The entries of a document are its old ones and those of the lines. -/
theorem entries_foldl_perm (ls : List Line) (r : Reader) :
    ((ls.foldl take r).document.flatMap Section.entries).Perm
      (r.document.flatMap Section.entries ++ entriesOf ls) := by
  have hupsert : ∀ (doc : Document) (name : Text) (new : List Entry),
      ((doc.upsert name (· ++ new)).flatMap Section.entries).Perm
        (doc.flatMap Section.entries ++ new) := by
    intro doc name new
    induction doc with
    | nil => simp [Document.upsert]
    | cons s rest ih =>
      unfold Document.upsert
      split
      · simp only [List.flatMap_cons, List.append_assoc]
        exact List.perm_append_comm.append_left s.entries
      · simp only [List.flatMap_cons, List.append_assoc]
        exact ih.append_left s.entries
  induction ls generalizing r with
  | nil => simp [entriesOf]
  | cons l rest ih =>
    rw [List.foldl_cons]
    cases l with
    | skipped => exact ih r
    | header name =>
      have hsame : (r.enter name).document = r.document.upsert name (· ++ []) := by
        simp [enter, Function.id_def]
      have hdoc := hupsert r.document name []
      rw [← hsame, List.append_nil] at hdoc
      exact (ih (r.enter name)).trans (hdoc.append_right _)
    | entry e =>
      have hdoc : ((r.add e).document.flatMap Section.entries).Perm
          (r.document.flatMap Section.entries ++ [e]) := hupsert r.document r.target [e]
      refine (ih (r.add e)).trans ((hdoc.append_right _).trans ?_)
      rw [List.append_assoc]
      rfl

theorem target_enter (r : Reader) (name : Text) : (r.enter name).target = name := rfl

theorem target_add (r : Reader) (e : Entry) : (r.add e).target = r.target := rfl

/-- The nameless section gets the entries that stand in it. -/
theorem entries_foldl_nil (ls : List Line) (r : Reader) :
    (ls.foldl take r).document.entries [] =
      r.document.entries [] ++ namelessOf (decide (r.target = [])) ls := by
  induction ls generalizing r with
  | nil => simp [namelessOf]
  | cons l rest ih =>
    rw [List.foldl_cons]
    cases l with
    | skipped => exact ih r
    | header name =>
      have hsame : (r.enter name).document.entries [] = r.document.entries [] := by
        by_cases hname : name = []
        · subst hname
          exact Document.entries_upsert_self [] id r.document
        · exact Document.entries_upsert_of_ne (Ne.symm hname) id r.document
      rw [take, ih, hsame, target_enter, namelessOf]
    | entry e =>
      rw [take, ih, target_add]
      by_cases htarget : r.target = []
      · have hnew : (r.add e).document.entries [] = r.document.entries [] ++ [e] := by
          simp only [add, htarget]
          exact Document.entries_upsert_self [] (· ++ [e]) r.document
        rw [hnew, decide_eq_true htarget, namelessOf, if_pos rfl, List.append_assoc,
          List.singleton_append]
      · have hsame : (r.add e).document.entries [] = r.document.entries [] :=
          Document.entries_upsert_of_ne (Ne.symm htarget) _ r.document
        rw [hsame, decide_eq_false htarget, namelessOf, if_neg (by decide)]

/-- A section of the document is an old one, or a header names it, or an entry opens the
section it goes to. -/
theorem mem_names_foldl {ls : List Line} (hls : .skipped ∉ ls) (r : Reader) (name : Text) :
    name ∈ (ls.foldl take r).document.names ↔
      name ∈ r.document.names ∨ .header name ∈ ls ∨
        name = r.target ∧ ∃ e, ls.head? = some (.entry e) := by
  induction ls generalizing r with
  | nil => simp
  | cons l rest ih =>
    rw [List.mem_cons, not_or] at hls
    rw [List.foldl_cons, ih hls.2]
    cases l with
    | skipped => exact absurd rfl hls.1
    | header name' =>
      have hnames : name ∈ (r.enter name').document.names ↔ name ∈ r.document.names ∨ name = name' :=
        Document.mem_names_upsert_iff name' id r.document
      rw [take, hnames, target_enter]
      grind
    | entry e =>
      have hnames : name ∈ (r.add e).document.names ↔ name ∈ r.document.names ∨ name = r.target :=
        Document.mem_names_upsert_iff r.target _ r.document
      rw [take, hnames, target_add]
      grind

/-- The document keeps its first section. -/
theorem head?_foldl (ls : List Line) {r : Reader} {name : Text}
    (h : (r.document.head?).map (·.name) = some name) :
    ((ls.foldl take r).document.head?).map (·.name) = some name := by
  have hupsert : ∀ (doc : Document) (name' : Text) (f : List Entry → List Entry),
      (doc.head?).map (·.name) = some name →
        ((doc.upsert name' f).head?).map (·.name) = some name := by
    intro doc name' f hdoc
    cases doc with
    | nil => cases hdoc
    | cons s rest =>
      unfold Document.upsert
      split <;> exact hdoc
  induction ls generalizing r with
  | nil => exact h
  | cons l rest ih =>
    cases l with
    | skipped => exact ih h
    | header name' => exact ih (hupsert _ _ _ h)
    | entry e => exact ih (hupsert _ _ _ h)

end Reader

/-! ## The document of a text -/

theorem Document.entries_of_mem {doc : Document} (h : doc.names.Nodup) {s : Section}
    (hs : s ∈ doc) : doc.entries s.name = s.entries := by
  induction doc with
  | nil => cases hs
  | cons first rest ih =>
    simp only [names, List.map_cons, List.nodup_cons] at h
    rw [entries_cons]
    rcases List.mem_cons.mp hs with rfl | hs
    · exact if_pos rfl
    · have hne : first.name ≠ s.name := fun heq => h.1 (heq ▸ List.mem_map_of_mem hs)
      rw [if_neg hne, ih h.2 hs]

theorem skipped_notMem_lines (t : Text) : .skipped ∉ lines t := by
  intro h
  simpa using (List.mem_filter.mp h).2

/-- **The entries of a document are those of the lines of its text.** -/
theorem entries_read_perm (t : Text) :
    ((read t).flatMap Section.entries).Perm (entriesOf (lines t)) := by
  have h := Reader.entries_foldl_perm (lines t) {}
  rwa [← Reader.text_eq_foldl] at h

theorem exists_entry_read {t : Text} {e : Entry} :
    (∃ s ∈ read t, e ∈ s.entries) ↔ .entry e ∈ lines t := by
  rw [← mem_entriesOf, ← (entries_read_perm t).mem_iff, List.mem_flatMap]

theorem entries_read_nil (t : Text) :
    (read t).entries [] = namelessOf true (lines t) := by
  rw [read, Reader.text_eq_foldl, Reader.entries_foldl_nil]
  rfl

theorem mem_names_read {t : Text} {name : Text} :
    name ∈ (read t).names ↔ name ∈ sectionsOf (lines t) := by
  rw [read, Reader.text_eq_foldl, Reader.mem_names_foldl (skipped_notMem_lines t), mem_sectionsOf]
  simp [Document.names, Reader.target]

/-- The first line that says something opens the first section. -/
theorem head?_read (t : Text) :
    ((read t).head?).map (·.name) = (sectionsOf (lines t)).head? := by
  rw [read, Reader.text_eq_foldl]
  cases hlines : lines t with
  | nil => rfl
  | cons l rest =>
    cases l with
    | skipped => exact absurd (by simp [hlines]) (skipped_notMem_lines t)
    | header name => exact Reader.head?_foldl rest rfl
    | entry e => exact Reader.head?_foldl rest rfl

end GreenCurve.Ini
