import GreenCurve.BankSections

/-! # What a publication leaves

Every slot of the bank reads as it was found, or like one of five documents: cleared, marked
as being published, marked with its settings, with settings and GPU, or committed.  Each write
of a publication takes its slot from one of these to the next and leaves the other slots as
they read, so whichever write is the last one, no reader pairs the settings of one publication
with the GPU of another.

Slots that were written before there were markers are the exception: they are rejected, and
so the law holds of a bank exactly if it has none (`publication_atomic`). -/

namespace GreenCurve.MachineBank

open Ini (Text Entry Document sameName findSection SameSection)
open Profile (validSlot)
open WinProfile (savedDocument saveProfileToConfig isWritten)
open CrashM

/-! ## The documents of a slot -/

/-- No reader of the slot can tell the two files apart. -/
def Reads (doc doc' : Document) (slot : Nat) : Prop :=
  ∀ name ∈ slotNames slot, SameSection doc doc' name

/-- How far a publication, or the removal of one, has come. -/
inductive Stage where
  | cleared
  | marked
  | staged (p : Publication)
  | bound (p : Publication)
  | committed (p : Publication)

def markedDocument (slot : Nat) : Document :=
  replaceSlotSections [] slot [markerSection slot "publishing"]

def stagedDocument (slot : Nat) (p : Publication) : Document :=
  savedDocument (markedDocument slot) slot p.desired p.live

def boundDocument (slot : Nat) (p : Publication) : Document :=
  Ini.replaceSections (stagedDocument slot p) [gpuName slot] [⟨gpuName slot, gpuEntries p.gpu⟩]

def publishedDocument (slot : Nat) (p : Publication) : Document :=
  Ini.replaceSections (boundDocument slot p) [publishName slot] [markerSection slot "committed"]

/-- What the slot reads like at a stage. -/
def Stage.document (slot : Nat) : Stage → Document
  | cleared => []
  | marked => markedDocument slot
  | staged p => stagedDocument slot p
  | bound p => boundDocument slot p
  | committed p => publishedDocument slot p

section Reads
variable {doc doc' doc'' : Document} {slot : Nat}

theorem Reads.refl (doc : Document) (slot : Nat) : Reads doc doc slot :=
  fun name _ => .refl doc name

theorem Reads.trans (h : Reads doc doc' slot) (h' : Reads doc' doc'' slot) :
    Reads doc doc'' slot :=
  fun name hname => (h name hname).trans (h' name hname)

theorem Reads.symm (h : Reads doc doc' slot) : Reads doc' doc slot :=
  fun name hname => (h name hname).symm

end Reads

/-! ## What the readers see -/

section Readers
variable {doc doc' : Document} {slot : Nat} {name : Text}

theorem settingsNames_subset {slot : Nat} : settingsNames slot ⊆ slotNames slot :=
  List.subset_append_left ..

theorem gpuName_mem (slot : Nat) : gpuName slot ∈ slotNames slot :=
  List.mem_append_right _ (List.mem_cons_self ..)

theorem publishName_mem (slot : Nat) : publishName slot ∈ slotNames slot :=
  List.mem_append_right _ (List.mem_cons_of_mem _ (List.mem_cons_self ..))

theorem Reads.isProfileSlotSaved (h : Reads doc doc' slot) :
    isProfileSlotSaved doc' slot = isProfileSlotSaved doc slot := by
  unfold MachineBank.isProfileSlotSaved
  congr 1
  rw [Bool.eq_iff_iff, List.any_eq_true, List.any_eq_true]
  refine exists_congr fun name => and_congr_right fun hname => ?_
  rw [(h name (settingsNames_subset hname)).hasKeys]

theorem publishState_congr (h : SameSection doc doc' (publishName slot)) :
    machineProfilePublishState doc' slot = machineProfilePublishState doc slot := by
  unfold machineProfilePublishState
  rw [h.getConfigString]

/-- The GPU is read key by key. -/
theorem loadGpu_congr (h : SameSection doc doc' name) :
    loadConfiguredGpuSelectionFromSection doc' name =
      loadConfiguredGpuSelectionFromSection doc name := by
  have hstring : Ini.getString doc' name = Ini.getString doc name :=
    funext fun key => funext fun size => h.getString key size
  have hint : readConfigIntValue doc' name = readConfigIntValue doc name := by
    unfold readConfigIntValue
    rw [hstring]
  have hhex : parseConfigUintHex doc' name = parseConfigUintHex doc name := by
    unfold parseConfigUintHex
    rw [hstring]
  have hrole : readConfigLocationRole doc' name = readConfigLocationRole doc name := by
    unfold readConfigLocationRole
    rw [hstring]
  have hbounded : readBounded doc' name = readBounded doc name := by
    unfold readBounded
    rw [hint]
  have hlocation : loadLocation doc' name = loadLocation doc name := by
    unfold loadLocation
    rw [hbounded, hrole]
  have hidentity : loadIdentity doc' name = loadIdentity doc name := by
    unfold loadIdentity
    rw [hhex, hbounded, hlocation]
  unfold loadConfiguredGpuSelectionFromSection
  rw [hbounded, hidentity]

theorem Reads.coherent (h : Reads doc doc' slot) :
    machineProfileSlotIsCoherent doc' slot = machineProfileSlotIsCoherent doc slot := by
  unfold machineProfileSlotIsCoherent slotAccepted
  rw [h.isProfileSlotSaved, publishState_congr (h _ (publishName_mem slot)),
    (h _ (gpuName_mem slot)).hasKeys, loadGpu_congr (h _ (gpuName_mem slot))]

end Readers

/-! ## One write -/

section Writes
variable {doc ref : Document} {slot slot' : Nat} {name : Text}

/-- Sections of one slot are replaced: the others read as before. -/
theorem reads_replaced (h : validSlot slot = true) (h' : validSlot slot' = true)
    (hne : slot' ≠ slot) {names : List Text} {new : Document}
    (hnames : ∀ name ∈ names, name ∈ slotNames slot) (hnew : ∀ s ∈ new, s.name ∈ slotNames slot) :
    Reads doc (Ini.replaceSections doc names new) slot' := by
  intro name hname
  refine same_kept (List.any_eq_false.mpr fun n hn => ?_) fun s hs => ?_
  · rw [slotNames_apart h' h hne hname (hnames n hn)]
    exact Bool.false_ne_true
  · rw [Ini.sameName_comm]
    exact slotNames_apart h' h hne hname (hnew s hs)

/-- A save of one slot writes no section of another. -/
theorem isWritten_of_ne (h : validSlot slot = true) (h' : validSlot slot' = true)
    (hne : slot' ≠ slot) (hname : name ∈ slotNames slot') : isWritten slot name = false := by
  rw [isWritten_eq, Bool.or_eq_false_iff]
  constructor
  · refine List.any_eq_false.mpr fun n hn => ?_
    rw [slotNames_apart h' h hne hname (settingsNames_subset hn)]
    exact Bool.false_ne_true
  · refine List.any_eq_false.mpr fun n hn => ?_
    rw [slotNames_common h' hname hn]
    exact Bool.false_ne_true

/-- Nor its own GPU and marker. -/
theorem isWritten_binding (h : validSlot slot = true) :
    isWritten slot (gpuName slot) = false ∧ isWritten slot (publishName slot) = false := by
  have hall : ∀ s ∈ [1, 2, 3, 4, 5], isWritten s (gpuName s) = false ∧
      isWritten s (publishName s) = false := by decide
  exact hall slot (mem_slots h)

theorem copyable_marker (slot : Nat) {state : String}
    (h : ("state".toList.all Ini.isWord && state.toList.all Ini.isWord &&
      decide ("state".toList ≠ []) && decide (state.toList.length ≤ 32)) = true) :
    Ini.Copyable (markerSection slot state) := by
  have hroom : ∀ value : Text, WinProfile.keyRoom [⟨"state".toList, value⟩] = 6 := fun _ => rfl
  refine WinProfile.copyable_of_fields (fun e he => ?_) ?_
  · rw [List.mem_singleton.mp he]
    exact WinProfile.field_word h
  · unfold markerSection
    rw [hroom]
    decide

theorem transcribable_marker (hslot : validSlot slot = true) {state : String}
    (h : ("state".toList.all Ini.isWord && state.toList.all Ini.isWord &&
      decide ("state".toList ≠ []) && decide (state.toList.length ≤ 32)) = true) :
    Transcribable [markerSection slot state] :=
  .single (slotNames_named hslot _ (publishName_mem slot)) (copyable_marker slot h)

theorem transcribable_gpu (hslot : validSlot slot = true) (p : Publication) :
    Transcribable [⟨gpuName slot, gpuEntries p.gpu⟩] :=
  .single (slotNames_named hslot _ (gpuName_mem slot)) (copyable_gpu _ _)

theorem marked_transcribable (hslot : validSlot slot = true) :
    Transcribable (markedDocument slot) :=
  Transcribable.nil.replace (transcribable_marker hslot (by decide)) _

theorem marked_names (hslot : validSlot slot = true) :
    Ini.listNames WinProfile.CFG_BUFFER_SIZE ((markedDocument slot).map (·.name)) =
      (markedDocument slot).map (·.name) := by
  have hall : ∀ s ∈ [1, 2, 3, 4, 5],
      Ini.listNames WinProfile.CFG_BUFFER_SIZE ((markedDocument s).map (·.name)) =
        (markedDocument s).map (·.name) := by decide
  exact hall slot (mem_slots hslot)

/-- Replacing every section of a slot leaves only what is put in their place. -/
theorem reads_replaceSlot (doc ref new : Document) (slot : Nat) :
    Reads (replaceSlotSections ref slot new) (replaceSlotSections doc slot new) slot := by
  intro name hname
  have hany : (slotNames slot).any (sameName name) = true :=
    List.any_eq_true.mpr ⟨name, hname, Ini.sameName_refl name⟩
  exact .of_find ((find_replaced hany).trans (find_replaced hany).symm)

/-- Saved files read alike where the settings are, and where they read alike before. -/
theorem reads_saved (hslot : validSlot slot = true) (hdoc : Transcribable doc)
    (href : Transcribable ref) (h : Reads ref doc slot)
    (hlist : Ini.listNames WinProfile.CFG_BUFFER_SIZE (doc.map (·.name)) = doc.map (·.name))
    (hlist' : Ini.listNames WinProfile.CFG_BUFFER_SIZE (ref.map (·.name)) = ref.map (·.name))
    (desired : DesiredSettings) (live : WinProfile.LiveReadback) :
    Reads (savedDocument ref slot desired live) (savedDocument doc slot desired live) slot := by
  have hkept : ∀ name ∈ slotNames slot, isWritten slot name = false →
      SameSection (savedDocument ref slot desired live) (savedDocument doc slot desired live)
        name := fun name hname hwritten =>
    ((same_saved desired live href hlist' hwritten).symm.trans (h name hname)).trans
      (same_saved desired live hdoc hlist hwritten)
  intro name hname
  rcases List.mem_append.mp hname with hsettings | hbinding
  · exact .of_find ((find_saved_settings desired live hslot hsettings hlist).trans
      (find_saved_settings desired live hslot hsettings hlist').symm)
  · simp only [List.mem_cons, List.not_mem_nil, or_false] at hbinding
    rcases hbinding with rfl | rfl
    · exact hkept _ (gpuName_mem slot) (isWritten_binding hslot).1
    · exact hkept _ (publishName_mem slot) (isWritten_binding hslot).2

end Writes

/-! ## The course of a publication -/

/-- The slot has come to `stage`, and the others read as before. -/
structure AtStage (before : Document) (slot : Nat) (stage : Stage) (doc : Document) : Prop where
  transcribable : Transcribable doc
  others : ∀ slot', validSlot slot' = true → slot' ≠ slot → Reads before doc slot'
  own : Reads (stage.document slot) doc slot

section Stages
variable {before doc new : Document} {slot : Nat} {p : Publication} {stage : Stage}

/-- All sections of the slot are replaced. -/
theorem atStage_replaceSlot (hslot : validSlot slot = true) (hdoc : Transcribable doc)
    (hothers : ∀ slot', validSlot slot' = true → slot' ≠ slot → Reads before doc slot')
    (hnew : Transcribable new) (hnames : ∀ s ∈ new, s.name ∈ slotNames slot)
    (hstage : stage.document slot = replaceSlotSections [] slot new) :
    AtStage before slot stage (replaceSlotSections doc slot new) where
  transcribable := hdoc.replace hnew _
  others slot' hslot' hne := (hothers slot' hslot' hne).trans
    (reads_replaced hslot hslot' hne (fun _ hname => hname) hnames)
  own := by
    rw [hstage]
    exact reads_replaceSlot doc [] new slot

theorem atStage_marked (hslot : validSlot slot = true) (hdoc : Transcribable doc) :
    AtStage doc slot .marked (replaceSlotSections doc slot [markerSection slot "publishing"]) := by
  refine atStage_replaceSlot hslot hdoc (fun slot' _ _ => .refl doc slot')
    (transcribable_marker hslot (by decide)) (fun s hs => ?_) rfl
  rw [List.mem_singleton.mp hs]
  exact publishName_mem slot

theorem AtStage.cleared (hslot : validSlot slot = true) (h : AtStage before slot stage doc) :
    AtStage before slot .cleared (replaceSlotSections doc slot []) :=
  atStage_replaceSlot hslot h.transcribable h.others .nil nofun rfl

theorem AtStage.saved (hslot : validSlot slot = true) (h : AtStage before slot .marked doc)
    (hsaved : saveProfileToConfig doc slot p.desired p.live = some new) :
    AtStage before slot (.staged p) new := by
  obtain ⟨rfl, hlist⟩ := listNames_of_saved p.desired p.live h.transcribable hsaved
  refine ⟨h.transcribable.saved hslot p.desired p.live hlist, fun slot' hslot' hne => ?_, ?_⟩
  · refine (h.others slot' hslot' hne).trans fun name hname => ?_
    exact same_saved p.desired p.live h.transcribable hlist
      (isWritten_of_ne hslot hslot' hne hname)
  · exact reads_saved hslot h.transcribable (marked_transcribable hslot) h.own hlist
      (marked_names hslot) p.desired p.live

/-- One section of the slot is replaced. -/
theorem AtStage.replaced {stage' : Stage} {s : Ini.Section} (hslot : validSlot slot = true)
    (h : AtStage before slot stage doc) (hs : Transcribable [s]) (hname : s.name ∈ slotNames slot)
    (hstage : stage'.document slot =
      Ini.replaceSections (stage.document slot) [s.name] [s]) :
    AtStage before slot stage' (Ini.replaceSections doc [s.name] [s]) where
  transcribable := h.transcribable.replace hs _
  others slot' hslot' hne := (h.others slot' hslot' hne).trans
    (reads_replaced hslot hslot' hne (fun n hn => List.mem_singleton.mp hn ▸ hname)
      fun s' hs' => List.mem_singleton.mp hs' ▸ hname)
  own := by
    rw [hstage]
    intro name hmem
    refine same_replaced (h.own name hmem) fun s' hs' => ?_
    rw [List.mem_singleton.mp hs']
    exact List.any_eq_true.mpr ⟨s.name, List.mem_cons_self .., Ini.sameName_refl s.name⟩

end Stages

/-- The stages an operation can bring its slot to. -/
def BankOp.reaches : BankOp → Stage → Prop
  | .publish _ _, .cleared => True
  | .publish _ _, .marked => True
  | .publish _ p, .staged q => q = p
  | .publish _ p, .bound q => q = p
  | .publish _ p, .committed q => q = p
  | .clear _, stage => stage = .cleared

/-- An operation is on its way. -/
def Underway (before : Document) (op : BankOp) (doc : Document) : Prop :=
  ∃ stage, op.reaches stage ∧ AtStage before op.slot stage doc

/-- An operation has written nothing, or is on its way. -/
def Progress (before : Document) (op : BankOp) (doc : Document) : Prop :=
  doc = before ∨ Underway before op doc

section Programs
variable {before doc : Document} {slot : Nat} {p : Publication}

/-- A write that fails changes nothing, and the program may die at it. -/
theorem ensures_write_bind {change : Document → Document} {f : Bool → BankM Bool}
    {R : Bool → Document → Prop} {C : Document → Prop} (hdie : C doc)
    (hno : Ensures (f false) R C doc) (hyes : Ensures (f true) R C (change doc)) :
    Ensures (write change >>= f) R C doc := by
  refine ensures_bind (ensures_bind (ensures_ask hdie fun ok => ?_))
  refine ensures_bind ?_
  cases ok with
  | false => exact ensures_pure (ensures_pure hno)
  | true => exact ensures_modify (ensures_pure hyes)

theorem ensures_write {change : Document → Document} {Q : Bool → Document → Prop}
    {C : Document → Prop} (hdie : C doc) (hno : Q false doc) (hyes : Q true (change doc)) :
    Ensures (write change) Q C doc := by
  refine ensures_bind (ensures_ask hdie fun ok => ensures_bind ?_)
  cases ok with
  | false => exact ensures_pure (ensures_pure hno)
  | true => exact ensures_modify (ensures_pure hyes)

/-- The clean-up of a publication that failed. -/
theorem ensures_abandon (hslot : validSlot slot = true)
    (h : Underway before (.publish slot p) doc) :
    Ensures (abandon slot) (fun _ => Underway before (.publish slot p))
      (Underway before (.publish slot p)) doc := by
  obtain ⟨stage, hreaches, hstage⟩ := h
  exact ensures_write_bind ⟨stage, hreaches, hstage⟩ (ensures_pure ⟨stage, hreaches, hstage⟩)
    (ensures_pure ⟨.cleared, trivial, hstage.cleared hslot⟩)

theorem ensures_saveProfile (hslot : validSlot slot = true)
    (h : AtStage before slot .marked doc) :
    Ensures (saveProfile slot p) (fun ok doc' => Underway before (.publish slot p) doc' ∧
      (ok = true → AtStage before slot (.staged p) doc'))
      (Underway before (.publish slot p)) doc := by
  have hmarked : Underway before (.publish slot p) doc := ⟨.marked, trivial, h⟩
  refine ensures_bind (ensures_get ?_)
  cases hsaved : saveProfileToConfig doc slot p.desired p.live with
  | none => exact ensures_pure ⟨hmarked, nofun⟩
  | some new =>
    have hstaged := h.saved hslot hsaved
    exact ensures_write hmarked ⟨hmarked, nofun⟩ ⟨⟨.staged p, rfl, hstaged⟩, fun _ => hstaged⟩

/-- What is written for a GPU. -/
theorem format_eq {name : Text} {selection : ConfiguredGpuSelection} {s : Ini.Section}
    (h : formatConfiguredGpuSelectionSection name selection = some s) :
    s = ⟨name, gpuEntries selection⟩ := by
  unfold formatConfiguredGpuSelectionSection at h
  dsimp only at h
  split_ifs at h
  exact (Option.some.inj h).symm

theorem ensures_bindGpu (hslot : validSlot slot = true)
    (h : AtStage before slot (.staged p) doc) :
    Ensures (bindGpu slot p) (fun ok doc' => Underway before (.publish slot p) doc' ∧
      (ok = true → AtStage before slot (.bound p) doc'))
      (Underway before (.publish slot p)) doc := by
  have hstaged : Underway before (.publish slot p) doc := ⟨.staged p, rfl, h⟩
  unfold bindGpu
  split
  · exact ensures_pure ⟨hstaged, nofun⟩
  · rename_i gpuSection hformat
    obtain rfl := format_eq hformat
    have hbound : AtStage before slot (.bound p) (Ini.replaceSections doc [gpuName slot]
        [⟨gpuName slot, gpuEntries p.gpu⟩]) :=
      h.replaced hslot (transcribable_gpu hslot p) (gpuName_mem slot) rfl
    have hunderway : Underway before (.publish slot p) _ := ⟨.bound p, rfl, hbound⟩
    refine ensures_write_bind hstaged (ensures_pure ⟨hstaged, nofun⟩)
      (ensures_bind (ensures_get ?_))
    split
    · exact ensures_pure ⟨hunderway, nofun⟩
    · exact ensures_pure ⟨hunderway, fun _ => hbound⟩

theorem ensures_commit (hslot : validSlot slot = true) (h : AtStage before slot (.bound p) doc) :
    Ensures (commit slot) (fun _ => Underway before (.publish slot p))
      (Underway before (.publish slot p)) doc := by
  have hbound : Underway before (.publish slot p) doc := ⟨.bound p, rfl, h⟩
  have hcommitted : AtStage before slot (.committed p) (Ini.replaceSections doc
      [publishName slot] [markerSection slot "committed"]) :=
    h.replaced hslot (transcribable_marker hslot (by decide)) (publishName_mem slot) rfl
  exact ensures_write_bind hbound (ensures_pure hbound)
    (ensures_bind (ensures_get (ensures_pure ⟨.committed p, rfl, hcommitted⟩)))

theorem ensures_stage (hslot : validSlot slot = true) (h : AtStage before slot .marked doc) :
    Ensures (stage slot p) (fun _ => Underway before (.publish slot p))
      (Underway before (.publish slot p)) doc := by
  refine ensures_bind ((ensures_saveProfile hslot h).mono (fun saved doc₁ h₁ => ?_)
    fun _ hdied => hdied)
  cases saved with
  | false => exact ensures_pure h₁.1
  | true =>
    refine ensures_bind ((ensures_bindGpu hslot (h₁.2 rfl)).mono (fun bound doc₂ h₂ => ?_)
      fun _ hdied => hdied)
    cases bound with
    | false => exact ensures_pure h₂.1
    | true => exact ensures_commit hslot (h₂.2 rfl)

/-- **A publication, whichever write is its last.** -/
theorem ensures_publish (hdoc : Transcribable before) (slot : Nat) (p : Publication) :
    Ensures (copyProfileSlotToMachineConfig slot p)
      (fun _ => Progress before (.publish slot p)) (Progress before (.publish slot p))
      before := by
  refine ensures_bind (ensures_ask (.inl rfl) fun ready => ?_)
  split
  · exact ensures_pure (.inl rfl)
  rename_i hready
  have hslot : validSlot slot = true := by
    simp only [Bool.or_eq_true, Bool.not_eq_true', not_or, Bool.not_eq_false] at hready
    exact hready.2
  have hmarked := atStage_marked hslot hdoc
  have hunderway : Underway before (.publish slot p) _ := ⟨.marked, trivial, hmarked⟩
  refine ensures_write_bind (.inl rfl) (ensures_pure (.inl rfl))
    (ensures_bind (ensures_ask (.inr hunderway) fun hardened => ?_))
  cases hardened with
  | false =>
    exact (ensures_abandon hslot hunderway).mono (fun _ _ h => .inr h) fun _ h => .inr h
  | true =>
    refine ensures_bind ((ensures_stage hslot hmarked).mono (fun staged doc' hstaged => ?_)
      fun _ h => .inr h)
    cases staged with
    | false =>
      exact (ensures_abandon hslot hstaged).mono (fun _ _ h => .inr h) fun _ h => .inr h
    | true => exact ensures_pure (.inr hstaged)

theorem ensures_clear (hdoc : Transcribable before) (slot : Nat) :
    Ensures (clearMachineProfileSlot slot) (fun _ => Progress before (.clear slot))
      (Progress before (.clear slot)) before := by
  refine ensures_bind (ensures_ask (.inl rfl) fun ready => ?_)
  split
  · exact ensures_pure (.inl rfl)
  rename_i hready
  have hslot : validSlot slot = true := by
    simp only [Bool.or_eq_true, Bool.not_eq_true', not_or, Bool.not_eq_false] at hready
    exact hready.2
  have hcleared : Underway before (.clear slot) (replaceSlotSections before slot []) :=
    ⟨.cleared, rfl, atStage_replaceSlot hslot hdoc (fun slot' _ _ => .refl before slot') .nil
      nofun rfl⟩
  exact ensures_write_bind (.inl rfl) (ensures_pure (.inl rfl))
    (ensures_ask (.inr hcleared) fun _ => .inr hcleared)

theorem ensures_program (hdoc : Transcribable before) (op : BankOp) :
    Ensures op.program (fun _ => Progress before op) (Progress before op) before := by
  cases op with
  | publish slot p => exact ensures_publish hdoc slot p
  | clear slot => exact ensures_clear hdoc slot

/-- Wherever an operation ends, it has written nothing or brought its slot to a stage. -/
theorem step_progress (hdoc : Transcribable before) (step : Step) :
    Progress before step.op (step.bank before) :=
  (ensures_program hdoc step.op).exec_snd step.answers

end Programs

/-! ## What is read at a stage -/

section AtStages
variable {doc : Document} {slot : Nat} {stage : Stage}

/-- The sections of the settings and of the GPU. -/
def bindingNames (slot : Nat) : List Text := settingsNames slot ++ [gpuName slot]

theorem bindingNames_subset : bindingNames slot ⊆ slotNames slot := by
  intro name hname
  rcases List.mem_append.mp hname with hsettings | hgpu
  · exact settingsNames_subset hsettings
  · rw [List.mem_singleton.mp hgpu]
    exact gpuName_mem slot

/-- The marker is none of them. -/
theorem publishName_apart (hslot : validSlot slot = true) {name : Text}
    (hname : name ∈ bindingNames slot) : sameName name (publishName slot) = false := by
  have hall : ∀ s ∈ [1, 2, 3, 4, 5], ∀ a ∈ bindingNames s, sameName a (publishName s) = false := by
    decide
  exact hall slot (mem_slots hslot) name hname

/-- The commit marker leaves settings and GPU as they read. -/
theorem same_committed (hslot : validSlot slot = true) (p : Publication) {name : Text}
    (hname : name ∈ bindingNames slot) :
    SameSection (boundDocument slot p) (publishedDocument slot p) name := by
  have hapart := publishName_apart hslot hname
  refine same_kept (by simp [hapart]) fun s hs => ?_
  rw [List.mem_singleton.mp hs, Ini.sameName_comm]
  exact hapart

theorem same_staged (hslot : validSlot slot = true) (p : Publication) {name : Text}
    (hwritten : isWritten slot name = false) :
    SameSection (markedDocument slot) (stagedDocument slot p) name :=
  same_saved p.desired p.live (marked_transcribable hslot) (marked_names hslot) hwritten

theorem same_bound (hslot : validSlot slot = true) (p : Publication) :
    SameSection (stagedDocument slot p) (boundDocument slot p) (publishName slot) := by
  have hapart := publishName_apart hslot
    (List.mem_append_right _ (List.mem_singleton_self (gpuName slot)))
  refine same_kept (by simp [Ini.sameName_comm (publishName slot), hapart]) fun s hs => ?_
  rw [List.mem_singleton.mp hs]
  exact hapart

theorem marked_reads (hslot : validSlot slot = true) :
    machineProfilePublishState (markedDocument slot) slot = .inProgress ∧
      Ini.keysOf (markedDocument slot) (publishName slot) = ["state".toList] ∧
      Ini.configSectionHasKeys (markedDocument slot) (gpuName slot) = false := by
  have hall : ∀ s ∈ [1, 2, 3, 4, 5],
      machineProfilePublishState (markedDocument s) s = .inProgress ∧
        Ini.keysOf (markedDocument s) (publishName s) = ["state".toList] ∧
        Ini.configSectionHasKeys (markedDocument s) (gpuName s) = false := by decide
  exact hall slot (mem_slots hslot)

theorem not_saved_nil (slot : Nat) : isProfileSlotSaved [] slot = false := by
  unfold isProfileSlotSaved
  rw [Bool.and_eq_false_iff]
  refine .inr (List.any_eq_false.mpr fun name _ => ?_)
  show ¬Ini.configSectionHasKeys [] name = true
  exact Bool.false_ne_true

/-- Once it is marked, a slot is marked at every stage. -/
theorem marker_kept (stage : Stage) (hslot : validSlot slot = true) :
    stage = .cleared ∨
      Ini.keysOf (stage.document slot) (publishName slot) = ["state".toList] := by
  have hmarked := (marked_reads hslot).2.1
  have hstaged := fun p => (same_staged hslot p (isWritten_binding hslot).2).keys.trans hmarked
  cases stage with
  | cleared => exact .inl rfl
  | marked => exact .inr hmarked
  | staged p => exact .inr (hstaged p)
  | bound p => exact .inr ((same_bound hslot p).keys.trans (hstaged p))
  | committed p =>
    have hfind : findSection (publishedDocument slot p) (publishName slot) =
        some (markerSection slot "committed") := by
      rw [publishedDocument, find_replaced (by simp [Ini.sameName_refl])]
      simp [Ini.findSection, markerSection, Ini.sameName_refl]
    exact .inr (Ini.keysOf_eq hfind)

/-- Before the commit marker no reader takes the slot. -/
theorem rejected_before_commit (stage : Stage) (hslot : validSlot slot = true) :
    (∃ p, stage = .committed p) ∨
      machineProfileSlotIsCoherent (stage.document slot) slot = false := by
  have hrejected : ∀ doc, machineProfilePublishState doc slot = .inProgress →
      machineProfileSlotIsCoherent doc slot = false := by
    intro doc hstate
    unfold machineProfileSlotIsCoherent slotAccepted
    rw [hstate]
    split
    · rfl
    · rfl
  have hmarked := (marked_reads hslot).1
  have hstaged := fun p => (publishState_congr
    (same_staged hslot p (isWritten_binding hslot).2)).trans hmarked
  cases stage with
  | cleared =>
    refine .inr ?_
    show slotAccepted [] [] [] [] slot = false
    unfold slotAccepted
    rw [not_saved_nil]
    rfl
  | marked => exact .inr (hrejected _ hmarked)
  | staged p => exact .inr (hrejected _ (hstaged p))
  | bound p =>
    exact .inr (hrejected _ ((publishState_congr (same_bound hslot p)).trans (hstaged p)))
  | committed p => exact .inl ⟨p, rfl⟩

/-- A slot with a GPU has the settings the GPU was published with. -/
theorem bound_of_gpu (hslot : validSlot slot = true) (h : Reads (stage.document slot) doc slot)
    (hgpu : Ini.configSectionHasKeys doc (gpuName slot) = true) :
    ∃ p, (stage = .bound p ∨ stage = .committed p) ∧
      ∀ name ∈ bindingNames slot, SameSection (publishedDocument slot p) doc name := by
  rw [(h _ (gpuName_mem slot)).hasKeys] at hgpu
  have hmarked := (marked_reads hslot).2.2
  cases stage with
  | cleared => exact absurd hgpu Bool.false_ne_true
  | marked =>
    rw [show (Stage.marked.document slot) = markedDocument slot from rfl, hmarked] at hgpu
    cases hgpu
  | staged p =>
    rw [show ((Stage.staged p).document slot) = stagedDocument slot p from rfl,
      (same_staged hslot p (isWritten_binding hslot).1).hasKeys, hmarked] at hgpu
    cases hgpu
  | bound p =>
    exact ⟨p, .inl rfl, fun name hname => (same_committed hslot p hname).symm.trans
      (h name (bindingNames_subset hname))⟩
  | committed p => exact ⟨p, .inr rfl, fun name hname => h name (bindingNames_subset hname)⟩

end AtStages

/-! ## Runs -/

/-- The publication of `p` on `slot` was begun in the run. -/
def Published (steps : List Step) (slot : Nat) (p : Publication) : Prop :=
  ∃ step ∈ steps, step.op = .publish slot p

/-- The slot reads as it was found, or as an operation of the run left it. -/
def SlotHistory (bank : Document) (steps : List Step) (slot : Nat) (doc : Document) : Prop :=
  Reads bank doc slot ∨ ∃ step ∈ steps, step.op.slot = slot ∧
    ∃ stage, step.op.reaches stage ∧ Reads (stage.document slot) doc slot

section Runs
variable {bank : Document} {steps : List Step} {slot : Nat}

theorem bankAfter_concat (bank : Document) (steps : List Step) (step : Step) :
    bankAfter bank (steps ++ [step]) = step.bank (bankAfter bank steps) := by
  unfold bankAfter
  rw [List.foldl_append]
  rfl

/-- **Every slot of a reached bank is as it was found, or at a stage of an operation on it.** -/
theorem run_history (hbank : Transcribable bank) (steps : List Step) :
    Transcribable (bankAfter bank steps) ∧
      ∀ slot, validSlot slot = true → SlotHistory bank steps slot (bankAfter bank steps) := by
  induction steps using List.reverseRecOn with
  | nil => exact ⟨hbank, fun slot _ => .inl (.refl bank slot)⟩
  | append_singleton steps step ih =>
    obtain ⟨hdoc, hslots⟩ := ih
    have hlonger : ∀ slot, validSlot slot = true → ∀ doc', Reads (bankAfter bank steps) doc' slot →
        SlotHistory bank (steps ++ [step]) slot doc' := by
      intro slot hslot doc' hreads
      rcases hslots slot hslot with hfound | ⟨old, hold, hsame, stage, hreaches, hstage⟩
      · exact .inl (hfound.trans hreads)
      · exact .inr ⟨old, List.mem_append_left _ hold, hsame, stage, hreaches, hstage.trans hreads⟩
    rw [bankAfter_concat]
    rcases step_progress hdoc step with hnothing | ⟨stage, hreaches, hstage⟩
    · rw [hnothing]
      exact ⟨hdoc, fun slot hslot => hlonger slot hslot _ (.refl _ slot)⟩
    · refine ⟨hstage.transcribable, fun slot hslot => ?_⟩
      by_cases hown : slot = step.op.slot
      · subst hown
        exact .inr ⟨step, List.mem_append_right _ (List.mem_singleton_self step), rfl, stage,
          hreaches, hstage.own⟩
      · exact hlonger slot hslot _ (hstage.others slot hslot hown)

end Runs

/-! ## The law -/

/-- A slot from before there were markers: it has settings and no marker, and its GPU, if it
has one, is well formed. -/
structure LegacySlot (doc : Document) (slot : Nat) : Prop where
  saved : isProfileSlotSaved doc slot = true
  unmarked : Ini.keysOf doc (publishName slot) = []
  gpu : Ini.configSectionHasKeys doc (gpuName slot) = false ∨
    (loadConfiguredGpuSelectionFromSection doc (gpuName slot)).isSome = true

/-- Settings and GPU of the slot are those that were found, or those of one publication. -/
def WrittenAtOnce (bank : Document) (steps : List Step) (slot : Nat) (doc : Document) : Prop :=
  (∀ name ∈ bindingNames slot, SameSection bank doc name) ∨
    ∃ p, Published steps slot p ∧
      ∀ name ∈ bindingNames slot, SameSection (publishedDocument slot p) doc name

/-- What is promised of the bank that `steps` reach, and of the next operation on it. -/
structure Atomic (bank : Document) (steps : List Step) : Prop where
  /-- A reader that finds the GPU in this bank and accepts the slot finds settings and GPU
  of one publication there, whatever its other reads have seen. -/
  accepted : ∀ saved marker gpu slot,
    slotAccepted saved marker (bankAfter bank steps) gpu slot = true →
      WrittenAtOnce bank steps slot (bankAfter bank steps)
  /-- A publication leaves the slot unchanged, rejected or complete. -/
  publication : ∀ (step : Step) slot p, step.op = .publish slot p → validSlot slot = true →
    Reads (bankAfter bank steps) (step.bank (bankAfter bank steps)) slot ∨
      machineProfileSlotIsCoherent (step.bank (bankAfter bank steps)) slot = false ∨
      Reads (publishedDocument slot p) (step.bank (bankAfter bank steps)) slot
  /-- No operation on one slot changes another. -/
  others : ∀ (step : Step) slot, validSlot slot = true → slot ≠ step.op.slot →
    Reads (bankAfter bank steps) (step.bank (bankAfter bank steps)) slot ∧
      machineProfileSlotIsCoherent (step.bank (bankAfter bank steps)) slot =
        machineProfileSlotIsCoherent (bankAfter bank steps) slot
  /-- A slot without a marker is accepted. -/
  legacy : ∀ slot, LegacySlot (bankAfter bank steps) slot →
    machineProfileSlotIsCoherent (bankAfter bank steps) slot = true

/-- The law of the bank, over all runs from it. -/
def CrashAtomic (bank : Document) : Prop := ∀ steps, Atomic bank steps

section Law
variable {bank doc : Document} {steps : List Step} {slot : Nat}

/-- The marker is never read as the one of a legacy slot. -/
theorem publishState_ne_legacy (doc : Document) (slot : Nat) :
    machineProfilePublishState doc slot ≠ .legacy := by
  unfold machineProfilePublishState
  split
  · nofun
  · rename_i value hvalue
    have hnonempty : value ≠ [] := by
      unfold Ini.getConfigString at hvalue
      dsimp only at hvalue
      split_ifs at hvalue with _ hrefused
      rw [← Option.some.inj hvalue]
      exact fun hnil => hrefused (.inl hnil)
    rw [if_neg hnonempty]
    split_ifs
    · nofun
    · nofun
    · nofun

theorem valid_of_saved (h : isProfileSlotSaved doc slot = true) : validSlot slot = true :=
  (Bool.and_eq_true_iff.mp h).1

/-- A slot is accepted only with a GPU. -/
theorem gpu_of_accepted {saved marker gpu : Document}
    (h : slotAccepted saved marker doc gpu slot = true) :
    validSlot slot = true ∧ Ini.configSectionHasKeys doc (gpuName slot) = true := by
  unfold slotAccepted at h
  split at h
  · cases h
  · rename_i hsaved
    simp only [Bool.not_eq_true', Bool.not_eq_false] at hsaved
    refine ⟨valid_of_saved hsaved, ?_⟩
    have hlegacy := publishState_ne_legacy marker slot
    cases hstate : machineProfilePublishState marker slot with
    | legacy => exact absurd hstate hlegacy
    | inProgress => rw [hstate] at h; cases h
    | invalid => rw [hstate] at h; cases h
    | committed =>
      rw [hstate] at h
      exact (Bool.and_eq_true_iff.mp h).1

theorem writtenAtOnce_of_accepted (hbank : Transcribable bank) {saved marker gpu : Document}
    (h : slotAccepted saved marker (bankAfter bank steps) gpu slot = true) :
    WrittenAtOnce bank steps slot (bankAfter bank steps) := by
  obtain ⟨hslot, hgpu⟩ := gpu_of_accepted h
  rcases (run_history hbank steps).2 slot hslot with hfound | ⟨step, hstep, hop, stage, hreaches,
    hstage⟩
  · exact .inl fun name hname => hfound name (bindingNames_subset hname)
  · obtain ⟨p, hp, hsame⟩ := bound_of_gpu hslot hstage hgpu
    refine .inr ⟨p, ⟨step, hstep, ?_⟩, hsame⟩
    cases hkind : step.op with
    | clear cleared =>
      rw [hkind] at hreaches
      rcases hp with rfl | rfl
      · cases hreaches
      · cases hreaches
    | publish published q =>
      rw [hkind] at hreaches hop
      rcases hp with rfl | rfl
      · rw [show q = p from hreaches.symm, show published = slot from hop]
      · rw [show q = p from hreaches.symm, show published = slot from hop]

theorem outcome_of_publication (hdoc : Transcribable doc) {step : Step} {p : Publication}
    (hop : step.op = .publish slot p) (hslot : validSlot slot = true) :
    Reads doc (step.bank doc) slot ∨
      machineProfileSlotIsCoherent (step.bank doc) slot = false ∨
      Reads (publishedDocument slot p) (step.bank doc) slot := by
  rcases step_progress hdoc step with hnothing | ⟨stage, hreaches, hstage⟩
  · rw [hnothing]
    exact .inl (.refl doc slot)
  · rw [hop] at hreaches hstage
    have hown := hstage.own
    rcases rejected_before_commit stage hslot with ⟨q, rfl⟩ | hrejected
    · rw [show q = p from hreaches] at hown
      exact .inr (.inr hown)
    · exact .inr (.inl (hown.coherent.trans hrejected))

theorem others_unchanged (hdoc : Transcribable doc) (step : Step) (hslot : validSlot slot = true)
    (hne : slot ≠ step.op.slot) : Reads doc (step.bank doc) slot := by
  rcases step_progress hdoc step with hnothing | ⟨stage, -, hstage⟩
  · rw [hnothing]
    exact .refl doc slot
  · exact hstage.others slot hslot hne

/-- A reached slot without a marker is one that was found. -/
theorem legacy_found (hbank : Transcribable bank) (h : LegacySlot (bankAfter bank steps) slot) :
    LegacySlot bank slot := by
  have hslot := valid_of_saved h.saved
  rcases (run_history hbank steps).2 slot hslot with hfound | ⟨step, -, -, stage, -, hstage⟩
  · refine ⟨hfound.isProfileSlotSaved ▸ h.saved, ?_, ?_⟩
    · exact (hfound _ (publishName_mem slot)).keys ▸ h.unmarked
    · rw [← (hfound _ (gpuName_mem slot)).hasKeys, ← loadGpu_congr (hfound _ (gpuName_mem slot))]
      exact h.gpu
  · exfalso
    rcases marker_kept stage hslot with rfl | hmarker
    · have hsaved := h.saved
      rw [hstage.isProfileSlotSaved] at hsaved
      exact absurd ((not_saved_nil slot).symm.trans hsaved) Bool.false_ne_true
    · have hkeys := h.unmarked
      rw [(hstage _ (publishName_mem slot)).keys, hmarker] at hkeys
      cases hkeys

/-- A key of a section without keys is read as a failure, not as empty. -/
theorem getConfigString_of_no_keys {name : Text} (h : Ini.keysOf doc name = []) (key : Text)
    (size : Nat) : Ini.getConfigString doc name key size = none := by
  have hvalue : Ini.valueOf doc name key = [] := by
    cases hfind : findSection doc name with
    | none =>
      unfold Ini.valueOf
      rw [hfind]
      rfl
    | some s =>
      rw [Ini.keysOf_eq hfind] at h
      rw [Ini.valueOf_eq hfind, List.map_eq_nil_iff.mp h]
      rfl
  unfold Ini.getConfigString Ini.getString
  rw [hvalue]
  rfl

/-- A slot without a marker is rejected. -/
theorem legacy_rejected (h : LegacySlot doc slot) :
    machineProfileSlotIsCoherent doc slot = false := by
  have hstate : machineProfilePublishState doc slot = .invalid := by
    unfold machineProfilePublishState
    rw [getConfigString_of_no_keys h.unmarked]
  unfold machineProfileSlotIsCoherent slotAccepted
  rw [hstate]
  split
  · rfl
  · rfl

/-- **The bank is crash-atomic exactly if no slot of it was written before there were
markers.** -/
theorem publication_atomic (hbank : Transcribable bank) :
    CrashAtomic bank ↔ ∀ slot, ¬LegacySlot bank slot := by
  constructor
  · intro h slot hlegacy
    have haccepted := (h []).legacy slot hlegacy
    rw [show bankAfter bank [] = bank from rfl, legacy_rejected hlegacy] at haccepted
    cases haccepted
  · intro hnone steps
    have hdoc := (run_history hbank steps).1
    exact {
      accepted := fun _ _ _ _ h => writtenAtOnce_of_accepted hbank h
      publication := fun _ _ _ hop hslot => outcome_of_publication hdoc hop hslot
      others := fun step _ hslot hne =>
        ⟨others_unchanged hdoc step hslot hne, (others_unchanged hdoc step hslot hne).coherent⟩
      legacy := fun slot hlegacy => absurd (legacy_found hbank hlegacy) (hnone slot) }

theorem publication_atomic_nil : CrashAtomic [] :=
  (publication_atomic .nil).mpr fun slot h =>
    Bool.false_ne_true ((not_saved_nil slot).symm.trans h.saved)

/-- A bank with one profile, published before there were markers. -/
def legacyBank : Document :=
  [⟨"profile2".toList, [⟨"gpu_offset_mhz".toList, "100".toList⟩]⟩]

theorem legacyBank_not_atomic : ¬CrashAtomic legacyBank := by
  intro h
  have hlegacy : LegacySlot legacyBank 2 :=
    ⟨by decide +kernel, by decide +kernel, .inl (by decide +kernel)⟩
  have hrejected : machineProfileSlotIsCoherent legacyBank 2 = false := by decide +kernel
  have haccepted := (h []).legacy 2 hlegacy
  rw [show bankAfter legacyBank [] = legacyBank from rfl, hrejected] at haccepted
  cases haccepted

/-- On an empty bank a publication whose calls succeed is accepted. -/
example : let bank := bankAfter [] [⟨.publish 2 ⟨{}, {}, {}⟩, List.replicate 6 true⟩]
    machineProfileSlotIsCoherent bank 2 = true := by decide +kernel

end Law

end GreenCurve.MachineBank
