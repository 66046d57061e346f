import GreenCurve.GpuAgreement
import GreenCurve.GpuUuid

/-! # A restore stays on its card

A selection with a stored UUID is characterized by who carries that UUID
(`restore_eq_adapter_iff`): the one adapter that does, if its model agrees, or, where none
does, the right card of location and model, if its own UUID cannot be read.  So no location
and no model leads to a card that is known to be another one. -/

namespace GreenCurve.Gpu

variable {card : StoredCard} {role : GpuLocationRole} {table : LiveTable} {i : Nat}
  {moved : Bool}

/-! ## The scan -/

theorem uuidScan_append_singleton (stored : LinuxGpuUuid) (gpus : List LiveGpu) (gpu : LiveGpu) :
    uuidScan stored (gpus ++ [gpu]) = (uuidScan stored gpus).step stored (gpu, gpus.length) := by
  simp only [uuidScan, List.zipIdx_append, List.foldl_append, List.zipIdx_singleton,
    List.foldl_cons, List.foldl_nil, Nat.zero_add]

/-- What the scan has seen of the list so far. -/
inductive Scanned (stored : LinuxGpuUuid) (gpus : List LiveGpu) : UuidScan → Prop
  | none : gpus.countP (carries stored) = 0 → Scanned stored gpus (.found none)
  | one {i : Nat} : Sole (carries stored) gpus i → Scanned stored gpus (.found (some i))
  | many : 1 < gpus.countP (carries stored) → Scanned stored gpus .ambiguous

theorem Scanned.step {stored : LinuxGpuUuid} {gpus : List LiveGpu} {scan : UuidScan}
    (h : Scanned stored gpus scan) (gpu : LiveGpu) :
    Scanned stored (gpus ++ [gpu]) (scan.step stored (gpu, gpus.length)) := by
  by_cases hgpu : carries stored gpu = true
  · have hcount : (gpus ++ [gpu]).countP (carries stored) = gpus.countP (carries stored) + 1 := by
      rw [List.countP_append, List.countP_singleton, if_pos hgpu]
    cases h with
    | none hnone =>
      simp only [UuidScan.step, hgpu, if_true]
      exact .one (.append_match hgpu (List.countP_eq_zero.mp hnone))
    | one hsole =>
      simp only [UuidScan.step, hgpu, if_true]
      refine .many ?_
      rw [hcount, hsole.countP_eq_one]
      decide
    | many hmany => exact .many (by omega)
  · have hcount : (gpus ++ [gpu]).countP (carries stored) = gpus.countP (carries stored) := by
      rw [List.countP_append, List.countP_singleton, if_neg hgpu, Nat.add_zero]
    cases h with
    | none hnone =>
      simp only [UuidScan.step, if_neg hgpu]
      exact .none (hcount.trans hnone)
    | one hsole =>
      simp only [UuidScan.step, if_neg hgpu]
      exact .one (hsole.append_other hgpu)
    | many hmany => exact .many (by rwa [hcount])

theorem scanned_uuidScan (stored : LinuxGpuUuid) (gpus : List LiveGpu) :
    Scanned stored gpus (uuidScan stored gpus) := by
  induction gpus using List.reverseRecOn with
  | nil => exact .none rfl
  | append_singleton gpus gpu ih =>
    rw [uuidScan_append_singleton]
    exact ih.step gpu

section Scan
variable {stored : LinuxGpuUuid} {gpus : List LiveGpu}

theorem uuidScan_of_none (h : gpus.countP (carries stored) = 0) :
    uuidScan stored gpus = .found none := by
  have hscanned := scanned_uuidScan stored gpus
  generalize uuidScan stored gpus = scan at hscanned ⊢
  cases hscanned with
  | none => rfl
  | one hsole =>
    rw [hsole.countP_eq_one] at h
    cases h
  | many hmany => omega

theorem uuidScan_of_sole (h : Sole (carries stored) gpus i) :
    uuidScan stored gpus = .found (some i) := by
  have hscanned := scanned_uuidScan stored gpus
  generalize uuidScan stored gpus = scan at hscanned ⊢
  cases hscanned with
  | none hnone =>
    rw [h.countP_eq_one] at hnone
    cases hnone
  | one hsole => rw [h.unique hsole]
  | many hmany =>
    rw [h.countP_eq_one] at hmany
    omega

theorem uuidScan_of_many (h : 1 < gpus.countP (carries stored)) :
    uuidScan stored gpus = .ambiguous := by
  have hscanned := scanned_uuidScan stored gpus
  generalize uuidScan stored gpus = scan at hscanned ⊢
  cases hscanned with
  | none hnone => omega
  | one hsole =>
    rw [hsole.countP_eq_one] at h
    omega
  | many => rfl

/-- None, one or several carry the stored UUID. -/
theorem carriers (stored : LinuxGpuUuid) (gpus : List LiveGpu) :
    gpus.countP (carries stored) = 0 ∨ (∃ i, Sole (carries stored) gpus i) ∨
      1 < gpus.countP (carries stored) := by
  have hscanned := scanned_uuidScan stored gpus
  generalize uuidScan stored gpus = scan at hscanned
  cases hscanned with
  | none hnone => exact .inl hnone
  | one hsole => exact .inr (.inl ⟨_, hsole⟩)
  | many hmany => exact .inr (.inr hmany)

end Scan

/-! ## The selection -/

/-- The stored target is followed by location and model only. -/
abbrev StoredCard.located (card : StoredCard) (role : GpuLocationRole) (table : LiveTable) :
    LinuxGpuInitSelection :=
  linuxGpuInitSelection (some card.target) table.adapters.adapters role

/-- The selection for a durable record. -/
abbrev StoredCard.restored (card : StoredCard) (role : GpuLocationRole) (table : LiveTable) :
    LinuxGpuInitSelection :=
  (linuxGpuRestoreSelection (some card.target) role table card.uuid).2

/-- What holds of the adapter at `i`. -/
def At (p : LiveGpu → Prop) (gpus : List LiveGpu) (i : Nat) : Prop := ∃ gpu, gpus[i]? = some gpu ∧ p gpu

/-- The stored UUID was found on a card whose model agrees. -/
def Followed (card : StoredCard) (moved : Bool) (gpu : LiveGpu) : Prop :=
  modelAgrees card.target gpu.adapter = true ∧
    moved = !linuxGpuBdfEqual card.target gpu.adapter

theorem StoredCard.filter_target (card : StoredCard) :
    (some card.target).filter (·.valid) = some card.target := by
  simp [Option.filter, card.targetValid]

theorem restored_of_none (h : table.gpus.countP (carries card.uuid) = 0) :
    card.restored role table =
      match (card.located role table).index with
      | .adapter i _ =>
        if (table.gpus[i]?).any (·.uuid.valid) then ⟨.notFound, false⟩
        else card.located role table
      | _ => card.located role table := by
  simp only [StoredCard.restored, linuxGpuRestoreSelection, card.filter_target, card.uuidValid,
    not_true_eq_false, if_false, List.take_of_length_le table.bounded, uuidScan_of_none h,
    StoredCard.located]
  generalize linuxGpuInitSelection (some card.target) table.adapters.adapters role = fallback
  cases fallback.index with
  | adapter i moved =>
    dsimp only
    split <;> rfl
  | notFound => rfl
  | ambiguous => rfl

theorem restored_of_sole (h : Sole (carries card.uuid) table.gpus i) {gpu : LiveGpu}
    (hi : table.gpus[i]? = some gpu) :
    card.restored role table =
      if modelAgrees card.target gpu.adapter then
        ⟨.adapter i (!linuxGpuBdfEqual card.target gpu.adapter), true⟩
      else ⟨.notFound, false⟩ := by
  simp only [StoredCard.restored, linuxGpuRestoreSelection, card.filter_target, card.uuidValid,
    not_true_eq_false, if_false, List.take_of_length_le table.bounded, uuidScan_of_sole h, hi]
  split <;> rfl

theorem restored_of_many (h : 1 < table.gpus.countP (carries card.uuid)) :
    card.restored role table = ⟨.ambiguous, false⟩ := by
  simp only [StoredCard.restored, linuxGpuRestoreSelection, card.filter_target, card.uuidValid,
    not_true_eq_false, if_false, List.take_of_length_le table.bounded, uuidScan_of_many h]

/-- The selection is written to exactly when it names an adapter. -/
theorem located_writeResolved (card : StoredCard) (role : GpuLocationRole) (table : LiveTable) :
    (card.located role table).writeResolved = true ↔
      ∃ i moved, (card.located role table).index = .adapter i moved := by
  simp only [StoredCard.located, linuxGpuInitSelection, card.filter_target]
  split
  · simp
  · rename_i failed hfailed
    simp only [Bool.false_eq_true, false_iff]
    rintro ⟨i, moved, h⟩
    exact hfailed i moved h


/-- A card that carries no UUID of the table is followed by location and model. -/
theorem located_index (card : StoredCard) (role : GpuLocationRole) (table : LiveTable) :
    (card.located role table).index =
      linuxResolveStoredGpuTarget card.target role table.adapters.adapters :=
  initSelection_index card.targetValid

theorem located_eq_adapter_iff :
    (card.located role table).index = .adapter i moved ↔
      RightCard card.target role table.adapters.adapters i moved := by
  rw [located_index]
  exact resolve_eq_adapter_iff table.adapters.bounded

theorem adapters_getElem? (table : LiveTable) (i : Nat) :
    table.adapters.adapters[i]? = (table.gpus[i]?).map LiveGpu.adapter :=
  List.getElem?_map

/-- What location and model lead to is a valid adapter of the table. -/
theorem at_of_located (h : (card.located role table).index = .adapter i moved) :
    At (fun gpu => gpu.adapter.valid = true) table.gpus i := by
  rw [located_index] at h
  obtain ⟨live, hi, hvalid, -⟩ := comparable_of_resolve table.adapters.bounded h
  rw [adapters_getElem?] at hi
  obtain ⟨gpu, hgpu, rfl⟩ := Option.map_eq_some_iff.mp hi
  exact ⟨gpu, hgpu, hvalid⟩

/-- **What a restore selects**: the one card with the stored UUID, or, where no card shows
that UUID, the right card of location and model, and its own UUID cannot be read. -/
theorem restored_eq_adapter_iff :
    (card.restored role table).index = .adapter i moved ↔
      (Sole (carries card.uuid) table.gpus i ∧ At (Followed card moved) table.gpus i) ∨
      (table.gpus.countP (carries card.uuid) = 0 ∧
        (card.located role table).index = .adapter i moved ∧
        At (fun gpu => gpu.uuid.valid = false) table.gpus i) := by
  rcases carriers card.uuid table.gpus with hnone | ⟨j, hsole⟩ | hmany
  · have hnot : ¬ Sole (carries card.uuid) table.gpus i := fun h => by
      rw [h.countP_eq_one] at hnone
      cases hnone
    simp only [hnot, false_and, false_or, hnone, true_and]
    rw [restored_of_none hnone]
    cases hindex : (card.located role table).index with
    | adapter j moved' =>
      obtain ⟨gpu, hj, -⟩ := at_of_located hindex
      simp only [hj, Option.any_some]
      constructor
      · intro h
        split at h
        · cases h
        · rename_i hvalid
          rw [hindex] at h
          obtain ⟨rfl, rfl⟩ := StoredGpu.adapter.inj h
          exact ⟨rfl, gpu, hj, by simpa using hvalid⟩
      · rintro ⟨h, gpu', hgpu', hvalid⟩
        obtain ⟨rfl, rfl⟩ := StoredGpu.adapter.inj h
        obtain rfl := Option.some.inj (hj.symm.trans hgpu')
        rw [hvalid]
        exact hindex
    | notFound => simp [hindex]
    | ambiguous => simp [hindex]
  · obtain ⟨gpu, hj, -⟩ := hsole.found
    have hcount : ¬ table.gpus.countP (carries card.uuid) = 0 := by
      rw [hsole.countP_eq_one]
      decide
    simp only [hcount, false_and, or_false]
    rw [restored_of_sole hsole hj]
    constructor
    · intro h
      split at h
      · rename_i hagrees
        obtain ⟨rfl, rfl⟩ := StoredGpu.adapter.inj h
        exact ⟨hsole, gpu, hj, hagrees, rfl⟩
      · cases h
    · rintro ⟨hsole', gpu', hgpu', hagrees, rfl⟩
      obtain rfl := hsole.unique hsole'
      obtain rfl := Option.some.inj (hj.symm.trans hgpu')
      rw [if_pos hagrees]
  · rw [restored_of_many hmany]
    refine ⟨fun h => (by cases h), ?_⟩
    rintro (⟨hsole, -⟩ | ⟨hnone, -⟩)
    · rw [hsole.countP_eq_one] at hmany
      omega
    · omega

theorem restored_eq_ambiguous_iff :
    (card.restored role table).index = .ambiguous ↔
      1 < table.gpus.countP (carries card.uuid) ∨
      (table.gpus.countP (carries card.uuid) = 0 ∧
        (card.located role table).index = .ambiguous) := by
  rcases carriers card.uuid table.gpus with hnone | ⟨j, hsole⟩ | hmany
  · rw [restored_of_none hnone]
    cases hindex : (card.located role table).index with
    | adapter j moved' =>
      dsimp only
      split <;> simp [hnone, hindex]
    | notFound => simp [hnone, hindex]
    | ambiguous => simp [hnone, hindex]
  · obtain ⟨gpu, hj, -⟩ := hsole.found
    rw [restored_of_sole hsole hj, hsole.countP_eq_one]
    split <;> simp
  · rw [restored_of_many hmany]
    simp [hmany]

/-- A selection may be written to exactly when it names an adapter. -/
theorem restored_writeResolved (card : StoredCard) (role : GpuLocationRole) (table : LiveTable) :
    (card.restored role table).writeResolved = true ↔
      ∃ i moved, (card.restored role table).index = .adapter i moved := by
  rcases carriers card.uuid table.gpus with hnone | ⟨j, hsole⟩ | hmany
  · rw [restored_of_none hnone]
    have hlocated := located_writeResolved card role table
    cases hindex : (card.located role table).index with
    | adapter j moved =>
      dsimp only
      split
      · simp
      · exact hlocated
    | notFound => exact hlocated
    | ambiguous => exact hlocated
  · obtain ⟨gpu, hj, -⟩ := hsole.found
    rw [restored_of_sole hsole hj]
    split <;> simp
  · rw [restored_of_many hmany]
    simp

/-! ## Cards of the table -/

theorem valid_of_carries {stored : LinuxGpuUuid} {gpu : LiveGpu} (h : carries stored gpu = true) :
    gpu.adapter.valid = true ∧ gpu.uuid.valid = true ∧ stored.name = gpu.uuid.name := by
  simp only [carries, Bool.and_eq_true, decide_eq_true_eq] at h
  exact ⟨h.1.1, h.1.2, h.2⟩

/-- A selected card is not known to be another one. -/
theorem restored_card (h : (card.restored role table).index = .adapter i moved) :
    At (fun gpu => gpu.adapter.valid = true ∧
      (gpu.uuid.valid = false ∨ gpu.uuid.name = card.uuid.name)) table.gpus i := by
  rcases restored_eq_adapter_iff.mp h with ⟨hsole, -⟩ | ⟨-, hlocated, gpu, hi, hunread⟩
  · obtain ⟨gpu, hi, hcarries⟩ := hsole.found
    obtain ⟨hvalid, -, hname⟩ := valid_of_carries hcarries
    exact ⟨gpu, hi, hvalid, .inr hname.symm⟩
  · obtain ⟨gpu', hi', hvalid⟩ := at_of_located hlocated
    obtain rfl := Option.some.inj (hi.symm.trans hi')
    exact ⟨gpu, hi, hvalid, .inl hunread⟩

/-- The one card with the stored UUID is followed whatever its location and the role. -/
theorem restored_follows (hsole : Sole (carries card.uuid) table.gpus i)
    (hagrees : At (fun gpu => modelAgrees card.target gpu.adapter = true) table.gpus i)
    (role : GpuLocationRole) : ∃ moved, (card.restored role table).index = .adapter i moved := by
  obtain ⟨gpu, hi, hagrees⟩ := hagrees
  exact ⟨_, restored_eq_adapter_iff.mpr (.inl ⟨hsole, gpu, hi, hagrees, rfl⟩)⟩

theorem restored_of_unreadable (h : ∀ gpu ∈ table.gpus, gpu.uuid.valid = false) :
    card.restored role table = card.located role table := by
  have hnone : table.gpus.countP (carries card.uuid) = 0 := by
    refine List.countP_eq_zero.mpr fun gpu hgpu hcarries => ?_
    have hvalid := (valid_of_carries hcarries).2.1
    rw [h gpu hgpu] at hvalid
    cases hvalid
  rw [restored_of_none hnone]
  cases hindex : (card.located role table).index with
  | adapter i moved =>
    obtain ⟨gpu, hi, -⟩ := at_of_located hindex
    simp [hi, h gpu (List.mem_of_getElem? hi)]
  | notFound => rfl
  | ambiguous => rfl

/-! ## The order of the table -/

/-- The table in another order: place `i` holds what place `σ i` held. -/
def LiveTable.reorder (table : LiveTable) (σ : Equiv.Perm (Fin table.gpus.length)) :
    LiveTable where
  gpus := List.ofFn (table.gpus.get ∘ σ)
  bounded := by
    rw [List.length_ofFn]
    exact table.bounded

section Reorder
variable (σ : Equiv.Perm (Fin table.gpus.length))

theorem countP_reordered (p : LiveGpu → Bool) :
    (table.reorder σ).gpus.countP p = table.gpus.countP p := by
  have h := countP_ofFn_comp table.gpus.get σ p
  rwa [List.ofFn_get] at h

theorem sole_reordered {p : LiveGpu → Bool} {i : Fin table.gpus.length} :
    Sole p (table.reorder σ).gpus i ↔ Sole p table.gpus (σ i) := by
  have h := @sole_ofFn_comp _ p _ table.gpus.get σ i
  rwa [List.ofFn_get] at h

theorem at_reordered {p : LiveGpu → Prop} {i : Fin table.gpus.length} :
    At p (table.reorder σ).gpus i ↔ At p table.gpus (σ i) := by
  simp only [At, LiveTable.reorder]
  rw [List.getElem?_ofFn, dif_pos i.isLt, List.getElem?_eq_getElem (σ i).isLt]
  rfl

theorem rightCard_reordered {stored : GpuAdapterInfo} {i : Fin table.gpus.length} :
    RightCard stored role (table.reorder σ).adapters.adapters i moved ↔
      RightCard stored role table.adapters.adapters (σ i) moved := by
  have hlength : (table.reorder σ).gpus.length = table.gpus.length := List.length_ofFn
  simp only [RightCard, LiveTable.adapters, List.countP_map, List.length_map, sole_map,
    countP_reordered, sole_reordered, hlength]

theorem located_reordered (card : StoredCard) (role : GpuLocationRole) (i : Fin table.gpus.length) :
    (card.located role (table.reorder σ)).index = .adapter i moved ↔
      (card.located role table).index = .adapter (σ i) moved := by
  rw [located_eq_adapter_iff, located_eq_adapter_iff, rightCard_reordered]

theorem located_ambiguous_reordered (card : StoredCard) (role : GpuLocationRole) :
    (card.located role (table.reorder σ)).index = .ambiguous ↔
      (card.located role table).index = .ambiguous := by
  have hlength : (table.reorder σ).gpus.length = table.gpus.length := List.length_ofFn
  rw [located_index, located_index, resolve_eq_ambiguous_iff (table.reorder σ).adapters.bounded,
    resolve_eq_ambiguous_iff table.adapters.bounded]
  simp only [LiveTable.adapters, List.countP_map, List.length_map, countP_reordered, hlength]

theorem lt_of_restored (h : (card.restored role table).index = .adapter i moved) :
    i < table.gpus.length := by
  obtain ⟨gpu, hi, -⟩ := restored_card h
  exact (List.getElem?_eq_some_iff.mp hi).1

/-- **The order of the table moves the answer and nothing else.** -/
theorem restored_reordered (card : StoredCard) (role : GpuLocationRole) (table : LiveTable)
    (σ : Equiv.Perm (Fin table.gpus.length)) :
    (∀ (i : Fin table.gpus.length) (moved : Bool),
      (card.restored role (table.reorder σ)).index = .adapter i moved ↔
        (card.restored role table).index = .adapter (σ i) moved) ∧
    ((card.restored role (table.reorder σ)).index = .ambiguous ↔
      (card.restored role table).index = .ambiguous) ∧
    ((card.restored role (table.reorder σ)).index = .notFound ↔
      (card.restored role table).index = .notFound) := by
  have hadapter : ∀ (i : Fin table.gpus.length) (moved : Bool),
      (card.restored role (table.reorder σ)).index = .adapter i moved ↔
        (card.restored role table).index = .adapter (σ i) moved := by
    intro i moved
    rw [restored_eq_adapter_iff, restored_eq_adapter_iff, sole_reordered, at_reordered,
      at_reordered, countP_reordered, located_reordered]
  have hambiguous : (card.restored role (table.reorder σ)).index = .ambiguous ↔
      (card.restored role table).index = .ambiguous := by
    rw [restored_eq_ambiguous_iff, restored_eq_ambiguous_iff, countP_reordered,
      located_ambiguous_reordered]
  refine ⟨hadapter, hambiguous, notFound_iff_of_reordered σ (fun h => ?_) lt_of_restored hadapter
    hambiguous⟩
  have hlt := lt_of_restored h
  rwa [show (table.reorder σ).gpus.length = table.gpus.length from List.length_ofFn] at hlt

end Reorder

/-! ## More evidence -/

/-- `table'` reads the same adapters and every UUID that `table` read. -/
structure Reveals (table table' : LiveTable) : Prop where
  adapters : table'.gpus.map LiveGpu.adapter = table.gpus.map LiveGpu.adapter
  kept : ∀ (i : Nat) (gpu gpu' : LiveGpu), table.gpus[i]? = some gpu → table'.gpus[i]? = some gpu' →
    gpu.uuid.valid = true → gpu'.uuid.valid = true ∧ gpu'.uuid.name = gpu.uuid.name

namespace Reveals

variable {table' : LiveTable}

theorem located_eq (h : Reveals table table') (card : StoredCard) (role : GpuLocationRole) :
    card.located role table' = card.located role table := by
  simp only [StoredCard.located, LiveTable.adapters, h.adapters]

/-- A card that showed the stored UUID still does. -/
theorem carries {stored : LinuxGpuUuid} (h : Reveals table table')
    (hcarries : At (fun gpu => Gpu.carries stored gpu = true) table.gpus i) :
    At (fun gpu => Gpu.carries stored gpu = true) table'.gpus i := by
  obtain ⟨gpu, hi, hgpu⟩ := hcarries
  obtain ⟨hvalid, hread, hname⟩ := valid_of_carries hgpu
  have hadapter : table'.adapters.adapters[i]? = some gpu.adapter := by
    have hsame : table'.adapters.adapters = table.adapters.adapters := h.adapters
    rw [hsame, adapters_getElem?, hi]
    rfl
  rw [adapters_getElem?] at hadapter
  obtain ⟨gpu', hi', hgpu'⟩ := Option.map_eq_some_iff.mp hadapter
  obtain ⟨hread', hname'⟩ := h.kept i gpu gpu' hi hi' hread
  refine ⟨gpu', hi', ?_⟩
  simp only [Gpu.carries, hgpu', hvalid, hread', hname', hname, decide_true, Bool.and_self]

/-- **More evidence never leads elsewhere**: both selections name the same card, or the
second names a card that shows the stored UUID. -/
theorem restored {i j : Nat} {moved moved' : Bool} (h : Reveals table table')
    (hfirst : (card.restored role table).index = .adapter i moved)
    (hsecond : (card.restored role table').index = .adapter j moved') :
    i = j ∨ At (fun gpu => Gpu.carries card.uuid gpu = true) table'.gpus j := by
  rcases restored_eq_adapter_iff.mp hsecond with ⟨hsole, -⟩ | ⟨hnone, hlocated', -⟩
  · exact .inr hsole.found
  rw [h.located_eq] at hlocated'
  rcases restored_eq_adapter_iff.mp hfirst with ⟨hsole, -⟩ | ⟨-, hlocated, -⟩
  · obtain ⟨gpu', hi', hgpu'⟩ := h.carries hsole.found
    exact absurd hgpu' (List.countP_eq_zero.mp hnone gpu' (List.mem_of_getElem? hi'))
  · rw [hlocated] at hlocated'
    exact .inl (StoredGpu.adapter.inj hlocated').1

end Reveals

/-! ## What is learned -/

namespace LinuxGpuUuid

variable {known : LinuxGpuUuid} {reads : List LinuxGpuUuid}

theorem empty_not_valid : ({} : LinuxGpuUuid).valid = false := by decide

theorem retain_valid_iff {observed previous : LinuxGpuUuid} :
    (retain observed previous).valid = true ↔ observed.valid = true ∨ previous.valid = true := by
  unfold retain
  split_ifs with hobserved hprevious
  · simp [hobserved]
  · simp [hprevious]
  · simp [hobserved, hprevious, empty_not_valid]

theorem learn_append (known : LinuxGpuUuid) (reads later : List LinuxGpuUuid) :
    known.learn (reads ++ later) = (known.learn reads).learn later := List.foldl_append

/-- Reads that tell nothing leave what is known. -/
theorem learn_of_unreadable (hknown : known.valid = true) (h : ∀ read ∈ reads, read.valid = false) :
    known.learn reads = known := by
  induction reads with
  | nil => rfl
  | cons read reads ih =>
    have hread : retain read known = known := by
      simp [retain, h read List.mem_cons_self, hknown]
    rw [learn, List.foldl_cons, hread]
    exact ih fun read' hread' => h read' (List.mem_cons_of_mem _ hread')

theorem learn_valid_iff :
    (known.learn reads).valid = true ↔ known.valid = true ∨ ∃ read ∈ reads, read.valid = true := by
  induction reads generalizing known with
  | nil => simp [learn]
  | cons read reads ih =>
    rw [learn, List.foldl_cons, ← learn, ih, retain_valid_iff, List.exists_mem_cons_iff]
    tauto

/-- A read that tells something is what is known from then on. -/
theorem learn_append_singleton {read : LinuxGpuUuid} (h : read.valid = true) :
    known.learn (reads ++ [read]) = read := by
  rw [learn_append]
  simp [learn, retain, h]

end LinuxGpuUuid

/-! ## The law -/

theorem one_lt_of_two {p : LiveGpu → Bool} {j : Nat} (hne : j ≠ i)
    (hi : At (fun gpu => p gpu = true) table.gpus i)
    (hj : At (fun gpu => p gpu = true) table.gpus j) : 1 < table.gpus.countP p := by
  obtain ⟨gpu, hi, hp⟩ := hi
  have hpos : 0 < table.gpus.countP p :=
    List.countP_pos_iff.mpr ⟨gpu, List.mem_of_getElem? hi, hp⟩
  have hnotone : table.gpus.countP p ≠ 1 := by
    intro hone
    obtain ⟨k, -, hsole⟩ := Tally.sole_of_count ((Tally.of_count p table.gpus).trans hone)
    obtain ⟨other, hj, hother⟩ := hj
    exact hne ((hsole.sole j other hj hother).trans (hsole.sole i gpu hi hp).symm)
  omega

/-- **A restore stays on its card.**  A selected adapter is valid and its UUID is unreadable
or the stored one; the one adapter that carries the stored UUID, with a model that agrees, is
selected whatever its location and the role, and none is if two carry it; without a readable
UUID location and model decide as before; the answer moves with the order of the table; with
more UUIDs readable a selection stays or goes to a carrier of the stored one; and what was
learned of a card outlasts every read that tells nothing. -/
theorem restore_stays_on_card (card : StoredCard) (role : GpuLocationRole) (table : LiveTable) :
    (∀ i moved, (card.restored role table).index = .adapter i moved →
      At (fun gpu => gpu.adapter.valid = true ∧
        (gpu.uuid.valid = false ∨ gpu.uuid.name = card.uuid.name)) table.gpus i) ∧
    (∀ i, Sole (carries card.uuid) table.gpus i →
      At (fun gpu => modelAgrees card.target gpu.adapter = true) table.gpus i →
        ∃ moved, (card.restored role table).index = .adapter i moved) ∧
    (∀ i j, j ≠ i → At (fun gpu => carries card.uuid gpu = true) table.gpus i →
      At (fun gpu => carries card.uuid gpu = true) table.gpus j →
        card.restored role table = ⟨.ambiguous, false⟩) ∧
    ((∀ gpu ∈ table.gpus, gpu.uuid.valid = false) →
      card.restored role table = card.located role table) ∧
    (∀ σ : Equiv.Perm (Fin table.gpus.length),
      (∀ (i : Fin table.gpus.length) (moved : Bool),
        (card.restored role (table.reorder σ)).index = .adapter i moved ↔
          (card.restored role table).index = .adapter (σ i) moved) ∧
      ((card.restored role (table.reorder σ)).index = .ambiguous ↔
        (card.restored role table).index = .ambiguous) ∧
      ((card.restored role (table.reorder σ)).index = .notFound ↔
        (card.restored role table).index = .notFound)) ∧
    (∀ table' i j moved moved', Reveals table table' →
      (card.restored role table).index = .adapter i moved →
      (card.restored role table').index = .adapter j moved' →
        i = j ∨ At (fun gpu => carries card.uuid gpu = true) table'.gpus j) ∧
    (∀ (previous : LinuxGpuUuid) (reads later : List LinuxGpuUuid),
      previous.valid = true ∨ (∃ read ∈ reads, read.valid = true) →
        (previous.learn reads).valid = true ∧
        ((∀ read ∈ later, read.valid = false) →
          previous.learn (reads ++ later) = previous.learn reads) ∧
        (∀ read, read.valid = true → previous.learn (reads ++ [read]) = read)) := by
  refine ⟨fun i moved => restored_card, fun i hsole hagrees => restored_follows hsole hagrees role,
    fun i j hne hi hj => restored_of_many (one_lt_of_two hne hi hj), restored_of_unreadable,
    restored_reordered card role table, fun table' i j moved moved' h => h.restored,
    fun previous reads later hlearned => ?_⟩
  have hvalid := LinuxGpuUuid.learn_valid_iff.mpr hlearned
  refine ⟨hvalid, fun hlater => ?_, fun read => LinuxGpuUuid.learn_append_singleton⟩
  rw [LinuxGpuUuid.learn_append, LinuxGpuUuid.learn_of_unreadable hvalid hlater]

/-- The UUID of a card. -/
def cardUuid : LinuxGpuUuid := .parse "GPU-01234567-89AB-cdef-0123-456789abcdef".toList

/-- The recorded card with its UUID. -/
def identifiedCard : StoredCard where
  target := recordedCard
  uuid := cardUuid
  targetValid := rfl
  uuidValid := by decide

/-- The card at another location, and an identical one in its place. -/
def replacedCard : LiveTable where
  gpus := [⟨recordedCard, .parse "GPU-11111111-1111-1111-1111-111111111111".toList⟩,
    ⟨{ recordedCard with pciBus := 2 }, cardUuid⟩]
  bounded := by decide

/-- The stored card is followed, although its location must not move and another card of its
model has taken it. -/
theorem restore_stays_on_card_replaced :
    ∃ moved, (identifiedCard.restored .required replacedCard).index = .adapter 1 moved := by
  refine (restore_stays_on_card identifiedCard .required replacedCard).2.1 1 ?_
    ⟨_, rfl, by decide⟩
  refine ⟨⟨_, rfl, by decide⟩, fun j gpu hj hcarries => ?_⟩
  match j with
  | 0 =>
    obtain rfl := Option.some.inj hj
    revert hcarries
    decide
  | 1 => rfl

end GreenCurve.Gpu
