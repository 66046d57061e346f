import GreenCurve.GpuSelection

/-! # The right card

A resolution that names an adapter names the sole adapter that fits (`RightCard`), so it
does not depend on the order of the list.  The adapter the client chose is a target that
fits itself, so the daemon finds it again or finds it ambiguous, and never another one.  A
model is compared only in the ids both sides know, and that relation is not transitive:
the chosen adapter can fit another one that the record did not fit. -/

namespace GreenCurve.Gpu

variable {stored live : GpuAdapterInfo} {role : GpuLocationRole} {xs : List GpuAdapterInfo}
  {i : Nat} {moved : Bool}

/-! ## What a resolution finds -/

/-- A valid adapter of the stored model, if that is known, at the stored location. -/
def atLocation (stored live : GpuAdapterInfo) : Bool :=
  live.valid && (!stored.modelKnown || linuxGpuModelMatches stored live) && stored.bdfValid &&
    linuxGpuBdfEqual stored live

/-- A valid adapter of the stored model. -/
def ofModel (stored live : GpuAdapterInfo) : Bool :=
  live.valid && stored.modelKnown && linuxGpuModelMatches stored live

/-- **The right card**: the adapter is the only one that fits at the stored location, or
nothing fits there, the location may move and it is the only one of the model. -/
def RightCard (stored : GpuAdapterInfo) (role : GpuLocationRole) (xs : List GpuAdapterInfo)
    (i : Nat) (moved : Bool) : Prop :=
  (Sole (atLocation stored) xs i ∧ moved = false) ∨
    (xs.countP (atLocation stored) = 0 ∧
      (stored.bdfValid = true → configuredGpuLocationMayMove role xs.length = true) ∧
      Sole (ofModel stored) xs i ∧ moved = stored.bdfValid)

theorem scan_eq (stored : GpuAdapterInfo) (xs : List GpuAdapterInfo) :
    xs.zipIdx.foldl (ResolveScan.step stored) {} =
      ⟨Tally.of (ofModel stored) xs, Tally.of (atLocation stored) xs⟩ := by
  induction xs using List.reverseRecOn with
  | nil => rfl
  | append_singleton xs live ih =>
    rw [List.zipIdx_append, List.foldl_append, ih, Tally.of_append_singleton,
      Tally.of_append_singleton]
    simp only [List.zipIdx_singleton, Nat.zero_add, List.foldl_cons, List.foldl_nil,
      ResolveScan.step, ofModel, atLocation]
    by_cases hvalid : live.valid = true
    · by_cases hmodel : stored.modelKnown = true
      · by_cases hmatches : linuxGpuModelMatches stored live = true
        · simp [hvalid, hmodel, hmatches]
        · simp [hmodel, hmatches]
      · simp [hvalid, hmodel]
    · simp [hvalid]

theorem count_ne_zero_of_sole {p : GpuAdapterInfo → Bool} (h : Sole p xs i) : xs.countP p ≠ 0 := by
  rw [h.countP_eq_one]
  decide

/-- A scan that finds something is one of a target that can be compared. -/
theorem comparable_of_count (h : xs.countP (atLocation stored) ≠ 0 ∨ xs.countP (ofModel stored) ≠ 0) :
    stored.valid = true ∧ (stored.bdfValid = true ∨ stored.modelKnown = true) := by
  have hvalid : stored.bdfValid = true ∨ stored.modelKnown = true → stored.valid = true := by
    rintro (hbdf | hmodel)
    · simp only [GpuAdapterInfo.bdfValid, Bool.and_eq_true] at hbdf
      exact hbdf.1.1.1.1.1
    · simp only [GpuAdapterInfo.modelKnown, Bool.and_eq_true] at hmodel
      exact hmodel.1.1
  suffices hcomparable : stored.bdfValid = true ∨ stored.modelKnown = true from
    ⟨hvalid hcomparable, hcomparable⟩
  rcases h with h | h
  · obtain ⟨live, -, hlive⟩ := List.countP_pos_iff.mp (Nat.pos_of_ne_zero h)
    simp only [atLocation, Bool.and_eq_true] at hlive
    exact .inl hlive.1.2
  · obtain ⟨live, -, hlive⟩ := List.countP_pos_iff.mp (Nat.pos_of_ne_zero h)
    simp only [ofModel, Bool.and_eq_true] at hlive
    exact .inr hlive.1.2

/-- The resolution in terms of what matches. -/
theorem resolve_eq (hbound : xs.length ≤ MAX_GPU_ADAPTERS)
    (h : stored.valid = true ∧ (stored.bdfValid = true ∨ stored.modelKnown = true)) :
    linuxResolveStoredGpuTarget stored role xs =
      if xs.countP (atLocation stored) = 1 then
        .adapter ((Tally.of (atLocation stored) xs).last.getD 0) false
      else if xs.countP (atLocation stored) > 1 then .ambiguous
      else if xs.countP (ofModel stored) = 0 then .notFound
      else if stored.bdfValid ∧ ¬configuredGpuLocationMayMove role xs.length then .notFound
      else if xs.countP (ofModel stored) > 1 then .ambiguous
      else .adapter ((Tally.of (ofModel stored) xs).last.getD 0) stored.bdfValid := by
  obtain ⟨hvalid, hcomparable⟩ := h
  have hsome : ¬(¬stored.bdfValid = true ∧ ¬stored.modelKnown = true) := by
    rintro ⟨hbdf, hmodel⟩
    exact hcomparable.elim hbdf hmodel
  rw [linuxResolveStoredGpuTarget, if_neg (not_not_intro hvalid), if_neg hsome,
    List.take_of_length_le hbound, scan_eq]
  simp only [Tally.of_count]

theorem resolve_eq_notFound_of_not
    (h : ¬(stored.valid = true ∧ (stored.bdfValid = true ∨ stored.modelKnown = true))) :
    linuxResolveStoredGpuTarget stored role xs = .notFound := by
  unfold linuxResolveStoredGpuTarget
  by_cases hvalid : stored.valid = true
  · rw [if_neg (not_not_intro hvalid), if_pos]
    exact not_or.mp fun hcomparable => h ⟨hvalid, hcomparable⟩
  · rw [if_pos hvalid]

theorem adapter_of_last {p : GpuAdapterInfo → Bool} (h : xs.countP p = 1) :
    Sole p xs ((Tally.of p xs).last.getD 0) := by
  obtain ⟨i, hlast, hsole⟩ := Tally.sole_of_count ((Tally.of_count p xs).trans h)
  rw [hlast]
  exact hsole

theorem last_of_sole {p : GpuAdapterInfo → Bool} (h : Sole p xs i) :
    (Tally.of p xs).last.getD 0 = i := by
  rw [h.tally]
  rfl

/-- **A resolution names an adapter exactly when it is the right card.** -/
theorem resolve_eq_adapter_iff (hbound : xs.length ≤ MAX_GPU_ADAPTERS) :
    linuxResolveStoredGpuTarget stored role xs = .adapter i moved ↔
      RightCard stored role xs i moved := by
  constructor
  · intro h
    by_cases hcomparable : stored.valid = true ∧ (stored.bdfValid = true ∨ stored.modelKnown = true)
    · rw [resolve_eq hbound hcomparable] at h
      by_cases hone : xs.countP (atLocation stored) = 1
      · rw [if_pos hone, StoredGpu.adapter.injEq] at h
        obtain ⟨rfl, rfl⟩ := h
        exact .inl ⟨adapter_of_last hone, rfl⟩
      rw [if_neg hone] at h
      by_cases hmany : xs.countP (atLocation stored) > 1
      · rw [if_pos hmany] at h
        cases h
      rw [if_neg hmany] at h
      by_cases hnone : xs.countP (ofModel stored) = 0
      · rw [if_pos hnone] at h
        cases h
      rw [if_neg hnone] at h
      by_cases hfixed : stored.bdfValid = true ∧
          ¬configuredGpuLocationMayMove role xs.length = true
      · rw [if_pos hfixed] at h
        cases h
      rw [if_neg hfixed] at h
      by_cases hmodels : xs.countP (ofModel stored) > 1
      · rw [if_pos hmodels] at h
        cases h
      rw [if_neg hmodels, StoredGpu.adapter.injEq] at h
      obtain ⟨rfl, rfl⟩ := h
      refine .inr ⟨by omega, fun hbdf => ?_, adapter_of_last (by omega), rfl⟩
      exact not_not.mp fun hmove => hfixed ⟨hbdf, hmove⟩
    · rw [resolve_eq_notFound_of_not hcomparable] at h
      cases h
  · rintro (⟨hsole, rfl⟩ | ⟨hnone, hmove, hsole, rfl⟩)
    · have hcomparable := comparable_of_count (.inl (count_ne_zero_of_sole hsole))
      rw [resolve_eq hbound hcomparable, if_pos hsole.countP_eq_one, last_of_sole hsole]
    · have hcomparable := comparable_of_count (.inr (count_ne_zero_of_sole hsole))
      have hmodel := hsole.countP_eq_one
      rw [resolve_eq hbound hcomparable, if_neg (by omega), if_neg (by omega), if_neg (by omega),
        if_neg (fun h => h.2 (hmove h.1)), if_neg (by omega), last_of_sole hsole]

theorem resolve_eq_ambiguous_iff (hbound : xs.length ≤ MAX_GPU_ADAPTERS) :
    linuxResolveStoredGpuTarget stored role xs = .ambiguous ↔
      1 < xs.countP (atLocation stored) ∨ (xs.countP (atLocation stored) = 0 ∧
        (stored.bdfValid = true → configuredGpuLocationMayMove role xs.length = true) ∧
        1 < xs.countP (ofModel stored)) := by
  constructor
  · intro h
    by_cases hcomparable : stored.valid = true ∧ (stored.bdfValid = true ∨ stored.modelKnown = true)
    · rw [resolve_eq hbound hcomparable] at h
      split_ifs at h with hone hmany hnone hfixed hmodels
      · exact .inl hmany
      · exact .inr ⟨by omega, fun hbdf => not_not.mp fun hmove => hfixed ⟨hbdf, hmove⟩, hmodels⟩
    · rw [resolve_eq_notFound_of_not hcomparable] at h
      cases h
  · rintro (hmany | ⟨hnone, hmove, hmodels⟩)
    · have hcomparable := comparable_of_count (.inl (show xs.countP (atLocation stored) ≠ 0 by omega))
      rw [resolve_eq hbound hcomparable, if_neg (by omega), if_pos hmany]
    · have hcomparable := comparable_of_count (.inr (show xs.countP (ofModel stored) ≠ 0 by omega))
      rw [resolve_eq hbound hcomparable, if_neg (by omega), if_neg (by omega), if_neg (by omega),
        if_neg (fun h => h.2 (hmove h.1)), if_pos hmodels]

/-! ## The order of the list -/

/-- The list in another order: place `i` holds what place `σ i` held. -/
def AdapterList.reorder (l : AdapterList) (σ : Equiv.Perm (Fin l.adapters.length)) : AdapterList where
  adapters := List.ofFn (l.adapters.get ∘ σ)
  bounded := by
    rw [List.length_ofFn]
    exact l.bounded

theorem AdapterList.length_reorder (l : AdapterList) (σ : Equiv.Perm (Fin l.adapters.length)) :
    (l.reorder σ).adapters.length = l.adapters.length := List.length_ofFn

theorem AdapterList.countP_reorder (l : AdapterList) (σ : Equiv.Perm (Fin l.adapters.length))
    (p : GpuAdapterInfo → Bool) : (l.reorder σ).adapters.countP p = l.adapters.countP p := by
  have h := countP_ofFn_comp l.adapters.get σ p
  rwa [List.ofFn_get] at h

theorem AdapterList.sole_reorder (l : AdapterList) (σ : Equiv.Perm (Fin l.adapters.length))
    {p : GpuAdapterInfo → Bool} {i : Fin l.adapters.length} :
    Sole p (l.reorder σ).adapters i ↔ Sole p l.adapters (σ i) := by
  have h := @sole_ofFn_comp _ p _ l.adapters.get σ i
  rwa [List.ofFn_get] at h

theorem lt_of_resolve {l : AdapterList}
    (h : linuxResolveStoredGpuTarget stored role l.adapters = .adapter i moved) :
    i < l.adapters.length := by
  have hlt : ∀ p : GpuAdapterInfo → Bool, Sole p l.adapters i → i < l.adapters.length := by
    intro p hsole
    obtain ⟨x, hx, -⟩ := hsole.found
    exact (List.getElem?_eq_some_iff.mp hx).1
  rcases (resolve_eq_adapter_iff l.bounded).mp h with ⟨hsole, -⟩ | ⟨-, -, hsole, -⟩
  · exact hlt _ hsole
  · exact hlt _ hsole

/-- Two answers that name the same places up to order, and are ambiguous together, fail
together. -/
theorem notFound_iff_of_reordered {answer answer' : StoredGpu} {n : Nat} (σ : Equiv.Perm (Fin n))
    (hlt' : ∀ {i moved}, answer' = .adapter i moved → i < n)
    (hlt : ∀ {i moved}, answer = .adapter i moved → i < n)
    (hadapter : ∀ (i : Fin n) (moved : Bool),
      answer' = .adapter i moved ↔ answer = .adapter (σ i) moved)
    (hambiguous : answer' = .ambiguous ↔ answer = .ambiguous) :
    answer' = .notFound ↔ answer = .notFound := by
  constructor
  · intro h
    cases hanswer : answer with
    | notFound => rfl
    | ambiguous =>
      rw [hambiguous.mpr hanswer] at h
      cases h
    | adapter i moved =>
      have hback := (hadapter (σ.symm ⟨i, hlt hanswer⟩) moved).mpr (by simpa using hanswer)
      rw [hback] at h
      cases h
  · intro h
    cases hanswer : answer' with
    | notFound => rfl
    | ambiguous =>
      rw [hambiguous.mp hanswer] at h
      cases h
    | adapter i moved =>
      rw [(hadapter ⟨i, hlt' hanswer⟩ moved).mp hanswer] at h
      cases h

/-- **The order of the list moves the answer and nothing else.** -/
theorem resolve_reorder (stored : GpuAdapterInfo) (role : GpuLocationRole) (l : AdapterList)
    (σ : Equiv.Perm (Fin l.adapters.length)) :
    (∀ (i : Fin l.adapters.length) (moved : Bool),
      linuxResolveStoredGpuTarget stored role (l.reorder σ).adapters = .adapter i moved ↔
        linuxResolveStoredGpuTarget stored role l.adapters = .adapter (σ i) moved) ∧
    (linuxResolveStoredGpuTarget stored role (l.reorder σ).adapters = .ambiguous ↔
      linuxResolveStoredGpuTarget stored role l.adapters = .ambiguous) ∧
    (linuxResolveStoredGpuTarget stored role (l.reorder σ).adapters = .notFound ↔
      linuxResolveStoredGpuTarget stored role l.adapters = .notFound) := by
  have hadapter : ∀ (i : Fin l.adapters.length) (moved : Bool),
      linuxResolveStoredGpuTarget stored role (l.reorder σ).adapters = .adapter i moved ↔
        linuxResolveStoredGpuTarget stored role l.adapters = .adapter (σ i) moved := by
    intro i moved
    rw [resolve_eq_adapter_iff (l.reorder σ).bounded, resolve_eq_adapter_iff l.bounded]
    simp only [RightCard, l.countP_reorder, l.length_reorder, l.sole_reorder]
  have hambiguous : linuxResolveStoredGpuTarget stored role (l.reorder σ).adapters = .ambiguous ↔
      linuxResolveStoredGpuTarget stored role l.adapters = .ambiguous := by
    rw [resolve_eq_ambiguous_iff (l.reorder σ).bounded, resolve_eq_ambiguous_iff l.bounded]
    simp only [l.countP_reorder, l.length_reorder]
  exact ⟨hadapter, hambiguous, notFound_iff_of_reordered σ
    (fun h => l.length_reorder σ ▸ lt_of_resolve h) lt_of_resolve hadapter hambiguous⟩

/-! ## A target that describes an adapter of the list -/

/-- An adapter that fits the stored target: at its location, or of its model where the
target has none. -/
def fits (stored live : GpuAdapterInfo) : Bool :=
  if stored.bdfValid then atLocation stored live else ofModel stored live

/-- What becomes of a target that describes the adapter at `i`: it is found again, or
another adapter fits as well and the target is ambiguous. -/
structure FoundAgain (stored : GpuAdapterInfo) (xs : List GpuAdapterInfo) (i : Nat)
    (answer : StoredGpu) : Prop where
  same : answer = .adapter i false ∨ answer = .ambiguous
  ambiguous : answer = .ambiguous ↔ ∃ j other, j ≠ i ∧ xs[j]? = some other ∧ fits stored other = true

theorem sole_or_rival {p : GpuAdapterInfo → Bool} (hi : xs[i]? = some live) (hp : p live = true) :
    Sole p xs i ∨ ∃ j other, j ≠ i ∧ xs[j]? = some other ∧ p other = true := by
  by_cases h : ∃ j other, j ≠ i ∧ xs[j]? = some other ∧ p other = true
  · exact .inr h
  · refine .inl ⟨⟨live, hi, hp⟩, fun j other hj hother => ?_⟩
    exact not_not.mp fun hne => h ⟨j, other, hne, hj, hother⟩

theorem one_lt_countP_of_rival {p : GpuAdapterInfo → Bool} (hi : xs[i]? = some live)
    (hp : p live = true) (h : ∃ j other, j ≠ i ∧ xs[j]? = some other ∧ p other = true) :
    1 < xs.countP p := by
  obtain ⟨j, other, hne, hj, hother⟩ := h
  have hpos : 0 < xs.countP p := List.countP_pos_iff.mpr ⟨live, List.mem_of_getElem? hi, hp⟩
  have hnotone : xs.countP p ≠ 1 := by
    intro hone
    have hsole := adapter_of_last hone
    exact hne ((hsole.sole j other hj hother).trans (hsole.sole i live hi hp).symm)
  omega

/-- **A target that describes an adapter finds it again or is ambiguous**, whatever its
role. -/
theorem resolve_described (role : GpuLocationRole) (hbound : xs.length ≤ MAX_GPU_ADAPTERS)
    (hi : xs[i]? = some live) (hfits : fits stored live = true) :
    FoundAgain stored xs i (linuxResolveStoredGpuTarget stored role xs) := by
  have hsingle : Sole (fits stored) xs i →
      linuxResolveStoredGpuTarget stored role xs = .adapter i false := by
    intro hsole
    refine (resolve_eq_adapter_iff hbound).mpr ?_
    by_cases hbdf : stored.bdfValid = true
    · exact .inl ⟨hsole.congr fun x _ => if_pos hbdf, rfl⟩
    · have hnone : xs.countP (atLocation stored) = 0 := by
        refine List.countP_eq_zero.mpr fun x _ hx => hbdf ?_
        simp only [atLocation, Bool.and_eq_true] at hx
        exact hx.1.2
      refine .inr ⟨hnone, fun h => absurd h hbdf, hsole.congr fun x _ => if_neg hbdf, ?_⟩
      exact (Bool.not_eq_true _ ▸ hbdf).symm
  have hmany : (∃ j other, j ≠ i ∧ xs[j]? = some other ∧ fits stored other = true) →
      linuxResolveStoredGpuTarget stored role xs = .ambiguous := by
    intro hrival
    have hcount := one_lt_countP_of_rival hi hfits hrival
    refine (resolve_eq_ambiguous_iff hbound).mpr ?_
    by_cases hbdf : stored.bdfValid = true
    · refine .inl ?_
      rwa [show fits stored = atLocation stored from funext fun x => if_pos hbdf] at hcount
    · have hnone : xs.countP (atLocation stored) = 0 := by
        refine List.countP_eq_zero.mpr fun x _ hx => hbdf ?_
        simp only [atLocation, Bool.and_eq_true] at hx
        exact hx.1.2
      refine .inr ⟨hnone, fun h => absurd h hbdf, ?_⟩
      rwa [show fits stored = ofModel stored from funext fun x => if_neg hbdf] at hcount
  rcases sole_or_rival hi hfits with hsole | hrival
  · refine ⟨.inl (hsingle hsole), fun h => ?_, fun ⟨j, other, hne, hj, hother⟩ => ?_⟩
    · rw [hsingle hsole] at h
      cases h
    · exact absurd (hsole.sole j other hj hother) hne
  · exact ⟨.inr (hmany hrival), fun _ => hrival, fun _ => hmany hrival⟩

end GreenCurve.Gpu
