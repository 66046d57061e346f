import GreenCurve.GpuRecord
import GreenCurve.GpuSelectionLaw

/-! # Client and daemon

The client resolves the record of its configuration file once and sends the live adapter;
the daemon resolves that adapter on its own, without a role.  Over every run of the
client a write names only an adapter the client was shown: the one a step of the selector
or `--gpu` chose, or the one the record resolved to. -/

namespace GreenCurve.Gpu

variable {stored live : GpuAdapterInfo} {role : GpuLocationRole} {xs : List GpuAdapterInfo}
  {i : Nat} {moved : Bool}

/-! ## An adapter fits itself -/

theorem matches_recorded (h : live.modelKnown = true) :
    linuxGpuModelMatches live.recorded live = true := by
  have hknown : live.recorded.modelKnown = true := h
  have hdevice : linuxGpuDeviceIdMatches live.deviceId live.deviceId = true := by
    simp [linuxGpuDeviceIdMatches]
  have hsubsystem : linuxGpuSubsystemIdMatches live.subSystemId live.subSystemId = true := by
    simp [linuxGpuSubsystemIdMatches]
  simp only [linuxGpuModelMatches, hknown, h, Bool.true_and]
  simp [GpuAdapterInfo.recorded, hdevice, hsubsystem, optionalIdMatches]

theorem matches_self (h : live.modelKnown = true) : linuxGpuModelMatches live live = true := by
  simp [linuxGpuModelMatches, h, linuxGpuDeviceIdMatches, linuxGpuSubsystemIdMatches,
    optionalIdMatches]

/-- A target with the location and the validity of an adapter whose model matches it. -/
theorem fits_of_matches (hvalid : live.valid = true) (hbdf : stored.bdfValid = live.bdfValid)
    (hlocation : stored.bdf = live.bdf) (hknown : stored.modelKnown = live.modelKnown)
    (hmatches : live.modelKnown = true → linuxGpuModelMatches stored live = true)
    (h : live.bdfValid = true ∨ live.modelKnown = true) : fits stored live = true := by
  unfold fits
  by_cases hplace : live.bdfValid = true
  · rw [if_pos (hbdf.trans hplace)]
    simp only [atLocation, linuxGpuBdfEqual, hvalid, hbdf, hplace, hknown, hlocation,
      decide_true, Bool.true_and, Bool.and_true]
    cases hmodel : live.modelKnown with
    | false => rfl
    | true => exact hmatches hmodel
  · rw [if_neg (by rwa [hbdf])]
    have hmodel := h.resolve_left hplace
    simp only [ofModel, hvalid, hknown, hmodel, hmatches hmodel, Bool.and_self]

theorem fits_self (hvalid : live.valid = true)
    (h : live.bdfValid = true ∨ live.modelKnown = true) : fits live live = true :=
  fits_of_matches hvalid rfl rfl rfl matches_self h

theorem fits_recorded (hvalid : live.valid = true)
    (h : live.bdfValid = true ∨ live.modelKnown = true) : fits live.recorded live = true :=
  fits_of_matches hvalid rfl rfl rfl matches_recorded h

/-- What a resolution names can be compared. -/
theorem comparable_of_resolve (hbound : xs.length ≤ MAX_GPU_ADAPTERS)
    (h : linuxResolveStoredGpuTarget stored role xs = .adapter i moved) :
    ∃ live, xs[i]? = some live ∧ live.valid = true ∧
      (stored.modelKnown = true → linuxGpuModelMatches stored live = true) ∧
      (live.bdfValid = true ∨ live.modelKnown = true) := by
  rcases (resolve_eq_adapter_iff hbound).mp h with ⟨hsole, -⟩ | ⟨-, -, hsole, -⟩
  · obtain ⟨live, hi, hlive⟩ := hsole.found
    simp only [atLocation, linuxGpuBdfEqual, Bool.and_eq_true, Bool.or_eq_true,
      Bool.not_eq_true'] at hlive
    obtain ⟨⟨⟨hvalid, hmodel⟩, -⟩, ⟨-, hplace⟩, -⟩ := hlive
    refine ⟨live, hi, hvalid, fun hknown => hmodel.resolve_left ?_, .inl hplace⟩
    rw [hknown]
    decide
  · obtain ⟨live, hi, hlive⟩ := hsole.found
    simp only [ofModel, Bool.and_eq_true] at hlive
    obtain ⟨⟨hvalid, -⟩, hmatches⟩ := hlive
    refine ⟨live, hi, hvalid, fun _ => hmatches, .inr ?_⟩
    simp only [linuxGpuModelMatches, Bool.and_eq_true] at hmatches
    exact hmatches.1.1.1.1.2

/-- The daemon's selection for a valid target is its resolution. -/
theorem initSelection_index (hvalid : live.valid = true) :
    (linuxGpuInitSelection (some live) xs role).index = linuxResolveStoredGpuTarget live role xs := by
  simp only [linuxGpuInitSelection, Option.filter, hvalid, if_true]
  split
  · rename_i h
    exact h.symm
  · rfl

/-! ## The runs of the client -/

/-- **Where a target of a write comes from**: a step of the selector, the location of
`--gpu`, or the record, resolved with its role against a snapshot. -/
inductive Origin (start : ClientStart) (events : List ClientEvent) (target : GpuAdapterInfo) : Prop
  | chosen {snapshot : AdapterList} {next : Nat} :
    ClientEvent.choose snapshot next ∈ events → snapshot.adapters[next]? = some target →
      Origin start events target
  | option {wanted : GpuAdapterInfo} {snapshot : AdapterList} :
    start = .gpuOption wanted snapshot →
      linuxGpuTargetSelectExact wanted snapshot.adapters = some target → Origin start events target
  | record {stored : GpuAdapterInfo} {role : GpuLocationRole} {snapshot : AdapterList}
      {saved : Bool} {i : Nat} {moved : Bool} :
    start = .configFile (.present stored role) → ClientEvent.resolve snapshot saved ∈ events →
      linuxResolveStoredGpuTarget stored role snapshot.adapters = .adapter i moved →
      snapshot.adapters[i]? = some target → Origin start events target

theorem Origin.append {start : ClientStart} {events : List ClientEvent} {target : GpuAdapterInfo}
    (h : Origin start events target) (event : ClientEvent) :
    Origin start (events ++ [event]) target := by
  cases h with
  | chosen hmem hnext => exact .chosen (List.mem_append_left _ hmem) hnext
  | option hstart hexact => exact .option hstart hexact
  | record hstart hmem hresolve hi => exact .record hstart (List.mem_append_left _ hmem) hresolve hi

/-- What holds of the selection throughout: it names an adapter with an origin, or it
still holds the record as it was loaded. -/
structure Sourced (start : ClientStart) (events : List ClientEvent) (gpu : LinuxConfiguredGpu) :
    Prop where
  named : gpu.status = .explicit ∨ gpu.status = .resolved → Origin start events gpu.target
  waiting : gpu.status = .pending ∨ gpu.status = .unvalidated →
    start = .configFile (.present gpu.target gpu.role)
  unrecorded : gpu.status = .none → ∀ record, start = .configFile record → record = .absent

theorem Sourced.start {start : ClientStart} {gpu : LinuxConfiguredGpu}
    (h : start.gpu = some gpu) : Sourced start [] gpu := by
  cases start with
  | configFile record =>
    obtain rfl := Option.some.inj h
    cases record with
    | absent =>
      exact
        { named := fun h => by rcases h with h | h <;> cases h
          waiting := fun h => by rcases h with h | h <;> cases h
          unrecorded := fun _ record hrecord => (ClientStart.configFile.inj hrecord).symm }
    | present target role =>
      exact
        { named := fun h => by rcases h with h | h <;> cases h
          waiting := fun _ => rfl
          unrecorded := fun h => by cases h }
    | malformed =>
      exact
        { named := fun h => by rcases h with h | h <;> cases h
          waiting := fun h => by rcases h with h | h <;> cases h
          unrecorded := fun h => by cases h }
  | gpuOption target snapshot =>
    obtain ⟨live, hexact, rfl⟩ := Option.map_eq_some_iff.mp h
    refine ⟨fun _ => .option rfl hexact, fun hwaiting => ?_, fun _ record hrecord => nomatch hrecord⟩
    simp only [linuxConfiguredGpuExplicit] at hwaiting
    split at hwaiting <;> rcases hwaiting with hw | hw <;> cases hw

/-- What a resolution makes of a selection that waits for one. -/
inductive Resolution (gpu : LinuxConfiguredGpu) (snapshot : AdapterList) :
    LinuxConfiguredGpu → Prop
  | failed {gpu' : LinuxConfiguredGpu} :
    gpu'.target = gpu.target → gpu'.role = gpu.role →
      gpu'.status = .unvalidated ∨ gpu'.status = .ambiguous ∨ gpu'.status = .notPresent →
      Resolution gpu snapshot gpu'
  | resolved {gpu' : LinuxConfiguredGpu} {i : Nat} {moved : Bool} :
    linuxResolveStoredGpuTarget gpu.target gpu.role snapshot.adapters = .adapter i moved →
      snapshot.adapters[i]? = some gpu'.target → gpu'.status = .resolved →
      Resolution gpu snapshot gpu'

theorem resolution_of_waiting {gpu : LinuxConfiguredGpu} {snapshot : AdapterList}
    (h : gpu.status = .pending ∨ gpu.status = .unvalidated) (saved : Bool) :
    Resolution gpu snapshot (linuxConfiguredGpuResolveAgainst gpu snapshot.adapters saved) := by
  have hwaits : ¬(gpu.status ≠ .pending ∧ gpu.status ≠ .unvalidated) := by
    rintro ⟨hpending, hunvalidated⟩
    exact h.elim hpending hunvalidated
  unfold linuxConfiguredGpuResolveAgainst linuxConfiguredGpuResolve
  rw [if_neg hwaits]
  by_cases hempty : snapshot.adapters.length = 0
  · rw [if_pos hempty]
    exact .failed rfl rfl (.inl rfl)
  rw [if_neg hempty]
  cases hresolve : linuxResolveStoredGpuTarget gpu.target gpu.role snapshot.adapters with
  | notFound => exact .failed rfl rfl (.inr (.inr rfl))
  | ambiguous => exact .failed rfl rfl (.inr (.inl rfl))
  | adapter i moved =>
    obtain ⟨live, hi, -⟩ := comparable_of_resolve snapshot.bounded hresolve
    have htarget : snapshot.adapters[i]? = some (snapshot.adapters.getD i {}) := by
      rw [List.getD_eq_getElem?_getD, hi, Option.getD_some]
    simp only
    split
    · exact .resolved hresolve htarget rfl
    · exact .resolved hresolve htarget rfl

theorem resolveAgainst_of_not_waiting {gpu : LinuxConfiguredGpu} {snapshot : AdapterList}
    (h : ¬(gpu.status = .pending ∨ gpu.status = .unvalidated)) (saved : Bool) :
    linuxConfiguredGpuResolveAgainst gpu snapshot.adapters saved = gpu := by
  unfold linuxConfiguredGpuResolveAgainst linuxConfiguredGpuResolve
  rw [if_pos (not_or.mp h)]

/-- Nothing that happens to the selection gives it a target from elsewhere. -/
theorem Sourced.step {start : ClientStart} {events : List ClientEvent} {gpu : LinuxConfiguredGpu}
    (h : Sourced start events gpu) (event : ClientEvent) :
    Sourced start (events ++ [event]) (event.step gpu) := by
  have hkept : Sourced start (events ++ [event]) gpu :=
    ⟨fun hnamed => (h.named hnamed).append event, h.waiting, h.unrecorded⟩
  cases event with
  | resolve snapshot saved =>
    by_cases hwaits : gpu.status = .pending ∨ gpu.status = .unvalidated
    · have hstart := h.waiting hwaits
      change Sourced start _ (linuxConfiguredGpuResolveAgainst gpu snapshot.adapters saved)
      cases resolution_of_waiting hwaits saved with
      | failed htarget hrole hstatus =>
        refine ⟨fun hnamed => ?_, fun _ => ?_, fun hnone => ?_⟩
        · rcases hstatus with hs | hs | hs <;> rw [hs] at hnamed <;> rcases hnamed with hn | hn <;>
            cases hn
        · rw [htarget, hrole]
          exact hstart
        · rcases hstatus with hs | hs | hs <;> rw [hs] at hnone <;> cases hnone
      | resolved hresolve hi hstatus =>
        refine ⟨fun _ => .record hstart (List.mem_append_right _ List.mem_cons_self) hresolve hi,
          fun hwaiting => ?_, fun hnone => ?_⟩
        · rw [hstatus] at hwaiting
          rcases hwaiting with hw | hw <;> cases hw
        · rw [hstatus] at hnone
          cases hnone
    · rwa [ClientEvent.step, resolveAgainst_of_not_waiting hwaits]
  | unanswered =>
    simp only [ClientEvent.step]
    split
    · rename_i hpending
      refine ⟨fun hnamed => ?_, fun _ => h.waiting (.inl hpending), fun hnone => (by cases hnone)⟩
      rcases hnamed with hn | hn <;> cases hn
    · exact hkept
  | choose snapshot next =>
    simp only [ClientEvent.step]
    split
    · rename_i chosen hnext
      refine ⟨fun _ => .chosen (List.mem_append_right _ List.mem_cons_self) hnext,
        fun hwaiting => ?_, fun hnone => (by cases hnone)⟩
      rcases hwaiting with hw | hw <;> cases hw
    · exact hkept

theorem sourced_run {start : ClientStart} {gpu : LinuxConfiguredGpu} (h : Sourced start [] gpu)
    (events : List ClientEvent) : Sourced start events (clientRun gpu events) := by
  induction events using List.reverseRecOn with
  | nil => exact h
  | append_singleton events event ih =>
    rw [clientRun, List.foldl_append]
    exact ih.step event

/-- What a request of the client may name, over every run. -/
theorem request_of_run {start : ClientStart} {gpu : LinuxConfiguredGpu}
    (hstart : start.gpu = some gpu) (events : List ClientEvent) {named : Option GpuAdapterInfo}
    (h : linuxConfiguredGpuRequestTarget (clientRun gpu events) true = some named) :
    (∀ target, named = some target → target.valid = true ∧ Origin start events target) ∧
    (named = none → ∀ record, start = .configFile record → record = .absent) := by
  have hsourced := sourced_run (Sourced.start hstart) events
  unfold linuxConfiguredGpuRequestTarget at h
  split at h
  · rename_i hnone
    obtain rfl := Option.some.inj h
    exact ⟨fun target htarget => (by cases htarget), fun _ => hsourced.unrecorded hnone⟩
  split at h
  · rename_i hnamed
    obtain rfl := Option.some.inj h
    refine ⟨fun target htarget => ?_, fun hnone => (by cases hnone)⟩
    obtain rfl := Option.some.inj htarget
    exact ⟨hnamed.2, hsourced.named hnamed.1⟩
  · cases h

/-! ## The law -/

/-- The selection the daemon builds from the adapter the client chose. -/
theorem daemon_foundAgain {l : AdapterList}
    (h : linuxResolveStoredGpuTarget stored role l.adapters = .adapter i moved)
    (hi : l.adapters[i]? = some live) :
    FoundAgain live l.adapters i
      (linuxGpuInitSelection (some live) l.adapters .unrecorded).index := by
  obtain ⟨live', hi', hvalid, -, hcomparable⟩ := comparable_of_resolve l.bounded h
  obtain rfl : live = live' := Option.some.inj (hi.symm.trans hi')
  rw [initSelection_index hvalid]
  exact resolve_described .unrecorded l.bounded hi (fits_self hvalid hcomparable)

/-- The role a selection records, with the whole adapter and with what the configuration
file keeps of it. -/
theorem role_foundAgain {l : AdapterList} (hi : l.adapters[i]? = some live)
    (hvalid : live.valid = true) (h : live.bdfValid = true ∨ live.modelKnown = true) :
    FoundAgain live l.adapters i (linuxResolveStoredGpuTarget live
      (linuxGpuLocationRoleForSelection live l.adapters) l.adapters) ∧
    FoundAgain live.recorded l.adapters i (linuxResolveStoredGpuTarget live.recorded
      (linuxGpuLocationRoleForSelection live l.adapters) l.adapters) :=
  ⟨resolve_described _ l.bounded hi (fits_self hvalid h),
    resolve_described _ l.bounded hi (fits_recorded hvalid h)⟩

/-- **Stored-GPU resolution never picks the wrong card.**  An index is the right card and
moves with the order of the list; the adapter the client chose is found again by the
daemon, and the one a role was recorded for by that record, unless another adapter fits it
too, and then it is ambiguous; and a write of the client names only an adapter it was shown,
by choice or as the resolution of its record. -/
theorem stored_gpu_resolution :
    (∀ stored role (l : AdapterList) i moved,
      linuxResolveStoredGpuTarget stored role l.adapters = .adapter i moved →
        (∃ live, l.adapters[i]? = some live ∧ live.valid = true ∧
          (stored.modelKnown = true → linuxGpuModelMatches stored live = true)) ∧
        RightCard stored role l.adapters i moved) ∧
    (∀ stored role (l : AdapterList) (σ : Equiv.Perm (Fin l.adapters.length)),
      (∀ (i : Fin l.adapters.length) (moved : Bool),
        linuxResolveStoredGpuTarget stored role (l.reorder σ).adapters = .adapter i moved ↔
          linuxResolveStoredGpuTarget stored role l.adapters = .adapter (σ i) moved) ∧
      (linuxResolveStoredGpuTarget stored role (l.reorder σ).adapters = .ambiguous ↔
        linuxResolveStoredGpuTarget stored role l.adapters = .ambiguous) ∧
      (linuxResolveStoredGpuTarget stored role (l.reorder σ).adapters = .notFound ↔
        linuxResolveStoredGpuTarget stored role l.adapters = .notFound)) ∧
    (∀ stored role (l : AdapterList) i moved live,
      linuxResolveStoredGpuTarget stored role l.adapters = .adapter i moved →
        l.adapters[i]? = some live →
        FoundAgain live l.adapters i
          (linuxGpuInitSelection (some live) l.adapters .unrecorded).index) ∧
    (∀ (l : AdapterList) i live, l.adapters[i]? = some live → live.valid = true →
      live.bdfValid = true ∨ live.modelKnown = true →
        FoundAgain live l.adapters i (linuxResolveStoredGpuTarget live
          (linuxGpuLocationRoleForSelection live l.adapters) l.adapters) ∧
        FoundAgain live.recorded l.adapters i (linuxResolveStoredGpuTarget live.recorded
          (linuxGpuLocationRoleForSelection live l.adapters) l.adapters)) ∧
    (∀ (start : ClientStart) gpu events named, start.gpu = some gpu →
      linuxConfiguredGpuRequestTarget (clientRun gpu events) true = some named →
        (∀ target, named = some target → target.valid = true ∧ Origin start events target) ∧
        (named = none → ∀ record, start = .configFile record → record = .absent)) := by
  refine ⟨fun stored role l i moved h => ?_, resolve_reorder, fun _ _ _ _ _ _ => daemon_foundAgain,
    fun _ _ _ => role_foundAgain, fun _ _ events _ hstart => request_of_run hstart events⟩
  obtain ⟨live, hi, hvalid, hmatches, -⟩ := comparable_of_resolve l.bounded h
  exact ⟨⟨live, hi, hvalid, hmatches⟩, (resolve_eq_adapter_iff l.bounded).mp h⟩

/-- A card of one model and subsystem; its record. -/
def recordedCard : GpuAdapterInfo where
  valid := true
  pciInfoValid := true
  deviceId := 0x2684
  subSystemId := 0x16F11043
  pciBus := 1

/-- The card without subsystem and location, beside one of another subsystem. -/
def unreadableCards : AdapterList where
  adapters := [{ recordedCard with subSystemId := 0, pciBus := 0 },
    { recordedCard with subSystemId := 0x88E31043, pciBus := 2 }]
  bounded := by decide

theorem stored_gpu_resolution_recordedCard :
    FoundAgain { recordedCard with subSystemId := 0, pciBus := 0 } unreadableCards.adapters 0
      (linuxGpuInitSelection (some { recordedCard with subSystemId := 0, pciBus := 0 })
        unreadableCards.adapters .unrecorded).index :=
  stored_gpu_resolution.2.2.1 recordedCard .advisory unreadableCards 0 true _ (by decide) rfl

/-- The client resolves its record to the first card, and the daemon finds that card
ambiguous; and of two cards that cannot be told apart neither is found again. -/
theorem chosen_card_ambiguous :
    linuxResolveStoredGpuTarget recordedCard .advisory unreadableCards.adapters = .adapter 0 true ∧
    (linuxGpuInitSelection unreadableCards.adapters.head? unreadableCards.adapters
      .unrecorded).index = .ambiguous ∧
    linuxResolveStoredGpuTarget recordedCard
      (linuxGpuLocationRoleForSelection recordedCard [recordedCard, recordedCard])
      [recordedCard, recordedCard] = .ambiguous := by
  decide

end GreenCurve.Gpu
