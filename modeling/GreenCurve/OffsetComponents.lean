import GreenCurve.CurveTargets
import Mathlib.Data.Finset.Max
import Mathlib.Data.Fintype.Card
import Mathlib.Order.Interval.Finset.Fin

/-! # The points a GPU offset leaves out

An offset with an exclude count leaves the lowest points of the curve at stock.  The target
builders of both systems count the populated points.  The Linux loader, which turns a profile
of base frequencies into one of absolute ones, has no curve to look at and counts places.  The
two counts part where the driver reports a gap. -/

namespace GreenCurve.Backend

section Components
variable (curve : VFCurve) (gpuOffsetMHz excludeLowCount : Int) (ci : VfPoint)

/-- `is_gpu_offset_excluded_low_point`. -/
def isGpuOffsetExcludedLowPoint : Bool :=
  decide (0 < excludeLowCount) && decide (Populated curve ci) &&
    decide ((populatedOrdinal curve ci : Int) < excludeLowCount)

/-- `gpu_offset_component_mhz_for_point`. -/
def gpuOffsetComponentMHzForPoint : Int :=
  if gpuOffsetMHz = 0 then 0
  else if 0 < excludeLowCount ∧ isGpuOffsetExcludedLowPoint curve excludeLowCount ci = true then 0
  else gpuOffsetMHz

/-- `gpu_offset_component_mhz_for_point_linux`, for a point on the curve. -/
def gpuOffsetComponentMHzForPointLinux : Int :=
  if gpuOffsetMHz = 0 then 0
  else if excludeLowCount ≤ 0 then gpuOffsetMHz
  else if ((ci : Nat) : Int) < excludeLowCount then 0 else gpuOffsetMHz

end Components

section Builders
variable (curve : VFCurve) (desired : DesiredSettings) (ci : VfPoint)

/-- The component of a point in `linux_build_curve_targets`. -/
def linuxComponentKHz : Int :=
  if min desired.gpuOffsetExcludeLowCount VF_NUM_POINTS ≤ populatedOrdinal curve ci then
    desired.gpuOffsetMHz * 1000
  else 0

/-- The exclude count of `curve_point_plan_gpu_offset_routing` that is in force. -/
def activeDesiredExcludeLowCount : Int :=
  if desired.hasGpuOffset && decide (0 < desired.gpuOffsetExcludeLowCount) &&
      decide (desired.gpuOffsetMHz ≠ 0) then desired.gpuOffsetExcludeLowCount
  else 0

/-- The component of a point in `apply_build_curve_targets`. -/
def windowsComponentKHz : Int :=
  gpuOffsetComponentMHzForPoint curve desired.gpuOffsetMHz (activeDesiredExcludeLowCount desired)
    ci * 1000

/-- The component of a point in the Linux loader. -/
def loaderComponentKHz : Int :=
  gpuOffsetComponentMHzForPointLinux desired.gpuOffsetMHz desired.gpuOffsetExcludeLowCount ci * 1000

/-- The lock owns the point. -/
def InTail : Prop := lockTail desired = true ∧ desired.lockCi ≤ (ci : Int)

/-- On every populated point that no lock owns the three take the same component. -/
structure ComponentsAgree (curve : VFCurve) (desired : DesiredSettings) : Prop where
  windows : ∀ ci, Populated curve ci → ¬ InTail desired ci →
    linuxComponentKHz curve desired ci = windowsComponentKHz curve desired ci
  loader : ∀ ci, Populated curve ci → ¬ InTail desired ci →
    linuxComponentKHz curve desired ci = loaderComponentKHz desired ci

/-- No gap moves a point across the exclude count: there is none among the excluded places, or
no point is left behind them. -/
def CountsAlike : Prop :=
  (∀ cj : VfPoint, (cj : Nat) < desired.gpuOffsetExcludeLowCount → Populated curve cj) ∨
    ∀ ci, Populated curve ci → ¬ InTail desired ci → (ci : Nat) < desired.gpuOffsetExcludeLowCount

end Builders

/-! ## The component in the build -/

section Build
variable {curve : VFCurve} {offsets : VfPoint → Int} {desired : DesiredSettings} {minimum : Int}
  {ci : VfPoint}

/-- A projected point is written at its component. -/
theorem pointTarget_projected (hpop : Populated curve ci) (htail : ¬ InTail desired ci)
    (hexplicit : hasExplicitPoint desired ci = true)
    (horigin : desired.curvePointFromGpuOffset ci = true) :
    pointTarget curve offsets desired minimum ci =
      some (saturateInt (linuxComponentKHz curve desired ci)) := by
  have hfree : ¬(lockTail desired && decide (desired.lockCi ≤ (ci : Int))) = true := by
    rw [Bool.and_eq_true, decide_eq_true_eq]
    exact htail
  unfold pointTarget linuxComponentKHz curvePointTargetOffsetKHz
  rw [if_neg (not_not.mpr hpop), if_neg hfree, if_pos hexplicit]
  simp only [horigin, if_true, decide_eq_true_eq]

/-- A point that is not named takes its component of a composed offset, or none. -/
theorem pointTarget_composed (hpop : Populated curve ci) (htail : ¬ InTail desired ci)
    (hexplicit : hasExplicitPoint desired ci = false)
    (hcomposed : composedGpuOffset desired = true) :
    (pointTarget curve offsets desired minimum ci).getD 0 =
      saturateInt (linuxComponentKHz curve desired ci) := by
  have hfree : ¬(lockTail desired && decide (desired.lockCi ≤ (ci : Int))) = true := by
    rw [Bool.and_eq_true, decide_eq_true_eq]
    exact htail
  unfold pointTarget linuxComponentKHz
  rw [if_neg (not_not.mpr hpop), if_neg hfree, if_neg (by simp [hexplicit])]
  simp only [hcomposed, Bool.true_and, decide_eq_true_eq]
  split
  · exact congrArg saturateInt (add_sub_cancel_left ..)
  · rfl

end Build

/-! ## Counting points and places -/

section Counting
variable {curve : VFCurve} {ci : VfPoint}

theorem populatedOrdinal_eq_card (curve : VFCurve) (ci : VfPoint) :
    populatedOrdinal curve ci =
      (Finset.univ.filter fun cj : VfPoint => cj < ci ∧ Populated curve cj).card := by
  have hall : (List.finRange VF_NUM_POINTS).toFinset = Finset.univ := by
    ext cj
    simp
  rw [← hall, (List.nodup_finRange VF_NUM_POINTS).card_eq_countP]
  rfl

/-- The points below a place. -/
theorem card_below (ci : VfPoint) :
    (Finset.univ.filter fun cj : VfPoint => cj < ci).card = (ci : Nat) := by
  rw [← Fin.card_Iio ci]
  congr 1
  ext cj
  simp

theorem populatedOrdinal_le (curve : VFCurve) (ci : VfPoint) :
    populatedOrdinal curve ci ≤ (ci : Nat) := by
  rw [populatedOrdinal_eq_card, ← card_below ci]
  exact Finset.card_le_card fun cj h => by
    simp only [Finset.mem_filter, Finset.mem_univ, true_and] at h ⊢
    exact h.1

/-- Without a gap below the count, no point behind it is counted below it. -/
theorem le_populatedOrdinal {count : Nat} (hgapless : ∀ cj : VfPoint, (cj : Nat) < count →
    Populated curve cj) (h : count ≤ (ci : Nat)) : count ≤ populatedOrdinal curve ci := by
  have hplace : count < VF_NUM_POINTS := Nat.lt_of_le_of_lt h ci.isLt
  rw [populatedOrdinal_eq_card]
  calc count = (Finset.univ.filter fun cj : VfPoint => cj < ⟨count, hplace⟩).card :=
        (card_below ⟨count, hplace⟩).symm
    _ ≤ _ := Finset.card_le_card fun cj hcj => by
      simp only [Finset.mem_filter, Finset.mem_univ, true_and] at hcj ⊢
      have hbelow : (cj : Nat) < count := hcj
      exact ⟨Nat.lt_of_lt_of_le hbelow h, hgapless cj hbelow⟩

/-- Behind a gap the first point that is left is counted among the excluded ones. -/
theorem populatedOrdinal_lt_of_gap {count : Nat} {gap : VfPoint} (hgap : (gap : Nat) < count)
    (hempty : ¬ Populated curve gap) (hfirst : ∀ cj, Populated curve cj → count ≤ (cj : Nat) →
      ci ≤ cj) (hplace : count ≤ (ci : Nat)) : populatedOrdinal curve ci < count := by
  have hbound : count < VF_NUM_POINTS := Nat.lt_of_le_of_lt hplace ci.isLt
  rw [populatedOrdinal_eq_card]
  calc _ < (Finset.univ.filter fun cj : VfPoint => cj < ⟨count, hbound⟩).card := by
        refine Finset.card_lt_card (Finset.ssubset_iff_of_subset ?_ |>.mpr ⟨gap, ?_, ?_⟩)
        · intro cj hcj
          simp only [Finset.mem_filter, Finset.mem_univ, true_and] at hcj ⊢
          by_contra hbehind
          have hle := hfirst cj hcj.2 (Nat.le_of_not_lt hbehind)
          exact absurd hcj.1 (not_lt.mpr hle)
        · simp only [Finset.mem_filter, Finset.mem_univ, true_and]
          exact hgap
        · simp only [Finset.mem_filter, Finset.mem_univ, true_and, not_and]
          exact fun _ => hempty
    _ = count := card_below ⟨count, hbound⟩

end Counting

/-! ## The law -/

section Law
variable {curve : VFCurve} {desired : DesiredSettings} {ci : VfPoint}

/-- The two target builders count alike. -/
theorem linuxComponent_eq_windows (howned : desired.hasGpuOffset = true)
    (hpop : Populated curve ci) :
    linuxComponentKHz curve desired ci = windowsComponentKHz curve desired ci := by
  have hordinal : populatedOrdinal curve ci < VF_NUM_POINTS :=
    Nat.lt_of_le_of_lt (populatedOrdinal_le curve ci) ci.isLt
  unfold linuxComponentKHz windowsComponentKHz gpuOffsetComponentMHzForPoint
    isGpuOffsetExcludedLowPoint activeDesiredExcludeLowCount
  by_cases hzero : desired.gpuOffsetMHz = 0
  · simp [hzero]
  · by_cases hcount : 0 < desired.gpuOffsetExcludeLowCount
    · by_cases hexcluded : populatedOrdinal curve ci < desired.gpuOffsetExcludeLowCount
      · rw [if_neg (by omega)]
        simp [hzero, howned, hcount, hpop, hexcluded]
      · rw [if_pos (by omega)]
        simp [hzero, howned, hcount, hexcluded]
    · rw [if_pos (by omega)]
      simp [hzero, hcount]

/-- The loader counts places. -/
theorem loaderComponent_eq (desired : DesiredSettings) (ci : VfPoint) :
    loaderComponentKHz desired ci =
      if desired.gpuOffsetExcludeLowCount ≤ (ci : Nat) then desired.gpuOffsetMHz * 1000 else 0 := by
  unfold loaderComponentKHz gpuOffsetComponentMHzForPointLinux
  by_cases hzero : desired.gpuOffsetMHz = 0
  · simp [hzero]
  · by_cases hplace : desired.gpuOffsetExcludeLowCount ≤ (ci : Nat)
    · rw [if_neg hzero, if_pos hplace]
      split
      · rfl
      · rw [if_neg (by omega)]
    · rw [if_neg hzero, if_neg hplace, if_neg (by omega), if_pos (by omega)]
      rfl

/-- The count of the build, its bound left out. -/
theorem linuxComponent_eq (curve : VFCurve) (desired : DesiredSettings) (ci : VfPoint) :
    linuxComponentKHz curve desired ci =
      if desired.gpuOffsetExcludeLowCount ≤ populatedOrdinal curve ci then
        desired.gpuOffsetMHz * 1000
      else 0 := by
  have hordinal : populatedOrdinal curve ci < VF_NUM_POINTS :=
    Nat.lt_of_le_of_lt (populatedOrdinal_le curve ci) ci.isLt
  unfold linuxComponentKHz
  congr 1
  exact propext ⟨fun h => by omega, fun h => by omega⟩

/-- **The same points are excluded on every path** exactly when no gap moves a point across the
count, or there is nothing to leave out. -/
theorem componentsAgree_iff (curve : VFCurve) (desired : DesiredSettings)
    (howned : desired.hasGpuOffset = true) :
    ComponentsAgree curve desired ↔ desired.gpuOffsetMHz = 0 ∨ CountsAlike curve desired := by
  constructor
  · intro hagree
    by_cases hzero : desired.gpuOffsetMHz = 0
    · exact .inl hzero
    refine .inr ?_
    by_contra halike
    simp only [CountsAlike, not_or, not_forall] at halike
    obtain ⟨⟨gap, hgap, hempty⟩, last, hlast, hfree, hbehind⟩ := halike
    -- the first point behind the count that is populated
    obtain ⟨ci, hci, hfirst⟩ := Finset.exists_min_image
      (Finset.univ.filter fun cj : VfPoint =>
        Populated curve cj ∧ desired.gpuOffsetExcludeLowCount ≤ (cj : Nat)) id
      ⟨last, by simp [hlast, Nat.le_of_not_lt hbehind]⟩
    simp only [Finset.mem_filter, Finset.mem_univ, true_and, id] at hci hfirst
    have hle : ci ≤ last := hfirst last ⟨hlast, Nat.le_of_not_lt hbehind⟩
    have hfree' : ¬ InTail desired ci := fun htail =>
      hfree ⟨htail.1, htail.2.trans (Int.ofNat_le.mpr hle)⟩
    have hloader := hagree.loader ci hci.1 hfree'
    have hbelow := populatedOrdinal_lt_of_gap hgap hempty
      (fun cj hcj hplace => hfirst cj ⟨hcj, hplace⟩) hci.2
    rw [linuxComponent_eq, loaderComponent_eq, if_neg (Nat.not_le.mpr hbelow),
      if_pos hci.2] at hloader
    omega
  · intro h
    refine ⟨fun ci hpop _ => linuxComponent_eq_windows howned hpop, fun ci hpop hfree => ?_⟩
    rw [linuxComponent_eq, loaderComponent_eq]
    rcases h with hzero | hgapless | hnone
    · simp [hzero]
    · congr 1
      exact propext ⟨fun h => h.trans (populatedOrdinal_le curve ci),
        fun h => le_populatedOrdinal hgapless h⟩
    · have hplace := hnone ci hpop hfree
      have hordinal := populatedOrdinal_le curve ci
      rw [if_neg (by omega), if_neg (by omega)]

end Law

/-- A curve without gaps. -/
theorem componentsAgree_full :
    ComponentsAgree (fun _ => { freqKHz := 1000000 })
      { hasGpuOffset := true, gpuOffsetMHz := 100, gpuOffsetExcludeLowCount := 3 } :=
  (componentsAgree_iff _ _ rfl).mpr (.inr (.inl fun _ _ => Nat.succ_ne_zero 999999))

/-- With the lowest place empty the loader raises a point both builders leave at stock. -/
theorem loader_counts_gap :
    let curve : VFCurve := fun ci => if ci = 0 then {} else { freqKHz := 1000000 }
    let desired : DesiredSettings :=
      { hasGpuOffset := true, gpuOffsetMHz := 100, gpuOffsetExcludeLowCount := 1 }
    Populated curve 1 ∧ ¬ InTail desired 1 ∧ linuxComponentKHz curve desired 1 = 0 ∧
      windowsComponentKHz curve desired 1 = 0 ∧ loaderComponentKHz desired 1 = 100000 := by
  intro curve desired
  have hpop : Populated curve 1 := by decide
  have hbelow : populatedOrdinal curve 1 < 1 := by
    have hgap : ((0 : VfPoint) : Nat) < 1 := by decide
    have hempty : ¬ Populated curve 0 := by decide
    exact populatedOrdinal_lt_of_gap hgap hempty (fun cj _ h => Fin.le_def.mpr h) (by decide)
  have hlinux : linuxComponentKHz curve desired 1 = 0 := by
    rw [linuxComponent_eq]
    exact if_neg (Nat.not_le.mpr hbelow)
  refine ⟨hpop, fun h => ?_, hlinux, ?_, rfl⟩
  · exact Bool.noConfusion h.1
  · rw [← linuxComponent_eq_windows rfl hpop, hlinux]

end GreenCurve.Backend
