import GreenCurve.CurveTargets
import Mathlib.Data.Fintype.Card

/-! # Replacing a curve

A committed intent replaces the VF curve of the one before: its targets are written, and what
only the previous intent wrote is released to a zero offset.  What a build wants of a point
depends on its stock base, which is the live frequency minus what is programmed.  Once the
offsets of a build are programmed the base of every point it wrote is what it was, so a second
build wants the same. -/

namespace GreenCurve.Backend

section Build
variable (curve : VFCurve) (currentOffsets : VfPoint → Int)
  (previousIntent : Option DesiredSettings) (committedIntent : DesiredSettings)
  (minimumOffsetKHz : Int)

/-- A readback in which the offsets of a build are programmed: the same points, and at each
one the build wrote the offset and the live frequency it makes of the base. -/
structure Programmed (built : CurveTargets) (curve' : VFCurve) (offsets' : VfPoint → Int) :
    Prop where
  points : ∀ ci, Populated curve ci ↔ Populated curve' ci
  voltages : ∀ ci, Populated curve ci → (curve' ci).voltUv = (curve ci).voltUv
  offsets : ∀ ci, built.result.pointMask ci = true → offsets' ci = built.targetOffsets ci
  live : ∀ ci, built.result.pointMask ci = true →
    ((curve' ci).freqKHz : Int) = baseKHz curve currentOffsets ci + built.targetOffsets ci

/-- A transition writes the committed targets, releases what only the previous intent wrote,
and is a fixed point of its own readback. -/
structure TransitionReplaces (built : CurveTargets) : Prop where
  released : ∀ ci, Populated curve ci →
    (∃ previous, previousIntent = some previous ∧
      (linuxBuildCurveTargets curve currentOffsets previous minimumOffsetKHz).result.pointMask ci =
        true) →
    (linuxBuildCurveTargets curve currentOffsets committedIntent
      minimumOffsetKHz).result.pointMask ci = false →
    built.result.pointMask ci = true ∧ built.targetOffsets ci = 0
  committed : ∀ ci, (linuxBuildCurveTargets curve currentOffsets committedIntent
      minimumOffsetKHz).result.pointMask ci = true →
    built.result.pointMask ci = true ∧
      built.targetOffsets ci = (linuxBuildCurveTargets curve currentOffsets committedIntent
        minimumOffsetKHz).targetOffsets ci
  unpopulated : ∀ ci, ¬ Populated curve ci →
    built.result.pointMask ci = false ∧ built.targetOffsets ci = 0
  counted : built.result.pointCount =
    (Finset.univ.filter fun ci => built.result.pointMask ci = true).card
  settled : ∀ curve' offsets', Programmed curve currentOffsets built curve' offsets' →
    linuxBuildCurveTransitionTargets curve' offsets' previousIntent committedIntent
        minimumOffsetKHz = built ∧
      (linuxCurveRebuildKeepsShape built.result
        (linuxBuildCurveTransitionTargets curve' offsets' previousIntent committedIntent
          minimumOffsetKHz).result = true ↔ ∃ ci, built.result.pointMask ci = true)

end Build

/-! ## A second build -/

section Rebuild
variable {curve curve' : VFCurve} {offsets offsets' : VfPoint → Int}
  {previous : Option DesiredSettings} {desired : DesiredSettings} {minimum : Int} {ci : VfPoint}

/-- A build wants the same of a point with the same base. -/
theorem pointTarget_rebuilt (hpoints : SamePoints curve curve')
    (hbase : OwnsPoint curve desired ci → baseKHz curve' offsets' ci = baseKHz curve offsets ci) :
    pointTarget curve' offsets' desired minimum ci =
      pointTarget curve offsets desired minimum ci := by
  by_cases howns : OwnsPoint curve desired ci
  · have hpop : Populated curve ci := howns.1
    have hpop' : Populated curve' ci := (hpoints ci).mp hpop
    unfold pointTarget
    rw [hbase howns, ← hpoints.populatedOrdinal_eq ci, if_neg (not_not.mpr hpop),
      if_neg (not_not.mpr hpop')]
  · have hnone : pointTarget curve offsets desired minimum ci = none :=
      Option.not_isSome_iff_eq_none.mp fun h => howns (pointTarget_isSome_iff.mp h)
    have hnone' : pointTarget curve' offsets' desired minimum ci = none :=
      Option.not_isSome_iff_eq_none.mp fun h =>
        howns ((hpoints.ownsPoint_iff).mpr (pointTarget_isSome_iff.mp h))
    rw [hnone, hnone']

theorem pointTarget_none_of_unpopulated (h : ¬ Populated curve ci) :
    pointTarget curve offsets desired minimum ci = none := by
  unfold pointTarget
  rw [if_pos h]

/-- The transition of an unpopulated point. -/
theorem transitionTarget_none_of_unpopulated (h : ¬ Populated curve ci) :
    transitionTarget curve offsets previous desired minimum ci = none := by
  unfold transitionTarget
  rw [pointTarget_none_of_unpopulated h]
  cases previous with
  | none => rfl
  | some previous => simp [pointTarget_none_of_unpopulated h]

/-- The base of a point that was written is what it was. -/
theorem Programmed.base (h : Programmed curve offsets
      (linuxBuildCurveTransitionTargets curve offsets previous desired minimum) curve' offsets')
    (hwritten : (transitionTarget curve offsets previous desired minimum ci).isSome = true) :
    baseKHz curve' offsets' ci = baseKHz curve offsets ci := by
  have hlive := h.live ci hwritten
  have hoffset := h.offsets ci hwritten
  have hbase : baseKHz curve' offsets' ci = ((curve' ci).freqKHz : Int) - offsets' ci := rfl
  rw [hbase, hlive, hoffset, Int.add_sub_cancel]

/-- **A second build wants the same of every point.** -/
theorem Programmed.transitionTarget_eq (h : Programmed curve offsets
      (linuxBuildCurveTransitionTargets curve offsets previous desired minimum) curve' offsets')
    (ci : VfPoint) : transitionTarget curve' offsets' previous desired minimum ci =
      transitionTarget curve offsets previous desired minimum ci := by
  have hcommitted : pointTarget curve' offsets' desired minimum ci =
      pointTarget curve offsets desired minimum ci :=
    pointTarget_rebuilt h.points fun howns =>
      h.base (transitionTarget_isSome_iff.mpr (.inl howns))
  have hprevious : ∀ p, previous = some p → pointTarget curve' offsets' p minimum ci =
      pointTarget curve offsets p minimum ci := fun p hp =>
    pointTarget_rebuilt h.points fun howns =>
      h.base (transitionTarget_isSome_iff.mpr (.inr ⟨p, hp, howns⟩))
  unfold transitionTarget
  rw [hcommitted]
  cases pointTarget curve offsets desired minimum ci with
  | some target => rfl
  | none =>
    cases previous with
    | none => rfl
    | some p =>
      show Option.map _ (pointTarget curve' offsets' p minimum ci) = _
      rw [hprevious p rfl]

/-- Builds over the same points with the same voltages are the same if they want the same. -/
theorem ofTargets_congr {target : VfPoint → Option Int} (hpoints : SamePoints curve curve')
    (hvoltages : ∀ ci, Populated curve ci → (curve' ci).voltUv = (curve ci).voltUv) :
    CurveTargets.ofTargets curve' desired target = CurveTargets.ofTargets curve desired target := by
  have hvolt : (fun ci => if Populated curve' ci then (curve' ci).voltUv else 0) =
      fun ci => if Populated curve ci then (curve ci).voltUv else 0 := by
    funext ci
    by_cases hpop : Populated curve ci
    · rw [if_pos hpop, if_pos ((hpoints ci).mp hpop), hvoltages ci hpop]
    · rw [if_neg hpop, if_neg fun hpop' => hpop ((hpoints ci).mpr hpop')]
  unfold CurveTargets.ofTargets
  rw [hvolt]

/-- A build keeps its own shape unless it wrote nothing. -/
theorem keepsShape_self (built : LinuxCurveTargetBuildResult) :
    linuxCurveRebuildKeepsShape built built = true ↔ 0 < built.pointCount := by
  simp [linuxCurveRebuildKeepsShape]

/-- The count of a build is the number of its points. -/
theorem ofTargets_pointCount {target : VfPoint → Option Int} :
    (CurveTargets.ofTargets curve desired target).result.pointCount =
      (Finset.univ.filter fun ci =>
        (CurveTargets.ofTargets curve desired target).result.pointMask ci = true).card := by
  have hall : (List.finRange VF_NUM_POINTS).toFinset = Finset.univ := by
    ext ci
    simp
  rw [← hall, (List.nodup_finRange VF_NUM_POINTS).card_eq_countP]
  refine List.countP_congr fun ci _ => ?_
  rw [ofTargets_mask, decide_eq_true_eq]

theorem mask_eq_false_iff {target : VfPoint → Option Int} :
    (CurveTargets.ofTargets curve desired target).result.pointMask ci = false ↔
      target ci = none := by
  rw [ofTargets_mask, Option.isSome_eq_false_iff, Option.isNone_iff_eq_none]

end Rebuild

/-- **A replaced curve is released, written and settled.** -/
theorem curve_transition_replaces (curve : VFCurve) (currentOffsets : VfPoint → Int)
    (previousIntent : Option DesiredSettings) (committedIntent : DesiredSettings)
    (minimumOffsetKHz : Int) :
    TransitionReplaces curve currentOffsets previousIntent committedIntent minimumOffsetKHz
      (linuxBuildCurveTransitionTargets curve currentOffsets previousIntent committedIntent
        minimumOffsetKHz) := by
  constructor
  case released =>
    rintro ci - ⟨previous, rfl, hprevious⟩ hcommitted
    obtain ⟨target, htarget⟩ := Option.isSome_iff_exists.mp hprevious
    have hfree := mask_eq_false_iff.mp hcommitted
    have hzero : transitionTarget curve currentOffsets (some previous) committedIntent
        minimumOffsetKHz ci = some 0 := by
      unfold transitionTarget
      rw [hfree]
      exact congrArg (Option.map fun _ => 0) htarget
    exact ⟨Option.isSome_of_eq_some hzero, congrArg (Option.getD · 0) hzero⟩
  case committed =>
    intro ci hcommitted
    obtain ⟨target, htarget⟩ := Option.isSome_iff_exists.mp hcommitted
    have hkept : transitionTarget curve currentOffsets previousIntent committedIntent
        minimumOffsetKHz ci = some target := by
      unfold transitionTarget
      rw [htarget]
    refine ⟨Option.isSome_of_eq_some hkept, ?_⟩
    exact congrArg (Option.getD · 0) (hkept.trans htarget.symm)
  case unpopulated =>
    intro ci hpop
    have hnone : transitionTarget curve currentOffsets previousIntent committedIntent
        minimumOffsetKHz ci = none := transitionTarget_none_of_unpopulated hpop
    exact ⟨mask_eq_false_iff.mpr hnone, congrArg (Option.getD · 0) hnone⟩
  case counted => exact ofTargets_pointCount
  case settled =>
    intro curve' offsets' h
    have hsame : linuxBuildCurveTransitionTargets curve' offsets' previousIntent committedIntent
        minimumOffsetKHz = linuxBuildCurveTransitionTargets curve currentOffsets previousIntent
          committedIntent minimumOffsetKHz := by
      unfold linuxBuildCurveTransitionTargets
      rw [funext h.transitionTarget_eq]
      exact ofTargets_congr h.points h.voltages
    refine ⟨hsame, ?_⟩
    rw [hsame, keepsShape_self]
    exact ofTargets_pointCount_pos

/-- Offsets that leave every point a frequency can be programmed. -/
theorem exists_programmed {curve : VFCurve} {offsets : VfPoint → Int} {built : CurveTargets}
    (hpop : ∀ ci, built.result.pointMask ci = true → Populated curve ci)
    (hlive : ∀ ci, built.result.pointMask ci = true →
      0 < baseKHz curve offsets ci + built.targetOffsets ci) :
    ∃ curve' offsets', Programmed curve offsets built curve' offsets' := by
  let live (ci : VfPoint) : Int := baseKHz curve offsets ci + built.targetOffsets ci
  refine ⟨fun ci => { curve ci with
      freqKHz := if built.result.pointMask ci then (live ci).toNat else (curve ci).freqKHz },
    built.targetOffsets, ?_, fun _ _ => rfl, fun _ _ => rfl, ?_⟩
  · intro ci
    by_cases hmask : built.result.pointMask ci = true
    · have hpos := hlive ci hmask
      refine iff_of_true (hpop ci hmask) ?_
      simp only [Populated, hmask, if_true, live]
      omega
    · simp only [Populated, hmask, Bool.false_eq_true, if_false]
  · intro ci hmask
    have hpos := hlive ci hmask
    simp only [hmask, if_true, live]
    omega

/-- A build that writes nothing does not keep its shape. -/
theorem empty_build_rejected :
    let curve : VFCurve := fun _ => {}
    let built := linuxBuildCurveTransitionTargets curve (fun _ => 0) none {} (-1000000)
    Programmed curve (fun _ => 0) built curve (fun _ => 0) ∧
      linuxCurveRebuildKeepsShape built.result
        (linuxBuildCurveTransitionTargets curve (fun _ => 0) none {} (-1000000)).result =
          false := by
  intro curve built
  have hnone : ∀ ci, built.result.pointMask ci = false := fun ci =>
    mask_eq_false_iff.mpr (transitionTarget_none_of_unpopulated (not_not.mpr rfl))
  have hfree : ∀ ci, ¬ built.result.pointMask ci = true := fun ci => by
    rw [hnone ci]
    exact Bool.false_ne_true
  refine ⟨⟨fun _ => Iff.rfl, fun _ _ => rfl, fun ci h => absurd h (hfree ci),
    fun ci h => absurd h (hfree ci)⟩, ?_⟩
  show linuxCurveRebuildKeepsShape built.result built.result = false
  rw [Bool.eq_false_iff, Ne, keepsShape_self]
  intro hpos
  obtain ⟨ci, hci⟩ := ofTargets_pointCount_pos.mp hpos
  exact hfree ci hci

end GreenCurve.Backend
