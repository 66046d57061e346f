import GreenCurve.DesiredSettings

/-! # Settings for a degraded GPU

A client drops from its draft what the GPU does not offer at the moment, so that the service,
which rejects every mixed request, accepts the rest.  A GPU offset that is shaped by the curve
needs the VF domain, every lock writes an anchor on the curve, all other controls stand for
themselves.

How the offset is written is decided before anything is dropped.  An offset that goes through
the curve only because of a lock is a plain offset once the lock is gone, in a domain nobody
asked for. -/

namespace GreenCurve

abbrev ServiceDomains : Type := ServiceMutationDomain → Bool

section Projection
variable (desired : DesiredSettings) (availableDomains : ServiceDomains)

/-- The GPU offset is dropped with the domain it is written in. -/
def projectGpuOffset (usesCurve : Bool) : DesiredSettings :=
  if usesCurve && !availableDomains .vfCurve then
    { desired with hasGpuOffset := false, gpuOffsetExcludeLowCount := 0 }
  else if !usesCurve && !availableDomains .gpuOffset then { desired with hasGpuOffset := false }
  else desired

def dropLock : DesiredSettings :=
  { desired with
    hasLock := false
    lockCi := -1
    lockMHz := 0
    lockMode := .none
    lockTracksAnchor := false }

def dropCurve : DesiredSettings :=
  { desired with
    hasCurvePoint := fun _ => false
    curvePointMHz := fun _ => 0
    curvePointFromGpuOffset := fun _ => false }

/-- Every lock mode composes a VF anchor, so the lock goes with the curve. -/
def projectCurveAndLock : DesiredSettings :=
  if !availableDomains .vfCurve then dropLock (dropCurve desired)
  else if !availableDomains .lock then dropLock desired
  else desired

/-- The flags of the domains that stand for themselves. -/
def projectFlags : DesiredSettings :=
  { desired with
    resetOcBeforeApply := desired.resetOcBeforeApply && availableDomains .resetBaseline
    hasMemOffset := desired.hasMemOffset && availableDomains .memOffset
    hasPowerLimit := desired.hasPowerLimit && availableDomains .power
    hasFan := desired.hasFan && availableDomains .fan }

/-- The auxiliary clocks lose their value with their flag. -/
def projectClocks : DesiredSettings :=
  { desired with
    hasXbarOffsetKhz := desired.hasXbarOffsetKhz && availableDomains .xbar
    xbarOffsetKhz := if availableDomains .xbar then desired.xbarOffsetKhz else 0
    hasXbarMsvddOffsetUv := desired.hasXbarMsvddOffsetUv && availableDomains .xbar
    xbarMsvddOffsetUv := if availableDomains .xbar then desired.xbarMsvddOffsetUv else 0
    hasSysClkOffsetKhz := desired.hasSysClkOffsetKhz && availableDomains .sysClk
    sysClkOffsetKhz := if availableDomains .sysClk then desired.sysClkOffsetKhz else 0
    hasVideoClkOffsetKhz := desired.hasVideoClkOffsetKhz && availableDomains .videoClk
    videoClkOffsetKhz := if availableDomains .videoClk then desired.videoClkOffsetKhz else 0 }

/-- `service_project_desired_to_available_domains`.  How the GPU offset is written is read off
the settings before anything is dropped. -/
def serviceProjectDesiredToAvailableDomains : DesiredSettings :=
  let usesCurve := gpuOffsetUsesCurve desired
  let projected := projectFlags desired availableDomains
  let projected := projectGpuOffset projected availableDomains usesCurve
  let projected := projectCurveAndLock projected availableDomains
  projectClocks projected availableDomains

/-- The domain the GPU offset is written in. -/
def gpuOffsetDomain : ServiceMutationDomain :=
  if gpuOffsetUsesCurve desired then .vfCurve else .gpuOffset

end Projection

/-! ## What a projection should do -/

/-- What is owned in the domains that are there is kept: the GPU offset with the domain it is
written in, a lock with its own and the curve's. -/
structure KeepsAvailable (desired : DesiredSettings) (available : ServiceDomains)
    (projected : DesiredSettings) : Prop where
  reset : available .resetBaseline = true →
    projected.resetOcBeforeApply = desired.resetOcBeforeApply
  gpuOffset : available (gpuOffsetDomain desired) = true →
    projected.hasGpuOffset = desired.hasGpuOffset ∧
      projected.gpuOffsetMHz = desired.gpuOffsetMHz ∧
      projected.gpuOffsetExcludeLowCount = desired.gpuOffsetExcludeLowCount
  memOffset : available .memOffset = true →
    projected.hasMemOffset = desired.hasMemOffset ∧ projected.memOffsetMHz = desired.memOffsetMHz
  power : available .power = true →
    projected.hasPowerLimit = desired.hasPowerLimit ∧
      projected.powerLimitPct = desired.powerLimitPct
  curve : available .vfCurve = true →
    projected.hasCurvePoint = desired.hasCurvePoint ∧
      projected.curvePointMHz = desired.curvePointMHz ∧
      projected.curvePointFromGpuOffset = desired.curvePointFromGpuOffset
  lock : available .vfCurve = true → available .lock = true →
    projected.hasLock = desired.hasLock ∧ projected.lockCi = desired.lockCi ∧
      projected.lockMHz = desired.lockMHz ∧ projected.lockMode = desired.lockMode ∧
      projected.lockTracksAnchor = desired.lockTracksAnchor
  fan : available .fan = true →
    projected.hasFan = desired.hasFan ∧ projected.fanAuto = desired.fanAuto ∧
      projected.fanMode = desired.fanMode ∧ projected.fanPercent = desired.fanPercent ∧
      projected.fanCurve = desired.fanCurve
  xbar : available .xbar = true →
    projected.hasXbarOffsetKhz = desired.hasXbarOffsetKhz ∧
      projected.xbarOffsetKhz = desired.xbarOffsetKhz ∧
      projected.hasXbarMsvddOffsetUv = desired.hasXbarMsvddOffsetUv ∧
      projected.xbarMsvddOffsetUv = desired.xbarMsvddOffsetUv
  sysClk : available .sysClk = true →
    projected.hasSysClkOffsetKhz = desired.hasSysClkOffsetKhz ∧
      projected.sysClkOffsetKhz = desired.sysClkOffsetKhz
  videoClk : available .videoClk = true →
    projected.hasVideoClkOffsetKhz = desired.hasVideoClkOffsetKhz ∧
      projected.videoClkOffsetKhz = desired.videoClkOffsetKhz

/-- A sound projection names only what is there, keeps what is there and has nothing left to
drop. -/
structure ProjectionSound (desired : DesiredSettings) (available : ServiceDomains) : Prop where
  named : ∀ domain, serviceDesiredMutationDomains
      (serviceProjectDesiredToAvailableDomains desired available) domain = true →
    available domain = true
  keeps : KeepsAvailable desired available
    (serviceProjectDesiredToAvailableDomains desired available)
  settled : serviceProjectDesiredToAvailableDomains
      (serviceProjectDesiredToAvailableDomains desired available) available =
    serviceProjectDesiredToAvailableDomains desired available

/-- A whole-curve GPU offset goes through the curve only because of a lock; the lock is dropped
while the curve stays, and a plain offset is not available. -/
structure StrandsOffset (desired : DesiredSettings) (available : ServiceDomains) : Prop where
  owned : desired.hasGpuOffset = true
  locked : desired.hasLock = true
  whole : desired.gpuOffsetExcludeLowCount = 0
  noPoint : serviceDesiredHasCurvePoint desired = false
  curve : available .vfCurve = true
  noLock : available .lock = false
  noOffset : available .gpuOffset = false

/-! ## The fields of a projection -/

section Fields
variable (desired : DesiredSettings) (available : ServiceDomains)

/-- The points of a projection are all there or all gone. -/
theorem project_points :
    (serviceProjectDesiredToAvailableDomains desired available).hasCurvePoint =
        (if available .vfCurve then desired.hasCurvePoint else fun _ => false) ∧
      (serviceProjectDesiredToAvailableDomains desired available).curvePointMHz =
        (if available .vfCurve then desired.curvePointMHz else fun _ => 0) ∧
      (serviceProjectDesiredToAvailableDomains desired available).curvePointFromGpuOffset =
        (if available .vfCurve then desired.curvePointFromGpuOffset else fun _ => false) := by
  unfold serviceProjectDesiredToAvailableDomains
  dsimp only [projectClocks]
  unfold projectCurveAndLock projectGpuOffset
  cases available .vfCurve <;> cases available .lock <;> cases available .gpuOffset <;>
    cases gpuOffsetUsesCurve desired <;> exact ⟨rfl, rfl, rfl⟩

/-- The lock of a projection is there with its domain and the curve's. -/
theorem project_lock :
    (serviceProjectDesiredToAvailableDomains desired available).hasLock =
        (desired.hasLock && available .vfCurve && available .lock) ∧
      (serviceProjectDesiredToAvailableDomains desired available).lockCi =
        (if available .vfCurve && available .lock then desired.lockCi else -1) ∧
      (serviceProjectDesiredToAvailableDomains desired available).lockMHz =
        (if available .vfCurve && available .lock then desired.lockMHz else 0) ∧
      (serviceProjectDesiredToAvailableDomains desired available).lockMode =
        (if available .vfCurve && available .lock then desired.lockMode else .none) ∧
      (serviceProjectDesiredToAvailableDomains desired available).lockTracksAnchor =
        (if available .vfCurve && available .lock then desired.lockTracksAnchor else false) := by
  unfold serviceProjectDesiredToAvailableDomains
  dsimp only [projectClocks]
  unfold projectCurveAndLock projectGpuOffset
  cases available .vfCurve <;> cases available .lock <;> cases available .gpuOffset <;>
    cases gpuOffsetUsesCurve desired <;> simp [dropLock, dropCurve, projectFlags]

/-- The GPU offset of a projection is there with the domain it was written in. -/
theorem project_gpuOffset :
    (serviceProjectDesiredToAvailableDomains desired available).hasGpuOffset =
        (desired.hasGpuOffset && available (gpuOffsetDomain desired)) ∧
      (serviceProjectDesiredToAvailableDomains desired available).gpuOffsetMHz =
        desired.gpuOffsetMHz ∧
      (serviceProjectDesiredToAvailableDomains desired available).gpuOffsetExcludeLowCount =
        (if gpuOffsetUsesCurve desired && !available .vfCurve then 0
          else desired.gpuOffsetExcludeLowCount) := by
  unfold serviceProjectDesiredToAvailableDomains gpuOffsetDomain
  dsimp only [projectClocks]
  unfold projectCurveAndLock projectGpuOffset
  cases hvf : available .vfCurve <;> cases available .lock <;> cases hgpu : available .gpuOffset <;>
    cases gpuOffsetUsesCurve desired <;> simp [dropLock, dropCurve, projectFlags, hvf, hgpu]

/-- What becomes of the curve, the lock and the GPU offset leaves the other controls alone. -/
theorem project_others (d : DesiredSettings) (usesCurve : Bool) :
    let projected := projectCurveAndLock (projectGpuOffset d available usesCurve) available
    projected =
      { d with
        hasCurvePoint := projected.hasCurvePoint
        curvePointMHz := projected.curvePointMHz
        curvePointFromGpuOffset := projected.curvePointFromGpuOffset
        hasLock := projected.hasLock
        lockCi := projected.lockCi
        lockMHz := projected.lockMHz
        lockMode := projected.lockMode
        lockTracksAnchor := projected.lockTracksAnchor
        hasGpuOffset := projected.hasGpuOffset
        gpuOffsetExcludeLowCount := projected.gpuOffsetExcludeLowCount } := by
  unfold projectCurveAndLock projectGpuOffset
  cases available .vfCurve <;> cases available .lock <;> cases available .gpuOffset <;>
    cases usesCurve <;> rfl

/-- The controls that stand for themselves. -/
theorem project_scalars :
    let projected := serviceProjectDesiredToAvailableDomains desired available
    (projected.resetOcBeforeApply = (desired.resetOcBeforeApply && available .resetBaseline) ∧
      projected.hasMemOffset = (desired.hasMemOffset && available .memOffset) ∧
      projected.memOffsetMHz = desired.memOffsetMHz ∧
      projected.hasPowerLimit = (desired.hasPowerLimit && available .power) ∧
      projected.powerLimitPct = desired.powerLimitPct) ∧
    (projected.hasFan = (desired.hasFan && available .fan) ∧ projected.fanAuto = desired.fanAuto ∧
      projected.fanMode = desired.fanMode ∧ projected.fanPercent = desired.fanPercent ∧
      projected.fanCurve = desired.fanCurve) := by
  intro projected
  have hprojected : projected = projectClocks (projectCurveAndLock
      (projectGpuOffset (projectFlags desired available) available (gpuOffsetUsesCurve desired))
      available) available := rfl
  rw [hprojected, project_others]
  exact ⟨⟨rfl, rfl, rfl, rfl, rfl⟩, rfl, rfl, rfl, rfl, rfl⟩

/-- The auxiliary clocks. -/
theorem project_clocks :
    let projected := serviceProjectDesiredToAvailableDomains desired available
    projected.hasXbarOffsetKhz = (desired.hasXbarOffsetKhz && available .xbar) ∧
    projected.xbarOffsetKhz = (if available .xbar then desired.xbarOffsetKhz else 0) ∧
    projected.hasXbarMsvddOffsetUv = (desired.hasXbarMsvddOffsetUv && available .xbar) ∧
    projected.xbarMsvddOffsetUv = (if available .xbar then desired.xbarMsvddOffsetUv else 0) ∧
    projected.hasSysClkOffsetKhz = (desired.hasSysClkOffsetKhz && available .sysClk) ∧
    projected.sysClkOffsetKhz = (if available .sysClk then desired.sysClkOffsetKhz else 0) ∧
    projected.hasVideoClkOffsetKhz = (desired.hasVideoClkOffsetKhz && available .videoClk) ∧
    projected.videoClkOffsetKhz = (if available .videoClk then desired.videoClkOffsetKhz else 0) := by
  intro projected
  have hprojected : projected = projectClocks (projectCurveAndLock
      (projectGpuOffset (projectFlags desired available) available (gpuOffsetUsesCurve desired))
      available) available := rfl
  rw [hprojected, project_others]
  exact ⟨rfl, rfl, rfl, rfl, rfl, rfl, rfl, rfl⟩

theorem project_hasCurvePoint :
    serviceDesiredHasCurvePoint (serviceProjectDesiredToAvailableDomains desired available) =
      (serviceDesiredHasCurvePoint desired && available .vfCurve) := by
  unfold serviceDesiredHasCurvePoint
  rw [(project_points desired available).1]
  cases available .vfCurve <;> simp

end Fields

/-! ## The law -/

section Law
variable {desired : DesiredSettings} {available : ServiceDomains}

/-- **What is there is kept**, whatever else is dropped. -/
theorem keepsAvailable_project : KeepsAvailable desired available
    (serviceProjectDesiredToAvailableDomains desired available) := by
  obtain ⟨⟨hreset, hmem, hmemMHz, hpower, hpct⟩, hfan, hauto, hmode, hpercent, hfanCurve⟩ :=
    project_scalars desired available
  obtain ⟨hxbar, hxbarKhz, hmsvdd, hmsvddUv, hsys, hsysKhz, hvideo, hvideoKhz⟩ :=
    project_clocks desired available
  obtain ⟨hpoints, hmhz, horigin⟩ := project_points desired available
  obtain ⟨hlock, hci, hlockMHz, hlockMode, htracks⟩ :=
    project_lock desired available
  obtain ⟨hgpu, hgpuMHz, hexclude⟩ := project_gpuOffset desired available
  constructor
  case reset => intro h; rw [hreset, h, Bool.and_true]
  case gpuOffset =>
    intro h
    refine ⟨by rw [hgpu, h, Bool.and_true], hgpuMHz, ?_⟩
    rw [hexclude, if_neg]
    cases huses : gpuOffsetUsesCurve desired with
    | false => simp
    | true =>
      rw [gpuOffsetDomain, huses, if_pos rfl] at h
      simp [h]
  case memOffset => intro h; exact ⟨by rw [hmem, h, Bool.and_true], hmemMHz⟩
  case power => intro h; exact ⟨by rw [hpower, h, Bool.and_true], hpct⟩
  case curve =>
    intro h
    rw [h, if_pos rfl] at hpoints hmhz horigin
    exact ⟨hpoints, hmhz, horigin⟩
  case lock =>
    intro hvf h
    simp only [hvf, h, Bool.and_self, Bool.and_true, if_true] at hlock hci hlockMHz hlockMode htracks
    exact ⟨hlock, hci, hlockMHz, hlockMode, htracks⟩
  case fan => intro h; exact ⟨by rw [hfan, h, Bool.and_true], hauto, hmode, hpercent, hfanCurve⟩
  case xbar =>
    intro h
    rw [h, Bool.and_true] at hxbar hmsvdd
    rw [h, if_pos rfl] at hxbarKhz hmsvddUv
    exact ⟨hxbar, hxbarKhz, hmsvdd, hmsvddUv⟩
  case sysClk =>
    intro h
    rw [h, Bool.and_true] at hsys
    rw [h, if_pos rfl] at hsysKhz
    exact ⟨hsys, hsysKhz⟩
  case videoClk =>
    intro h
    rw [h, Bool.and_true] at hvideo
    rw [h, if_pos rfl] at hvideoKhz
    exact ⟨hvideo, hvideoKhz⟩

/-- How an owned offset is written. -/
theorem gpuOffsetUsesCurve_of_owned (howned : desired.hasGpuOffset = true) :
    gpuOffsetUsesCurve desired = false ↔
      desired.gpuOffsetExcludeLowCount = 0 ∧ desired.hasLock = false ∧
        serviceDesiredHasCurvePoint desired = false := by
  unfold gpuOffsetUsesCurve
  rw [howned, Bool.true_and, Bool.or_eq_false_iff, Bool.or_eq_false_iff, decide_eq_false_iff_not,
    Nat.not_lt, Nat.le_zero]
  exact and_assoc

/-- An offset that survives has its domain, unless it is stranded. -/
theorem offset_available (hstrands : ¬ StrandsOffset desired available)
    (howned : (serviceProjectDesiredToAvailableDomains desired available).hasGpuOffset = true) :
    available (gpuOffsetDomain (serviceProjectDesiredToAvailableDomains desired available)) =
      true := by
  obtain ⟨hgpu, -, hexclude⟩ := project_gpuOffset desired available
  have hlock := (project_lock desired available).1
  have hpoint := project_hasCurvePoint desired available
  have huses := gpuOffsetUsesCurve_of_owned howned
  rw [hexclude, hlock, hpoint] at huses
  rw [hgpu, Bool.and_eq_true] at howned
  obtain ⟨howned, hdomain⟩ := howned
  cases hcurve : gpuOffsetUsesCurve desired with
  | false =>
    -- nothing shapes the offset, and a projection adds nothing that would
    obtain ⟨hwhole, hnoLock, hnoPoint⟩ := (gpuOffsetUsesCurve_of_owned howned).mp hcurve
    have hplain := huses.mpr (by simp [hcurve, hwhole, hnoLock, hnoPoint])
    rw [gpuOffsetDomain, hcurve] at hdomain
    rw [gpuOffsetDomain, hplain]
    exact hdomain
  | true =>
    rw [gpuOffsetDomain, hcurve, if_pos rfl] at hdomain
    rw [gpuOffsetDomain]
    split
    · exact hdomain
    · rename_i hplain
      rw [Bool.not_eq_true, huses] at hplain
      simp only [hcurve, hdomain, Bool.not_true, Bool.and_false, Bool.false_eq_true, if_false,
        Bool.and_true] at hplain
      obtain ⟨hwhole, hnoLock, hnoPoint⟩ := hplain
      -- only a lock shaped the offset, and it went
      have hlocked : desired.hasLock = true := by
        by_contra hfree
        rw [(gpuOffsetUsesCurve_of_owned howned).mpr
          ⟨hwhole, Bool.not_eq_true _ ▸ hfree, hnoPoint⟩] at hcurve
        exact Bool.false_ne_true hcurve
      rw [hlocked, Bool.true_and] at hnoLock
      by_contra hnoOffset
      exact hstrands ⟨howned, hlocked, hwhole, hnoPoint, hdomain, hnoLock,
        Bool.not_eq_true _ ▸ hnoOffset⟩

/-- A projection names what is there, if its offset has its domain. -/
theorem named_of_offset
    (hoffset : (serviceProjectDesiredToAvailableDomains desired available).hasGpuOffset = true →
      available (gpuOffsetDomain (serviceProjectDesiredToAvailableDomains desired available)) =
        true) (domain : ServiceMutationDomain)
    (h : serviceDesiredMutationDomains
      (serviceProjectDesiredToAvailableDomains desired available) domain = true) :
    available domain = true := by
  obtain ⟨⟨hreset, hmem, -, hpower, -⟩, hfan, -⟩ :=
    project_scalars desired available
  obtain ⟨hxbar, -, hmsvdd, -, hsys, -, hvideo, -⟩ :=
    project_clocks desired available
  have hlock := (project_lock desired available).1
  have hpoint := project_hasCurvePoint desired available
  generalize serviceProjectDesiredToAvailableDomains desired available = projected at *
  cases domain <;> simp only [serviceDesiredMutationDomains] at h
  case resetBaseline => exact (Bool.and_eq_true _ _ ▸ hreset ▸ h).2
  case gpuOffset =>
    rw [Bool.and_eq_true, Bool.not_eq_true'] at h
    have hdomain := hoffset h.1
    rwa [gpuOffsetDomain, h.2] at hdomain
  case memOffset => exact (Bool.and_eq_true _ _ ▸ hmem ▸ h).2
  case power => exact (Bool.and_eq_true _ _ ▸ hpower ▸ h).2
  case vfCurve =>
    rw [Bool.or_eq_true, Bool.or_eq_true] at h
    rcases h with (h | h) | h
    · exact (Bool.and_eq_true _ _ ▸ hpoint ▸ h).2
    · rw [Bool.and_eq_true, hlock, Bool.and_eq_true, Bool.and_eq_true] at h
      exact h.1.1.2
    · rw [Bool.and_eq_true, decide_eq_true_eq] at h
      have hdomain := hoffset h.1
      have hcurve : gpuOffsetUsesCurve projected = true := by
        by_contra hplain
        have hwhole := ((gpuOffsetUsesCurve_of_owned h.1).mp (Bool.not_eq_true _ ▸ hplain)).1
        omega
      rwa [gpuOffsetDomain, hcurve] at hdomain
  case lock =>
    rw [hlock, Bool.and_eq_true] at h
    exact h.2
  case fan => exact (Bool.and_eq_true _ _ ▸ hfan ▸ h).2
  case xbar =>
    rw [hxbar, hmsvdd, ← Bool.and_or_distrib_right, Bool.and_eq_true] at h
    exact h.2
  case sysClk => exact (Bool.and_eq_true _ _ ▸ hsys ▸ h).2
  case videoClk => exact (Bool.and_eq_true _ _ ▸ hvideo ▸ h).2

/-- A second projection finds nothing to drop, if the offset has its domain. -/
theorem settled_of_offset
    (hoffset : (serviceProjectDesiredToAvailableDomains desired available).hasGpuOffset = true →
      available (gpuOffsetDomain (serviceProjectDesiredToAvailableDomains desired available)) =
        true) :
    serviceProjectDesiredToAvailableDomains
        (serviceProjectDesiredToAvailableDomains desired available) available =
      serviceProjectDesiredToAvailableDomains desired available := by
  have hflag : ∀ flag offered : Bool, (flag && offered && offered) = (flag && offered) := by decide
  obtain ⟨⟨hreset, hmem, hmemMHz, hpower, hpct⟩, hfan, hauto, hmode, hpercent, hfanCurve⟩ :=
    project_scalars desired available
  obtain ⟨hxbar, hxbarKhz, hmsvdd, hmsvddUv, hsys, hsysKhz, hvideo, hvideoKhz⟩ :=
    project_clocks desired available
  obtain ⟨hpoints, hmhz, horigin⟩ := project_points desired available
  obtain ⟨hlock, hci, hlockMHz, hlockMode, htracks⟩ :=
    project_lock desired available
  generalize serviceProjectDesiredToAvailableDomains desired available = projected at *
  obtain ⟨⟨hreset', hmem', hmemMHz', hpower', hpct'⟩, hfan', hauto', hmode', hpercent',
    hfanCurve'⟩ := project_scalars projected available
  obtain ⟨hxbar', hxbarKhz', hmsvdd', hmsvddUv', hsys', hsysKhz', hvideo', hvideoKhz'⟩ :=
    project_clocks projected available
  obtain ⟨hpoints', hmhz', horigin'⟩ :=
    project_points projected available
  obtain ⟨hlock', hci', hlockMHz', hlockMode', htracks'⟩ :=
    project_lock projected available
  obtain ⟨hgpu', hgpuMHz', hexclude'⟩ :=
    project_gpuOffset projected available
  have hkept : projected.hasGpuOffset = (projected.hasGpuOffset &&
      available (gpuOffsetDomain projected)) := by
    cases howned : projected.hasGpuOffset with
    | false => rfl
    | true => rw [hoffset howned]; rfl
  have hshaped : (gpuOffsetUsesCurve projected && !available .vfCurve) = false := by
    cases huses : gpuOffsetUsesCurve projected with
    | false => rfl
    | true =>
      have howned : projected.hasGpuOffset = true := by
        unfold gpuOffsetUsesCurve at huses
        rw [Bool.and_eq_true] at huses
        exact huses.1
      have hdomain := hoffset howned
      rw [gpuOffsetDomain, huses, if_pos rfl] at hdomain
      rw [hdomain]
      rfl
  apply DesiredSettings.ext
  case hasGpuOffset => rw [hgpu', ← hkept]
  case gpuOffsetMHz => exact hgpuMHz'
  case gpuOffsetExcludeLowCount => rw [hexclude', hshaped]; rfl
  case hasCurvePoint => rw [hpoints', hpoints]; split <;> rfl
  case curvePointMHz => rw [hmhz', hmhz]; split <;> rfl
  case curvePointFromGpuOffset => rw [horigin', horigin]; split <;> rfl
  case hasLock =>
    rw [hlock', hlock]
    cases available .vfCurve <;> cases available .lock <;> simp
  case lockCi => rw [hci', hci]; split <;> rfl
  case lockMHz => rw [hlockMHz', hlockMHz]; split <;> rfl
  case lockMode => rw [hlockMode', hlockMode]; split <;> rfl
  case lockTracksAnchor => rw [htracks', htracks]; split <;> rfl
  case hasMemOffset => rw [hmem', hmem, hflag]
  case memOffsetMHz => exact hmemMHz'
  case hasPowerLimit => rw [hpower', hpower, hflag]
  case powerLimitPct => exact hpct'
  case hasFan => rw [hfan', hfan, hflag]
  case fanAuto => exact hauto'
  case fanMode => exact hmode'
  case fanPercent => exact hpercent'
  case fanCurve => exact hfanCurve'
  case resetOcBeforeApply => rw [hreset', hreset, hflag]
  case hasXbarOffsetKhz => rw [hxbar', hxbar, hflag]
  case xbarOffsetKhz => rw [hxbarKhz', hxbarKhz]; split <;> rfl
  case hasXbarMsvddOffsetUv => rw [hmsvdd', hmsvdd, hflag]
  case xbarMsvddOffsetUv => rw [hmsvddUv', hmsvddUv]; split <;> rfl
  case hasSysClkOffsetKhz => rw [hsys', hsys, hflag]
  case sysClkOffsetKhz => rw [hsysKhz', hsysKhz]; split <;> rfl
  case hasVideoClkOffsetKhz => rw [hvideo', hvideo, hflag]
  case videoClkOffsetKhz => rw [hvideoKhz', hvideoKhz]; split <;> rfl

/-- A stranded offset is named although its domain is not there. -/
theorem StrandsOffset.named (h : StrandsOffset desired available) :
    serviceDesiredMutationDomains
      (serviceProjectDesiredToAvailableDomains desired available) .gpuOffset = true := by
  obtain ⟨hgpu, -, hexclude⟩ := project_gpuOffset desired available
  have hlock := (project_lock desired available).1
  have hpoint := project_hasCurvePoint desired available
  have hcurve : gpuOffsetUsesCurve desired = true := by
    simp [gpuOffsetUsesCurve, h.owned, h.locked]
  rw [gpuOffsetDomain, hcurve, if_pos rfl, h.curve, Bool.and_true] at hgpu
  have hplain := (gpuOffsetUsesCurve_of_owned (hgpu.trans h.owned)).mpr
    ⟨by rw [hexclude, h.whole, ite_self], by rw [hlock, h.noLock, Bool.and_false],
      by rw [hpoint, h.noPoint, Bool.false_and]⟩
  simp only [serviceDesiredMutationDomains]
  rw [hplain, hgpu, h.owned]
  rfl

/-- **A projection is sound unless it strands the GPU offset.** -/
theorem projectionSound_iff (desired : DesiredSettings) (available : ServiceDomains) :
    ProjectionSound desired available ↔ ¬ StrandsOffset desired available := by
  constructor
  · intro hsound hstrands
    have hoffered := hsound.named .gpuOffset hstrands.named
    rw [hstrands.noOffset] at hoffered
    exact Bool.false_ne_true hoffered
  · intro hstrands
    exact ⟨named_of_offset (offset_available hstrands), keepsAvailable_project,
      settled_of_offset (offset_available hstrands)⟩

end Law

/-- With the curve alone available, an offset under a lock is left as a plain offset. -/
theorem stranded_offset_projected :
    let desired : DesiredSettings :=
      { hasGpuOffset := true, gpuOffsetMHz := 150, hasLock := true, lockCi := 70, lockMHz := 2500,
        lockMode := .flatten }
    let available : ServiceDomains := fun domain => domain == .vfCurve
    serviceDesiredMutationDomains
        (serviceProjectDesiredToAvailableDomains desired available) .gpuOffset = true ∧
      available .gpuOffset = false := by
  intro desired available
  have hnoPoint : serviceDesiredHasCurvePoint desired = false :=
    decide_eq_false fun ⟨_, hpoint⟩ => Bool.false_ne_true hpoint
  have hstrands : StrandsOffset desired available :=
    ⟨rfl, rfl, rfl, hnoPoint, rfl, rfl, rfl⟩
  exact ⟨hstrands.named, rfl⟩

end GreenCurve
