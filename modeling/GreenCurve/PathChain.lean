import Mathlib.Data.List.Forall2
import Mathlib.Tactic.Common

/-! # How well a folder is protected

The service runs as LocalSystem from a folder the user chooses, so the folder and all above
it must be closed to everybody but administrators.  The verdict is given twice: before setup,
where the folder need not exist yet and its own permissions are about to be replaced, and at
run time, on what is there.  The first is a promise: where it says *protected*, the second
says so of the table that setup leaves (`protection_kept`).  No change for the worse turns a
verdict green. -/

namespace GreenCurve.PathChain

/-! ## The facts and the verdict -/

/-- `GcPathComponentFacts`; `existing` is `exists`. -/
structure GcPathComponentFacts where
  existing : Bool
  isReparse : Bool
  isDirectory : Bool
  ownerAdminTrusted : Bool
  nonAdminDanger : Bool
  nonAdminCreateDanger : Bool
  nonAdminInheritDanger : Bool
  factsComplete : Bool
  deriving DecidableEq

/-- `GcPathVolumeFacts`. -/
structure GcPathVolumeFacts where
  isUnc : Bool
  isRemote : Bool
  hasPersistentAcls : Bool
  factsComplete : Bool
  deriving DecidableEq

/-- `GcPathProtectionFacts`: the components are the first `component_count` ones, from the
root of the drive down. -/
structure GcPathProtectionFacts where
  volume : GcPathVolumeFacts
  underUserProfile : Bool
  preflightMode : Bool
  components : List GcPathComponentFacts
  chainComplete : Bool
  deriving DecidableEq

/-- `GcPathRiskReason`. -/
inductive GcPathRiskReason
  | none | remote | noPersistentAcls | chainIncomplete | volumeUnreadable
  | componentMissingFacts | componentReparse | componentNotAdminOwned | componentUserWritable
  deriving DecidableEq

/-- `GcPathProtection`. -/
structure GcPathProtection where
  chainProtected : Bool
  standardWritable : Bool
  userProfile : Bool
  remote : Bool
  noFilesystemPermissions : Bool
  reason : GcPathRiskReason
  firstUnsafeComponent : Int
  deriving DecidableEq

/-! ## The classifier -/

/-- What the loop over the components has found. -/
structure Walk where
  chainProtected : Bool
  reason : GcPathRiskReason
  firstUnsafeComponent : Int
  seenMissing : Bool
  seenExisting : Bool
  deriving DecidableEq

/-- The verdict is red from here on. -/
def Walk.unsafeAt (walk : Walk) (reason : GcPathRiskReason) (i : Int) : Walk :=
  { walk with chainProtected := false, reason := reason, firstUnsafeComponent := i }

/-- Why an existing component is not safe, in the order of the checks. -/
def componentRisk (preflightMode isLeaf : Bool) (component : GcPathComponentFacts) :
    Option GcPathRiskReason :=
  let exemptLeaf := isLeaf && preflightMode
  if !component.factsComplete then some .componentMissingFacts
  else if component.isReparse then some .componentReparse
  else if !component.isDirectory then some .componentMissingFacts
  else if !component.ownerAdminTrusted then some .componentNotAdminOwned
  else if component.nonAdminDanger && !exemptLeaf then some .componentUserWritable
  else if isLeaf && component.nonAdminCreateDanger && !exemptLeaf then some .componentUserWritable
  else none

/-- The loop over the components from the `i`-th on. -/
def walkChain (preflightMode : Bool) (count : Nat) : Nat → List GcPathComponentFacts → Walk → Walk
  | _, [], walk => walk
  | i, component :: rest, walk =>
      if !component.existing then
        walkChain preflightMode count (i + 1) rest { walk with seenMissing := true }
      else
        let walk := { walk with seenExisting := true }
        if walk.seenMissing then walk.unsafeAt .chainIncomplete i
        else match componentRisk preflightMode (i + 1 == count) component with
          | some reason => walk.unsafeAt reason i
          | none => walkChain preflightMode count (i + 1) rest walk

/-- `lastExisting` and `firstMissing`, `-1` where there is none. -/
def span : Nat → List GcPathComponentFacts → Int × Int → Int × Int
  | _, [], found => found
  | i, component :: rest, (lastExisting, firstMissing) =>
      span (i + 1) rest
        (if component.existing then (i, firstMissing)
          else if firstMissing < 0 then (lastExisting, i)
          else (lastExisting, firstMissing))

/-- The check of what setup would build. -/
def checkTail (facts : GcPathProtectionFacts) (walk : Walk) : Walk :=
  let (lastExisting, firstMissing) := span 0 facts.components (-1, -1)
  let tailLength : Int := if firstMissing ≥ 0 then facts.components.length - firstMissing else 0
  if !walk.seenExisting then
    walk.unsafeAt .chainIncomplete (if firstMissing ≥ 0 then firstMissing else 0)
  else if firstMissing ≥ 0 ∧ !facts.preflightMode then walk.unsafeAt .chainIncomplete firstMissing
  else if firstMissing ≥ 0 ∧ tailLength > 1
      ∧ (facts.components[lastExisting.toNat]?.any (·.nonAdminInheritDanger)) then
    walk.unsafeAt .componentUserWritable firstMissing
  else walk

/-- `gc_path_protection_classify`; `none` is a null pointer to the facts. -/
def gcPathProtectionClassify : Option GcPathProtectionFacts → GcPathProtection
  | none =>
      { chainProtected := false, standardWritable := true, userProfile := false, remote := false,
        noFilesystemPermissions := false, reason := .chainIncomplete, firstUnsafeComponent := -1 }
  | some facts =>
      let remote := facts.volume.isUnc || facts.volume.isRemote
      let noFilesystemPermissions :=
        facts.volume.factsComplete && !facts.volume.hasPersistentAcls
      let red (reason : GcPathRiskReason) : Walk :=
        { chainProtected := false, reason := reason, firstUnsafeComponent := -1,
          seenMissing := false, seenExisting := false }
      let walk :=
        if remote then red .remote
        else if !facts.volume.factsComplete then red .volumeUnreadable
        else if noFilesystemPermissions then red .noPersistentAcls
        else if !facts.chainComplete ∨ facts.components.length ≤ 0 then red .chainIncomplete
        else
          let walk := walkChain facts.preflightMode facts.components.length 0 facts.components
            { red .none with chainProtected := true }
          if walk.chainProtected ∧ facts.components.length > 0 then checkTail facts walk else walk
      { chainProtected := walk.chainProtected
        standardWritable := !walk.chainProtected
        userProfile := facts.underUserProfile
        remote := remote
        noFilesystemPermissions := noFilesystemPermissions
        reason := walk.reason
        firstUnsafeComponent := walk.firstUnsafeComponent }

/-- The verdict is green. -/
def Protected (facts : GcPathProtectionFacts) : Prop :=
  (gcPathProtectionClassify (some facts)).chainProtected = true

instance (facts : GcPathProtectionFacts) : Decidable (Protected facts) :=
  inferInstanceAs (Decidable (_ = true))

/-! ## What a green verdict says -/

/-- An existing component that nobody but administrators can replace. -/
structure Closed (preflightMode isLeaf : Bool) (component : GcPathComponentFacts) : Prop where
  complete : component.factsComplete = true
  noReparse : component.isReparse = false
  directory : component.isDirectory = true
  trusted : component.ownerAdminTrusted = true
  danger : component.nonAdminDanger = true → isLeaf = true ∧ preflightMode = true
  create : isLeaf = true → component.nonAdminCreateDanger = true → preflightMode = true

theorem componentRisk_eq_none {preflightMode isLeaf : Bool} {component : GcPathComponentFacts} :
    componentRisk preflightMode isLeaf component = none ↔
      Closed preflightMode isLeaf component := by
  rw [componentRisk]
  constructor
  · intro h
    split_ifs at h with hcomplete hreparse hdirectory howner hdanger hcreate
    simp only [Bool.not_eq_true', Bool.not_eq_false, Bool.and_eq_true, Bool.not_eq_true,
      Bool.and_eq_false_iff, not_and, not_or]
      at hcomplete hreparse hdirectory howner hdanger hcreate
    refine ⟨hcomplete, hreparse, hdirectory, howner, fun h => ?_, fun hleaf h => ?_⟩
    · simpa [h] using hdanger
    · simpa [h, hleaf] using hcreate
  · rintro ⟨hcomplete, hreparse, hdirectory, howner, hdanger, hcreate⟩
    simp only [hcomplete, hreparse, hdirectory, howner, Bool.not_true, Bool.false_eq_true, if_false]
    rw [if_neg (by simp; exact hdanger),
      if_neg (by simp; exact fun hleaf h => ⟨hleaf, hcreate hleaf h⟩)]

/-- **What is there is closed, and what is missing is built closed**: the chain that exists,
from the root on, and the tail that setup will build. -/
structure Proven (preflightMode : Bool) (existing missing : List GcPathComponentFacts) :
    Prop where
  ne_nil : existing ≠ []
  present : ∀ c ∈ existing, c.existing = true
  absent : ∀ c ∈ missing, c.existing = false
  closed : ∀ i c, existing[i]? = some c →
    Closed preflightMode (i + 1 == (existing ++ missing).length) c
  built : missing ≠ [] → preflightMode = true
  inherit : 1 < missing.length → ∀ c, existing.getLast? = some c → c.nonAdminInheritDanger = false

section Walks

variable {preflightMode : Bool} {count i : Nat} {components : List GcPathComponentFacts}
  {walk : Walk}

/-- Behind a missing component nothing may exist. -/
theorem walkChain_missing (hmissing : walk.seenMissing = true)
    (hwalk : walk.chainProtected = true) :
    (walkChain preflightMode count i components walk).chainProtected = true ↔
      ∀ c ∈ components, c.existing = false := by
  induction components generalizing i walk with
  | nil => simpa [walkChain] using hwalk
  | cons c rest ih =>
    rw [walkChain]
    cases hc : c.existing with
    | false =>
      simp only [Bool.not_false, if_true, List.forall_mem_cons, hc, true_and]
      exact ih rfl hwalk
    | true => simp [hmissing, hc, Walk.unsafeAt]

/-- The walk is green over closed components and a tail that is missing. -/
theorem walkChain_chainProtected (hmissing : walk.seenMissing = false)
    (hwalk : walk.chainProtected = true) :
    (walkChain preflightMode count i components walk).chainProtected = true ↔
      ∃ existing missing, components = existing ++ missing ∧
        (∀ c ∈ existing, c.existing = true) ∧ (∀ c ∈ missing, c.existing = false) ∧
        ∀ k c, existing[k]? = some c → Closed preflightMode (i + k + 1 == count) c := by
  induction components generalizing i walk with
  | nil =>
    simp only [walkChain, hwalk, true_iff]
    exact ⟨[], [], rfl, by simp, by simp, by simp⟩
  | cons c rest ih =>
    rw [walkChain]
    cases hc : c.existing with
    | false =>
      simp only [Bool.not_false, if_true]
      rw [@walkChain_missing preflightMode count (i + 1) rest { walk with seenMissing := true } rfl
        hwalk]
      constructor
      · intro hrest
        exact ⟨[], c :: rest, rfl, by simp, by simpa [hc] using hrest, by simp⟩
      · rintro ⟨existing, missing, hsplit, hpresent, habsent, -⟩
        cases existing with
        | nil =>
          rw [List.nil_append] at hsplit
          exact fun d hd => habsent d (hsplit ▸ List.mem_cons_of_mem c hd)
        | cons d existing =>
          obtain ⟨rfl, -⟩ := List.cons_eq_cons.mp hsplit
          simp [hc] at hpresent
    | true =>
      simp only [Bool.not_true, Bool.false_eq_true, if_false, hmissing]
      cases hrisk : componentRisk preflightMode (i + 1 == count) c with
      | some reason =>
        simp only [Walk.unsafeAt, Bool.false_eq_true, false_iff]
        rintro ⟨existing, missing, hsplit, -, habsent, hclosed⟩
        cases existing with
        | nil => simp [← List.nil_append missing ▸ hsplit, hc] at habsent
        | cons d existing =>
          obtain ⟨rfl, -⟩ := List.cons_eq_cons.mp hsplit
          have hnone := componentRisk_eq_none.mpr (hclosed 0 c rfl)
          rw [Nat.add_zero, hrisk] at hnone
          cases hnone
      | none =>
        have hfirst := componentRisk_eq_none.mp hrisk
        refine (ih rfl (by exact hwalk)).trans ?_
        constructor
        · rintro ⟨existing, missing, rfl, hpresent, habsent, hclosed⟩
          refine ⟨c :: existing, missing, rfl, by simpa [hc] using hpresent, habsent, ?_⟩
          intro k d hk
          cases k with
          | zero =>
            cases hk
            exact hfirst
          | succ k =>
            have hnext := hclosed k d hk
            rwa [show i + 1 + k + 1 = i + (k + 1) + 1 by omega] at hnext
        · rintro ⟨existing, missing, hsplit, hpresent, habsent, hclosed⟩
          cases existing with
          | nil => simp [← List.nil_append missing ▸ hsplit, hc] at habsent
          | cons d existing =>
            obtain ⟨rfl, rfl⟩ := List.cons_eq_cons.mp hsplit
            refine ⟨existing, missing, rfl, fun d hd => hpresent d (List.mem_cons_of_mem c hd),
              habsent, fun k d hk => ?_⟩
            have hnext := hclosed (k + 1) d hk
            rwa [show i + (k + 1) + 1 = i + 1 + k + 1 by omega] at hnext

/-- A green walk has seen what exists. -/
theorem walkChain_seenExisting
    (h : (walkChain preflightMode count i components walk).chainProtected = true) :
    (walkChain preflightMode count i components walk).seenExisting =
      (walk.seenExisting || components.any (·.existing)) := by
  induction components generalizing i walk with
  | nil => simp [walkChain]
  | cons c rest ih =>
    rw [walkChain] at h ⊢
    cases hc : c.existing with
    | false =>
      simp only [hc, Bool.not_false, if_true] at h ⊢
      rw [ih h]
      simp [hc]
    | true =>
      simp only [hc, Bool.not_true, Bool.false_eq_true, if_false] at h ⊢
      cases hmissing : walk.seenMissing with
      | true => simp [hmissing, Walk.unsafeAt] at h
      | false =>
        simp only [hmissing, Bool.false_eq_true, if_false] at h ⊢
        cases hrisk : componentRisk preflightMode (i + 1 == count) c with
        | some reason => simp [hrisk, Walk.unsafeAt] at h
        | none =>
          simp only [hrisk] at h ⊢
          rw [ih h]
          simp [hc]

end Walks

/-! ## The missing tail -/

theorem span_append (i : Nat) (existing missing : List GcPathComponentFacts) (found : Int × Int) :
    span i (existing ++ missing) found =
      span (i + existing.length) missing (span i existing found) := by
  induction existing generalizing i found with
  | nil => simp [span]
  | cons c existing ih =>
    rw [List.cons_append, span, span, ih, List.length_cons, Nat.add_right_comm, Nat.add_assoc]

theorem span_present {i : Nat} {existing : List GcPathComponentFacts} {last first : Int}
    (h : ∀ c ∈ existing, c.existing = true) :
    span i existing (last, first) =
      (if existing = [] then last else i + existing.length - 1, first) := by
  induction existing generalizing i last with
  | nil => rfl
  | cons c existing ih =>
    rw [List.forall_mem_cons] at h
    rw [span, if_pos h.1, ih h.2, if_neg (List.cons_ne_nil _ _), List.length_cons]
    congr 1
    split_ifs with hnil
    · simp [hnil]
    · omega

theorem span_absent {i : Nat} {missing : List GcPathComponentFacts} {last first : Int}
    (h : ∀ c ∈ missing, c.existing = false) :
    span i missing (last, first) =
      (last, if missing ≠ [] ∧ first < 0 then (i : Int) else first) := by
  induction missing generalizing i first with
  | nil => simp [span]
  | cons c missing ih =>
    rw [List.forall_mem_cons] at h
    rw [span, if_neg (by simp [h.1])]
    by_cases hfirst : first < 0
    · rw [if_pos hfirst, ih h.2, if_neg (by omega), if_pos ⟨List.cons_ne_nil _ _, hfirst⟩]
    · rw [if_neg hfirst, ih h.2, if_neg (fun h => hfirst h.2), if_neg (fun h => hfirst h.2)]

/-- What setup would build is checked against the last component that exists. -/
theorem checkTail_chainProtected {facts : GcPathProtectionFacts} {walk : Walk}
    {existing missing : List GcPathComponentFacts} (hsplit : facts.components = existing ++ missing)
    (hpresent : ∀ c ∈ existing, c.existing = true) (habsent : ∀ c ∈ missing, c.existing = false)
    (hseen : walk.seenExisting = decide (existing ≠ [])) (hwalk : walk.chainProtected = true) :
    (checkTail facts walk).chainProtected = true ↔
      existing ≠ [] ∧ (missing ≠ [] → facts.preflightMode = true) ∧
        (1 < missing.length →
          ∀ c, existing.getLast? = some c → c.nonAdminInheritDanger = false) := by
  have hspan : span 0 facts.components (-1, -1) =
      (if existing = [] then -1 else 0 + (existing.length : Int) - 1,
        if missing ≠ [] then (existing.length : Int) else -1) := by
    rw [hsplit, span_append, span_present hpresent, span_absent habsent, Nat.zero_add]
    simp
  rw [checkTail, hspan, hsplit]
  dsimp only
  rw [hseen]
  by_cases hnil : existing = []
  · simp [hnil, Walk.unsafeAt]
  have hpos := List.length_pos_of_ne_nil hnil
  by_cases hmissing : missing = []
  · simp [hnil, hmissing, hwalk]
  -- the last component that exists is read from the table
  have hlast : (existing ++ missing)[(0 + (existing.length : Int) - 1).toNat]? =
      existing.getLast? := by
    rw [show (0 + (existing.length : Int) - 1).toNat = existing.length - 1 by omega,
      List.getElem?_append_left (by omega), List.getLast?_eq_getElem?]
  obtain ⟨c, hc⟩ : ∃ c, existing.getLast? = some c :=
    ⟨_, List.getLast?_eq_some_getLast hnil⟩
  have hlength : ((existing ++ missing).length : Int) - existing.length = missing.length := by
    rw [List.length_append]
    omega
  have hge : (existing.length : Int) ≥ 0 := by omega
  simp only [hnil, hmissing, ne_eq, not_false_eq_true, if_true, if_false, decide_true,
    Bool.not_true, Bool.false_eq_true, hlast, hc, hlength, hge, Option.any_some, true_and,
    true_implies, Bool.not_eq_true']
  cases hmode : facts.preflightMode with
  | false => simp [Walk.unsafeAt]
  | true =>
    by_cases htail : 1 < missing.length
    · have htail' : (missing.length : Int) > 1 := by omega
      cases hinherit : c.nonAdminInheritDanger <;>
        simp [htail, htail', hinherit, hwalk, Walk.unsafeAt]
    · have htail' : ¬(missing.length : Int) > 1 := by omega
      simp [htail, htail', hwalk]

/-- The volume holds permissions and is local. -/
structure LocalVolume (volume : GcPathVolumeFacts) : Prop where
  noUnc : volume.isUnc = false
  noRemote : volume.isRemote = false
  complete : volume.factsComplete = true
  acls : volume.hasPersistentAcls = true

/-- A walk that has not begun. -/
theorem walkChain_green (facts : GcPathProtectionFacts) {start : Walk}
    (hmissing : start.seenMissing = false) (hexisting : start.seenExisting = false)
    (hstart : start.chainProtected = true) :
    let walk := walkChain facts.preflightMode facts.components.length 0 facts.components start
    (walk.chainProtected = true ∧ (checkTail facts walk).chainProtected = true) ↔
      ∃ existing missing, facts.components = existing ++ missing ∧
        Proven facts.preflightMode existing missing := by
  intro walk
  have hgreen := @walkChain_chainProtected facts.preflightMode facts.components.length 0
    facts.components start hmissing hstart
  have hseen : walk.chainProtected = true → ∀ existing missing,
      facts.components = existing ++ missing → (∀ c ∈ existing, c.existing = true) →
      (∀ c ∈ missing, c.existing = false) → walk.seenExisting = decide (existing ≠ []) := by
    intro hwalk existing missing hsplit hpresent habsent
    rw [walkChain_seenExisting hwalk, hexisting, Bool.false_or, hsplit, List.any_append]
    have hnone : missing.any (·.existing) = false := by
      simpa using habsent
    rw [hnone, Bool.or_false]
    cases existing with
    | nil => rfl
    | cons c existing => simp [hpresent c List.mem_cons_self]
  constructor
  · rintro ⟨hwalk, htail⟩
    obtain ⟨existing, missing, hsplit, hpresent, habsent, hclosed⟩ := hgreen.mp hwalk
    obtain ⟨hne, hbuilt, hinherit⟩ := (checkTail_chainProtected hsplit hpresent habsent
      (hseen hwalk existing missing hsplit hpresent habsent) hwalk).mp htail
    refine ⟨existing, missing, hsplit, hne, hpresent, habsent, fun i c hi => ?_, hbuilt, hinherit⟩
    have hc := hclosed i c hi
    rwa [Nat.zero_add, hsplit] at hc
  · rintro ⟨existing, missing, hsplit, hproven⟩
    have hwalk : walk.chainProtected = true := by
      refine hgreen.mpr ⟨existing, missing, hsplit, hproven.present, hproven.absent, ?_⟩
      intro i c hi
      rw [Nat.zero_add, hsplit]
      exact hproven.closed i c hi
    exact ⟨hwalk, (checkTail_chainProtected hsplit hproven.present hproven.absent
      (hseen hwalk existing missing hsplit hproven.present hproven.absent) hwalk).mpr
      ⟨hproven.ne_nil, hproven.built, hproven.inherit⟩⟩

/-- **What the classifier decides**: a green verdict is a proven chain on a local volume with
permissions, walked to its end. -/
theorem protected_iff (facts : GcPathProtectionFacts) :
    Protected facts ↔ LocalVolume facts.volume ∧ facts.chainComplete = true ∧
      ∃ existing missing, facts.components = existing ++ missing ∧
        Proven facts.preflightMode existing missing := by
  have hwalk := @walkChain_green facts ⟨true, .none, -1, false, false⟩ rfl rfl rfl
  rw [Protected, gcPathProtectionClassify]
  dsimp only
  constructor
  · intro h
    split_ifs at h with hremote hvolume hacls hchain hgreen
    case neg => exact absurd ⟨h, Nat.pos_of_ne_zero fun h => hchain (.inr (Nat.le_of_eq h))⟩ hgreen
    simp only [Bool.or_eq_true, not_or, Bool.not_eq_true, Bool.not_eq_true', Bool.and_eq_true,
      Bool.not_eq_false, not_and] at hremote hvolume hacls hchain
    refine ⟨⟨hremote.1, hremote.2, hvolume, hacls hvolume⟩, hchain.1, ?_⟩
    exact hwalk.mp ⟨hgreen.1, h⟩
  · rintro ⟨⟨hunc, hremote, hvolume, hacls⟩, hcomplete, hproven⟩
    have hpos : 0 < facts.components.length := by
      obtain ⟨existing, missing, hsplit, h⟩ := hproven
      have := List.length_pos_of_ne_nil h.ne_nil
      rw [hsplit, List.length_append]
      omega
    obtain ⟨hgreen, htail⟩ := hwalk.mpr hproven
    simp only [hunc, hremote, hvolume, hacls, hcomplete, Bool.or_false, Bool.not_true,
      Bool.false_eq_true, Bool.and_false, if_false, false_or]
    rw [if_neg (by omega), if_pos ⟨hgreen, hpos⟩]
    exact htail

/-! ## A change for the worse -/

/-- The second has more danger, or fewer facts that speak for it. -/
structure GcPathComponentFacts.Worse (a b : GcPathComponentFacts) : Prop where
  existing : b.existing = a.existing
  isReparse : a.isReparse = true → b.isReparse = true
  isDirectory : b.isDirectory = true → a.isDirectory = true
  ownerAdminTrusted : b.ownerAdminTrusted = true → a.ownerAdminTrusted = true
  nonAdminDanger : a.nonAdminDanger = true → b.nonAdminDanger = true
  nonAdminCreateDanger : a.nonAdminCreateDanger = true → b.nonAdminCreateDanger = true
  nonAdminInheritDanger : a.nonAdminInheritDanger = true → b.nonAdminInheritDanger = true
  factsComplete : b.factsComplete = true → a.factsComplete = true

/-- The second table is as the first, but for facts that changed for the worse. -/
structure GcPathProtectionFacts.Worse (a b : GcPathProtectionFacts) : Prop where
  isUnc : a.volume.isUnc = true → b.volume.isUnc = true
  isRemote : a.volume.isRemote = true → b.volume.isRemote = true
  hasPersistentAcls : b.volume.hasPersistentAcls = true → a.volume.hasPersistentAcls = true
  volumeComplete : b.volume.factsComplete = true → a.volume.factsComplete = true
  preflightMode : b.preflightMode = a.preflightMode
  components : List.Forall₂ GcPathComponentFacts.Worse a.components b.components
  chainComplete : b.chainComplete = true → a.chainComplete = true

theorem eq_false_of_imp {a b : Bool} (h : a = true → b = true) (hb : b = false) : a = false :=
  Bool.eq_false_iff.mpr fun ha => Bool.noConfusion (hb.symm.trans (h ha))

theorem Closed.of_worse {preflightMode isLeaf : Bool} {a b : GcPathComponentFacts}
    (h : a.Worse b) (hb : Closed preflightMode isLeaf b) : Closed preflightMode isLeaf a where
  complete := h.factsComplete hb.complete
  noReparse := eq_false_of_imp h.isReparse hb.noReparse
  directory := h.isDirectory hb.directory
  trusted := h.ownerAdminTrusted hb.trusted
  danger hdanger := hb.danger (h.nonAdminDanger hdanger)
  create hleaf hcreate := hb.create hleaf (h.nonAdminCreateDanger hcreate)

section Pointwise

variable {as bs : List GcPathComponentFacts} (h : List.Forall₂ GcPathComponentFacts.Worse as bs)

include h in
theorem worse_getElem? {i : Nat} {a : GcPathComponentFacts} (ha : as[i]? = some a) :
    ∃ b, bs[i]? = some b ∧ a.Worse b := by
  induction h generalizing i with
  | nil => cases ha
  | cons hab _ ih =>
    cases i with
    | zero =>
      cases ha
      exact ⟨_, rfl, hab⟩
    | succ i => exact ih ha

include h in
theorem worse_existing {value : Bool} (hb : ∀ b ∈ bs, b.existing = value) :
    ∀ a ∈ as, a.existing = value := by
  intro a ha
  obtain ⟨i, hi⟩ := List.getElem?_of_mem ha
  obtain ⟨b, hbi, hab⟩ := worse_getElem? h hi
  rw [← hab.existing, hb b (List.mem_of_getElem? hbi)]

end Pointwise

theorem Proven.of_worse {preflightMode : Bool} {es ms es' ms' : List GcPathComponentFacts}
    (hes : List.Forall₂ GcPathComponentFacts.Worse es es')
    (hms : List.Forall₂ GcPathComponentFacts.Worse ms ms') (h : Proven preflightMode es' ms') :
    Proven preflightMode es ms where
  ne_nil hnil := h.ne_nil (List.forall₂_nil_left_iff.mp (hnil ▸ hes))
  present := worse_existing hes h.present
  absent := worse_existing hms h.absent
  closed i c hi := by
    obtain ⟨c', hi', hworse⟩ := worse_getElem? hes hi
    have hclosed := h.closed i c' hi'
    rw [List.length_append, ← hes.length_eq, ← hms.length_eq, ← List.length_append] at hclosed
    exact hclosed.of_worse hworse
  built hne := h.built fun hnil => hne (List.forall₂_nil_right_iff.mp (hnil ▸ hms))
  inherit hlong c hc := by
    rw [List.getLast?_eq_getElem?, hes.length_eq] at hc
    obtain ⟨c', hc', hworse⟩ := worse_getElem? hes hc
    rw [← List.getLast?_eq_getElem?] at hc'
    exact eq_false_of_imp hworse.nonAdminInheritDanger (h.inherit (hms.length_eq ▸ hlong) c' hc')

theorem Protected.of_worse {a b : GcPathProtectionFacts} (h : a.Worse b) (hb : Protected b) :
    Protected a := by
  rw [protected_iff] at hb ⊢
  obtain ⟨hvolume, hcomplete, existing, missing, hsplit, hproven⟩ := hb
  have hcomponents := h.components
  rw [hsplit] at hcomponents
  refine ⟨⟨?_, ?_, ?_, ?_⟩, h.chainComplete hcomplete,
    a.components.take existing.length, a.components.drop existing.length,
    (List.take_append_drop _ _).symm, ?_⟩
  · exact eq_false_of_imp h.isUnc hvolume.noUnc
  · exact eq_false_of_imp h.isRemote hvolume.noRemote
  · exact h.volumeComplete hvolume.complete
  · exact h.hasPersistentAcls hvolume.acls
  · rw [← h.preflightMode]
    exact hproven.of_worse (List.forall₂_take_append _ _ _ hcomponents)
      (List.forall₂_drop_append _ _ _ hcomponents)

/-! ## What setup leaves -/

/-- A component that setup creates: its dangers are the ones its parent hands down. -/
def created (inherited : Bool) : GcPathComponentFacts :=
  { existing := true, isReparse := false, isDirectory := true, ownerAdminTrusted := true,
    nonAdminDanger := inherited, nonAdminCreateDanger := inherited,
    nonAdminInheritDanger := inherited, factsComplete := true }

/-- Setup creates what is missing, from the root down; `inherited` is what the parent hands
down. -/
def create (inherited : Bool) : List GcPathComponentFacts → List GcPathComponentFacts
  | [] => []
  | component :: rest =>
      let component := if component.existing then component else created inherited
      component :: create component.nonAdminInheritDanger rest

/-- The permissions of the leaf are replaced. -/
def harden (component : GcPathComponentFacts) : GcPathComponentFacts :=
  { component with
    nonAdminDanger := false, nonAdminCreateDanger := false, nonAdminInheritDanger := false }

/-- The last component, hardened. -/
def hardenLeaf (components : List GcPathComponentFacts) : List GcPathComponentFacts :=
  components.modify (components.length - 1) harden

/-- The facts after setup, as the check at run time gathers them. -/
def setup (facts : GcPathProtectionFacts) : GcPathProtectionFacts :=
  { facts with
    preflightMode := false
    components := hardenLeaf (create false facts.components) }

theorem create_missing {inherited : Bool} {missing : List GcPathComponentFacts}
    (h : ∀ c ∈ missing, c.existing = false) :
    create inherited missing = List.replicate missing.length (created inherited) := by
  induction missing with
  | nil => rfl
  | cons c missing ih =>
    rw [List.forall_mem_cons] at h
    rw [create, if_neg (by simp [h.1])]
    exact congrArg _ (ih h.2)

/-- What exists stays, and what is missing inherits from its end. -/
theorem create_append {inherited : Bool} {existing missing : List GcPathComponentFacts}
    {last : GcPathComponentFacts} (hlast : existing.getLast? = some last)
    (hpresent : ∀ c ∈ existing, c.existing = true) (habsent : ∀ c ∈ missing, c.existing = false) :
    create inherited (existing ++ missing) =
      existing ++ List.replicate missing.length (created last.nonAdminInheritDanger) := by
  induction existing generalizing inherited with
  | nil => cases hlast
  | cons c existing ih =>
    rw [List.forall_mem_cons] at hpresent
    rw [List.cons_append, create, if_pos hpresent.1]
    cases existing with
    | nil =>
      cases hlast
      exact congrArg _ (create_missing habsent)
    | cons d existing => exact congrArg _ (ih hlast hpresent.2)

/-- The hardened leaf is closed where the component was, for the check before setup. -/
theorem Closed.harden {preflightMode isLeaf : Bool} {c : GcPathComponentFacts}
    (h : Closed preflightMode isLeaf c) : Closed false true (harden c) where
  complete := h.complete
  noReparse := h.noReparse
  directory := h.directory
  trusted := h.trusted
  danger h := nomatch h
  create _ h := nomatch h

/-- An ancestor that is closed before setup is closed at run time. -/
theorem Closed.ancestor {preflightMode : Bool} {c : GcPathComponentFacts}
    (h : Closed preflightMode false c) : Closed false false c where
  complete := h.complete
  noReparse := h.noReparse
  directory := h.directory
  trusted := h.trusted
  danger hdanger := nomatch (h.danger hdanger).1
  create h := nomatch h

/-- What setup creates is closed as the leaf, whose permissions it replaces, and where nothing
dangerous is handed down. -/
theorem closed_created {preflightMode isLeaf inherited : Bool}
    (h : inherited = true → isLeaf = true ∧ preflightMode = true) :
    Closed preflightMode isLeaf (created inherited) where
  complete := rfl
  noReparse := rfl
  directory := rfl
  trusted := rfl
  danger := h
  create _ hinherited := (h hinherited).2

/-- A proven chain, after setup. -/
theorem Proven.setup {existing missing : List GcPathComponentFacts}
    (h : Proven true existing missing) :
    Proven false (hardenLeaf (create false (existing ++ missing))) [] := by
  obtain ⟨last, hlast⟩ : ∃ c, existing.getLast? = some c :=
    ⟨_, List.getLast?_eq_some_getLast h.ne_nil⟩
  rw [create_append hlast h.present h.absent, hardenLeaf]
  set table := existing ++ List.replicate missing.length (created last.nonAdminInheritDanger)
    with htable
  have hlength : table.length = (existing ++ missing).length := by simp [htable]
  have hpos : 0 < table.length := by
    have := List.length_pos_of_ne_nil h.ne_nil
    rw [hlength, List.length_append]
    omega
  -- a component of the table before the leaf's permissions are replaced
  have hcomponent : ∀ i c, table[i]? = some c →
      existing[i]? = some c ∨ c = created last.nonAdminInheritDanger ∧ existing.length ≤ i := by
    intro i c hi
    rcases Nat.lt_or_ge i existing.length with hlt | hge
    · rw [htable, List.getElem?_append_left hlt] at hi
      exact .inl hi
    · rw [htable, List.getElem?_append_right hge] at hi
      exact .inr ⟨List.eq_of_mem_replicate (List.mem_of_getElem? hi), hge⟩
  -- and one of the table that setup leaves
  have hmodified : ∀ i c, (table.modify (table.length - 1) harden)[i]? = some c →
      ∃ d, table[i]? = some d ∧ c = if table.length - 1 = i then harden d else d := by
    intro i c hi
    rw [List.getElem?_modify] at hi
    obtain ⟨d, hd, rfl⟩ := Option.map_eq_some_iff.mp hi
    exact ⟨d, hd, rfl⟩
  refine ⟨?_, ?_, by simp, ?_, by simp, by simp⟩
  · exact List.ne_nil_of_length_pos (by rwa [List.length_modify])
  · intro c hc
    obtain ⟨i, hi⟩ := List.getElem?_of_mem hc
    obtain ⟨d, hd, rfl⟩ := hmodified i c hi
    have hpresent : d.existing = true := by
      rcases hcomponent i d hd with hold | ⟨rfl, -⟩
      · exact h.present d (List.mem_of_getElem? hold)
      · rfl
    split_ifs
    · exact hpresent
    · exact hpresent
  · intro i c hi
    obtain ⟨d, hd, rfl⟩ := hmodified i c hi
    have hlt := (List.getElem?_eq_some_iff.mp hd).1
    rw [List.append_nil, List.length_modify]
    split_ifs with hleaf
    · -- the leaf
      rw [show (i + 1 == table.length) = true by rw [beq_iff_eq]; omega]
      rcases hcomponent i d hd with hold | ⟨rfl, -⟩
      · exact (h.closed i d hold).harden
      · exact (@closed_created true true _ fun _ => ⟨rfl, rfl⟩).harden
    · -- an ancestor
      have hnot : (i + 1 == table.length) = false := by rw [beq_eq_false_iff_ne]; omega
      rw [hnot]
      rcases hcomponent i d hd with hold | ⟨rfl, hge⟩
      · have hclosed := h.closed i d hold
        rw [← hlength, hnot] at hclosed
        exact hclosed.ancestor
      · have hlong : 1 < missing.length := by
          rw [hlength, List.length_append] at hlt hleaf
          omega
        exact closed_created fun hinherited =>
          Bool.noConfusion ((h.inherit hlong last hlast).symm.trans hinherited)

theorem Protected.setup {facts : GcPathProtectionFacts} (hmode : facts.preflightMode = true)
    (h : Protected facts) : Protected (setup facts) := by
  rw [protected_iff] at h ⊢
  obtain ⟨hvolume, hcomplete, existing, missing, hsplit, hproven⟩ := h
  rw [hmode] at hproven
  refine ⟨hvolume, hcomplete, _, [], (List.append_nil _).symm, ?_⟩
  rw [PathChain.setup, hsplit]
  exact hproven.setup

/-- **The verdict before setup is kept by the one at run time**, and neither verdict turns
green by a change for the worse. -/
theorem protection_kept :
    (∀ facts : GcPathProtectionFacts, facts.preflightMode = true → Protected facts →
      Protected (setup facts)) ∧
    ∀ first second : GcPathProtectionFacts, first.Worse second → Protected second →
      Protected first :=
  ⟨fun _ hmode h => h.setup hmode, fun _ _ hworse h => h.of_worse hworse⟩

/-- A folder still to be created under a root that hands its dangers down. -/
def underStockRoot : GcPathProtectionFacts :=
  { volume := ⟨false, false, true, true⟩
    underUserProfile := false
    preflightMode := true
    components :=
      [{ created false with nonAdminCreateDanger := true, nonAdminInheritDanger := true },
        { created false with existing := false }]
    chainComplete := true }

theorem protection_kept_underStockRoot : Protected (setup underStockRoot) :=
  protection_kept.1 underStockRoot rfl (by decide)

end GreenCurve.PathChain
