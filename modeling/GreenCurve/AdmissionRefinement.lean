import GreenCurve.AdmissionInvariant
import GreenCurve.EventMachine
import Mathlib.Data.Finset.Card

/-! # The admission table refines the ledger

As long as no more identities are active in an idle window than the table has
slots, table and ledger answer every history alike.  What other identities do, and
which hashes they collide on, changes no decision, and a hold is honoured until it
ends. -/

namespace GreenCurve

/-- The operations on the table. -/
inductive AdmissionOp where
  | decide (key : ServiceIpcThrottleKey) (cls : ServiceIpcRequestClass) (nowMs : Nat)
  | charge (key : ServiceIpcThrottleKey) (cls : ServiceIpcRequestClass) (costTokens : UInt32)
      (nowMs : Nat)
  | hold (key : ServiceIpcThrottleKey) (untilMs nowMs : Nat)
  deriving DecidableEq, Repr

namespace AdmissionOp

def key : AdmissionOp → ServiceIpcThrottleKey
  | decide key _ _ => key
  | charge key _ _ _ => key
  | hold key _ _ => key

def nowMs : AdmissionOp → Nat
  | decide _ _ nowMs => nowMs
  | charge _ _ _ nowMs => nowMs
  | hold _ _ nowMs => nowMs

/-- The operation makes its identity active.  Asking does not. -/
def touches : AdmissionOp → Bool
  | decide _ _ _ => false
  | charge key _ costTokens _ => key.valid && costTokens != 0
  | hold key untilMs nowMs => key.valid && Nat.blt nowMs untilMs

end AdmissionOp

/-- The table as a machine, started with every slot unused; only `decide` is
answered. -/
def admissionTable (anonymous : ServiceIpcBucket) :
    EventMachine ServiceIpcAdmissionTable AdmissionOp (Option ServiceIpcAdmissionDecision) where
  initial := ServiceIpcAdmissionTable.zeroed anonymous
  step table op :=
    match op with
    | .decide key cls nowMs =>
      let answer := serviceIpcDecideAdmission table key cls nowMs
      (answer.1, some answer.2)
    | .charge key cls costTokens nowMs => (serviceIpcCharge table key cls costTokens nowMs, none)
    | .hold key untilMs nowMs => (serviceIpcHold table key untilMs nowMs, none)

/-- The ledger as a machine. -/
def admissionLedger :
    EventMachine AdmissionLedger AdmissionOp (Option ServiceIpcAdmissionDecision) where
  initial _ := Account.fresh
  step ledger op :=
    match op with
    | .decide key cls nowMs =>
      (ledger, some
        (if cls = .unknown then .rejectedCapacity
        else if !key.valid then .admitted
        else (ledger key).decide cls nowMs))
    | .charge key cls costTokens nowMs =>
      (if op.touches then
          Function.update ledger key ((ledger key).charge cls (costTokens.toNat * 1000) nowMs)
        else ledger, none)
    | .hold key untilMs _ =>
      (if op.touches then Function.update ledger key ((ledger key).hold untilMs) else ledger, none)

/-! ## Orderly histories -/

/-- Some operation of the history touched the identity at `t`. -/
def TouchedIn (ops : List AdmissionOp) (key : ServiceIpcThrottleKey) (t : Nat) : Prop :=
  ∃ op ∈ ops, op.touches = true ∧ op.key = key ∧ op.nowMs = t

/-- The identities touched in the idle window that starts at `t`. -/
def activeIdentities (ops : List AdmissionOp) (t : Nat) : Finset ServiceIpcThrottleKey :=
  ((ops.filter fun op => op.touches && decide (t ≤ op.nowMs) &&
    decide (op.nowMs < t + SERVICE_IPC_IDLE_EXPIRY_MS)).map AdmissionOp.key).toFinset

/-- A history on a monotonic clock that does not wrap, in which holds end within
the idle window and no window sees more active identities than there are slots. -/
structure Orderly (ops : List AdmissionOp) : Prop where
  monotone : ops.Pairwise fun op op' => op.nowMs ≤ op'.nowMs
  bounded : ∀ op ∈ ops, op.nowMs + SERVICE_IPC_IDLE_EXPIRY_MS < 2 ^ 63
  holds : ∀ key untilMs nowMs, AdmissionOp.hold key untilMs nowMs ∈ ops →
    untilMs ≤ nowMs + SERVICE_IPC_IDLE_EXPIRY_MS
  active : ∀ t, (activeIdentities ops t).card ≤ SERVICE_IPC_TABLE_SLOTS

section Histories
variable {ops ops' : List AdmissionOp} {op : AdmissionOp} {key : ServiceIpcThrottleKey}
  {t now : Nat} {anonymous : ServiceIpcBucket} {table : ServiceIpcAdmissionTable}
  {ledger : AdmissionLedger}

theorem mem_activeIdentities :
    key ∈ activeIdentities ops t ↔ ∃ op ∈ ops, op.touches = true ∧ op.key = key ∧
      t ≤ op.nowMs ∧ op.nowMs < t + SERVICE_IPC_IDLE_EXPIRY_MS := by
  simp only [activeIdentities, List.mem_toFinset, List.mem_map, List.mem_filter, Bool.and_eq_true,
    decide_eq_true_eq]
  constructor
  · rintro ⟨op, ⟨hmem, ⟨htouch, hlo⟩, hhi⟩, hkey⟩
    exact ⟨op, hmem, htouch, hkey, hlo, hhi⟩
  · rintro ⟨op, hmem, htouch, hkey, hlo, hhi⟩
    exact ⟨op, ⟨hmem, ⟨htouch, hlo⟩, hhi⟩, hkey⟩

/-- Dropping operations keeps a history orderly. -/
theorem Orderly.sublist (h : Orderly ops) (hsub : ops'.Sublist ops) : Orderly ops' where
  monotone := h.monotone.sublist hsub
  bounded op hop := h.bounded op (hsub.subset hop)
  holds key untilMs nowMs hop := h.holds key untilMs nowMs (hsub.subset hop)
  active t := by
    refine (Finset.card_le_card ?_).trans (h.active t)
    intro key hkey
    obtain ⟨op, hmem, hop⟩ := mem_activeIdentities.mp hkey
    exact mem_activeIdentities.mpr ⟨op, hsub.subset hmem, hop⟩

theorem Orderly.left (ops ops' : List AdmissionOp) (h : Orderly (ops ++ ops')) : Orderly ops :=
  h.sublist (List.sublist_append_left _ _)

/-- **There is always room**: a full table of live identities would be one identity
more than an idle window may see. -/
theorem hasRoom (h : Tracks (TouchedIn ops) now table ledger) (hord : Orderly ops)
    (hkey : TouchedIn ops key now) : HasRoom table key now := by
  have hnow : now + SERVICE_IPC_IDLE_EXPIRY_MS < 2 ^ 63 := by
    obtain ⟨op, hmem, _, _, rfl⟩ := hkey
    exact hord.bounded op hmem
  by_contra hfull
  have hall : ∀ i, (table.slots i).used = true ∧ (table.slots i).expired now = false ∧
      table.view i ≠ some key := by
    intro i
    refine ⟨?_, ?_, fun hi => hfull ⟨i, .inr (.inr hi)⟩⟩
    · by_contra hused
      exact hfull ⟨i, .inl (by simpa using hused)⟩
    · by_contra hexp
      exact hfull ⟨i, .inr (.inl (by simpa using hexp))⟩
  let residents := Finset.univ.image fun i => (table.slots i).key
  have hcard : residents.card = SERVICE_IPC_TABLE_SLOTS := by
    rw [Finset.card_image_of_injective, Finset.card_univ, Fintype.card_fin]
    intro i j hij
    exact h.unique i j _ (view_eq_some_iff.mpr ⟨(hall i).1, rfl⟩)
      (view_eq_some_iff.mpr ⟨(hall j).1, hij.symm⟩)
  have hfresh : key ∉ residents := by
    intro hmem
    obtain ⟨i, _, hi⟩ := Finset.mem_image.mp hmem
    exact (hall i).2.2 (view_eq_some_iff.mpr ⟨(hall i).1, hi⟩)
  have hsub : insert key residents ⊆
      activeIdentities ops (now + 1 - SERVICE_IPC_IDLE_EXPIRY_MS) := by
    intro k hk
    have hwindow : SERVICE_IPC_IDLE_EXPIRY_MS = 60000 := rfl
    rw [mem_activeIdentities]
    rcases Finset.mem_insert.mp hk with rfl | hk
    · obtain ⟨op, hmem, htouch, hop, hat⟩ := hkey
      exact ⟨op, hmem, htouch, hop, by omega, by omega⟩
    · obtain ⟨i, _, rfl⟩ := Finset.mem_image.mp hk
      have hs := h.sound i (hall i).1
      have hseen := hs.seen
      have hlive : ¬ (table.slots i).lastSeenMs + SERVICE_IPC_IDLE_EXPIRY_MS ≤ now := by
        rw [← hs.expired_iff hnow]
        simp [(hall i).2.1]
      obtain ⟨op, hmem, htouch, hop, hat⟩ := h.active i (hall i).1
      exact ⟨op, hmem, htouch, hop, by omega, by omega⟩
  have hle := (Finset.card_le_card hsub).trans (hord.active _)
  rw [Finset.card_insert_of_notMem hfresh, hcard] at hle
  omega

/-- The simulation relation: the table tracks the ledger at every time the history
has not gone past. -/
def TracksAfter (ops : List AdmissionOp) (table : ServiceIpcAdmissionTable)
    (ledger : AdmissionLedger) : Prop :=
  ∀ now, (∀ op ∈ ops, op.nowMs ≤ now) → Tracks (TouchedIn ops) now table ledger

/-- **The table simulates the ledger**, one operation at a time. -/
theorem table_simulates_ledger (anonymous : ServiceIpcBucket) :
    EventMachine.Simulates (admissionTable anonymous) admissionLedger Orderly TracksAfter where
  initial _ _ := tracks_zeroed anonymous
  step ops op table ledger hord h := by
    have hbefore : ∀ op' ∈ ops, op'.nowMs ≤ op.nowMs := by
      intro op' hop'
      exact (List.pairwise_append.mp hord.monotone).2.2 op' hop' op (List.mem_singleton_self op)
    have hnow := hord.bounded op (by simp)
    have hlast : ∀ now, (∀ op' ∈ ops ++ [op], op'.nowMs ≤ now) → op.nowMs ≤ now :=
      fun now hall => hall op (by simp)
    have htracks : Tracks (TouchedIn (ops ++ [op])) op.nowMs table ledger := by
      refine (h op.nowMs hbefore).mono (Nat.le_refl _) ?_
      rintro k t ⟨op', hmem, hop'⟩
      exact ⟨op', List.mem_append_left _ hmem, hop'⟩
    have hroom : op.touches = true → HasRoom table op.key op.nowMs ∧
        TouchedIn (ops ++ [op]) op.key op.nowMs := by
      intro htouch
      have hact : TouchedIn (ops ++ [op]) op.key op.nowMs := ⟨op, by simp, htouch, rfl, rfl⟩
      exact ⟨hasRoom htracks hord hact, hact⟩
    cases op with
    | decide key cls nowMs =>
      simp only [admissionTable, admissionLedger]
      by_cases hcls : cls = .unknown
      · subst hcls
        simp only [serviceIpcDecideAdmission, if_true, true_and]
        exact fun now hall => htracks.mono (hlast now hall) fun _ _ h => h
      · by_cases hkey : key.valid = true
        · obtain ⟨hanswer, hnext⟩ := decide_tracks htracks hkey hcls hnow
          refine ⟨?_, fun now hall => hnext.mono (hlast now hall) fun _ _ h => h⟩
          simp only [hcls, hkey, Bool.not_true, Bool.false_eq_true, if_false]
          exact congrArg some hanswer
        · simp only [serviceIpcDecideAdmission, hcls, hkey, Bool.not_false, if_true, if_false,
            true_and]
          exact fun now hall => htracks.mono (hlast now hall) fun _ _ h => h
    | charge key cls costTokens nowMs =>
      refine ⟨rfl, fun now hall => ?_⟩
      refine Tracks.mono (hlast now hall) (fun _ _ h => h) ?_
      simp only [admissionTable, admissionLedger]
      by_cases htouch : (AdmissionOp.charge key cls costTokens nowMs).touches = true
      · obtain ⟨hroom, hact⟩ := hroom htouch
        rw [if_pos htouch]
        simp only [AdmissionOp.touches, Bool.and_eq_true, bne_iff_ne] at htouch
        exact charge_tracks htracks htouch.1 htouch.2 hnow hact hroom
      · rw [if_neg htouch]
        by_cases hcost : costTokens = 0
        · subst hcost
          simp only [serviceIpcCharge, if_true]
          exact htracks
        · -- an identity that is not valid is charged on the anonymous bucket
          have hkey : key.valid = false := by simpa [AdmissionOp.touches, hcost] using htouch
          simp only [serviceIpcCharge, hcost, hkey, Bool.not_false, if_true, if_false]
          exact htracks.anonymous _
    | hold key untilMs nowMs =>
      refine ⟨rfl, fun now hall => ?_⟩
      refine Tracks.mono (hlast now hall) (fun _ _ h => h) ?_
      have huntil := hord.holds key untilMs nowMs (by simp)
      simp only [AdmissionOp.nowMs] at hnow
      simp only [admissionTable, admissionLedger]
      by_cases htouch : (AdmissionOp.hold key untilMs nowMs).touches = true
      · obtain ⟨hroom, hact⟩ := hroom htouch
        rw [if_pos htouch]
        simp only [AdmissionOp.touches, Bool.and_eq_true, Nat.blt_eq] at htouch
        exact hold_tracks htracks htouch.1 htouch.2 huntil hnow hact hroom
      · rw [if_neg htouch]
        have hnoop : (!key.valid || untilMs == nowMs || !serviceIpcTimeAtOrAfter untilMs nowMs) =
            true := by
          simp only [AdmissionOp.touches, Bool.and_eq_true, Nat.blt_eq, not_and, not_lt] at htouch
          simp only [Bool.or_eq_true, Bool.not_eq_true', beq_iff_eq]
          by_cases hkey : key.valid = true
          · rcases (htouch hkey).lt_or_eq with hlt | heq
            · right
              refine Bool.eq_false_iff.mpr fun hge => ?_
              rw [timeAtOrAfter_iff (by omega) (by omega)] at hge
              omega
            · exact .inl (.inr heq)
          · exact .inl (.inl (by simpa using hkey))
        simp only [serviceIpcHold, hnoop, if_true]
        exact htracks

/-- Every orderly history is answered like the ledger answers it. -/
theorem answers_eq (h : Orderly ops) :
    (admissionTable anonymous).answers (admissionTable anonymous).initial ops =
      admissionLedger.answers admissionLedger.initial ops :=
  (table_simulates_ledger anonymous).answers_eq Orderly.left h

/-- The table after a history. -/
def tableAfter (anonymous : ServiceIpcBucket) (ops : List AdmissionOp) : ServiceIpcAdmissionTable :=
  (admissionTable anonymous).run (admissionTable anonymous).initial ops

/-- The ledger after a history. -/
def ledgerAfter (ops : List AdmissionOp) : AdmissionLedger :=
  admissionLedger.run admissionLedger.initial ops

/-- The decision after an orderly history is the one the account gives. -/
theorem decide_after {cls : ServiceIpcRequestClass}
    (h : Orderly (ops ++ [.decide key cls now])) (hkey : key.valid = true) (hcls : cls ≠ .unknown) :
    (serviceIpcDecideAdmission (tableAfter anonymous ops) key cls now).2 =
      (ledgerAfter ops key).decide cls now := by
  have hbefore := h.left
  have htracks := (table_simulates_ledger anonymous).run Orderly.left hbefore now ?_
  · exact (decide_tracks htracks hkey hcls (h.bounded (.decide key cls now) (by simp))).1
  · intro op hop
    exact (List.pairwise_append.mp h.monotone).2.2 op hop _ (List.mem_singleton_self _)

/-- The ledger's account of an identity is moved by that identity's operations only. -/
theorem ledgerAfter_filter (ops : List AdmissionOp) (key : ServiceIpcThrottleKey) :
    ledgerAfter (ops.filter fun op => op.key = key) key = ledgerAfter ops key := by
  induction ops using List.reverseRecOn with
  | nil => rfl
  | append_singleton ops op ih =>
    rw [List.filter_append]
    unfold ledgerAfter at ih ⊢
    rw [EventMachine.run_append, EventMachine.run_append]
    by_cases hop : op.key = key
    · have hstep : ∀ ledger ledger' : AdmissionLedger, ledger key = ledger' key →
          admissionLedger.run ledger [op] key = admissionLedger.run ledger' [op] key := by
        intro ledger ledger' heq
        cases op with
        | decide k cls nowMs => exact heq
        | charge k cls costTokens nowMs =>
          obtain rfl : k = key := hop
          simp only [EventMachine.run, List.foldl_cons, List.foldl_nil, admissionLedger]
          split
          · rw [Function.update_self, Function.update_self, heq]
          · exact heq
        | hold k untilMs nowMs =>
          obtain rfl : k = key := hop
          simp only [EventMachine.run, List.foldl_cons, List.foldl_nil, admissionLedger]
          split
          · rw [Function.update_self, Function.update_self, heq]
          · exact heq
      rw [List.filter_cons_of_pos (by simpa using hop)]
      exact hstep _ _ ih
    · rw [List.filter_cons_of_neg (by simpa using hop)]
      refine Eq.trans ih ?_
      cases op with
      | decide k cls nowMs => rfl
      | charge k cls costTokens nowMs =>
        simp only [EventMachine.run, List.foldl_cons, List.foldl_nil, admissionLedger]
        split
        · exact (Function.update_of_ne (Ne.symm hop) _ _).symm
        · rfl
      | hold k untilMs nowMs =>
        simp only [EventMachine.run, List.foldl_cons, List.foldl_nil, admissionLedger]
        split
        · exact (Function.update_of_ne (Ne.symm hop) _ _).symm
        · rfl

/-- The end of an account's hold never moves back. -/
theorem holdEnd_mono (ops ops' : List AdmissionOp) (key : ServiceIpcThrottleKey) :
    (ledgerAfter ops key).holdEnd ≤ (ledgerAfter (ops ++ ops') key).holdEnd := by
  induction ops' using List.reverseRecOn with
  | nil => rw [List.append_nil]
  | append_singleton ops' op ih =>
    refine ih.trans ?_
    rw [← List.append_assoc]
    generalize ops ++ ops' = done
    unfold ledgerAfter
    rw [EventMachine.run_append]
    cases op with
    | decide k cls nowMs => exact Nat.le_refl _
    | charge k cls costTokens nowMs =>
      simp only [EventMachine.run, List.foldl_cons, List.foldl_nil, admissionLedger]
      split
      · by_cases hk : key = k
        · subst hk
          rw [Function.update_self, Account.charge, Account.setBucket_holdEnd]
        · rw [Function.update_of_ne hk]
      · exact Nat.le_refl _
    | hold k untilMs nowMs =>
      simp only [EventMachine.run, List.foldl_cons, List.foldl_nil, admissionLedger]
      split
      · by_cases hk : key = k
        · subst hk
          rw [Function.update_self]
          exact Nat.le_max_left _ _
        · rw [Function.update_of_ne hk]
      · exact Nat.le_refl _

theorem holdEnd_after_hold (ops : List AdmissionOp) {untilMs : Nat} (hkey : key.valid = true) (hlt : now < untilMs) :
    untilMs ≤ (ledgerAfter (ops ++ [.hold key untilMs now]) key).holdEnd := by
  unfold ledgerAfter
  rw [EventMachine.run_append]
  have htouch : (AdmissionOp.hold key untilMs now).touches = true := by
    simp [AdmissionOp.touches, hkey, hlt]
  simp only [EventMachine.run, List.foldl_cons, List.foldl_nil, admissionLedger, htouch, if_true,
    Function.update_self]
  exact Nat.le_max_right _ _

/-- What the refinement promises about one history: the same answers as the ledger,
an answer that other identities cannot change, and holds that are honoured. -/
structure RefinesLedger (anonymous : ServiceIpcBucket) (ops : List AdmissionOp) : Prop where
  /-- Every decision equals the ledger's. -/
  answers : (admissionTable anonymous).answers (admissionTable anonymous).initial ops =
    admissionLedger.answers admissionLedger.initial ops
  /-- A decision is the one the identity's own operations alone would lead to. -/
  isolated : ∀ done key cls now rest, ops = done ++ .decide key cls now :: rest →
    (serviceIpcDecideAdmission (tableAfter anonymous done) key cls now).2 =
      (serviceIpcDecideAdmission
        (tableAfter anonymous (done.filter fun op => op.key = key)) key cls now).2
  /-- Until a granted hold ends, every decision for its identity is a refusal. -/
  honoured : ∀ done key untilMs granted mid cls now rest,
    ops = done ++ .hold key untilMs granted :: mid ++ .decide key cls now :: rest →
    key.valid = true → cls ≠ .unknown → granted < untilMs → now < untilMs →
    (serviceIpcDecideAdmission
      (tableAfter anonymous (done ++ .hold key untilMs granted :: mid)) key cls now).2 = .rejectedRate

/-- **The bounded table refines the unbounded ledger** on every orderly history. -/
theorem table_refines_ledger (anonymous : ServiceIpcBucket) (ops : List AdmissionOp) (h : Orderly ops) :
    RefinesLedger anonymous ops where
  answers := answers_eq h
  isolated done key cls now rest hops := by
    have hsplit : ops = (done ++ [.decide key cls now]) ++ rest := by simp [hops]
    have hdone : Orderly (done ++ [.decide key cls now]) := (hsplit ▸ h).left
    by_cases hcls : cls = .unknown
    · simp [serviceIpcDecideAdmission, hcls]
    · by_cases hkey : key.valid = true
      · have hown : Orderly ((done.filter fun op => op.key = key) ++ [.decide key cls now]) :=
          hdone.sublist (List.filter_sublist.append (List.Sublist.refl _))
        rw [decide_after hdone hkey hcls, decide_after hown hkey hcls, ledgerAfter_filter]
      · simp [serviceIpcDecideAdmission, hcls, hkey]
  honoured done key untilMs granted mid cls now rest hops hkey hcls hgranted hnow := by
    have hsplit : ops = (done ++ .hold key untilMs granted :: mid ++ [.decide key cls now]) ++ rest :=
      by simp [hops]
    rw [decide_after (hsplit ▸ h).left hkey hcls, Account.decide, if_pos]
    have hheld := holdEnd_after_hold done hkey hgranted
    have hmono := holdEnd_mono (done ++ [.hold key untilMs granted]) mid key
    rw [List.append_assoc] at hmono
    exact hnow.trans_le (hheld.trans hmono)

theorem activeIdentities_card_le (ops : List AdmissionOp) (t : Nat) :
    (activeIdentities ops t).card ≤ ops.length :=
  (List.toFinset_card_le _).trans (by
    rw [List.length_map]
    exact List.length_filter_le _ _)

/-- The account of a user id, as the Linux daemon forms it. -/
def uidKey (digit : UInt8) : ServiceIpcThrottleKey := .fill 0 0 [117, 105, 100, 58, 48 + digit]

/-- One account stalls and is held; another asks in the meantime. -/
def heldHistory : List AdmissionOp :=
  [.charge (uidKey 0) .normal 10 1000, .hold (uidKey 0) 5000 1000,
    .decide (uidKey 1) .normal 2000, .decide (uidKey 0) .normal 3000,
    .decide (uidKey 0) .normal 5000]

theorem heldHistory_refines : RefinesLedger (ServiceIpcAdmissionTable.reset 0).anonymousBucket heldHistory := by
  refine table_refines_ledger _ heldHistory ⟨?_, by decide, ?_, ?_⟩
  · unfold heldHistory
    decide
  · intro key untilMs nowMs hmem
    simp only [heldHistory, List.mem_cons, List.not_mem_nil, reduceCtorEq, or_false, false_or,
      AdmissionOp.hold.injEq] at hmem
    obtain ⟨_, rfl, rfl⟩ := hmem
    decide
  · intro t
    exact (activeIdentities_card_le _ _).trans (by decide)

end Histories

end GreenCurve
