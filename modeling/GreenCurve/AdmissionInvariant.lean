import GreenCurve.AdmissionLedger

/-! # The table tracks the ledger

The table forgets an identity that was idle for the expiry window, and by then the
account is full and its hold has lapsed, so nothing is lost; and it finds every
identity it still knows, because its probe paths stay intact.  The invariant
`Tracks` says both, and asking, charging and holding keep it. -/

namespace GreenCurve

/-! ## The invariant -/

/-- The probe path of an identity. -/
def probePath (key : ServiceIpcThrottleKey) : List SlotIndex :=
  probeSequence (serviceIpcKeyHash key)

theorem probing_probePath : ProbeTable.Probing probePath where
  nodup key := (List.nodup_finRange _).map (add_right_injective _)
  complete key i := by
    rw [probePath, probeSequence, List.mem_map]
    exact ⟨i - _, List.mem_finRange _, add_sub_cancel _ _⟩

/-- The identity a slot is in use for. -/
def ServiceIpcAdmissionTable.view (table : ServiceIpcAdmissionTable) (i : SlotIndex) :
    Option ServiceIpcThrottleKey :=
  if (table.slots i).used then some (table.slots i).key else none

/-- Every slot in use is found by its own hash, on an intact path, and no identity
has two. -/
structure Keyed (table : ServiceIpcAdmissionTable) : Prop where
  intact : ProbeTable.Intact probePath table.view
  unique : ProbeTable.Unique table.view
  valid : ∀ i, (table.slots i).used = true → (table.slots i).key.valid = true
  hash : ∀ i, (table.slots i).used = true →
    (table.slots i).hash = serviceIpcKeyHash (table.slots i).key

/-- What a slot in use guarantees at time `now`: its identity is well formed, its
clock values lie in the past, and an idle window after it was last seen its
buckets are full and its hold has lapsed. -/
structure SlotSound (now : Nat) (slot : ServiceIpcIdentitySlot) : Prop where
  valid : slot.key.valid = true
  hash : slot.hash = serviceIpcKeyHash slot.key
  seen : slot.lastSeenMs ≤ now
  anchor : ∀ cls, (slot.bucket cls).lastRefillMs ≤ now
  refills : ∀ cls t, slot.lastSeenMs + SERVICE_IPC_IDLE_EXPIRY_MS ≤ t →
    levelOf cls (slot.bucket cls).toToken t = burstMilli cls
  hold : slot.holdEnd ≤ slot.lastSeenMs + SERVICE_IPC_IDLE_EXPIRY_MS

/-- From `now` on the slot and the account have the same levels and refuse at the
same times. -/
def Agrees (now : Nat) (slot : ServiceIpcIdentitySlot) (a : Account) : Prop :=
  (∀ cls t, now ≤ t → levelOf cls (slot.bucket cls).toToken t = levelOf cls (a.bucket cls) t) ∧
    max now slot.holdEnd = max now a.holdEnd

/-- From `now` on the account is indistinguishable from a fresh one. -/
def Lapsed (now : Nat) (a : Account) : Prop :=
  (∀ cls t, now ≤ t → levelOf cls (a.bucket cls) t = burstMilli cls) ∧ a.holdEnd ≤ now

/-- The table tracks the ledger: the identities it knows agree with their accounts,
and the accounts it has forgotten have lapsed. -/
structure Tracks (touched : ServiceIpcThrottleKey → Nat → Prop) (now : Nat)
    (table : ServiceIpcAdmissionTable) (ledger : AdmissionLedger) : Prop where
  intact : ProbeTable.Intact probePath table.view
  unique : ProbeTable.Unique table.view
  sound : ∀ i, (table.slots i).used = true → SlotSound now (table.slots i)
  active : ∀ i, (table.slots i).used = true →
    touched (table.slots i).key (table.slots i).lastSeenMs
  resident : ∀ i, (table.slots i).used = true →
    Agrees now (table.slots i) (ledger (table.slots i).key)
  absent : ∀ key, (∀ i, table.view i ≠ some key) → Lapsed now (ledger key)

section Invariant
variable {touched touched' : ServiceIpcThrottleKey → Nat → Prop} {now now' : Nat}
  {table : ServiceIpcAdmissionTable} {ledger : AdmissionLedger} {slot : ServiceIpcIdentitySlot}
  {a : Account} {key : ServiceIpcThrottleKey} {i : SlotIndex}

theorem view_eq_some_iff :
    table.view i = some key ↔ (table.slots i).used = true ∧ (table.slots i).key = key := by
  unfold ServiceIpcAdmissionTable.view
  split <;> simp_all

theorem view_eq_none_iff : table.view i = none ↔ (table.slots i).used = false := by
  unfold ServiceIpcAdmissionTable.view
  split <;> simp_all

theorem Tracks.keyed (h : Tracks touched now table ledger) : Keyed table :=
  ⟨h.intact, h.unique, fun i hi => (h.sound i hi).valid, fun i hi => (h.sound i hi).hash⟩

theorem lapsed_fresh : Lapsed now Account.fresh := by
  refine ⟨?_, Nat.zero_le _⟩
  intro cls t _
  unfold levelOf TokenBucket.level Account.bucket Account.fresh burstMilli
  split <;> simp

theorem SlotSound.mono (hle : now ≤ now') (h : SlotSound now slot) : SlotSound now' slot :=
  { h with
    seen := h.seen.trans hle
    anchor := fun cls => (h.anchor cls).trans hle }

theorem Agrees.mono (hle : now ≤ now') (h : Agrees now slot a) : Agrees now' slot a := by
  refine ⟨fun cls t ht => h.1 cls t (hle.trans ht), ?_⟩
  have := h.2
  omega

theorem Lapsed.mono (hle : now ≤ now') (h : Lapsed now a) : Lapsed now' a :=
  ⟨fun cls t ht => h.1 cls t (hle.trans ht), h.2.trans hle⟩

theorem Tracks.mono (hle : now ≤ now') (hsub : ∀ k t, touched k t → touched' k t)
    (h : Tracks touched now table ledger) : Tracks touched' now' table ledger :=
  { h with
    sound := fun i hi => (h.sound i hi).mono hle
    active := fun i hi => hsub _ _ (h.active i hi)
    resident := fun i hi => (h.resident i hi).mono hle
    absent := fun key hkey => (h.absent key hkey).mono hle }

theorem tracks_zeroed (anonymous : ServiceIpcBucket) :
    Tracks touched now (ServiceIpcAdmissionTable.zeroed anonymous) (fun _ => Account.fresh) where
  intact := by
    intro key pre i post _ hi
    simp [ServiceIpcAdmissionTable.view, ServiceIpcAdmissionTable.zeroed] at hi
  unique := by
    intro i j key hi
    simp [ServiceIpcAdmissionTable.view, ServiceIpcAdmissionTable.zeroed] at hi
  sound i hi := by simp [ServiceIpcAdmissionTable.zeroed] at hi
  active i hi := by simp [ServiceIpcAdmissionTable.zeroed] at hi
  resident i hi := by simp [ServiceIpcAdmissionTable.zeroed] at hi
  absent _ _ := lapsed_fresh

/-- The anonymous budget is no identity's. -/
theorem Tracks.anonymous (h : Tracks touched now table ledger) (b : ServiceIpcBucket) :
    Tracks touched now { table with anonymousBucket := b } ledger :=
  ⟨h.intact, h.unique, h.sound, h.active, h.resident, h.absent⟩

/-- Before the wrap, a slot is expired once the idle window has passed. -/
theorem SlotSound.expired_iff (h : SlotSound now slot)
    (hnow : now + SERVICE_IPC_IDLE_EXPIRY_MS < 2 ^ 63) :
    slot.expired now = true ↔ slot.lastSeenMs + SERVICE_IPC_IDLE_EXPIRY_MS ≤ now := by
  have := h.seen
  rw [ServiceIpcIdentitySlot.expired, addTicks_eq (by omega),
    timeAtOrAfter_iff (by omega) (by omega)]

/-- **Forgetting is safe**: the account of an expired slot has lapsed. -/
theorem Agrees.lapsed (h : Agrees now slot a) (hs : SlotSound now slot)
    (hexp : slot.lastSeenMs + SERVICE_IPC_IDLE_EXPIRY_MS ≤ now) : Lapsed now a := by
  constructor
  · intro cls t ht
    rw [← h.1 cls t ht]
    exact hs.refills cls t (hexp.trans ht)
  · have := h.2
    have := hs.hold
    omega

theorem Keyed.isFor_iff (h : Keyed table) (hi : (table.slots i).used = true) :
    (table.slots i).isFor key (serviceIpcKeyHash key) = true ↔ (table.slots i).key = key := by
  rw [ServiceIpcIdentitySlot.isFor, Bool.and_eq_true, beq_iff_eq,
    ServiceIpcThrottleKey.equals_iff, h.hash i hi]
  constructor
  · rintro ⟨_, rfl, _⟩
    rfl
  · rintro rfl
    exact ⟨rfl, rfl, h.valid i hi⟩

/-! ## Finding and placing an identity -/

theorem Keyed.findFrom_eq (h : Keyed table) (l : List SlotIndex) :
    table.findFrom key (serviceIpcKeyHash key) l = ProbeTable.lookup table.view key l := by
  induction l with
  | nil => rfl
  | cons i rest ih =>
    rw [ServiceIpcAdmissionTable.findFrom, ProbeTable.lookup, ServiceIpcAdmissionTable.view]
    by_cases hused : (table.slots i).used = true
    · have hiff : (table.slots i).isFor key (serviceIpcKeyHash key) = true ↔
          (table.slots i).key = key := h.isFor_iff hused
      by_cases hkey : (table.slots i).key = key
      · simp [hused, hiff.mpr hkey, hkey]
      · simp [hused, hkey, Bool.eq_false_iff.mpr (fun hf => hkey (hiff.mp hf)), ih]
    · simp [hused]

/-- The table finds exactly the slot in use for the identity. -/
theorem Keyed.find_eq_some_iff (h : Keyed table) (hkey : key.valid = true) :
    table.find key (serviceIpcKeyHash key) = some i ↔ table.view i = some key := by
  simp only [ServiceIpcAdmissionTable.find, hkey, Bool.not_true, Bool.false_eq_true, if_false]
  rw [h.findFrom_eq]
  exact ProbeTable.lookup_eq_some_iff probing_probePath h.intact h.unique

theorem Keyed.find_eq_none_iff (h : Keyed table) (hkey : key.valid = true) :
    table.find key (serviceIpcKeyHash key) = none ↔ ∀ i, table.view i ≠ some key := by
  simp only [ServiceIpcAdmissionTable.find, hkey, Bool.not_true, Bool.false_eq_true, if_false]
  rw [h.findFrom_eq]
  exact ProbeTable.lookup_eq_none_iff probing_probePath h.intact h.unique

theorem setSlot_self : (table.setSlot i slot).slots i = slot := Function.update_self _ _ _

theorem setSlot_of_ne {j : SlotIndex} (h : j ≠ i) :
    (table.setSlot i slot).slots j = table.slots j := Function.update_of_ne h _ _

theorem view_setSlot (table : ServiceIpcAdmissionTable) (i : SlotIndex) (hused : slot.used = true) (hkey : slot.key = key) :
    (table.setSlot i slot).view = Function.update table.view i (some key) := by
  funext j
  by_cases hj : j = i
  · subst hj
    rw [Function.update_self, view_eq_some_iff, setSlot_self]
    exact ⟨hused, hkey⟩
  · rw [Function.update_of_ne hj, ServiceIpcAdmissionTable.view, setSlot_of_ne hj]
    rfl

/-- **One write to the table**: a slot of the identity's own path takes a sound slot
that agrees with the identity's new account.  Whoever else had the slot has
lapsed. -/
theorem Tracks.put (h : Tracks touched now table ledger)
    (hplace : table.view i = some key ∨ ((∀ j, table.view j ≠ some key) ∧
      ProbeTable.Placeable probePath table.view key i))
    (hother : ∀ key', table.view i = some key' → key' ≠ key → Lapsed now (ledger key'))
    (hused : slot.used = true) (hkey : slot.key = key) (hsound : SlotSound now slot)
    (hact : touched key slot.lastSeenMs) (hagree : Agrees now slot a) :
    Tracks touched now (table.setSlot i slot) (Function.update ledger key a) := by
  have hview := view_setSlot table i hused hkey
  have hkept : ∀ j, j ≠ i → (table.slots j).used = true → (table.slots j).key ≠ key := by
    intro j hji hj hjk
    rcases hplace with hi | ⟨habs, _⟩
    · exact hji (h.unique j i key (view_eq_some_iff.mpr ⟨hj, hjk⟩) hi)
    · exact habs j (view_eq_some_iff.mpr ⟨hj, hjk⟩)
  constructor
  · rw [hview]
    rcases hplace with hi | ⟨_, hpl⟩
    · rw [← hi, Function.update_eq_self]
      exact h.intact
    · exact h.intact.place probing_probePath hpl
  · rw [hview]
    rcases hplace with hi | ⟨habs, _⟩
    · rw [← hi, Function.update_eq_self]
      exact h.unique
    · exact h.unique.place habs
  · intro j hj
    by_cases hji : j = i
    · rwa [hji, setSlot_self]
    · rw [setSlot_of_ne hji] at hj ⊢
      exact h.sound j hj
  · intro j hj
    by_cases hji : j = i
    · rwa [hji, setSlot_self, hkey]
    · rw [setSlot_of_ne hji] at hj ⊢
      exact h.active j hj
  · intro j hj
    by_cases hji : j = i
    · rw [hji, setSlot_self, hkey, Function.update_self]
      exact hagree
    · rw [setSlot_of_ne hji] at hj ⊢
      rw [Function.update_of_ne (hkept j hji hj)]
      exact h.resident j hj
  · intro key' habs'
    rw [hview] at habs'
    have hne : key' ≠ key := by
      rintro rfl
      exact habs' i (Function.update_self _ _ _)
    rw [Function.update_of_ne hne]
    by_cases hi : table.view i = some key'
    · exact hother key' hi hne
    · refine h.absent key' ?_
      intro j hj
      by_cases hji : j = i
      · exact hi (hji ▸ hj)
      · exact habs' j (by rwa [Function.update_of_ne hji])

/-- Rewriting the slot of a resident identity. -/
theorem Tracks.putResident (h : Tracks touched now table ledger) (hi : table.view i = some key)
    (hused : slot.used = true) (hkey : slot.key = key) (hsound : SlotSound now slot)
    (hact : touched key slot.lastSeenMs) (hagree : Agrees now slot a) :
    Tracks touched now (table.setSlot i slot) (Function.update ledger key a) := by
  refine h.put (.inl hi) ?_ hused hkey hsound hact hagree
  intro key' hi' hne
  rw [hi] at hi'
  exact absurd (Option.some.inj hi').symm hne

/-! ## Acquiring a slot -/

/-- The slot a charge or hold may take for an identity that is not resident. -/
def FreeFor (table : ServiceIpcAdmissionTable) (key : ServiceIpcThrottleKey) (now : Nat)
    (i : SlotIndex) : Prop :=
  (∀ j, table.view j ≠ some key) ∧ ProbeTable.Placeable probePath table.view key i ∧
    ((table.slots i).used = true → (table.slots i).expired now = true)

/-- Every slot is in use for another identity, and none has expired. -/
def FullOfOthers (table : ServiceIpcAdmissionTable) (key : ServiceIpcThrottleKey)
    (now : Nat) : Prop :=
  ∀ i, (table.slots i).used = true ∧ (table.slots i).expired now = false ∧
    table.view i ≠ some key

/-- What `acquire` returns: the resident slot, touched; a fresh one on a free slot of
the path; or, in a full table, a fresh one on the least recently seen slot. -/
inductive Acquired (table : ServiceIpcAdmissionTable) (key : ServiceIpcThrottleKey) (now : Nat) :
    Option (ServiceIpcAdmissionTable × SlotIndex) → Prop where
  | resident (i : SlotIndex) (hi : table.view i = some key) :
    Acquired table key now
      (some (table.setSlot i { table.slots i with lastSeenMs := now }, i))
  | free (i : SlotIndex) (hi : FreeFor table key now i) :
    Acquired table key now (some (table.install i key (serviceIpcKeyHash key) now, i))
  | evict (i : SlotIndex) (hfull : FullOfOthers table key now)
    (hi : ∀ j, (table.slots i).lastSeenMs ≤ (table.slots j).lastSeenMs) :
    Acquired table key now (some (table.install i key (serviceIpcKeyHash key) now, i))

/-- Some slot is unused, expired or already the identity's own. -/
def HasRoom (table : ServiceIpcAdmissionTable) (key : ServiceIpcThrottleKey) (now : Nat) : Prop :=
  ∃ i, (table.slots i).used = false ∨ (table.slots i).expired now = true ∨
    table.view i = some key

theorem HasRoom.not_full (h : HasRoom table key now) : ¬ FullOfOthers table key now := by
  intro hfull
  obtain ⟨i, hi | hi | hi⟩ := h
  · exact absurd hi (by simp [(hfull i).1])
  · exact absurd hi (by simp [(hfull i).2.1])
  · exact (hfull i).2.2 hi

/-- What the loop of `acquire` knows after the prefix `pre` of the path: it holds only
other identities, its first expired slot is remembered, and so is its least
recently seen one. -/
structure Probed (table : ServiceIpcAdmissionTable) (key : ServiceIpcThrottleKey) (now : Nat)
    (pre : List SlotIndex) (evict expired : Option SlotIndex) : Prop where
  others : ∀ x ∈ pre, table.view x ≠ none ∧ table.view x ≠ some key
  reusable : ∀ e, expired = some e → e ∈ pre ∧ (table.slots e).expired now = true
  live : expired = none → ∀ x ∈ pre, (table.slots x).expired now = false
  oldest : ∀ e, evict = some e →
    e ∈ pre ∧ ∀ x ∈ pre, (table.slots e).lastSeenMs ≤ (table.slots x).lastSeenMs
  nothing : evict = none → pre = []

/-- One more slot of another identity. -/
theorem Probed.step {pre : List SlotIndex} {evict expired : Option SlotIndex}
    (h : Probed table key now pre evict expired) (hused : (table.slots i).used = true)
    (hother : (table.slots i).key ≠ key)
    (hticks : ∀ j, (table.slots j).used = true → (table.slots j).lastSeenMs < 2 ^ 63) :
    Probed table key now (pre ++ [i])
      (match evict with
        | none => some i
        | some j =>
          if serviceIpcTimeAtOrAfter (table.slots j).lastSeenMs (table.slots i).lastSeenMs then
            some i
          else some j)
      (if (table.slots i).expired now && expired.isNone then some i else expired) := by
  have hlast : ∀ {x}, x ∈ pre ++ [i] → x ∈ pre ∨ x = i := by
    intro x hx
    rcases List.mem_append.mp hx with hx | hx
    · exact .inl hx
    · exact .inr (List.mem_singleton.mp hx)
  have hprev : ∀ {x}, x ∈ pre → (table.slots x).used = true := by
    intro x hx
    by_contra hx'
    exact (h.others x hx).1 (view_eq_none_iff.mpr (by simpa using hx'))
  constructor
  · intro x hx
    rcases hlast hx with hx | rfl
    · exact h.others x hx
    · exact ⟨fun hn => by simp [view_eq_none_iff.mp hn] at hused,
        fun hs => hother (view_eq_some_iff.mp hs).2⟩
  · intro e he
    split at he
    · rename_i hexp
      obtain rfl := Option.some.inj he
      simp only [Bool.and_eq_true] at hexp
      exact ⟨by simp, hexp.1⟩
    · obtain ⟨hmem, hexp⟩ := h.reusable e he
      exact ⟨List.mem_append_left _ hmem, hexp⟩
  · intro he x hx
    split at he
    · exact absurd he (by simp)
    · rename_i hexp
      subst he
      rcases hlast hx with hx | rfl
      · exact h.live rfl x hx
      · simpa using hexp
  · intro e he
    cases evict with
    | none =>
      obtain rfl := Option.some.inj he
      refine ⟨by simp, fun x hx => ?_⟩
      rw [h.nothing rfl, List.nil_append, List.mem_singleton] at hx
      rw [hx]
    | some j =>
      obtain ⟨hmem, hmin⟩ := h.oldest j rfl
      have hiff := timeAtOrAfter_iff (hticks j (hprev hmem)) (hticks i hused)
      simp only at he
      split at he
      · rename_i hge
        have hle := hiff.mp hge
        obtain rfl := Option.some.inj he
        refine ⟨by simp, fun x hx => ?_⟩
        rcases hlast hx with hx | rfl
        · exact hle.trans (hmin x hx)
        · exact Nat.le_refl _
      · rename_i hge
        have hlt := mt hiff.mpr hge
        obtain rfl := Option.some.inj he
        refine ⟨List.mem_append_left _ hmem, fun x hx => ?_⟩
        rcases hlast hx with hx | rfl
        · exact hmin x hx
        · omega
  · intro he
    cases evict with
    | none => exact absurd he (by simp)
    | some j =>
      simp only at he
      split at he <;> exact absurd he (by simp)

/-- A remembered expired slot is free for an identity that is nowhere in the table. -/
theorem Probed.reuse {pre rest : List SlotIndex} {evict expired : Option SlotIndex}
    {e : SlotIndex} (h : Probed table key now pre evict expired)
    (hsplit : probePath key = pre ++ rest) (he : expired = some e)
    (habs : ∀ j, table.view j ≠ some key) : FreeFor table key now e := by
  obtain ⟨hmem, hexp⟩ := h.reusable e he
  obtain ⟨p, q, rfl⟩ := List.append_of_mem hmem
  refine ⟨habs, ⟨p, q ++ rest, by simp [hsplit], ?_⟩, fun _ => hexp⟩
  exact fun x hx => (h.others x (List.mem_append_left _ hx)).1

theorem acquireFrom_acquired (h : Keyed table)
    (hticks : ∀ j, (table.slots j).used = true → (table.slots j).lastSeenMs < 2 ^ 63)
    {rest pre : List SlotIndex} {evict expired : Option SlotIndex}
    (hsplit : probePath key = pre ++ rest) (hpre : Probed table key now pre evict expired) :
    Acquired table key now
      (table.acquireFrom key (serviceIpcKeyHash key) now rest evict expired) := by
  induction rest generalizing pre evict expired with
  | nil =>
    rw [List.append_nil] at hsplit
    have hall : ∀ i, i ∈ pre := fun i => hsplit ▸ probing_probePath.complete key i
    cases hexp : expired with
    | some e => exact .free e (hpre.reuse (hsplit.trans (List.append_nil pre).symm) hexp
        fun j => (hpre.others j (hall j)).2)
    | none =>
      cases hevict : evict with
      | none =>
        have hmem := hall (Fin.ofNat _ 0)
        rw [hpre.nothing hevict] at hmem
        exact absurd hmem (List.not_mem_nil)
      | some e =>
        refine .evict e (fun j => ⟨?_, hpre.live hexp j (hall j), (hpre.others j (hall j)).2⟩)
          fun j => (hpre.oldest e hevict).2 j (hall j)
        by_contra hj
        exact (hpre.others j (hall j)).1 (view_eq_none_iff.mpr (by simpa using hj))
  | cons i rest ih =>
    rw [ServiceIpcAdmissionTable.acquireFrom.eq_def]
    by_cases hused : (table.slots i).used = true
    · by_cases hfor : (table.slots i).isFor key (serviceIpcKeyHash key) = true
      · have hkey := (h.isFor_iff hused).mp hfor
        have hresident : Acquired table key now _ :=
          .resident i (view_eq_some_iff.mpr ⟨hused, hkey⟩)
        simpa [hused, hfor] using hresident
      · have hkey : (table.slots i).key ≠ key := fun hk => hfor ((h.isFor_iff hused).mpr hk)
        simp only [hused, hfor, Bool.not_true, Bool.false_eq_true, if_false]
        exact ih (hsplit.trans (List.append_cons pre i rest)) (hpre.step hused hkey hticks)
    · have hempty : table.view i = none := view_eq_none_iff.mpr (by simpa using hused)
      have habs := ProbeTable.absent_of_gap probing_probePath h.intact hsplit hempty
        (fun j hj => (hpre.others j hj).2)
      simp only [hused, Bool.not_false, if_true]
      cases hexp : expired with
      | none =>
        refine .free i ⟨habs, ⟨pre, rest, hsplit, fun x hx => (hpre.others x hx).1⟩, ?_⟩
        exact fun hu => absurd hu hused
      | some e => exact .free e (hpre.reuse hsplit hexp habs)

theorem acquire_acquired (h : Keyed table)
    (hticks : ∀ j, (table.slots j).used = true → (table.slots j).lastSeenMs < 2 ^ 63)
    (hkey : key.valid = true) :
    Acquired table key now (table.acquire key (serviceIpcKeyHash key) now) := by
  simp only [ServiceIpcAdmissionTable.acquire, hkey, Bool.not_true, Bool.false_eq_true, if_false]
  refine acquireFrom_acquired h hticks (List.nil_append _).symm ⟨?_, ?_, ?_, ?_, fun _ => rfl⟩
  · simp
  · simp
  · simp
  · simp

/-- Installing an identity that is not resident writes a fresh slot. -/
theorem install_of_absent (i : SlotIndex) (now : Nat) (h : Keyed table) (habs : ∀ j, table.view j ≠ some key) :
    table.install i key (serviceIpcKeyHash key) now = table.setSlot i
      { used := true
        hash := serviceIpcKeyHash key
        lastSeenMs := now
        key := key
        normalBucket := ⟨SERVICE_IPC_BUCKET_BURST_MILLI, now⟩
        handoffBucket := ⟨SERVICE_IPC_HANDOFF_RESERVE_MILLI, now⟩ } := by
  have hnot : ((table.slots i).used && (table.slots i).isFor key (serviceIpcKeyHash key)) =
      false := by
    rw [Bool.and_eq_false_imp]
    intro hused
    refine Bool.eq_false_iff.mpr fun hfor => ?_
    exact habs i (view_eq_some_iff.mpr ⟨hused, (h.isFor_iff hused).mp hfor⟩)
  simp only [ServiceIpcAdmissionTable.install, hnot, Bool.false_eq_true, if_false]

/-- The slot `install` writes for an identity that is not resident. -/
theorem freshSlot_sound (now : Nat) (a : Account) (hkey : key.valid = true) :
    let slot : ServiceIpcIdentitySlot :=
      { used := true
        hash := serviceIpcKeyHash key
        lastSeenMs := now
        key := key
        normalBucket := ⟨SERVICE_IPC_BUCKET_BURST_MILLI, now⟩
        handoffBucket := ⟨SERVICE_IPC_HANDOFF_RESERVE_MILLI, now⟩ }
    SlotSound now slot ∧ (Lapsed now a → Agrees now slot a) := by
  intro slot
  have hlevel : ∀ cls t, levelOf cls (slot.bucket cls).toToken t = burstMilli cls := by
    intro cls t
    simp only [slot, levelOf, TokenBucket.level, ServiceIpcBucket.toToken,
      ServiceIpcIdentitySlot.bucket, burstMilli]
    split <;> simp
  refine ⟨⟨hkey, rfl, Nat.le_refl _, ?_, fun cls t _ => hlevel cls t, ?_⟩, ?_⟩
  · intro cls
    simp only [slot, ServiceIpcIdentitySlot.bucket]
    split <;> exact Nat.le_refl _
  · exact Nat.zero_le _
  · intro ha
    refine ⟨fun cls t ht => (hlevel cls t).trans (ha.1 cls t ht).symm, ?_⟩
    have := ha.2
    simp only [slot, ServiceIpcIdentitySlot.holdEnd, Bool.false_eq_true, if_false]
    omega

/-- **Acquiring is invisible to the ledger**: the table still tracks it, and now
knows the identity. -/
theorem acquire_tracks (h : Tracks touched now table ledger) (hkey : key.valid = true)
    (hnow : now + SERVICE_IPC_IDLE_EXPIRY_MS < 2 ^ 63) (hact : touched key now)
    (hroom : HasRoom table key now) :
    ∃ table' i, table.acquire key (serviceIpcKeyHash key) now = some (table', i) ∧
      Tracks touched now table' ledger ∧ table'.view i = some key ∧
      (table'.slots i).lastSeenMs = now := by
  have hticks : ∀ j, (table.slots j).used = true → (table.slots j).lastSeenMs < 2 ^ 63 := by
    intro j hj
    have := (h.sound j hj).seen
    omega
  generalize hr : table.acquire key (serviceIpcKeyHash key) now = r
  have hacq : Acquired table key now r := hr ▸ acquire_acquired h.keyed hticks hkey
  cases hacq with
  | resident i hi =>
    obtain ⟨hused, hik⟩ := view_eq_some_iff.mp hi
    refine ⟨_, i, rfl, ?_, ?_, by rw [setSlot_self]⟩
    · have hs := h.sound i hused
      have hseen := hs.seen
      rw [← Function.update_eq_self key ledger]
      refine h.putResident hi hused hik ?_ hact (hik ▸ h.resident i hused)
      exact ⟨hs.valid, hs.hash, Nat.le_refl _, hs.anchor,
        fun cls t ht => hs.refills cls t (by simp only at ht; omega),
        hs.hold.trans (by simp only; omega)⟩
    · rw [view_eq_some_iff, setSlot_self]
      exact ⟨hused, hik⟩
  | free i hi =>
    obtain ⟨habs, hpl, hexp⟩ := hi
    have hinstall := install_of_absent i now h.keyed habs
    refine ⟨_, i, rfl, ?_, ?_, by rw [hinstall, setSlot_self]⟩
    · obtain ⟨hsound, hagree⟩ := freshSlot_sound now (ledger key) hkey
      rw [hinstall, ← Function.update_eq_self key ledger]
      refine h.put (.inr ⟨habs, hpl⟩) ?_ rfl rfl hsound hact (hagree (h.absent key habs))
      intro key' hi' _
      obtain ⟨hused, rfl⟩ := view_eq_some_iff.mp hi'
      have hs := h.sound i hused
      exact (h.resident i hused).lapsed hs ((hs.expired_iff hnow).mp (hexp hused))
    · rw [hinstall, view_setSlot _ _ rfl rfl, Function.update_self]
  | evict i hfull _ => exact absurd hfull hroom.not_full

/-! ## The three operations -/

variable {cls : ServiceIpcRequestClass}

theorem Lapsed.decide_eq (h : Lapsed now a) : a.decide cls now = .admitted := by
  have hlevel := h.1 cls now (Nat.le_refl _)
  have hcost := cost_le_burst cls
  rw [Account.decide, if_neg (by have := h.2; omega), hlevel, if_pos hcost]

theorem SlotSound.tokens_refill (hs : SlotSound now slot) (cls : ServiceIpcRequestClass) (hnow : now < 2 ^ 63) :
    ((slot.bucket cls).refill now (burstMilli cls) (perSecondMilli cls)).tokensMilli =
      levelOf cls (slot.bucket cls).toToken now := by
  have h := ServiceIpcBucket.toToken_refill cls hnow (hs.anchor cls)
  rw [ServiceIpcBucket.toToken, TokenBucket.refillTo, TokenBucket.mk.injEq] at h
  exact h.1

/-- Replacing a bucket keeps a slot sound if the new one is full an idle window
after the slot was last seen. -/
theorem SlotSound.setBucket (hs : SlotSound now slot) {b : ServiceIpcBucket}
    (hanchor : b.lastRefillMs ≤ now)
    (hfull : ∀ t, slot.lastSeenMs + SERVICE_IPC_IDLE_EXPIRY_MS ≤ t →
      levelOf cls b.toToken t = burstMilli cls) : SlotSound now (slot.setBucket cls b) := by
  constructor
  · simpa using hs.valid
  · simpa using hs.hash
  · simpa using hs.seen
  · intro cls'
    rw [ServiceIpcIdentitySlot.setBucket_bucket]
    split
    · exact hanchor
    · exact hs.anchor cls'
  · intro cls' t ht
    rw [ServiceIpcIdentitySlot.setBucket_lastSeenMs] at ht
    rw [ServiceIpcIdentitySlot.setBucket_bucket]
    split
    · rename_i hc
      rw [levelOf_congr hc, hfull t ht]
      simp only [burstMilli, hc]
    · exact hs.refills cls' t ht
  · simpa using hs.hold

/-- Replacing a bucket on both sides keeps them in agreement. -/
theorem Agrees.setBucket (ha : Agrees now slot a) {b : ServiceIpcBucket} {b' : TokenBucket}
    (hb : ∀ t, now ≤ t → levelOf cls b.toToken t = levelOf cls b' t) :
    Agrees now (slot.setBucket cls b) (a.setBucket cls b') := by
  constructor
  · intro cls' t ht
    rw [ServiceIpcIdentitySlot.setBucket_bucket, Account.setBucket_bucket]
    split
    · rename_i hc
      rw [levelOf_congr hc, levelOf_congr hc, hb t ht]
    · exact ha.1 cls' t ht
  · rw [ServiceIpcIdentitySlot.setBucket_holdEnd, Account.setBucket_holdEnd]
    exact ha.2

theorem Account.setBucket_self (a : Account) (cls : ServiceIpcRequestClass) :
    a.setBucket cls (a.bucket cls) = a := by
  unfold Account.setBucket Account.bucket
  split <;> rfl

theorem refill_lastRefillMs (b : ServiceIpcBucket) (burst perSecond : Nat) :
    (b.refill now burst perSecond).lastRefillMs = now := by
  unfold ServiceIpcBucket.refill
  split <;> rfl

theorem spend_lastRefillMs (b : ServiceIpcBucket) (cost : Nat) :
    (b.spend cost).lastRefillMs = b.lastRefillMs := by
  unfold ServiceIpcBucket.spend
  split <;> rfl

/-- Dropping a lapsed hold and refilling a bucket, as `decide` does, keeps a slot
sound and in agreement with its account. -/
theorem refilled_slot (cls : ServiceIpcRequestClass) (hs : SlotSound now slot) (hnow : now < 2 ^ 63) (ha : Agrees now slot a)
    (hlive : now ≤ slot.lastSeenMs + SERVICE_IPC_IDLE_EXPIRY_MS) (hhold : slot.holdEnd ≤ now) :
    let slot' := { slot with holdActive := false }
    let slot'' := slot'.setBucket cls
      ((slot'.bucket cls).refill now (burstMilli cls) (perSecondMilli cls))
    SlotSound now slot'' ∧ Agrees now slot'' a := by
  intro slot' slot''
  have hs' : SlotSound now slot' :=
    ⟨hs.valid, hs.hash, hs.seen, hs.anchor, hs.refills, Nat.zero_le _⟩
  have ha' : Agrees now slot' a := by
    refine ⟨ha.1, ?_⟩
    have hend := ha.2
    simp only [slot', ServiceIpcIdentitySlot.holdEnd, Bool.false_eq_true, if_false]
    omega
  have hlevel : ∀ t, now ≤ t →
      levelOf cls ((slot'.bucket cls).refill now (burstMilli cls) (perSecondMilli cls)).toToken t =
        levelOf cls (slot'.bucket cls).toToken t := by
    intro t ht
    rw [ServiceIpcBucket.toToken_refill cls hnow (hs'.anchor cls)]
    exact TokenBucket.level_refillTo (hs'.anchor cls) ht
  constructor
  · refine hs'.setBucket (refill_lastRefillMs _ _ _).le ?_
    intro t ht
    rw [hlevel t (hlive.trans ht)]
    exact hs'.refills cls t ht
  · rw [← a.setBucket_self cls]
    exact ha'.setBucket fun t ht => (hlevel t ht).trans (ha'.1 cls t ht)

/-- Charging a slot that was just seen mirrors charging its account. -/
theorem charged_slot (cls : ServiceIpcRequestClass) (cost : Nat) (hs : SlotSound now slot) (hseen : slot.lastSeenMs = now)
    (hnow : now < 2 ^ 63) (ha : Agrees now slot a) :
    let slot' := slot.setBucket cls
      (((slot.bucket cls).refill now (burstMilli cls) (perSecondMilli cls)).spend cost)
    SlotSound now slot' ∧ Agrees now slot' (a.charge cls cost now) := by
  intro slot'
  have htoken : (((slot.bucket cls).refill now (burstMilli cls)
      (perSecondMilli cls)).spend cost).toToken =
      ((slot.bucket cls).toToken.refillTo (burstMilli cls) (ratePerMs cls) now).spend cost := by
    rw [ServiceIpcBucket.toToken_spend, ServiceIpcBucket.toToken_refill cls hnow (hs.anchor cls)]
  constructor
  · refine hs.setBucket ?_ ?_
    · rw [spend_lastRefillMs, refill_lastRefillMs]
    intro t ht
    rw [htoken]
    refine TokenBucket.level_of_idle ((burst_le_expiry cls).trans (Nat.mul_le_mul_left _ ?_))
    simp only [TokenBucket.spend, TokenBucket.refillTo]
    omega
  · refine ha.setBucket fun t ht => ?_
    have hlevel := ha.1 cls now (Nat.le_refl _)
    rw [htoken]
    simp only [levelOf] at hlevel ⊢
    rw [TokenBucket.level_spend, TokenBucket.level_spend, hlevel]

/-- **Asking**: the table answers like the ledger and still tracks it. -/
theorem decide_tracks (h : Tracks touched now table ledger) (hkey : key.valid = true)
    (hcls : cls ≠ .unknown) (hnow : now + SERVICE_IPC_IDLE_EXPIRY_MS < 2 ^ 63) :
    (serviceIpcDecideAdmission table key cls now).2 = (ledger key).decide cls now ∧
      Tracks touched now (serviceIpcDecideAdmission table key cls now).1 ledger := by
  simp only [serviceIpcDecideAdmission, hcls, hkey, Bool.not_true, Bool.false_eq_true, if_false]
  cases hfind : table.find key (serviceIpcKeyHash key) with
  | none =>
    have hlapsed := h.absent key ((h.keyed.find_eq_none_iff hkey).mp hfind)
    exact ⟨hlapsed.decide_eq.symm, h⟩
  | some i =>
    have hi := (h.keyed.find_eq_some_iff hkey).mp hfind
    obtain ⟨hused, hik⟩ := view_eq_some_iff.mp hi
    have hs := h.sound i hused
    have ha : Agrees now (table.slots i) (ledger key) := hik ▸ h.resident i hused
    by_cases hexp : (table.slots i).expired now = true
    · simp only [hexp, if_true]
      exact ⟨(ha.lapsed hs ((hs.expired_iff hnow).mp hexp)).decide_eq.symm, h⟩
    · simp only [hexp, Bool.false_eq_true, if_false]
      have hlive := mt (hs.expired_iff hnow).mpr hexp
      have hhold := hs.hold
      have hseen := hs.seen
      have hend := ha.2
      by_cases hrefuse : now < (table.slots i).holdEnd
      · have hactive : (table.slots i).holdActive = true := by
          by_contra hoff
          simp [ServiceIpcIdentitySlot.holdEnd, hoff] at hrefuse
        have hcmp : serviceIpcTimeAtOrAfter now (table.slots i).holdUntilMs = false := by
          simp only [ServiceIpcIdentitySlot.holdEnd, hactive, if_true] at hrefuse hhold
          exact Bool.eq_false_iff.mpr fun hge => by
            rw [timeAtOrAfter_iff (by omega) (by omega)] at hge
            omega
        simp only [hactive, hcmp, Bool.not_false, Bool.and_self, if_true]
        refine ⟨?_, h⟩
        rw [Account.decide, if_pos (by omega)]
      · have hpass : ((table.slots i).holdActive &&
            !serviceIpcTimeAtOrAfter now (table.slots i).holdUntilMs) = false := by
          rw [Bool.and_eq_false_imp]
          intro hactive
          simp only [ServiceIpcIdentitySlot.holdEnd, hactive, if_true] at hrefuse
          rw [Bool.not_eq_false', timeAtOrAfter_iff (by omega) (by omega)]
          omega
        simp only [hpass, Bool.false_eq_true, if_false]
        obtain ⟨hsound, hagree⟩ := refilled_slot cls hs (by omega) ha (by omega)
          (Nat.not_lt.mp hrefuse)
        constructor
        · have hopen : ¬ now < (ledger key).holdEnd := by omega
          have htokens := (hs.tokens_refill cls (by omega)).trans
            (ha.1 cls now (Nat.le_refl _))
          rw [Account.decide, if_neg hopen, ← htokens]
          rfl
        · rw [← Function.update_eq_self key ledger]
          refine h.putResident hi ?_ ?_ hsound ?_ hagree
          · simpa using hused
          · simpa using hik
          · simpa [hik] using h.active i hused

/-- **Charging**: the table does what the ledger does. -/
theorem charge_tracks {costTokens : UInt32} (h : Tracks touched now table ledger)
    (hkey : key.valid = true) (hcost : costTokens ≠ 0)
    (hnow : now + SERVICE_IPC_IDLE_EXPIRY_MS < 2 ^ 63) (hact : touched key now)
    (hroom : HasRoom table key now) :
    Tracks touched now (serviceIpcCharge table key cls costTokens now)
      (Function.update ledger key ((ledger key).charge cls (costTokens.toNat * 1000) now)) := by
  obtain ⟨table', i, hacq, h', hi, hseen⟩ := acquire_tracks h hkey hnow hact hroom
  obtain ⟨hused, hik⟩ := view_eq_some_iff.mp hi
  have ha : Agrees now (table'.slots i) (ledger key) := hik ▸ h'.resident i hused
  simp only [serviceIpcCharge, hcost, hkey, hacq, Bool.not_true, Bool.false_eq_true, if_false]
  obtain ⟨hsound, hagree⟩ := charged_slot cls (costTokens.toNat * 1000)
    (h'.sound i hused) hseen (by omega) ha
  refine h'.putResident hi ?_ ?_ hsound ?_ hagree
  · simpa using hused
  · simpa using hik
  · simpa [hseen] using hact

/-- **Holding**: the table does what the ledger does. -/
theorem hold_tracks {untilMs : Nat} (h : Tracks touched now table ledger)
    (hkey : key.valid = true) (hlt : now < untilMs)
    (hle : untilMs ≤ now + SERVICE_IPC_IDLE_EXPIRY_MS)
    (hnow : now + SERVICE_IPC_IDLE_EXPIRY_MS < 2 ^ 63) (hact : touched key now)
    (hroom : HasRoom table key now) :
    Tracks touched now (serviceIpcHold table key untilMs now)
      (Function.update ledger key ((ledger key).hold untilMs)) := by
  obtain ⟨table', i, hacq, h', hi, hseen⟩ := acquire_tracks h hkey hnow hact hroom
  obtain ⟨hused, hik⟩ := view_eq_some_iff.mp hi
  have hs := h'.sound i hused
  have ha : Agrees now (table'.slots i) (ledger key) := hik ▸ h'.resident i hused
  have hbound := hs.hold
  have hend := ha.2
  have hlater : serviceIpcTimeAtOrAfter untilMs now = true :=
    (timeAtOrAfter_iff (by omega) (by omega)).mpr hlt.le
  have hagree : ∀ slot : ServiceIpcIdentitySlot,
      (∀ cls, slot.bucket cls = (table'.slots i).bucket cls) →
      max now slot.holdEnd = max now (max (table'.slots i).holdEnd untilMs) →
      Agrees now slot ((ledger key).hold untilMs) := by
    intro slot hbuckets hmax
    refine ⟨fun cls t ht => by rw [hbuckets]; exact ha.1 cls t ht, ?_⟩
    simp only [Account.hold]
    omega
  simp only [serviceIpcHold, hkey, hlater, hacq, beq_eq_false_iff_ne.mpr hlt.ne', Bool.not_true,
    Bool.or_self, Bool.false_eq_true, if_false]
  by_cases hlong : ((table'.slots i).holdActive &&
      serviceIpcTimeAtOrAfter (table'.slots i).holdUntilMs untilMs) = true
  · -- the longer hold stays, and it is the later end of the two
    rw [if_pos hlong]
    rw [Bool.and_eq_true] at hlong
    have hholdEnd : (table'.slots i).holdEnd = (table'.slots i).holdUntilMs := by
      simp only [ServiceIpcIdentitySlot.holdEnd, hlong.1, if_true]
    have hge := (timeAtOrAfter_iff (by omega) (by omega)).mp hlong.2
    have hkeep : table' = table'.setSlot i (table'.slots i) := by
      rw [ServiceIpcAdmissionTable.setSlot, Function.update_eq_self]
    rw [hkeep]
    refine h'.putResident hi hused hik hs (hseen ▸ hact) (hagree _ (fun _ => rfl) ?_)
    omega
  · rw [if_neg hlong]
    have hshort : (table'.slots i).holdEnd ≤ untilMs := by
      by_cases hactive : (table'.slots i).holdActive = true
      · simp only [hactive, Bool.true_and] at hlong
        simp only [ServiceIpcIdentitySlot.holdEnd, hactive, if_true] at hbound ⊢
        rw [timeAtOrAfter_iff (by omega) (by omega)] at hlong
        omega
      · simp [ServiceIpcIdentitySlot.holdEnd, hactive]
    refine h'.putResident hi hused hik ?_ (hseen ▸ hact) (hagree _ (fun _ => rfl) ?_)
    · refine ⟨hs.valid, hs.hash, hs.seen, hs.anchor, hs.refills, ?_⟩
      simp only [ServiceIpcIdentitySlot.holdEnd, if_true]
      omega
    · simp only [ServiceIpcIdentitySlot.holdEnd, if_true] at hshort ⊢
      omega

end Invariant

end GreenCurve
