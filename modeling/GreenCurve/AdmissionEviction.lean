import GreenCurve.StallRationing

/-! # A full table evicts its least recently seen account

A table that is full of live accounts gives the slot of the least recently seen one
to the next newcomer, so nobody is locked out for ever.  Accounts that take turns,
more of them than there are slots, are therefore all newcomers each time, and are
admitted whatever they did the last time. -/

namespace GreenCurve

open DaemonServe

/-- The accounts of the table with the times they were last seen, oldest first. -/
structure Residents (table : ServiceIpcAdmissionTable) (l : List (ServiceIpcThrottleKey × Nat)) :
    Prop where
  keyed : Keyed table
  listed : ∀ i, (table.slots i).used = true →
    ((table.slots i).key, (table.slots i).lastSeenMs) ∈ l
  resident : ∀ p ∈ l, ∃ i, table.view i = some p.1 ∧ (table.slots i).lastSeenMs = p.2
  nodup : (l.map Prod.fst).Nodup
  sorted : l.Pairwise fun p q => p.2 < q.2

section Residents
variable {table : ServiceIpcAdmissionTable} {l : List (ServiceIpcThrottleKey × Nat)}
  {key : ServiceIpcThrottleKey} {now : Nat} {i : SlotIndex} {slot : ServiceIpcIdentitySlot}

theorem residents_zeroed : Residents (.zeroed {}) [] where
  keyed := by
    have htracks : Tracks (fun _ _ => True) 0 _ _ := tracks_zeroed {}
    exact htracks.keyed
  listed i hi := by simp [ServiceIpcAdmissionTable.zeroed] at hi
  resident := by simp
  nodup := List.nodup_nil
  sorted := List.Pairwise.nil

/-- The slots in use are as many as the residents. -/
theorem Residents.length_le (h : Residents table l) : l.length ≤ SERVICE_IPC_TABLE_SLOTS := by
  have hsub : (l.map Prod.fst).toFinset ⊆ Finset.univ.image fun i => (table.slots i).key := by
    intro k hk
    obtain ⟨p, hp, rfl⟩ := List.mem_map.mp (List.mem_toFinset.mp hk)
    obtain ⟨i, hi, _⟩ := h.resident p hp
    exact Finset.mem_image.mpr ⟨i, Finset.mem_univ i, (view_eq_some_iff.mp hi).2⟩
  have hcard := (Finset.card_le_card hsub).trans Finset.card_image_le
  rwa [List.toFinset_card_of_nodup h.nodup, List.length_map, Finset.card_univ,
    Fintype.card_fin] at hcard

theorem Residents.length_lt (h : Residents table l) (hi : (table.slots i).used = false) :
    l.length < SERVICE_IPC_TABLE_SLOTS := by
  have hsub : (l.map Prod.fst).toFinset ⊆
      (Finset.univ.erase i).image fun i => (table.slots i).key := by
    intro k hk
    obtain ⟨p, hp, rfl⟩ := List.mem_map.mp (List.mem_toFinset.mp hk)
    obtain ⟨j, hj, _⟩ := h.resident p hp
    obtain ⟨hused, hkey⟩ := view_eq_some_iff.mp hj
    refine Finset.mem_image.mpr ⟨j, Finset.mem_erase.mpr ⟨?_, Finset.mem_univ j⟩, hkey⟩
    rintro rfl
    simp [hi] at hused
  have hcard := (Finset.card_le_card hsub).trans Finset.card_image_le
  have hothers : (Finset.univ.erase i).card < SERVICE_IPC_TABLE_SLOTS :=
    (Finset.card_erase_lt_of_mem (Finset.mem_univ i)).trans_le (Finset.card_fin _).le
  rw [List.toFinset_card_of_nodup h.nodup, List.length_map] at hcard
  exact hcard.trans_lt hothers

theorem Residents.mem_iff (h : Residents table l) :
    key ∈ l.map Prod.fst ↔ ∃ i, table.view i = some key := by
  constructor
  · intro hk
    obtain ⟨p, hp, rfl⟩ := List.mem_map.mp hk
    obtain ⟨i, hi, _⟩ := h.resident p hp
    exact ⟨i, hi⟩
  · rintro ⟨i, hi⟩
    obtain ⟨hused, rfl⟩ := view_eq_some_iff.mp hi
    exact List.mem_map.mpr ⟨_, h.listed i hused, rfl⟩

/-- Rewriting the buckets or the hold of a slot changes no resident. -/
theorem Residents.rewrite (h : Residents table l) (hi : table.view i = some key)
    (hused : slot.used = true) (hkey : slot.key = key)
    (hhash : slot.hash = (table.slots i).hash)
    (hseen : slot.lastSeenMs = (table.slots i).lastSeenMs) :
    Residents (table.setSlot i slot) l := by
  obtain ⟨hused', hkey'⟩ := view_eq_some_iff.mp hi
  have hview : (table.setSlot i slot).view = table.view := by
    rw [view_setSlot _ _ hused hkey, ← hi, Function.update_eq_self]
  have hslot : ∀ j, ((table.setSlot i slot).slots j).used = (table.slots j).used ∧
      ((table.setSlot i slot).slots j).key = (table.slots j).key ∧
      ((table.setSlot i slot).slots j).hash = (table.slots j).hash ∧
      ((table.setSlot i slot).slots j).lastSeenMs = (table.slots j).lastSeenMs := by
    intro j
    by_cases hj : j = i
    · subst hj
      rw [setSlot_self]
      exact ⟨hused.trans hused'.symm, hkey.trans hkey'.symm, hhash, hseen⟩
    · rw [setSlot_of_ne hj]
      exact ⟨rfl, rfl, rfl, rfl⟩
  refine ⟨⟨hview ▸ h.keyed.intact, hview ▸ h.keyed.unique, ?_, ?_⟩, ?_, ?_, h.nodup, h.sorted⟩
  · intro j hj
    obtain ⟨h1, h2, _, _⟩ := hslot j
    rw [h1] at hj
    rw [h2]
    exact h.keyed.valid j hj
  · intro j hj
    obtain ⟨h1, h2, h3, _⟩ := hslot j
    rw [h1] at hj
    rw [h2, h3]
    exact h.keyed.hash j hj
  · intro j hj
    obtain ⟨h1, h2, _, h4⟩ := hslot j
    rw [h1] at hj
    rw [h2, h4]
    exact h.listed j hj
  · intro p hp
    obtain ⟨j, hj, hat⟩ := h.resident p hp
    exact ⟨j, by rw [hview]; exact hj, by rw [(hslot j).2.2.2]; exact hat⟩

/-- The slot of a newcomer, written over `old`: the other residents stay. -/
theorem Residents.place {rest : List (ServiceIpcThrottleKey × Nat)} (h : Residents table l)
    (habs : key ∉ l.map Prod.fst) (hpl : ProbeTable.Placeable probePath table.view key i)
    (hrest : rest.Sublist l)
    (hkept : ∀ j, j ≠ i → (table.slots j).used = true →
      ((table.slots j).key, (table.slots j).lastSeenMs) ∈ rest)
    (hgone : ∀ p ∈ rest, table.view i ≠ some p.1)
    (hused : slot.used = true) (hkey : slot.key = key) (hvalid : key.valid = true)
    (hhash : slot.hash = serviceIpcKeyHash key) (hseen : slot.lastSeenMs = now)
    (hlate : ∀ p ∈ l, p.2 < now) : Residents (table.setSlot i slot) (rest ++ [(key, now)]) := by
  have hnot : ∀ j, table.view j ≠ some key := fun j hj => habs (h.mem_iff.mpr ⟨j, hj⟩)
  have hview := view_setSlot table i hused hkey
  refine ⟨⟨?_, ?_, ?_, ?_⟩, ?_, ?_, ?_, ?_⟩
  · rw [hview]
    exact h.keyed.intact.place probing_probePath hpl
  · rw [hview]
    exact h.keyed.unique.place hnot
  · intro j hj
    by_cases hji : j = i
    · rw [hji, setSlot_self, hkey]
      exact hvalid
    · rw [setSlot_of_ne hji] at hj ⊢
      exact h.keyed.valid j hj
  · intro j hj
    by_cases hji : j = i
    · rw [hji, setSlot_self, hhash, hkey]
    · rw [setSlot_of_ne hji] at hj ⊢
      exact h.keyed.hash j hj
  · intro j hj
    by_cases hji : j = i
    · rw [hji, setSlot_self, hkey, hseen]
      simp
    · rw [setSlot_of_ne hji] at hj ⊢
      exact List.mem_append_left _ (hkept j hji hj)
  · intro p hp
    rcases List.mem_append.mp hp with hp | hp
    · obtain ⟨j, hj, hat⟩ := h.resident p (hrest.subset hp)
      have hji : j ≠ i := fun hji => hgone p hp (hji ▸ hj)
      exact ⟨j, by rw [hview, Function.update_of_ne hji]; exact hj,
        by rw [setSlot_of_ne hji]; exact hat⟩
    · obtain rfl := List.mem_singleton.mp hp
      exact ⟨i, by rw [hview, Function.update_self], by rw [setSlot_self]; exact hseen⟩
  · rw [List.map_append, List.nodup_append]
    refine ⟨h.nodup.sublist (hrest.map _), by simp, ?_⟩
    rintro k hk k' hk' rfl
    obtain rfl : k = key := by simpa using hk'
    exact habs ((hrest.map _).subset hk)
  · rw [List.pairwise_append]
    refine ⟨h.sorted.sublist hrest, List.pairwise_singleton _ _, ?_⟩
    intro p hp q hq
    obtain rfl := List.mem_singleton.mp hq
    exact hlate p (hrest.subset hp)

/-- **A newcomer displaces at most the oldest resident**, and only from a full table. -/
theorem Residents.acquire_newcomer (h : Residents table l) (hkey : key.valid = true)
    (habs : key ∉ l.map Prod.fst) (hlate : ∀ p ∈ l, p.2 < now)
    (hlive : ∀ p ∈ l, now < p.2 + SERVICE_IPC_IDLE_EXPIRY_MS)
    (hnow : now + SERVICE_IPC_IDLE_EXPIRY_MS < 2 ^ 63) :
    ∃ table' i rest, table.acquire key (serviceIpcKeyHash key) now = some (table', i) ∧
      rest <:+ l ∧ rest.length < SERVICE_IPC_TABLE_SLOTS ∧
      Residents table' (rest ++ [(key, now)]) ∧ table'.view i = some key ∧
      (table'.slots i).lastSeenMs = now := by
  have hnot : ∀ j, table.view j ≠ some key := fun j hj => habs (h.mem_iff.mpr ⟨j, hj⟩)
  have hticks : ∀ j, (table.slots j).used = true → (table.slots j).lastSeenMs < 2 ^ 63 := by
    intro j hj
    have := hlate _ (h.listed j hj)
    simp only at this
    omega
  have hexpired : ∀ j, (table.slots j).used = true → (table.slots j).expired now = false := by
    intro j hj
    have h1 := hlate _ (h.listed j hj)
    have h2 := hlive _ (h.listed j hj)
    simp only at h1 h2
    rw [Bool.eq_false_iff, ServiceIpcIdentitySlot.expired, addTicks_eq (by omega), Ne,
      timeAtOrAfter_iff (by omega) (by omega)]
    omega
  generalize hr : table.acquire key (serviceIpcKeyHash key) now = r
  have hacq : Acquired table key now r := hr ▸ acquire_acquired h.keyed hticks hkey
  cases hacq with
  | resident i hi => exact absurd hi (hnot i)
  | free i hi =>
    obtain ⟨_, hpl, hexp⟩ := hi
    have hunused : (table.slots i).used = false := by
      by_contra hused
      have hused : (table.slots i).used = true := by simpa using hused
      exact absurd (hexp hused) (by simp [hexpired i hused])
    have hinstall := install_of_absent i now h.keyed hnot
    refine ⟨_, i, l, rfl, List.suffix_refl l, h.length_lt hunused, ?_, ?_, ?_⟩
    · rw [hinstall]
      refine h.place habs hpl (List.Sublist.refl l) (fun j _ hj => h.listed j hj) ?_ rfl rfl hkey
        rfl rfl hlate
      intro p _ hp
      rw [view_eq_none_iff.mpr hunused] at hp
      exact absurd hp (by simp)
    · rw [hinstall, view_setSlot _ _ rfl rfl, Function.update_self]
    · rw [hinstall, setSlot_self]
  | evict i hfull hmin =>
    have hinstall := install_of_absent i now h.keyed hnot
    cases hl : l with
    | nil =>
      have := h.listed i (hfull i).1
      simp [hl] at this
    | cons p rest =>
      -- the head of the list is the slot with the smallest time
      have hhead : ((table.slots i).key, (table.slots i).lastSeenMs) = p := by
        have hmem := h.listed i (hfull i).1
        rw [hl] at hmem
        rcases List.mem_cons.mp hmem with heq | hmem
        · exact heq
        · obtain ⟨j, _, hj⟩ := h.resident p (by rw [hl]; exact List.mem_cons_self)
          have hsorted := h.sorted
          rw [hl] at hsorted
          have h1 := (List.pairwise_cons.mp hsorted).1 _ hmem
          have h2 := hmin j
          simp only at h1
          omega
      have hlen := h.length_le
      have hnd := h.nodup
      rw [hl] at hlen hnd
      rw [List.map_cons, List.nodup_cons] at hnd
      obtain ⟨pre, post, hsplit⟩ :=
        List.append_of_mem (probing_probePath.complete key i)
      refine ⟨_, i, rest, rfl, List.suffix_cons p rest, hlen, ?_, ?_, ?_⟩
      · rw [hinstall]
        refine h.place habs ⟨pre, post, hsplit, ?_⟩ (hl ▸ List.sublist_cons_self p rest) ?_ ?_
          rfl rfl hkey rfl rfl hlate
        · intro x _ hx
          have := view_eq_none_iff.mp hx
          simp [(hfull x).1] at this
        · intro j hji hj
          have hmem := h.listed j hj
          rw [hl] at hmem
          rcases List.mem_cons.mp hmem with heq | hmem
          · have hk : (table.slots j).key = (table.slots i).key := by
              have h1 := congrArg Prod.fst heq
              have h2 := congrArg Prod.fst hhead
              exact h1.trans h2.symm
            exact absurd (h.keyed.unique j i _ (view_eq_some_iff.mpr ⟨hj, hk⟩)
              (view_eq_some_iff.mpr ⟨(hfull i).1, rfl⟩)) hji
          · exact hmem
        · intro q hq hview
          have hk : q.1 = p.1 := by
            rw [← (view_eq_some_iff.mp hview).2, ← hhead]
          exact hnd.1 (hk ▸ List.mem_map.mpr ⟨q, hq, rfl⟩)
      · rw [hinstall, view_setSlot _ _ rfl rfl, Function.update_self]
      · rw [hinstall, setSlot_self]

/-- Holding a resident that was just seen changes no resident. -/
theorem Residents.hold (h : Residents table l) (hi : table.view i = some key)
    (hseen : (table.slots i).lastSeenMs = now) (hlate : ∀ p ∈ l, p.2 ≤ now)
    (hnow : now + SERVICE_IPC_IDLE_EXPIRY_MS < 2 ^ 63) (untilMs : Nat) :
    Residents (serviceIpcHold table key untilMs now) l := by
  obtain ⟨hused, hik⟩ := view_eq_some_iff.mp hi
  have hvalid : key.valid = true := hik ▸ h.keyed.valid i hused
  have hticks : ∀ j, (table.slots j).used = true → (table.slots j).lastSeenMs < 2 ^ 63 := by
    intro j hj
    have := hlate _ (h.listed j hj)
    simp only at this
    omega
  unfold serviceIpcHold
  split
  · exact h
  · generalize hr : table.acquire key (serviceIpcKeyHash key) now = r
    have hacq : Acquired table key now r := hr ▸ acquire_acquired h.keyed hticks hvalid
    cases hacq with
    | resident j hj =>
      obtain rfl := h.keyed.unique j i key hj hi
      have htouched : Residents (table.setSlot j { table.slots j with lastSeenMs := now }) l :=
        h.rewrite hi hused hik rfl hseen.symm
      simp only
      split
      · exact htouched
      · have hview : (table.setSlot j { table.slots j with lastSeenMs := now }).view j =
            some key := by
          rw [view_eq_some_iff, setSlot_self]
          exact ⟨hused, hik⟩
        refine htouched.rewrite hview ?_ ?_ ?_ ?_
        · rw [setSlot_self]
          exact hused
        · rw [setSlot_self]
          exact hik
        · rfl
        · rfl
    | free j hj => exact absurd hi (hj.1 i)
    | evict j hfull _ => exact absurd hi (hfull i).2.2

/-- **A newcomer is admitted**, and settling it displaces at most the oldest
resident. -/
theorem Residents.serve_newcomer {conn : DaemonConnection} (h : Residents table l)
    (hkey : conn.key.valid = true) (habs : conn.key ∉ l.map Prod.fst)
    (hlate : ∀ p ∈ l, p.2 < conn.settleMs)
    (hlive : ∀ p ∈ l, conn.settleMs < p.2 + SERVICE_IPC_IDLE_EXPIRY_MS)
    (hnow : conn.settleMs + SERVICE_IPC_IDLE_EXPIRY_MS < 2 ^ 63) :
    (daemonServeConnection table conn).2.isSome = true ∧
      ∃ rest, rest <:+ l ∧ rest.length < SERVICE_IPC_TABLE_SLOTS ∧
        Residents (daemonServeConnection table conn).1 (rest ++ [(conn.key, conn.settleMs)]) := by
  have hfind := (h.keyed.find_eq_none_iff hkey).mpr fun j hj => habs (h.mem_iff.mpr ⟨j, hj⟩)
  have hadmit : serviceIpcDecideAdmission table conn.key .normal conn.admitMs =
      (table, .admitted) := by
    simp [serviceIpcDecideAdmission, hkey, hfind]
  obtain ⟨table', i, rest, hacq, hsuffix, hlen, hres, hi, hseen⟩ :=
    h.acquire_newcomer hkey habs hlate hlive hnow
  obtain ⟨hused, hik⟩ := view_eq_some_iff.mp hi
  have hcost := cost_ne_zero conn.outcome conn.readMs conn.writeMs
  generalize hsettled : gcDaemonExchangeSettle conn.outcome conn.readMs conn.writeMs = settled
    at hcost
  have hserve : daemonServeConnection table conn =
      ((gcDaemonExchangeAccount table conn.key conn.outcome conn.readMs conn.writeMs
        conn.settleMs).1, some settled) := by
    simp [daemonServeConnection, daemonAdmissionAdmit, hkey, hadmit, gcDaemonExchangeAccount,
      hsettled, apply_ite Prod.snd]
  rw [hserve]
  refine ⟨rfl, rest, hsuffix, hlen, ?_⟩
  let charged := table'.setSlot i ((table'.slots i).setBucket .normal
    ((((table'.slots i).bucket .normal).refill conn.settleMs (burstMilli .normal)
      (perSecondMilli .normal)).spend (settled.costTokens.toNat * 1000)))
  have hcharge : serviceIpcCharge table conn.key .normal settled.costTokens conn.settleMs =
      charged := by
    simp only [serviceIpcCharge, hcost, hkey, hacq, Bool.not_true, Bool.false_eq_true, if_false]
    rfl
  have hcharged : Residents charged (rest ++ [(conn.key, conn.settleMs)]) :=
    hres.rewrite hi (by simpa using hused) (by simpa using hik) (by simp) (by simp)
  have hview : charged.view i = some conn.key := by
    rw [view_eq_some_iff, setSlot_self]
    simpa using ⟨hused, hik⟩
  simp only [gcDaemonExchangeAccount, hkey, hsettled, hcharge, Bool.not_true,
    Bool.false_eq_true, if_false]
  split
  · refine hcharged.hold hview ?_ ?_ hnow _
    · rw [setSlot_self]
      simpa using hseen
    · intro p hp
      rcases List.mem_append.mp hp with hp | hp
      · exact (hlate p (hsuffix.subset hp)).le
      · rw [List.mem_singleton.mp hp]
  · exact hcharged

end Residents

/-! ## Accounts that take turns -/

/-- Accounts take turns, more of them than there are slots: between two connections
of one account there are as many others as slots, and as long as there are fewer,
less than the idle window passes. -/
structure TakesTurns (conns : List DaemonConnection) : Prop where
  valid : ∀ conn ∈ conns, conn.key.valid = true
  bounded : ∀ conn ∈ conns, conn.settleMs + SERVICE_IPC_IDLE_EXPIRY_MS < 2 ^ 63
  order : ∀ before conn mid conn' after, conns = before ++ conn :: mid ++ conn' :: after →
    conn.settleMs < conn'.settleMs
  close : ∀ before conn mid conn' after, conns = before ++ conn :: mid ++ conn' :: after →
    mid.length < SERVICE_IPC_TABLE_SLOTS →
    conn'.key ≠ conn.key ∧ conn'.settleMs < conn.settleMs + SERVICE_IPC_IDLE_EXPIRY_MS

/-- What a resident list of a run remembers of its connections. -/
def seenOf (conn : DaemonConnection) : ServiceIpcThrottleKey × Nat := (conn.key, conn.settleMs)

/-- The next account is a newcomer to the latest accounts. -/
theorem TakesTurns.newcomer {done after : List DaemonConnection} {conn : DaemonConnection}
    {l : List (ServiceIpcThrottleKey × Nat)} (h : TakesTurns (done ++ conn :: after))
    (hlen : l.length ≤ SERVICE_IPC_TABLE_SLOTS) (hsuffix : l <:+ done.map seenOf) :
    conn.key ∉ l.map Prod.fst ∧ (∀ p ∈ l, p.2 < conn.settleMs) ∧
      ∀ p ∈ l, conn.settleMs < p.2 + SERVICE_IPC_IDLE_EXPIRY_MS := by
  have hall : ∀ p ∈ l, conn.key ≠ p.1 ∧ p.2 < conn.settleMs ∧
      conn.settleMs < p.2 + SERVICE_IPC_IDLE_EXPIRY_MS := by
    intro p hp
    obtain ⟨l₁, l₂, rfl⟩ := List.append_of_mem hp
    obtain ⟨x, hx⟩ := hsuffix
    rw [← List.append_assoc] at hx
    obtain ⟨before, tail, rfl, _, htail⟩ := List.map_eq_append_iff.mp hx.symm
    obtain ⟨old, mid, rfl, rfl, hmid⟩ := List.map_eq_cons_iff.mp htail
    have hshort : mid.length < SERVICE_IPC_TABLE_SLOTS := by
      have := congrArg List.length hmid
      rw [List.length_map] at this
      simp only [List.length_append, List.length_cons] at hlen
      omega
    obtain ⟨hkey, hlive⟩ := h.close before old mid conn after rfl hshort
    exact ⟨hkey, h.order before old mid conn after rfl, hlive⟩
  refine ⟨?_, fun p hp => (hall p hp).2.1, fun p hp => (hall p hp).2.2⟩
  intro hmem
  obtain ⟨p, hp, heq⟩ := List.mem_map.mp hmem
  exact (hall p hp).1 heq.symm

theorem TakesTurns.left {done rest : List DaemonConnection} (h : TakesTurns (done ++ rest)) :
    TakesTurns done where
  valid conn hconn := h.valid conn (List.mem_append_left _ hconn)
  bounded conn hconn := h.bounded conn (List.mem_append_left _ hconn)
  order before conn mid conn' after heq :=
    h.order before conn mid conn' (after ++ rest) (by simp [heq])
  close before conn mid conn' after heq :=
    h.close before conn mid conn' (after ++ rest) (by simp [heq])

/-- After every part of the run the residents are its latest accounts. -/
theorem residents_of_turns {done : List DaemonConnection} (h : TakesTurns done) :
    ∃ l, Residents (tableOf done) l ∧ l.length ≤ SERVICE_IPC_TABLE_SLOTS ∧
      l <:+ done.map seenOf := by
  induction done using List.reverseRecOn with
  | nil => exact ⟨[], residents_zeroed, Nat.zero_le _, List.suffix_refl _⟩
  | append_singleton done conn ih =>
    obtain ⟨l, hres, hlen, hsuffix⟩ := ih h.left
    obtain ⟨habs, hlate, hlive⟩ := h.newcomer hlen hsuffix
    obtain ⟨_, rest, hrest, hlen', hres'⟩ := hres.serve_newcomer (h.valid conn (by simp)) habs
      hlate hlive (h.bounded conn (by simp))
    have hstep : tableOf (done ++ [conn]) = (daemonServeConnection (tableOf done) conn).1 :=
      tableOf_append
    refine ⟨_, hstep ▸ hres', ?_, ?_⟩
    · rw [List.length_append, List.length_singleton]
      omega
    · rw [List.map_append]
      obtain ⟨x, hx⟩ := hrest.trans hsuffix
      exact ⟨x, by rw [← List.append_assoc, hx]; rfl⟩

/-- **Accounts that take turns are all admitted**, whatever they did the last time. -/
theorem turns_served {conns : List DaemonConnection} (h : TakesTurns conns) :
    served conns = conns := by
  refine served_eq_self ?_
  rintro before conn after rfl
  obtain ⟨l, hres, hlen, hsuffix⟩ := residents_of_turns h.left
  obtain ⟨habs, hlate, hlive⟩ := h.newcomer hlen hsuffix
  exact (hres.serve_newcomer (h.valid conn (by simp)) habs hlate hlive
    (h.bounded conn (by simp))).1

end GreenCurve
