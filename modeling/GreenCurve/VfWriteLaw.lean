import GreenCurve.VfWrite

/-! # What a verified write has verified

No write touches more of the control table than the entries of the points it selects, and no
write selects a point that was not asked for.  A write that answers success has read every
point back, unless its loop met a point whose entry is outside of the table: it then leaves
with the flag that says there is nothing left to write.  The layout check before it rules
that out for the last point only, and computes in 32 bits. -/

namespace GreenCurve.VfWrite

variable {σ : Type} {b : VfBackendSpec} {g : LinuxGpuState} {driver : Driver σ}
  {req : Fin vfNumPoints → Bool} {desiredKHz : Fin vfNumPoints → Int}

/-! ## What the claims of a write are -/

/-- The byte is part of the mask of a table. -/
def InMask (b : VfBackendSpec) (k : Nat) : Prop :=
  b.controlMaskOffset.toNat ≤ k ∧ k < b.controlMaskOffset.toNat + 32

/-- The byte is part of the entry of a point. -/
def InEntry (b : VfBackendSpec) (i : Fin vfNumPoints) (k : Nat) : Prop :=
  (entryOffset b i).toNat ≤ k ∧ k < (entryOffset b i).toNat + 4

/-- The mask field of a table. -/
def maskField (b : VfBackendSpec) (table : Table) : Nat → UInt8 := fun k =>
  table (b.controlMaskOffset.toNat + k)

/-- A table that is handed back selects points that were asked for, and differs from the one
read last in their entries only. -/
structure KeepsOthers (b : VfBackendSpec) (req : Fin vfNumPoints → Bool) (base table : Table) :
    Prop where
  selects : ∀ bit < 256, maskBit (maskField b table) bit = true →
    ∃ i : Fin vfNumPoints, i = bit ∧ req i = true
  others : ∀ k, ¬InMask b k →
    (∀ i : Fin vfNumPoints, maskBit (maskField b table) i = true → ¬InEntry b i k) →
      table k = base k

/-- Every table that was handed back keeps the others of the table read last before. -/
def SetsKeepOthers (b : VfBackendSpec) (req : Fin vfNumPoints → Bool) : List Event → Prop
  | [] => True
  | .read _ :: older => SetsKeepOthers b req older
  | .set table :: older =>
    (∃ base oldest, older = .read base :: oldest ∧ KeepsOthers b req base table) ∧
      SetsKeepOthers b req older

def Event.isSet : Event → Bool
  | .read _ => false
  | .set _ => true

/-- The tables read since the last one that was handed back. -/
def readsSinceSet (log : List Event) : List Event := log.takeWhile fun event => !event.isSet

/-- A point was read back since the last write: at its target, or as a placeholder that the
driver pins. -/
def ReadBack (b : VfBackendSpec) (g : LinuxGpuState) (desiredKHz : Fin vfNumPoints → Int)
    (log : List Event) (i : Fin vfNumPoints) : Prop :=
  EntryInside b i ∧ ∃ table, .read table ∈ readsSinceSet log ∧
    (entryKHz b table i = desiredKHz i ∨
      vfOffsetZeroReadbackIsBenign (desiredKHz i) (entryKHz b table i) (g.curveFreqKHz i).toNat
        (500 * 1000) = true)

/-! ## Tables and masks -/

theorem poke_outside {table : Table} {offset k : Nat} {bytes : Bytes}
    (h : ¬(offset ≤ k ∧ k < offset + bytes.length)) : table.poke offset bytes k = table k :=
  if_neg h

theorem poke_inside {table : Table} {offset k : Nat} {bytes : Bytes} (h : k < bytes.length) :
    table.poke offset bytes (offset + k) = bytes.getD k 0 := by
  rw [Table.poke, if_pos (by omega), Nat.add_sub_cancel_left]

theorem maskBit_setMaskBit (mask : Nat → UInt8) (i j : Nat) :
    maskBit (setMaskBit mask i) j = (maskBit mask j || decide (i = j)) := by
  unfold maskBit setMaskBit
  by_cases hbyte : j / 8 = i / 8
  · rw [hbyte, Function.update_self]
    have hlt : (mask (i / 8)).toNat ||| 2 ^ (i % 8) < 2 ^ 8 :=
      Nat.or_lt_two_pow (mask (i / 8)).toNat_lt (Nat.pow_lt_pow_right (by decide) (by omega))
    rw [UInt8.toNat_ofNat', Nat.mod_eq_of_lt hlt, Nat.testBit_or, Nat.testBit_two_pow]
    congr 1
    exact decide_eq_decide.mpr ⟨fun h => by omega, fun h => by omega⟩
  · have hne : ¬i = j := by
      rintro rfl
      exact hbyte rfl
    rw [Function.update_of_ne hbyte, decide_eq_false hne, Bool.or_false]

theorem maskField_control (batch : Batch) {k : Nat} (hk : k < 32) :
    maskField b (batch.control b) k = batch.writeMask k := by
  unfold maskField Batch.control
  rw [poke_inside (by simpa using hk)]
  simp [List.getD, hk]

theorem maskBit_control (batch : Batch) {bit : Nat} (hbit : bit < 256) :
    maskBit (maskField b (batch.control b)) bit = maskBit batch.writeMask bit := by
  unfold maskBit
  rw [maskField_control batch (by omega)]

/-! ## Units -/

/-- An offset that a raw value stands for can be expressed in driver units. -/
theorem driverUnits_of_entry (raw : Int32) :
    vfGraphicsOffsetDriverUnits b (vfGraphicsOffsetKHz b raw) ≠ none := by
  unfold vfGraphicsOffsetDriverUnits vfGraphicsOffsetKHz
  have hsplit := Int.tdiv_mul_add_tmod raw.toInt (vfGraphicsFrequencyScale b)
  have hmin := raw.minValue_le_toInt
  have hmax := raw.toInt_le
  have hbounds : Int32.minValue.toInt ≤
      raw.toInt.tdiv (vfGraphicsFrequencyScale b) * vfGraphicsFrequencyScale b ∧
      raw.toInt.tdiv (vfGraphicsFrequencyScale b) * vfGraphicsFrequencyScale b ≤
        Int32.maxValue.toInt := by
    rcases Int.le_total 0 raw.toInt with hsign | hsign
    · have hmod := Int.tmod_nonneg (vfGraphicsFrequencyScale b) hsign
      have hdiv := Int.tdiv_nonneg hsign (Int.natCast_nonneg (vfGraphicsFrequencyScale b))
      have hmul := Int.mul_nonneg hdiv (Int.natCast_nonneg (vfGraphicsFrequencyScale b))
      have hlow : Int32.minValue.toInt ≤ 0 := by decide
      omega
    · have hneg : 0 ≤ -raw.toInt := by omega
      have hmod := Int.tmod_nonneg (vfGraphicsFrequencyScale b) hneg
      have hdiv := Int.tdiv_nonneg hneg (Int.natCast_nonneg (vfGraphicsFrequencyScale b))
      rw [Int.neg_tmod] at hmod
      rw [Int.neg_tdiv] at hdiv
      have hmul := Int.mul_nonneg hdiv (Int.natCast_nonneg (vfGraphicsFrequencyScale b))
      rw [Int.neg_mul] at hmul
      have hhigh : 0 ≤ Int32.maxValue.toInt := by decide
      omega
  dsimp only
  rw [if_neg (by omega)]
  exact Option.some_ne_none _

/-! ## The loop over the points -/

/-- What a loop over points that ends with a batch has done. -/
structure Scanned (b : VfBackendSpec) (desiredKHz : Fin vfNumPoints → Int)
    (points : List (Fin vfNumPoints)) (start batch : Batch) : Prop where
  inside : ∀ i ∈ points, start.pending i = true → EntryInside b i
  selected : ∀ bit, maskBit batch.writeMask bit = true → maskBit start.writeMask bit = true ∨
    ∃ i : Fin vfNumPoints, i = bit ∧ start.pending i = true
  kept : ∀ bit, maskBit start.writeMask bit = true → maskBit batch.writeMask bit = true
  others : ∀ k, (∀ i : Fin vfNumPoints, maskBit batch.writeMask i = true → ¬InEntry b i k) →
    batch.table k = start.table k
  pending_le : ∀ i, batch.pending i = true → start.pending i = true
  nothing : batch.anyPendingWrite = false → start.anyPendingWrite = false ∧
    batch.table = start.table ∧
      ∀ i ∈ points, start.pending i = true → entryKHz b start.table i = desiredKHz i

theorem Scanned.cons_skip {i : Fin vfNumPoints} {rest : List (Fin vfNumPoints)}
    {start batch : Batch} (h : Scanned b desiredKHz rest start batch)
    (hpending : start.pending i = false) : Scanned b desiredKHz (i :: rest) start batch :=
  { h with
    inside := by
      intro j hj hstart
      rcases List.mem_cons.mp hj with rfl | hj
      · simp [hpending] at hstart
      · exact h.inside j hj hstart
    nothing := fun hany => by
      obtain ⟨hstart, htable, hall⟩ := h.nothing hany
      refine ⟨hstart, htable, fun j hj hpend => ?_⟩
      rcases List.mem_cons.mp hj with rfl | hj
      · simp [hpending] at hpend
      · exact hall j hj hpend }

/-- A point that is at its target needs no write. -/
theorem Scanned.cons_equal {i : Fin vfNumPoints} {rest : List (Fin vfNumPoints)}
    {start batch : Batch} (hi : i ∉ rest) (hentry : EntryInside b i)
    (hequal : entryKHz b start.table i = desiredKHz i)
    (h : Scanned b desiredKHz rest
      { start with pending := Function.update start.pending i false } batch) :
    Scanned b desiredKHz (i :: rest) start batch := by
  have hother : ∀ j ∈ rest, Function.update start.pending i false j = start.pending j :=
    fun j hj => Function.update_of_ne (ne_of_mem_of_not_mem hj hi) _ _
  have hle : ∀ j, Function.update start.pending i false j = true → start.pending j = true := by
    intro j hj
    rcases eq_or_ne j i with rfl | hne
    · rw [Function.update_self] at hj
      cases hj
    · rwa [Function.update_of_ne hne] at hj
  refine ⟨fun j hj hpend => ?_, fun bit hbit => ?_, h.kept, h.others,
    fun j hj => hle j (h.pending_le j hj), fun hany => ?_⟩
  · rcases List.mem_cons.mp hj with rfl | hj
    · exact hentry
    · exact h.inside j hj ((hother j hj).trans hpend)
  · rcases h.selected bit hbit with hstart | ⟨j, hj, hpend⟩
    · exact .inl hstart
    · exact .inr ⟨j, hj, hle j hpend⟩
  · obtain ⟨hstart, htable, hall⟩ := h.nothing hany
    refine ⟨hstart, htable, fun j hj hpend => ?_⟩
    rcases List.mem_cons.mp hj with rfl | hj
    · exact hequal
    · exact hall j hj ((hother j hj).trans hpend)

/-- A point that is not is written and selected. -/
theorem Scanned.cons_write {i : Fin vfNumPoints} {rest : List (Fin vfNumPoints)}
    {start batch : Batch} {raw : Int32} (hpending : start.pending i = true)
    (hentry : EntryInside b i)
    (h : Scanned b desiredKHz rest
      { start with
        table := start.table.poke (entryOffset b i).toNat (le32 raw.toUInt32)
        writeMask := setMaskBit start.writeMask i
        anyPendingWrite := true } batch) :
    Scanned b desiredKHz (i :: rest) start batch := by
  refine ⟨fun j hj hpend => ?_, fun bit hbit => ?_, fun bit hbit => ?_, fun k hk => ?_,
    h.pending_le, fun hany => absurd (h.nothing hany).1 (by simp)⟩
  · rcases List.mem_cons.mp hj with rfl | hj
    · exact hentry
    · exact h.inside j hj hpend
  · rcases h.selected bit hbit with hstart | hpend
    · rw [maskBit_setMaskBit, Bool.or_eq_true, decide_eq_true_eq] at hstart
      rcases hstart with hstart | heq
      · exact .inl hstart
      · exact .inr ⟨i, heq, hpending⟩
    · exact .inr hpend
  · apply h.kept
    rw [maskBit_setMaskBit, hbit, Bool.true_or]
  · have hself : maskBit batch.writeMask i = true := by
      apply h.kept
      rw [maskBit_setMaskBit, decide_eq_true rfl, Bool.or_true]
    exact (h.others k hk).trans (poke_outside (hk i hself))

theorem scanPoints_batch (points : List (Fin vfNumPoints)) (start : Batch) {batch : Batch}
    (hnodup : points.Nodup) (h : scanPoints b desiredKHz points start = .batch batch) :
    Scanned b desiredKHz points start batch := by
  induction points generalizing start with
  | nil =>
    obtain rfl := Scan.batch.inj h
    exact ⟨nofun, fun _ => .inl, fun _ => id, fun _ _ => rfl, fun _ => id,
      fun hany => ⟨hany, rfl, nofun⟩⟩
  | cons i rest ih =>
    obtain ⟨hi, hrest⟩ := List.nodup_cons.mp hnodup
    rw [scanPoints] at h
    split at h
    · rename_i hpending
      exact (ih start hrest h).cons_skip (by simpa using hpending)
    · rename_i hpending
      split at h
      · cases h
      · rename_i hinside
        split at h
        · rename_i hequal
          exact .cons_equal hi (not_not.mp hinside) hequal (ih _ hrest h)
        · cases hunits : vfGraphicsOffsetDriverUnits b (desiredKHz i) with
          | none => simp [hunits] at h
          | some raw =>
            rw [hunits] at h
            exact .cons_write (by simpa using hpending) (not_not.mp hinside) (ih _ hrest h)

/-- The loop meets a point outside of the table before one whose units end it. -/
def MeetsOutside (b : VfBackendSpec) (desiredKHz : Fin vfNumPoints → Int)
    (pending : Fin vfNumPoints → Bool) : List (Fin vfNumPoints) → Prop
  | [] => False
  | i :: rest =>
    (pending i = true ∧ ¬EntryInside b i) ∨
      ((pending i = true → vfGraphicsOffsetDriverUnits b (desiredKHz i) ≠ none) ∧
        MeetsOutside b desiredKHz pending rest)

theorem scanPoints_outside {pending : Fin vfNumPoints → Bool} (points : List (Fin vfNumPoints))
    (start : Batch) (hnodup : points.Nodup)
    (hpending : ∀ i ∈ points, start.pending i = pending i) :
    scanPoints b desiredKHz points start = .outside ↔
      MeetsOutside b desiredKHz pending points := by
  induction points generalizing start with
  | nil => exact ⟨nofun, False.elim⟩
  | cons i rest ih =>
    obtain ⟨hi, hrest⟩ := List.nodup_cons.mp hnodup
    have htail : ∀ j ∈ rest, start.pending j = pending j :=
      fun j hj => hpending j (List.mem_cons_of_mem i hj)
    rw [scanPoints, MeetsOutside, hpending i List.mem_cons_self]
    cases hpend : pending i with
    | false => simpa using ih start hrest htail
    | true =>
      by_cases hinside : EntryInside b i
      · by_cases hequal : entryKHz b start.table i = desiredKHz i
        · have hunits : vfGraphicsOffsetDriverUnits b (desiredKHz i) ≠ none := by
            rw [← hequal]
            exact driverUnits_of_entry _
          have hupdated : ∀ j ∈ rest, Function.update start.pending i false j = pending j := by
            intro j hj
            rw [Function.update_of_ne (ne_of_mem_of_not_mem hj hi), htail j hj]
          simpa [hinside, hequal, hunits] using ih _ hrest hupdated
        · cases hunits : vfGraphicsOffsetDriverUnits b (desiredKHz i) with
          | none => simp [hinside, hequal]
          | some raw =>
            have htaken := ih
              { start with
                table := start.table.poke (entryOffset b i).toNat (le32 raw.toUInt32)
                writeMask := setMaskBit start.writeMask i
                anyPendingWrite := true } hrest htail
            simpa [hinside, hequal, hunits] using htaken
      · simp [hinside]

theorem meetsOutside_split {pending : Fin vfNumPoints → Bool} (points : List (Fin vfNumPoints)) :
    MeetsOutside b desiredKHz pending points ↔
      ∃ before i after, points = before ++ i :: after ∧ (pending i = true ∧ ¬EntryInside b i) ∧
        ∀ j ∈ before, pending j = true →
          vfGraphicsOffsetDriverUnits b (desiredKHz j) ≠ none := by
  induction points with
  | nil => simp [MeetsOutside]
  | cons head rest ih =>
    rw [MeetsOutside, ih]
    constructor
    · rintro (hhead | ⟨hunits, before, i, after, rfl, hi, hbefore⟩)
      · exact ⟨[], head, rest, rfl, hhead, nofun⟩
      · refine ⟨head :: before, i, after, rfl, hi, fun j hj => ?_⟩
        rcases List.mem_cons.mp hj with rfl | hj
        · exact hunits
        · exact hbefore j hj
    · rintro ⟨before, i, after, hsplit, hi, hbefore⟩
      cases before with
      | nil =>
        obtain ⟨rfl, -⟩ := List.cons.inj hsplit
        exact .inl hi
      | cons first before =>
        obtain ⟨rfl, htail⟩ := List.cons.inj hsplit
        exact .inr ⟨hbefore _ List.mem_cons_self, before, i, after, htail, hi,
          fun j hj => hbefore j (List.mem_cons_of_mem _ hj)⟩

/-- Over all points, the one outside comes before every point whose units would end the
loop. -/
theorem meetsOutside_finRange (b : VfBackendSpec) (desiredKHz : Fin vfNumPoints → Int)
    (pending : Fin vfNumPoints → Bool) :
    MeetsOutside b desiredKHz pending (List.finRange vfNumPoints) ↔
      ∃ i, (pending i = true ∧ ¬EntryInside b i) ∧ ∀ j < i, pending j = true →
        vfGraphicsOffsetDriverUnits b (desiredKHz j) ≠ none := by
  rw [meetsOutside_split]
  have hsorted := List.pairwise_lt_finRange vfNumPoints
  constructor
  · rintro ⟨before, i, after, hsplit, hi, hbefore⟩
    refine ⟨i, hi, fun j hj => hbefore j ?_⟩
    rw [hsplit, List.pairwise_append] at hsorted
    have hmem : j ∈ before ++ i :: after := hsplit ▸ List.mem_finRange j
    rcases List.mem_append.mp hmem with hj' | hj'
    · exact hj'
    · rcases List.mem_cons.mp hj' with rfl | hj'
      · exact absurd hj (lt_irrefl _)
      · exact absurd hj (lt_asymm ((List.pairwise_cons.mp hsorted.2.1).1 j hj'))
  · rintro ⟨i, hi, hall⟩
    obtain ⟨before, after, hsplit⟩ := List.append_of_mem (List.mem_finRange i)
    refine ⟨before, i, after, hsplit, hi, fun j hj => hall j ?_⟩
    rw [hsplit, List.pairwise_append] at hsorted
    exact hsorted.2.2 j hj i List.mem_cons_self

/-! ## Reads -/

theorem readControlTable_log {bufSize : Nat} {run run' : Run σ} {answer : Option Table}
    (h : nvapiReadControlTable b g driver bufSize run = (answer, run')) :
    run'.log = (answer.map Event.read).toList ++ run.log := by
  unfold nvapiReadControlTable at h
  dsimp only at h
  split at h
  · obtain ⟨rfl, rfl⟩ := Prod.mk.inj h
    rfl
  split at h
  · obtain ⟨rfl, rfl⟩ := Prod.mk.inj h
    rfl
  · obtain ⟨rfl, rfl⟩ := Prod.mk.inj h
    rfl

theorem readOffsets_log {run run' : Run σ} {answer : Option Table}
    (h : nvapiReadOffsets b g driver run = (answer, run')) :
    run'.log = (answer.map Event.read).toList ++ run.log := by
  unfold nvapiReadOffsets at h
  split at h
  · obtain ⟨rfl, rfl⟩ := Prod.mk.inj h
    rfl
  · exact readControlTable_log h

theorem readOffsetsWithin_log (tries : Nat) {run run' : Run σ} {answer : Option Table}
    (h : readOffsetsWithin b g driver tries run = (answer, run')) :
    run'.log = (answer.map Event.read).toList ++ run.log := by
  induction tries generalizing run with
  | zero =>
    obtain ⟨rfl, rfl⟩ := Prod.mk.inj h
    rfl
  | succ tries ih =>
    rw [readOffsetsWithin] at h
    cases hread : nvapiReadOffsets b g driver run with
    | mk first next =>
      rw [hread] at h
      have hlog := readOffsets_log hread
      cases first with
      | some table =>
        obtain ⟨rfl, rfl⟩ := Prod.mk.inj h
        exact hlog
      | none => exact (ih h).trans (congrArg _ hlog)

/-! ## The passes -/

def setCalls (log : List Event) : Nat := log.countP Event.isSet

/-- What holds before a pass: the table it starts from was read last, and every point it does
not look at was read back since the last write. -/
structure PassReady (b : VfBackendSpec) (g : LinuxGpuState) (req : Fin vfNumPoints → Bool)
    (desiredKHz : Fin vfNumPoints → Int) (pending : Fin vfNumPoints → Bool) (baseControl : Table)
    (log : List Event) : Prop where
  last : ∃ older, log = .read baseControl :: older
  pending_le : ∀ i, pending i = true → req i = true
  settled : ∀ i, req i = true → pending i = false → ReadBack b g desiredKHz log i
  sets : SetsKeepOthers b req log

/-- What a pass leaves at its end. -/
structure PassesDone (b : VfBackendSpec) (g : LinuxGpuState) (req : Fin vfNumPoints → Bool)
    (desiredKHz : Fin vfNumPoints → Int) (most : Nat) (answer : Bool)
    (log : List Event) : Prop where
  sets : SetsKeepOthers b req log
  count : setCalls log ≤ most
  verified : answer = true → ∀ i, req i = true → ReadBack b g desiredKHz log i

theorem ReadBack.read {log : List Event} {i : Fin vfNumPoints} (h : ReadBack b g desiredKHz log i)
    (table : Table) : ReadBack b g desiredKHz (.read table :: log) i := by
  obtain ⟨hinside, found, hfound, hvalue⟩ := h
  refine ⟨hinside, found, ?_, hvalue⟩
  unfold readsSinceSet
  rw [List.takeWhile_cons_of_pos (by rfl)]
  exact List.mem_cons_of_mem _ hfound

theorem mem_readsSinceSet_cons (table : Table) (log : List Event) :
    .read table ∈ readsSinceSet (.read table :: log) := by
  unfold readsSinceSet
  rw [List.takeWhile_cons_of_pos (by rfl)]
  exact List.mem_cons_self

/-- The table of a batch keeps the others of the table it started from. -/
theorem keepsOthers_control {pending : Fin vfNumPoints → Bool} {baseControl : Table}
    {batch : Batch} (hle : ∀ i, pending i = true → req i = true)
    (h : Scanned b desiredKHz (List.finRange vfNumPoints)
      { pending := pending, table := baseControl } batch) :
    KeepsOthers b req baseControl (batch.control b) := by
  have hnone : ∀ bit, maskBit (fun _ => 0) bit = false := fun bit => Nat.zero_testBit _
  refine ⟨fun bit hbit hselected => ?_, fun k hmask hentries => ?_⟩
  · rw [maskBit_control batch hbit] at hselected
    rcases h.selected bit hselected with hstart | ⟨i, hi, hpending⟩
    · rw [hnone] at hstart
      cases hstart
    · exact ⟨i, hi, hle i hpending⟩
  · have hkept : batch.control b k = batch.table k := by
      apply poke_outside
      rwa [List.length_map, List.length_range]
    refine hkept.trans (h.others k fun i hi => hentries i ?_)
    rwa [maskBit_control batch (Nat.lt_trans i.isLt (by decide))]

/-- A pass that finds nothing to write has read everything back. -/
theorem readBack_of_nothing {pending : Fin vfNumPoints → Bool} {baseControl : Table}
    {batch : Batch} {log : List Event}
    (hready : PassReady b g req desiredKHz pending baseControl log)
    (h : Scanned b desiredKHz (List.finRange vfNumPoints)
      { pending := pending, table := baseControl } batch) (hany : batch.anyPendingWrite = false) :
    ∀ i, req i = true → ReadBack b g desiredKHz log i := by
  intro i hi
  cases hpending : pending i with
  | false => exact hready.settled i hi hpending
  | true =>
    obtain ⟨older, rfl⟩ := hready.last
    exact ⟨h.inside i (List.mem_finRange i) hpending, baseControl, mem_readsSinceSet_cons ..,
      .inl ((h.nothing hany).2.2 i (List.mem_finRange i) hpending)⟩

/-- The readback of a write settles the points it does not leave pending. -/
theorem readBack_of_settled (hinside : ∀ i, req i = true → EntryInside b i) (table : Table)
    (log : List Event) {i : Fin vfNumPoints} (hi : req i = true)
    (h : pendingAfter b g req desiredKHz table i = false) :
    ReadBack b g desiredKHz (.read table :: log) i := by
  refine ⟨hinside i hi, table, mem_readsSinceSet_cons .., ?_⟩
  have hoffset : freqOffsetKHz b table i = entryKHz b table i := if_pos (hinside i hi)
  simp only [pendingAfter, hi, hoffset, Bool.true_and] at h
  by_cases hequal : entryKHz b table i = desiredKHz i
  · exact .inl hequal
  · exact .inr (by simpa [hequal] using h)

/-- The next pass starts from the table that is read again. -/
theorem PassReady.next {table baseControl : Table} {log : List Event}
    (hsets : SetsKeepOthers b req log)
    (hsettled : ∀ i, req i = true → pendingAfter b g req desiredKHz table i = false →
      ReadBack b g desiredKHz log i) :
    PassReady b g req desiredKHz (pendingAfter b g req desiredKHz table) baseControl
      (.read baseControl :: log) where
  last := ⟨log, rfl⟩
  pending_le i hi := by
    simp only [pendingAfter, Bool.and_eq_true] at hi
    exact hi.1.1
  settled i hi hpending := (hsettled i hi hpending).read baseControl
  sets := hsets

theorem setCalls_read (table : Table) (log : List Event) :
    setCalls (.read table :: log) = setCalls log :=
  List.countP_cons_of_neg (by simp [Event.isSet])

theorem setCalls_set (table : Table) (log : List Event) :
    setCalls (.set table :: log) = setCalls log + 1 :=
  List.countP_cons_of_pos rfl

/-- **The passes** write no more often than they may, keep what they do not select, and
answer success for what they have read back. -/
theorem runPasses_done (driver : Driver σ) (hinside : ∀ i, req i = true → EntryInside b i)
    (remaining : Nat) {pending : Fin vfNumPoints → Bool} {baseControl : Table} {run : Run σ}
    (hready : PassReady b g req desiredKHz pending baseControl run.log) :
    PassesDone b g req desiredKHz (setCalls run.log + remaining)
      (runPasses b g driver req desiredKHz remaining pending baseControl run).1
      (runPasses b g driver req desiredKHz remaining pending baseControl run).2.log := by
  induction remaining generalizing pending baseControl run with
  | zero => exact ⟨hready.sets, Nat.le_refl _, nofun⟩
  | succ remaining ih =>
    have hcount : setCalls run.log ≤ setCalls run.log + (remaining + 1) := Nat.le_add_right ..
    rw [runPasses]
    cases hscan : scanPoints b desiredKHz (List.finRange vfNumPoints)
        { pending := pending, table := baseControl } with
    | outside =>
      have hmeets := (scanPoints_outside _ _ (List.nodup_finRange _) fun _ _ => rfl).mp hscan
      obtain ⟨i, ⟨hpending, houtside⟩, -⟩ := (meetsOutside_finRange ..).mp hmeets
      exact absurd (hinside i (hready.pending_le i hpending)) houtside
    | unitsExceeded => exact ⟨hready.sets, hcount, nofun⟩
    | batch batch =>
      have hscanned := scanPoints_batch _ _ (List.nodup_finRange _) hscan
      dsimp only
      cases hany : batch.anyPendingWrite with
      | false => exact ⟨hready.sets, hcount, fun _ => readBack_of_nothing hready hscanned hany⟩
      | true =>
        have hkeeps := keepsOthers_control hready.pending_le hscanned
        obtain ⟨older, hlast⟩ := hready.last
        have hsets : SetsKeepOthers b req (.set (batch.control b) :: run.log) :=
          ⟨⟨baseControl, older, hlast, hkeeps⟩, hready.sets⟩
        simp only [Bool.not_true, Bool.false_eq_true, if_false]
        split
        · exact ⟨hsets, by rw [setCalls_set]; omega, nofun⟩
        · cases hread : readOffsetsWithin b g driver 6
              { state := (driver.setControl (batch.control b) run.state).2
                log := .set (batch.control b) :: run.log } with
          | mk answer next =>
            have hlog := readOffsetsWithin_log 6 hread
            cases answer with
            | none =>
              have hlog : next.log = .set (batch.control b) :: run.log := hlog
              exact ⟨hlog ▸ hsets, by rw [hlog, setCalls_set]; omega, nofun⟩
            | some table =>
              have hlog : next.log = .read table :: .set (batch.control b) :: run.log := hlog
              have hnext : SetsKeepOthers b req next.log := by
                rw [hlog]
                exact hsets
              have hcalls : setCalls next.log = setCalls run.log + 1 := by
                rw [hlog, setCalls_read, setCalls_set]
              have hsettled : ∀ i, req i = true →
                  pendingAfter b g req desiredKHz table i = false →
                    ReadBack b g desiredKHz next.log i := by
                intro i hi hpending
                rw [hlog]
                exact readBack_of_settled hinside table _ hi hpending
              dsimp only
              split
              · rename_i hnone
                exact ⟨hnext, hcalls.trans_le (by omega), fun _ i hi => hsettled i hi (hnone i)⟩
              · cases hagain : nvapiReadControlTable b g driver lbControlBufSize next with
                | mk answer final =>
                  have hfinal := readControlTable_log hagain
                  cases answer with
                  | none =>
                    have hfinal : final.log = next.log := hfinal
                    exact ⟨hfinal ▸ hnext, by rw [hfinal]; omega, nofun⟩
                  | some baseControl =>
                    have hfinal : final.log = .read baseControl :: next.log := hfinal
                    have hfinalCalls : setCalls final.log = setCalls next.log := by
                      rw [hfinal, setCalls_read]
                    have hpass : PassReady b g req desiredKHz
                        (pendingAfter b g req desiredKHz table) baseControl final.log := by
                      rw [hfinal]
                      exact .next hnext hsettled
                    have hdone := ih hpass
                    exact ⟨hdone.sets, hdone.count.trans (by omega), hdone.verified⟩

/-! ## A whole write -/

section
variable (b g driver)

/-- What is wanted of a write: it ends within its passes, touches nothing but what was asked
for, and answers success for what it has read back. -/
structure VerifiedWrite (targetOffsets : Fin vfNumPoints → Int32)
    (pointMask : Fin vfNumPoints → Bool) (maxBatchPasses : Int) (outcome : Bool × Run σ) :
    Prop where
  bounded : (setCalls outcome.2.log : Int) ≤ max maxBatchPasses 1
  sets : SetsKeepOthers b (requested g pointMask) outcome.2.log
  verified : outcome.1 = true → ∀ i, requested g pointMask i = true →
    ReadBack b g (fun i => clampFreqDeltaKHz g (targetOffsets i).toInt) outcome.2.log i

/-- The write gets to its first pass. -/
def Starts (state : σ) : Prop :=
  b.writeSupported = true ∧ driver.hasSetControl = true ∧
    b.controlBufferSize.toNat ≤ lbControlBufSize ∧
      (nvapiReadControlTable b g driver lbControlBufSize { state := state }).1.isSome = true

end

theorem VerifiedWrite.of_empty {targetOffsets : Fin vfNumPoints → Int32}
    {pointMask : Fin vfNumPoints → Bool} {maxBatchPasses : Int} {run : Run σ}
    (hlog : run.log = []) :
    VerifiedWrite b g targetOffsets pointMask maxBatchPasses (false, run) where
  bounded := by
    rw [hlog]
    exact Int.le_trans (by decide) (Int.le_max_right _ _)
  sets := by
    rw [hlog]
    trivial
  verified := nofun

section
variable {targetOffsets : Fin vfNumPoints → Int32} {pointMask : Fin vfNumPoints → Bool}
  {maxBatchPasses : Int}

/-- No point outside of the table is met before a point whose units end the write. -/
def EntriesReached (b : VfBackendSpec) (g : LinuxGpuState)
    (targetOffsets : Fin vfNumPoints → Int32) (pointMask : Fin vfNumPoints → Bool) : Prop :=
  ∀ i, requested g pointMask i = true → ¬EntryInside b i →
    ∃ j < i, requested g pointMask j = true ∧
      vfGraphicsOffsetDriverUnits b (clampFreqDeltaKHz g (targetOffsets j).toInt) = none

/-- The first pass leaves at a point outside of the table exactly then. -/
theorem scan_first (b : VfBackendSpec) (g : LinuxGpuState)
    (targetOffsets : Fin vfNumPoints → Int32) (pointMask : Fin vfNumPoints → Bool)
    (baseControl : Table) :
    scanPoints b (fun i => clampFreqDeltaKHz g (targetOffsets i).toInt)
        (List.finRange vfNumPoints) { pending := requested g pointMask, table := baseControl }
      = .outside ↔ ¬EntriesReached b g targetOffsets pointMask := by
  rw [scanPoints_outside _ _ (List.nodup_finRange _) fun _ _ => rfl, meetsOutside_finRange,
    EntriesReached]
  push Not
  simp only [and_assoc]

/-- The passes of a write that has read its first table. -/
theorem verifiedWrite_passes {baseControl : Table} {run : Run σ}
    (hlog : run.log = [.read baseControl]) :
    VerifiedWrite b g targetOffsets pointMask maxBatchPasses
        (runPasses b g driver (requested g pointMask)
          (fun i => clampFreqDeltaKHz g (targetOffsets i).toInt) (max maxBatchPasses 1).toNat
          (requested g pointMask) baseControl run) ↔
      EntriesReached b g targetOffsets pointMask := by
  obtain ⟨most, hmost⟩ : ∃ most, (max maxBatchPasses 1).toNat = most + 1 :=
    ⟨(max maxBatchPasses 1).toNat - 1, by omega⟩
  have hread : setCalls run.log = 0 := by rw [hlog, setCalls_read]; rfl
  have hsets : SetsKeepOthers b (requested g pointMask) run.log := by rw [hlog]; trivial
  have hoften : ((0 : Nat) : Int) ≤ max maxBatchPasses 1 := by omega
  have hfirst := scan_first b g targetOffsets pointMask baseControl
  cases hscan : scanPoints b (fun i => clampFreqDeltaKHz g (targetOffsets i).toInt)
      (List.finRange vfNumPoints) { pending := requested g pointMask, table := baseControl } with
  | outside =>
    have hnot := hfirst.mp hscan
    refine iff_of_false (fun h => hnot fun i hi houtside => ?_) hnot
    rw [hmost, runPasses, hscan] at h
    exact absurd (h.verified rfl i hi).1 houtside
  | unitsExceeded =>
    have hreached : EntriesReached b g targetOffsets pointMask :=
      not_not.mp fun hnot => by simp [hfirst.mpr hnot] at hscan
    rw [hmost, runPasses, hscan]
    exact iff_of_true ⟨by rw [hread]; exact hoften, hsets, nofun⟩ hreached
  | batch batch =>
    have hreached : EntriesReached b g targetOffsets pointMask :=
      not_not.mp fun hnot => by simp [hfirst.mpr hnot] at hscan
    have hscanned := scanPoints_batch _ _ (List.nodup_finRange _) hscan
    have hready : PassReady b g (requested g pointMask)
        (fun i => clampFreqDeltaKHz g (targetOffsets i).toInt) (requested g pointMask) baseControl
        run.log :=
      { last := ⟨[], hlog⟩
        pending_le := fun _ hi => hi
        settled := fun i hi hpending => by simp [hi] at hpending
        sets := hsets }
    have hinside : ∀ i, requested g pointMask i = true → EntryInside b i :=
      fun i hi => hscanned.inside i (List.mem_finRange i) hi
    have hdone := runPasses_done driver hinside (max maxBatchPasses 1).toNat hready
    refine iff_of_true ⟨?_, hdone.sets, hdone.verified⟩ hreached
    have hcount := hdone.count
    omega

end

/-- **What a write has verified.**  It ends within its passes, touches nothing but what was
asked for, and answers success for what it has read back, if and only if it does not get to
its passes or its loop is not to meet an entry outside of the table. -/
theorem verified_write_law (b : VfBackendSpec) (g : LinuxGpuState) (driver : Driver σ)
    (targetOffsets : Fin vfNumPoints → Int32) (pointMask : Fin vfNumPoints → Bool)
    (maxBatchPasses : Int) (state : σ) :
    VerifiedWrite b g targetOffsets pointMask maxBatchPasses
        (applyCurveOffsetsVerified b g driver targetOffsets pointMask maxBatchPasses state) ↔
      (Starts b g driver state → EntriesReached b g targetOffsets pointMask) := by
  unfold applyCurveOffsetsVerified
  dsimp only
  split
  · rename_i hwrite
    exact iff_of_true (.of_empty rfl) fun hstarts => by simp [hstarts.1] at hwrite
  split
  · rename_i hnone
    refine iff_of_true ?_ fun _ i hi => by simp [hnone i] at hi
    exact ⟨by simp [setCalls], trivial, fun _ i hi => by simp [hnone i] at hi⟩
  split
  · rename_i hset
    exact iff_of_true (.of_empty rfl) fun hstarts => by simp [hstarts.2.1] at hset
  split
  · rename_i hsize
    exact iff_of_true (.of_empty rfl) fun hstarts => absurd hstarts.2.2.1 (Nat.not_le.mpr hsize)
  rename_i hwrite _ hset hsize
  cases hread : nvapiReadControlTable b g driver lbControlBufSize { state := state } with
  | mk answer run =>
    have hlog := readControlTable_log hread
    cases answer with
    | none =>
      refine iff_of_true (.of_empty hlog) fun hstarts => ?_
      have hsome := hstarts.2.2.2
      rw [hread] at hsome
      cases hsome
    | some baseControl =>
      have hstarts : Starts b g driver state := by
        refine ⟨by simpa using hwrite, by simpa using hset, Nat.not_lt.mp hsize, ?_⟩
        rw [hread]
        rfl
      exact (verifiedWrite_passes hlog).trans ⟨fun h _ => h, fun h => h hstarts⟩

/-! ## A layout whose offsets wrap -/

/-- The last entry is inside of the table after 127 strides have wrapped, the second is not. -/
def wrappingLayout : VfBackendSpec where
  readSupported := true
  writeSupported := true
  controlBufferSize := 0x1000
  controlVersion := 1
  controlMaskOffset := 4
  controlEntryBaseOffset := 64
  controlEntryStride := 33818641
  controlEntryDeltaOffset := 0
  graphicsFrequencyScale := 1

/-- All points are populated and in the mask, and no range is known. -/
def plainState : LinuxGpuState where
  curveFreqKHz _ := 1500000
  vfMask _ := 0xFF
  vfInfoFresh := true
  curveOffsetRangeKnown := false
  curveOffsetMinKHz := 0
  curveOffsetMaxKHz := 0
  gpuOffsetMinMHz := 0
  gpuOffsetMaxMHz := 0

/-- It answers every read with the table it was asked with. -/
def echoDriver : Driver Unit where
  hasGetControl := true
  hasSetControl := true
  getControl table _ := (0, table, ())
  setControl _ _ := (0, ())

/-- **Success without a write**: the second point is to be at 100 MHz, nothing is handed back
to the driver, and the answer is success. -/
theorem reported_unwritten :
    let outcome := applyCurveOffsetsVerified wrappingLayout plainState echoDriver
      (fun _ => 100000) (fun i => decide (i = 1)) 2 ()
    outcome.1 = true ∧ setCalls outcome.2.log = 0 ∧
      ¬VerifiedWrite wrappingLayout plainState (fun _ => 100000) (fun i => decide (i = 1)) 2
        outcome := by
  intro outcome
  have hanswer : outcome.1 = true := by decide
  refine ⟨hanswer, by decide, fun h => ?_⟩
  have hinside := (h.verified hanswer 1 (by decide)).1
  exact absurd hinside (by decide)

end GreenCurve.VfWrite
