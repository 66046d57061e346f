import GreenCurve.ManifestLanguage

/-! # Both readers of an envelope

The header in front of the manifest, as both readers take it apart, and the law of the whole
document: at every time the updater accepts what the release tool accepts, with the same
meaning.  What the release tool builds is accepted from five minutes before its date of issue,
the clock skew both sides allow, until it expires. -/

namespace GreenCurve

open Ini (Text)

/-- The text of a number in the header. -/
structure HeaderNumber (digits : Text) (value : Int) : Prop where
  ne_nil : digits ≠ []
  length_le : digits.length ≤ 12
  isDigit : ∀ c ∈ digits, c.isDigit = true
  value_eq : value = Nat.ofDigitChars 10 digits 0

/-- An envelope, its two times and the payload behind its header. -/
def HeaderOf (envelope : Text) (issued expires : Int) (payload : Text) : Prop :=
  ∃ d₁ d₂, HeaderNumber d₁ issued ∧ HeaderNumber d₂ expires ∧
    envelope = "freshness=1\n".toList ++ ("issued=".toList ++ d₁ ++
      '\n' :: ("expires=".toList ++ d₂ ++ '\n' :: payload))

/-- The times both readers accept at `now`. -/
def InWindow (issued expires now : Int) : Prop :=
  0 < issued ∧ issued < expires ∧ expires ≤ issued + 2592000 ∧
    0 < now ∧ issued ≤ now + 300 ∧ now < expires

/-! ## The updater -/

theorem gcUpdateFreshNumber_iff {name t rest : Text} {value : Int} :
    gcUpdateFreshNumber name t = some (value, rest) ↔
      ∃ digits, HeaderNumber digits value ∧ t = name ++ digits ++ '\n' :: rest := by
  rw [gcUpdateFreshNumber_eq_some]
  constructor
  · rintro ⟨digits, ht, hne, hle, hdigits, hvalue⟩
    exact ⟨digits, ⟨hne, hle, hdigits, hvalue⟩, ht⟩
  · rintro ⟨digits, h, ht⟩
    exact ⟨digits, ht, h.ne_nil, h.length_le, h.isDigit, h.value_eq⟩

/-- The header is short enough for the limits of the updater never to bite. -/
theorem HeaderOf.length_le {envelope payload : Text} {issued expires : Int}
    (h : HeaderOf envelope issued expires payload) :
    envelope.length ≤ payload.length + 53 ∧
      envelope.drop (envelope.length - payload.length) = payload := by
  obtain ⟨d₁, d₂, h₁, h₂, rfl⟩ := h
  have hlen₁ := h₁.length_le
  have hlen₂ := h₂.length_le
  constructor
  · have hfront : ∀ t : Text, ("freshness=1\n".toList ++ t).length = 12 + t.length :=
      fun t => List.length_append
    have hissued : ∀ t : Text, ("issued=".toList ++ t).length = 7 + t.length :=
      fun t => List.length_append
    have hexpires : ∀ t : Text, ("expires=".toList ++ t).length = 8 + t.length :=
      fun t => List.length_append
    rw [hfront, List.append_assoc, hissued, List.length_append, List.length_cons,
      List.append_assoc, hexpires, List.length_append, List.length_cons]
    omega
  · have hsplit : "freshness=1\n".toList ++ ("issued=".toList ++ d₁ ++
        '\n' :: ("expires=".toList ++ d₂ ++ '\n' :: payload)) =
        ("freshness=1\n".toList ++ ("issued=".toList ++ d₁ ++
          '\n' :: ("expires=".toList ++ d₂ ++ ['\n']))) ++ payload := by
      simp only [List.append_assoc, List.cons_append, List.nil_append]
    rw [hsplit]
    exact List.drop_left' (Nat.eq_sub_of_add_eq List.length_append.symm)

/-- The header as the updater reads it. -/
theorem freshHeader_eq_some {e payload : Text} {issued expires : Int} :
    (do
      guard (e.length ≤ GC_UPDATE_FRESH_MAX_BYTES)
      let rest ← behind? "freshness=1\n".toList e
      let (issued, rest) ← gcUpdateFreshNumber "issued=".toList rest
      let (expires, rest) ← gcUpdateFreshNumber "expires=".toList rest
      guard (rest ≠ [] ∧ rest.length ≤ GC_UPDATE_MANIFEST_MAX_BYTES)
      return (issued, expires, rest) : Option (Int × Int × Text)) = some (issued, expires, payload) ↔
      HeaderOf e issued expires payload ∧ payload ≠ [] ∧ payload.length ≤ 4096 := by
  simp only [bind, pure, Option.bind_eq_some_iff, behind?_eq_some]
  constructor
  · rintro ⟨_, -, rest, rfl, ⟨i, rest₁⟩, h₁, ⟨x, rest₂⟩, h₂, u, hguard, heq⟩
    cases heq
    obtain ⟨d₁, hd₁, rfl⟩ := gcUpdateFreshNumber_iff.mp h₁
    obtain ⟨d₂, hd₂, hrest⟩ := gcUpdateFreshNumber_iff.mp h₂
    simp only at hrest
    subst hrest
    exact ⟨⟨d₁, d₂, hd₁, hd₂, rfl⟩, (Option.guard_eq_some' u).mp hguard⟩
  · rintro ⟨hheader, hne, hsize⟩
    have hlen := hheader.length_le.1
    have hlen : e.length ≤ 4224 := by omega
    obtain ⟨d₁, d₂, hd₁, hd₂, rfl⟩ := hheader
    exact ⟨(), (Option.guard_eq_some' ()).mpr hlen, _, rfl,
      (issued, _), gcUpdateFreshNumber_iff.mpr ⟨d₁, hd₁, rfl⟩,
      (expires, payload), gcUpdateFreshNumber_iff.mpr ⟨d₂, hd₂, rfl⟩,
      (), (Option.guard_eq_some' ()).mpr ⟨hne, hsize⟩, rfl⟩

theorem gcUpdateFreshParseStatus_eq_ok {e : Text} {now : Int} {fresh : GcUpdateFreshness} :
    gcUpdateFreshParseStatus e now = (.ok, fresh) ↔
      ∃ payload, HeaderOf e fresh.issued fresh.expires payload ∧
        (payload ≠ [] ∧ payload.length ≤ 4096) ∧ InWindow fresh.issued fresh.expires now ∧
        fresh.manifestOffset = e.length - payload.length := by
  unfold gcUpdateFreshParseStatus
  simp only
  split
  case h_1 hnone =>
    constructor
    · exact fun h => nomatch h
    · rintro ⟨payload, hheader, hsize, -⟩
      exact absurd (hnone.symm.trans (freshHeader_eq_some.mpr ⟨hheader, hsize⟩)) (by simp)
  case h_2 issued expires payload hsome =>
    obtain ⟨hheader, hsize⟩ := freshHeader_eq_some.mp hsome
    have hwindow : gcUpdateFreshTimeStatus { issued, expires } now = .ok ↔
        InWindow issued expires now := gcUpdateFreshTimeStatus_eq_ok
    constructor
    · intro h
      split_ifs at h with hstatus
      · exact absurd (congrArg Prod.fst h) hstatus
      · cases h
        exact ⟨payload, hheader, hsize, hwindow.mp (not_not.mp hstatus), rfl⟩
    · rintro ⟨payload', hheader', hsize', hin, hoffset⟩
      have heq := hsome.symm.trans (freshHeader_eq_some.mpr ⟨hheader', hsize'⟩)
      simp only [Option.some.injEq, Prod.mk.injEq] at heq
      obtain ⟨rfl, rfl, rfl⟩ := heq
      rw [if_neg (not_not.mpr (hwindow.mpr hin)), ← hoffset]

/-- **The updater's reader of an envelope.** -/
theorem readEnvelope_eq_some {e : Text} {now : Int} {fresh : GcUpdateFreshness}
    {m : GcUpdateManifest} :
    readEnvelope e now = some (fresh, m) ↔
      ∃ payload, HeaderOf e fresh.issued fresh.expires payload ∧
        InWindow fresh.issued fresh.expires now ∧
        fresh.manifestOffset = e.length - payload.length ∧
        gcUpdateManifestParse payload = .ok m := by
  unfold readEnvelope
  split
  rename_i status fresh' hparse
  constructor
  · intro h
    split_ifs at h with hstatus
    obtain rfl : status = .ok := not_not.mp hstatus
    split at h
    · rename_i manifest hmanifest
      cases h
      obtain ⟨payload, hheader, -, hin, hoffset⟩ := gcUpdateFreshParseStatus_eq_ok.mp hparse
      rw [hoffset, hheader.length_le.2] at hmanifest
      exact ⟨payload, hheader, hin, hoffset, hmanifest⟩
    · cases h
  · rintro ⟨payload, hheader, hin, hoffset, hmanifest⟩
    have hsize := (gcUpdateManifestParse_eq_ok.mp hmanifest).1
    have hok := gcUpdateFreshParseStatus_eq_ok.mpr
      ⟨payload, hheader, ⟨List.length_pos_iff.mp hsize.1, hsize.2⟩, hin, hoffset⟩
    cases hparse.symm.trans hok
    rw [if_neg (not_not.mpr rfl), hoffset, hheader.length_le.2, hmanifest]

/-! ## The release tool -/

/-- The text behind a number in the header is not a digit. -/
theorem numberGroup_eq_some {t rest : Text} {n : Nat}
    (hrest : ∀ c ∈ rest.head?, c.isDigit = false) :
    Tools.numberGroup t = some (n, rest) ↔ ∃ d, HeaderNumber d n ∧ t = d ++ rest := by
  unfold Tools.numberGroup
  constructor
  · intro h
    simp only at h
    split_ifs at h with hlen
    cases h
    exact ⟨t.takeWhile Char.isDigit, ⟨List.length_pos_iff.mp hlen.1, hlen.2,
      fun c hc => List.mem_takeWhile_imp hc, rfl⟩, List.takeWhile_append_dropWhile.symm⟩
  · rintro ⟨d, hd, rfl⟩
    simp only [takeWhile_isDigit_append hd.isDigit hrest, dropWhile_isDigit_append hd.isDigit hrest]
    rw [if_pos ⟨List.length_pos_iff.mpr hd.ne_nil, hd.length_le⟩]
    have hn : n = Tools.int d := Int.ofNat_inj.mp hd.value_eq
    rw [hn]

/-- The header as the release tool's pattern takes it apart. -/
theorem headerMatch_eq_some {e payload : Text} {issued expires : Int} :
    (do
      let t ← behind? "freshness=1\nissued=".toList e
      let (issued, t) ← Tools.numberGroup t
      let t ← behind? "\nexpires=".toList t
      let (expires, t) ← Tools.numberGroup t
      let t ← behind? ['\n'] t
      return ((issued : Int), (expires : Int), t) : Option (Int × Int × Text)) =
        some (issued, expires, payload) ↔ HeaderOf e issued expires payload := by
  simp only [bind, pure, Option.bind_eq_some_iff, behind?_eq_some]
  constructor
  · rintro ⟨t, rfl, ⟨i, t₁⟩, h₁, t₂, ht₁, ⟨x, t₃⟩, h₃, t₄, ht₃, heq⟩
    cases heq
    simp only at ht₁ h₃ ht₃
    subst ht₁ ht₃
    obtain ⟨d₁, hd₁, rfl⟩ := (numberGroup_eq_some (by rintro c ⟨⟩; rfl)).mp h₁
    obtain ⟨d₂, hd₂, rfl⟩ := (numberGroup_eq_some (by rintro c ⟨⟩; rfl)).mp h₃
    refine ⟨d₁, d₂, hd₁, hd₂, ?_⟩
    simp only [List.append_assoc]
    rfl
  · rintro ⟨d₁, d₂, hd₁, hd₂, rfl⟩
    obtain ⟨i, rfl⟩ : ∃ i : Nat, issued = i := ⟨_, hd₁.value_eq⟩
    obtain ⟨x, rfl⟩ : ∃ x : Nat, expires = x := ⟨_, hd₂.value_eq⟩
    refine ⟨d₁ ++ '\n' :: ("expires=".toList ++ d₂ ++ '\n' :: payload), ?_,
      (i, "\nexpires=".toList ++ (d₂ ++ '\n' :: payload)), ?_, d₂ ++ '\n' :: payload, rfl,
      (x, '\n' :: payload), (numberGroup_eq_some (by rintro c ⟨⟩; rfl)).mpr ⟨d₂, hd₂, rfl⟩,
      payload, rfl, rfl⟩
    · simp only [List.append_assoc]
      rfl
    · refine (numberGroup_eq_some (by rintro c ⟨⟩; rfl)).mpr ⟨d₁, hd₁, ?_⟩
      simp only [List.append_assoc]
      rfl

/-- **The release tool's reader of an envelope.** -/
theorem readHeader_eq_ok {e payload : Text} {issued expires : Int} :
    Tools.readHeader e = .ok (issued, expires, payload) ↔
      HeaderOf e issued expires payload ∧
        0 < issued ∧ issued < expires ∧ expires ≤ issued + 2592000 := by
  rw [← headerMatch_eq_some]
  unfold Tools.readHeader
  simp only
  split
  case h_1 hnone =>
    rw [hnone]
    simp
  case h_2 i x p hsome =>
    rw [hsome]
    simp only [Option.some.injEq, Prod.mk.injEq]
    constructor
    · intro h
      split_ifs at h with hlife
      cases h
      exact ⟨⟨rfl, rfl, rfl⟩, hlife⟩
    · rintro ⟨⟨rfl, rfl, rfl⟩, hlife⟩
      exact if_pos hlife

theorem unwrap_eq_ok {e payload : Text} {now : Int} :
    Tools.unwrap e now = .ok payload ↔
      ∃ issued expires, HeaderOf e issued expires payload ∧ InWindow issued expires now := by
  unfold Tools.unwrap
  rw [bind_eq_ok]
  constructor
  · rintro ⟨⟨issued, expires, p⟩, hread, h⟩
    obtain ⟨hheader, hpos, horder, hlife⟩ := readHeader_eq_ok.mp hread
    simp only at h
    split_ifs at h with hnow
    cases h
    exact ⟨issued, expires, hheader, hpos, horder, hlife, hnow⟩
  · rintro ⟨issued, expires, hheader, hpos, horder, hlife, hnow⟩
    refine ⟨(issued, expires, payload), readHeader_eq_ok.mpr ⟨hheader, hpos, horder, hlife⟩, ?_⟩
    exact if_pos hnow

/-- An envelope has one reading. -/
theorem HeaderOf.unique {e p p' : Text} {i i' x x' : Int} (h : HeaderOf e i x p)
    (h' : HeaderOf e i' x' p') : i = i' ∧ x = x' ∧ p = p' := by
  have heq := (headerMatch_eq_some.mpr h).symm.trans (headerMatch_eq_some.mpr h')
  simpa only [Option.some.injEq, Prod.mk.injEq] using heq

/-! ## The release tool's builders -/

theorem headerNumber_printInt {value : Int} (hpos : 0 ≤ value) (hmax : value < 10 ^ 12) :
    HeaderNumber (printInt value) value := by
  obtain ⟨n, rfl⟩ := Int.eq_ofNat_of_zero_le hpos
  have hn : n < 10 ^ 12 := by exact_mod_cast hmax
  exact ⟨Nat.toDigits_ne_nil, (Nat.length_toDigits_le_iff (by decide) (by decide)).mpr hn,
    isDigit_toDigits n, congrArg Nat.cast Nat.ofDigitChars_ten_toDigits.symm⟩

/-- The header the release tool writes declares its date of issue and its expiry. -/
theorem headerOf_buildEnvelope {manifest envelope : Text} {issued : Int}
    (h : Tools.buildEnvelope manifest issued = .ok envelope) :
    HeaderOf envelope issued (issued + 2592000) manifest ∧ 0 < issued := by
  unfold Tools.buildEnvelope at h
  split_ifs at h with hissued
  cases h
  have hmax : issued < 10 ^ 12 - 2592000 := hissued.2
  refine ⟨⟨printInt issued, printInt (issued + 2592000), headerNumber_printInt hissued.1.le ?_,
    headerNumber_printInt ?_ ?_, ?_⟩, hissued.1⟩
  · omega
  · have := hissued.1
    omega
  · omega
  · simp only [List.append_assoc]
    rfl

/-- What is rendered is published only if it reads. -/
theorem parse_of_rendered {ε : Type} {x64 arm64 : Except ε (List Text)} {empty : Prop}
    [Decidable empty] {message : ε} {render : List Text → List Text → Text} {manifest : Text}
    {parse : Text → Except ε Tools.Entries}
    (h : (do
      let x64Lines ← x64
      let arm64Lines ← arm64
      if empty then .error message
      else
        let _ ← parse (render x64Lines arm64Lines)
        return render x64Lines arm64Lines) = .ok manifest) :
    ∃ entries, parse manifest = .ok entries := by
  obtain ⟨x64Lines, -, h⟩ := bind_eq_ok.mp h
  obtain ⟨arm64Lines, -, h⟩ := bind_eq_ok.mp h
  split_ifs at h
  obtain ⟨entries, hentries, h⟩ := bind_eq_ok.mp h
  rw [← Except.ok.inj h]
  exact ⟨entries, hentries⟩

/-- The release tool publishes only what its own reader accepts. -/
theorem parse_of_buildManifest {version manifest : Text} {x64 arm64 : Option Tools.SetupFile}
    {minimumFrom : Option Text}
    (h : Tools.buildManifest version x64 arm64 minimumFrom = .ok manifest) :
    ∃ entries, Tools.parseManifest manifest = .ok entries := by
  unfold Tools.buildManifest at h
  obtain ⟨_, -, h⟩ := bind_eq_ok.mp h
  by_cases hmin : minimumFrom.isSome = true
  · simp only [if_pos hmin] at h
    obtain ⟨_, -, h⟩ := bind_eq_ok.mp h
    exact parse_of_rendered h
  · simp only [if_neg hmin] at h
    exact parse_of_rendered h

/-! ## One language -/

theorem writesEntries_unique {payload : Text} {entries entries' : Tools.Entries}
    (h : WritesEntries payload entries) (h' : WritesEntries payload entries') : entries = entries' := by
  unfold WritesEntries at h h'
  generalize (manifestLines payload).filterMap fieldLine = lines at h h'
  induction h generalizing entries' with
  | nil => exact (List.forall₂_nil_left_iff.mp h').symm
  | cons hline _ ih =>
    obtain ⟨e, rest, he, hrest, rfl⟩ := List.forall₂_cons_left_iff.mp h'
    rw [ih hrest, Option.some.inj (hline.symm.trans he)]

/-- A reading of the updater and a reading of the release tool come from one payload. -/
theorem agree_of_readings {e : Text} {now : Int} {fresh : GcUpdateFreshness}
    {m : GcUpdateManifest} {entries : Tools.Entries} (hc : readEnvelope e now = some (fresh, m))
    (hpy : (Tools.unwrap e now >>= Tools.parseManifest) = .ok entries) :
    ManifestAgrees entries m := by
  obtain ⟨payload, hheader, -, -, hparse⟩ := readEnvelope_eq_some.mp hc
  obtain ⟨payload', hunwrap, hparse'⟩ := bind_eq_ok.mp hpy
  obtain ⟨i, x, hheader', -⟩ := unwrap_eq_ok.mp hunwrap
  obtain ⟨-, -, rfl⟩ := hheader.unique hheader'
  obtain ⟨-, entries', hwrites', hagrees⟩ := gcUpdateManifestParse_eq_ok.mp hparse
  obtain ⟨-, hwrites, -⟩ := parseManifest_eq_ok.mp hparse'
  rwa [writesEntries_unique hwrites hwrites']

/-- **The two readers accept the same envelopes at the same times, with the same meaning, and
what the release tool builds is accepted from the clock skew before its date of issue until it
expires.** -/
theorem release_readers_agree (e : Text) (now : Int) :
    ((∃ fresh m, readEnvelope e now = some (fresh, m)) ↔
      ∃ entries, (Tools.unwrap e now >>= Tools.parseManifest) = .ok entries) ∧
    (∀ fresh m entries, readEnvelope e now = some (fresh, m) →
      (Tools.unwrap e now >>= Tools.parseManifest) = .ok entries → ManifestAgrees entries m) ∧
    (∀ version x64 arm64 minimumFrom manifest issued,
      Tools.buildManifest version x64 arm64 minimumFrom = .ok manifest →
      Tools.buildEnvelope manifest issued = .ok e →
      Tools.readHeader e = .ok (issued, issued + Tools.MAX_LIFETIME, manifest) ∧
      ((∃ fresh m, readEnvelope e now = some (fresh, m)) ↔
        0 < now ∧ issued - GC_UPDATE_FRESH_CLOCK_SKEW ≤ now ∧ now < issued + Tools.MAX_LIFETIME)) := by
  refine ⟨?_, fun fresh m entries => agree_of_readings,
    fun version x64 arm64 minimumFrom manifest issued hmanifest henvelope => ?_⟩
  · constructor
    · rintro ⟨fresh, m, h⟩
      obtain ⟨payload, hheader, hwindow, -, hparse⟩ := readEnvelope_eq_some.mp h
      obtain ⟨hsize, entries, hwrites, hagrees⟩ := gcUpdateManifestParse_eq_ok.mp hparse
      exact ⟨entries, bind_eq_ok.mpr ⟨payload, unwrap_eq_ok.mpr ⟨_, _, hheader, hwindow⟩,
        parseManifest_eq_ok.mpr ⟨hsize, hwrites, m, hagrees⟩⟩⟩
    · rintro ⟨entries, h⟩
      obtain ⟨payload, hunwrap, hparse⟩ := bind_eq_ok.mp h
      obtain ⟨issued, expires, hheader, hwindow⟩ := unwrap_eq_ok.mp hunwrap
      obtain ⟨hsize, hwrites, m, hagrees⟩ := parseManifest_eq_ok.mp hparse
      exact ⟨⟨issued, expires, _⟩, m, readEnvelope_eq_some.mpr ⟨payload, hheader, hwindow, rfl,
        gcUpdateManifestParse_eq_ok.mpr ⟨hsize, entries, hwrites, hagrees⟩⟩⟩
  · obtain ⟨hheader, hpos⟩ := headerOf_buildEnvelope henvelope
    obtain ⟨entries, hentries⟩ := parse_of_buildManifest hmanifest
    obtain ⟨hsize, hwrites, m, hagrees⟩ := parseManifest_eq_ok.mp hentries
    have hlife : 0 < issued ∧ issued < issued + 2592000 ∧ issued + 2592000 ≤ issued + 2592000 := by
      omega
    refine ⟨readHeader_eq_ok.mpr ⟨hheader, hlife⟩, ?_⟩
    change _ ↔ 0 < now ∧ issued - 300 ≤ now ∧ now < issued + 2592000
    constructor
    · rintro ⟨fresh, m', h⟩
      obtain ⟨payload, hheader', hwindow, -⟩ := readEnvelope_eq_some.mp h
      obtain ⟨hi, hx, -⟩ := hheader'.unique hheader
      rw [hi, hx] at hwindow
      obtain ⟨-, -, -, hnow, hskew, hexpired⟩ := hwindow
      exact ⟨hnow, by omega, hexpired⟩
    · rintro ⟨hnow, hskew, hexpired⟩
      have hwindow : InWindow issued (issued + 2592000) now :=
        ⟨hlife.1, hlife.2.1, hlife.2.2, hnow, by omega, hexpired⟩
      exact ⟨⟨issued, issued + 2592000, _⟩, m, readEnvelope_eq_some.mpr ⟨manifest, hheader, hwindow,
        rfl, gcUpdateManifestParse_eq_ok.mpr ⟨hsize, entries, hwrites, hagrees⟩⟩⟩

/-- An envelope that the release tool builds, and that is accepted before its date of issue. -/
theorem earlyRelease : ∃ manifest envelope,
    Tools.buildManifest "1.2".toList (some ⟨1, List.replicate 64 '0'⟩) none none = .ok manifest ∧
      Tools.buildEnvelope manifest 1000 = .ok envelope ∧
      (readEnvelope envelope 700).isSome = true := by
  have hearly : (do
      let manifest ← Tools.buildManifest "1.2".toList (some ⟨1, List.replicate 64 '0'⟩) none none
      let envelope ← Tools.buildEnvelope manifest 1000
      return (readEnvelope envelope 700).isSome : Except String Bool) = .ok true := by decide +kernel
  obtain ⟨manifest, hmanifest, hrest⟩ := bind_eq_ok.mp hearly
  obtain ⟨envelope, henvelope, hsome⟩ := bind_eq_ok.mp hrest
  exact ⟨manifest, envelope, hmanifest, henvelope, Except.ok.inj hsome⟩

/-- An envelope the release tool builds, at a time before its date of issue. -/
theorem release_readers_agree_early : ∃ manifest envelope,
    Tools.buildManifest "1.2".toList (some ⟨1, List.replicate 64 '0'⟩) none none = .ok manifest ∧
      Tools.buildEnvelope manifest 1000 = .ok envelope ∧
      ∃ fresh m, readEnvelope envelope 700 = some (fresh, m) := by
  obtain ⟨manifest, envelope, hmanifest, henvelope, -⟩ := earlyRelease
  have hwindow := (release_readers_agree envelope 700).2.2 _ _ _ _ _ _ hmanifest henvelope
  exact ⟨manifest, envelope, hmanifest, henvelope, hwindow.2.mpr (by decide)⟩

/-- **The window is wider than the one an envelope declares**: by the clock skew the updater
allows, an envelope is accepted before it was issued. -/
theorem release_window_opens_early : ¬∀ version x64 arm64 minimumFrom manifest issued envelope now,
    0 < now → Tools.buildManifest version x64 arm64 minimumFrom = .ok manifest →
      Tools.buildEnvelope manifest issued = .ok envelope →
      ((∃ fresh m, readEnvelope envelope now = some (fresh, m)) ↔
        issued ≤ now ∧ now < issued + Tools.MAX_LIFETIME) := by
  intro h
  obtain ⟨manifest, envelope, hmanifest, henvelope, hsome⟩ := earlyRelease
  obtain ⟨⟨fresh, m⟩, hread⟩ := Option.isSome_iff_exists.mp hsome
  have hwindow := (h _ _ _ _ _ _ _ 700 (by decide) hmanifest henvelope).mp ⟨fresh, m, hread⟩
  exact absurd hwindow.1 (by decide)

end GreenCurve
