import GreenCurve.ManifestReaders
import Mathlib.Tactic.IntervalCases

/-! # The language of the manifest

`ManifestAgrees` says what a manifest means, as a relation between its entries and the record
the updater holds.  Each reader accepts a list of entries exactly where some record agrees with
it, and the updater returns that record, so the two readers accept the same documents. -/

namespace GreenCurve

open Ini (Text)

/-- An asset as the entries of its architecture write it: the file bound to the version and
the architecture, the size in range and not wrapped, the digest in lower case. -/
structure AssetPresent (entries : Tools.Entries) (version : Text) (arch : GcUpdateArch)
    (asset : GcUpdateAsset) : Prop where
  file : entries.lookup (assetKey arch "file") = some asset.file
  name : asset.file = Tools.assetName version (gcUpdateArchName arch)
  size : ∃ text, entries.lookup (assetKey arch "size") = some text ∧ Tools.isSize text = true ∧
    asset.size = Tools.int text ∧ asset.size ≤ Tools.MAX_ASSET_BYTES
  sha256 : entries.lookup (assetKey arch "sha256") = some asset.sha256
  digest : asset.sha256.length = 64 ∧ asset.sha256.all isLowerHex = true

/-- All three fields of an architecture or none. -/
def AssetAgrees (entries : Tools.Entries) (version : Text) (arch : GcUpdateArch) :
    Option GcUpdateAsset → Prop
  | some asset => AssetPresent entries version arch asset
  | none => ∀ field ∈ ["file", "size", "sha256"], entries.lookup (assetKey arch field) = none

/-- **What a manifest means**: the record of the entries, each known and none twice. -/
structure ManifestAgrees (entries : Tools.Entries) (m : GcUpdateManifest) : Prop where
  known : ∀ e ∈ entries, e.1 ∈ Tools.allowed
  nodup : (keys entries).Nodup
  format : entries.lookup "format".toList = some ['1']
  version : entries.lookup "version".toList = some m.version.text
  versionReads : m.version.Reads m.version.text
  minimumFrom : entries.lookup "min_from".toList = m.minimumFrom.map GcUpdateVersion.text
  minimumReads : ∀ floor ∈ m.minimumFrom, floor.Reads floor.text
  x64 : AssetAgrees entries m.version.text .x64 m.x64
  arm64 : AssetAgrees entries m.version.text .arm64 m.arm64
  described : m.x64.isSome ∨ m.arm64.isSome

/-! ## The updater -/

/-- Neither the key nor the value of an acceptable entry is empty. -/
theorem ne_nil_of_accepted {e : Text × Text} (h : Accepted e) : e.1 ≠ [] ∧ e.2 ≠ [] := by
  constructor
  · intro hnil
    have hmem : e.1 ∈ Tools.allowed := mem_allowed_of_accepted h
    rw [hnil] at hmem
    exact absurd hmem (by decide)
  · intro hnil
    unfold Accepted valueAccepted at h
    rw [hnil] at h
    split_ifs at h <;> exact absurd h (by decide)

theorem head?_takeWhile_equals {line : Text} (hne : line ≠ []) :
    line.head? = some '=' ↔ line.takeWhile (· ≠ '=') = [] := by
  cases line with
  | nil => exact absurd rfl hne
  | cons c rest =>
    by_cases hc : c = '='
    · simp [hc]
    · simp [hc]

/-- The updater's line step adds the entry the line writes. -/
theorem manifestLine_scans : ScansFields manifestLine fieldsOf (fun _ e => Accepted e) Accepted := by
  refine .of_lines (fun out raw hraw => ?_) fun entries raw line out _ hentries hraw => ?_
  · unfold fieldLine at hraw
    split_ifs at hraw with hskip
    unfold manifestLine
    by_cases hnil : stripCr raw = []
    · simp only [if_pos hnil]
    · simp only [if_neg hnil, if_pos (hskip.resolve_left hnil)]
  · obtain ⟨rfl, hskip⟩ := fieldLine_eq_some.mp hraw
    push Not at hskip
    simp only [manifestLine, if_neg hskip.1, if_neg hskip.2, readField_eq_some]
    split_ifs with hlong hnul hbad hempty
    · constructor
      · exact fun h => nomatch h
      · rintro ⟨e, ⟨hlen, -⟩, -⟩
        exact absurd hlen (Nat.not_lt.mpr hlong)
    · constructor
      · exact fun h => nomatch h
      · rintro ⟨e, ⟨-, hno, -⟩, -⟩
        exact absurd hnul hno
    · constructor
      · exact fun h => nomatch h
      · rintro ⟨e, ⟨-, -, hequals, rfl⟩, -, haccepted, -⟩
        rcases hbad with hno | hhead
        · exact absurd hequals hno
        · exact absurd ((head?_takeWhile_equals hskip.1).mp hhead) (ne_nil_of_accepted haccepted).1
    · constructor
      · exact fun h => nomatch h
      · rintro ⟨e, ⟨-, -, -, rfl⟩, -, haccepted, -⟩
        exact absurd hempty (ne_nil_of_accepted haccepted).2
    · push Not at hlong hbad
      rw [manifestField_eq_ok hentries]
      constructor
      · rintro ⟨haccepted, hnew, rfl⟩
        exact ⟨_, ⟨hlong, hnul, hbad.1, rfl⟩, hnew, haccepted, rfl⟩
      · rintro ⟨e, ⟨-, -, -, rfl⟩, hnew, haccepted, rfl⟩
        exact ⟨haccepted, hnew, rfl⟩

theorem length_assetName (version arch : Text) :
    (Tools.assetName version arch).length = 11 + version.length + 9 + arch.length + 10 := by
  show ("greencurve-".toList ++ version ++ "-windows-".toList ++ arch ++
    "-setup.exe".toList).length = _
  rw [List.length_append, List.length_append, List.length_append, List.length_append]
  rfl

/-- The name the updater builds for an asset always fits its buffer. -/
theorem gcUpdateExpectedAssetName_eq {version : Text} (hversion : Tools.isVersion version = true)
    {arch : GcUpdateArch} (harch : arch ∈ archs) :
    gcUpdateExpectedAssetName version arch =
      some (Tools.assetName version (gcUpdateArchName arch)) := by
  obtain ⟨hne, hlen⟩ := length_of_isVersion hversion
  have hname : gcUpdateArchName arch ≠ [] ∧ (gcUpdateArchName arch).length ≤ 5 := by
    rcases List.mem_pair.mp harch with rfl | rfl <;> decide
  have hshort : (Tools.assetName version (gcUpdateArchName arch)).length < 128 := by
    rw [length_assetName]
    omega
  simp only [gcUpdateExpectedAssetName, bind, pure, Option.bind_eq_some_iff]
  exact ⟨(), (Option.guard_eq_some' ()).mpr ⟨hne, hname.1⟩, (),
    (Option.guard_eq_some' ()).mpr hshort, rfl⟩

theorem assetPresent_iff {entries : Tools.Entries} {version : Text} {arch : GcUpdateArch}
    {asset : GcUpdateAsset} :
    AssetPresent entries version arch asset ↔
      assetOf entries arch = ⟨some asset.file, some asset.size, some asset.sha256⟩ ∧
        asset.file = Tools.assetName version (gcUpdateArchName arch) := by
  simp only [assetOf, AssetFields.mk.injEq, Option.bind_eq_some_iff, gcUpdateParseSize_eq_some,
    gcUpdateParseSha256_eq_some]
  constructor
  · intro h
    obtain ⟨text, htext, hsize, hint, hmax⟩ := h.size
    exact ⟨⟨h.file, ⟨text, htext, hsize, hint ▸ hmax, hint⟩, _, h.sha256, h.digest.1, h.digest.2,
      rfl⟩, h.name⟩
  · rintro ⟨⟨hfile, ⟨text, htext, hsize, hmax, hint⟩, sha, hsha, hlen, hall, rfl⟩, hname⟩
    exact ⟨hfile, hname, ⟨text, htext, hsize, hint, hint ▸ hmax⟩, hsha, hlen, hall⟩

theorem assetAbsent_iff {entries : Tools.Entries} (hentries : ∀ e ∈ entries, Accepted e)
    {arch : GcUpdateArch} (harch : arch ∈ archs) :
    (∀ field ∈ ["file", "size", "sha256"], entries.lookup (assetKey arch field) = none) ↔
      assetOf entries arch = ⟨none, none, none⟩ := by
  have hsize : ((entries.lookup (assetKey arch "size")).bind gcUpdateParseSize).isSome = true ↔
      (entries.lookup (assetKey arch "size")).isSome = true := by
    rw [lookup_isSome_iff_mem_keys]
    exact isSome_bind_lookup hentries fun v hv => (valueAccepted_size harch v).symm.trans hv
  have hsha : ((entries.lookup (assetKey arch "sha256")).bind gcUpdateParseSha256).isSome = true ↔
      (entries.lookup (assetKey arch "sha256")).isSome = true := by
    rw [lookup_isSome_iff_mem_keys]
    exact isSome_bind_lookup hentries fun v hv => (valueAccepted_sha256 harch v).symm.trans hv
  simp only [List.forall_mem_cons, List.not_mem_nil, false_implies, implies_true, and_true,
    assetOf, AssetFields.mk.injEq, ← Option.not_isSome_iff_eq_none, hsize, hsha]

/-- A finished asset is exactly what its entries say. -/
theorem finishAsset_eq_ok {entries : Tools.Entries} (hentries : ∀ e ∈ entries, Accepted e)
    {version : GcUpdateVersion} (hversion : Tools.isVersion version.text = true)
    {arch : GcUpdateArch} (harch : arch ∈ archs) {asset : Option GcUpdateAsset} :
    finishAsset version arch (assetOf entries arch) = .ok asset ↔
      AssetAgrees entries version.text arch asset := by
  have hagrees : AssetAgrees entries version.text arch asset ↔
      match asset with
      | none => assetOf entries arch = ⟨none, none, none⟩
      | some a => assetOf entries arch = ⟨some a.file, some a.size, some a.sha256⟩ ∧
          a.file = Tools.assetName version.text (gcUpdateArchName arch) := by
    cases asset with
    | none => exact assetAbsent_iff hentries harch
    | some a => exact assetPresent_iff
  rw [hagrees]
  unfold finishAsset
  split
  case h_1 fields hfields =>
    cases asset <;> simp [hfields]
  case h_2 fields file size sha hfields =>
    simp only [gcUpdateExpectedAssetName_eq hversion harch, Option.some.injEq, hfields]
    cases asset with
    | none => split_ifs <;> simp
    | some a =>
      rcases a with ⟨file', size', sha'⟩
      split_ifs with hname
      · simp only [Except.ok.injEq, Option.some.injEq, GcUpdateAsset.mk.injEq, AssetFields.mk.injEq]
        constructor
        · rintro ⟨rfl, rfl, rfl⟩
          exact ⟨⟨rfl, rfl, rfl⟩, hname.symm⟩
        · rintro ⟨⟨rfl, rfl, rfl⟩, -⟩
          exact ⟨rfl, rfl, rfl⟩
      · simp only [Option.some.injEq, AssetFields.mk.injEq, false_iff]
        rintro ⟨⟨rfl, -⟩, heq⟩
        exact hname heq.symm
  case h_3 fields hnone hsome =>
    constructor
    · exact fun h => nomatch h
    · intro h
      cases asset with
      | none => exact absurd h hnone
      | some a => exact absurd h.1 (hsome _ _ _)

/-! ## One meaning -/

theorem isVersion_of_reads {v : GcUpdateVersion} (h : v.Reads v.text) :
    Tools.isVersion v.text = true := h.accepted

/-- Nine decimal digits and the dot are all a version has. -/
theorem acceptable_of_mem_version {version : Text} (hversion : Tools.isVersion version = true) :
    ∀ c ∈ version, (decide (' ' ≤ c) && c != '\x7f' && !("/\\:*?\"<>|".toList.contains c)) = true := by
  intro c hc
  rcases mem_of_isVersion hversion c hc with hdigit | rfl
  · have hlow : 48 ≤ c.toNat := (Char.isDigit_iff_toNat.mp hdigit).1
    have hhigh : c.toNat ≤ 57 := (Char.isDigit_iff_toNat.mp hdigit).2
    rw [← Char.ofNat_toNat c]
    interval_cases c.toNat <;> decide
  · decide

/-- The name of an asset of a version is acceptable as a file name. -/
theorem assetName_acceptable {version : Text} (hversion : Tools.isVersion version = true)
    {arch : GcUpdateArch} (harch : arch ∈ archs) :
    gcUpdateAssetNameIsAcceptable (Tools.assetName version (gcUpdateArchName arch)) = true := by
  obtain ⟨-, hlen⟩ := length_of_isVersion hversion
  have hname : (gcUpdateArchName arch).length ≤ 5 ∧ (gcUpdateArchName arch).all (fun c =>
      decide (' ' ≤ c) && c != '\x7f' && !("/\\:*?\"<>|".toList.contains c)) = true := by
    rcases List.mem_pair.mp harch with rfl | rfl <;> decide
  have hshort : (Tools.assetName version (gcUpdateArchName arch)).length < 128 := by
    rw [length_assetName]
    omega
  have hlast : (Tools.assetName version (gcUpdateArchName arch)).getLast? = some 'e' := by
    show (("greencurve-".toList ++ version ++ "-windows-".toList ++ gcUpdateArchName arch) ++
      "-setup.exe".toList).getLast? = _
    rw [List.getLast?_append]
    rfl
  have hhead : (Tools.assetName version (gcUpdateArchName arch)).head? = some 'g' := rfl
  rw [gcUpdateAssetNameIsAcceptable, Bool.and_eq_true, decide_eq_true_eq, hlast, hhead]
  refine ⟨?_, fun hnil => ?_, hshort, by decide, by decide, by decide⟩
  · show ("greencurve-".toList ++ version ++ "-windows-".toList ++ gcUpdateArchName arch ++
      "-setup.exe".toList).all _ = true
    rw [List.all_append, List.all_append, List.all_append, List.all_append, hname.2,
      List.all_eq_true.mpr (acceptable_of_mem_version hversion)]
    decide
  · rw [hnil] at hhead
    cases hhead

theorem bind_parse_eq_some {text? : Option Text} {v : GcUpdateVersion} :
    text?.bind gcUpdateVersionParse = some v ↔ text? = some v.text ∧ v.Reads v.text := by
  rw [Option.bind_eq_some_iff]
  simp only [gcUpdateVersionParse_eq_some]
  constructor
  · rintro ⟨text, htext, hreads⟩
    have heq := hreads.text_eq
    subst heq
    exact ⟨htext, hreads⟩
  · rintro ⟨htext, hreads⟩
    exact ⟨v.text, htext, hreads⟩

/-- An optional version that was read, or was absent. -/
theorem minimumFrom_iff {entries : Tools.Entries} (hentries : ∀ e ∈ entries, Accepted e)
    {floor : Option GcUpdateVersion} :
    (entries.lookup "min_from".toList).bind gcUpdateVersionParse = floor ↔
      entries.lookup "min_from".toList = floor.map GcUpdateVersion.text ∧
        ∀ v ∈ floor, v.Reads v.text := by
  cases floor with
  | some v =>
    rw [bind_parse_eq_some]
    simp
  | none =>
    have hseen : ((entries.lookup "min_from".toList).bind gcUpdateVersionParse).isSome = true ↔
        (entries.lookup "min_from".toList).isSome = true := by
      rw [lookup_isSome_iff_mem_keys]
      exact isSome_bind_lookup hentries fun v hv => by rwa [isSome_gcUpdateVersionParse]
    rw [← Option.not_isSome_iff_eq_none, hseen, Option.not_isSome_iff_eq_none]
    simp

/-- Each field of an asset that means something is acceptable on its own. -/
theorem AssetAgrees.accepted {entries : Tools.Entries} (hnodup : (keys entries).Nodup)
    {version : Text} (hversion : Tools.isVersion version = true) {arch : GcUpdateArch}
    (harch : arch ∈ archs) {asset : Option GcUpdateAsset}
    (h : AssetAgrees entries version arch asset) {field : String}
    (hfield : field ∈ ["file", "size", "sha256"]) {e : Text × Text} (he : e ∈ entries)
    (hkey : e.1 = assetKey arch field) : Accepted e := by
  have hlookup : entries.lookup (assetKey arch field) = some e.2 := hkey ▸ lookup_of_mem hnodup he
  cases asset with
  | none => exact absurd (hlookup.symm.trans (h field hfield)) (by simp)
  | some a =>
    have h : AssetPresent entries version arch a := h
    unfold Accepted
    simp only [List.mem_cons, List.not_mem_nil, or_false] at hfield
    rcases hfield with rfl | rfl | rfl
    · have hvalue : e.2 = Tools.assetName version (gcUpdateArchName arch) :=
        (Option.some.inj (hlookup.symm.trans h.file)).trans h.name
      have hshort : e.2.length < 128 := by
        obtain ⟨-, hlen⟩ := length_of_isVersion hversion
        have hname : (gcUpdateArchName arch).length ≤ 5 := by
          rcases List.mem_pair.mp harch with rfl | rfl <;> decide
        rw [hvalue, length_assetName]
        omega
      have hgood := assetName_acceptable hversion harch
      have hne : e.2 ≠ [] := by
        intro hnil
        rw [← hvalue, hnil] at hgood
        cases hgood
      rw [hkey, valueAccepted_file harch, Bool.and_eq_true, decide_eq_true_eq, gcUpdateCopyValue,
        if_pos ⟨hne, hshort⟩, hvalue]
      exact ⟨rfl, hgood⟩
    · obtain ⟨text, htext, hsize, hint, hmax⟩ := h.size
      have hvalue : e.2 = text := Option.some.inj (hlookup.symm.trans htext)
      rw [hkey, valueAccepted_size harch, hvalue, Option.isSome_iff_exists]
      exact ⟨a.size, gcUpdateParseSize_eq_some.mpr ⟨hsize, hint ▸ hmax, hint⟩⟩
    · have hvalue : e.2 = a.sha256 := Option.some.inj (hlookup.symm.trans h.sha256)
      rw [hkey, valueAccepted_sha256 harch, hvalue, Option.isSome_iff_exists]
      exact ⟨a.sha256, gcUpdateParseSha256_eq_some.mpr ⟨h.digest.1, h.digest.2, rfl⟩⟩

/-- Each entry of a manifest that means something is acceptable on its own. -/
theorem ManifestAgrees.accepted {entries : Tools.Entries} {m : GcUpdateManifest}
    (h : ManifestAgrees entries m) : ∀ e ∈ entries, Accepted e := by
  intro e he
  have hversion := isVersion_of_reads h.versionReads
  have hlookup := lookup_of_mem h.nodup he
  have hknown := h.known e he
  rw [allowed_eq] at hknown
  simp only [List.mem_cons, List.not_mem_nil, or_false] at hknown
  rcases hknown with hk | hk | hk | hk | hk | hk | hk | hk | hk
  · rw [hk, h.format] at hlookup
    rw [Accepted, hk, valueAccepted_format, ← Option.some.inj hlookup]
    rfl
  · rw [hk, h.version] at hlookup
    rw [Accepted, hk, valueAccepted_version, ← Option.some.inj hlookup]
    exact hversion
  · rw [hk, h.minimumFrom] at hlookup
    obtain ⟨floor, hfloor, htext⟩ := Option.map_eq_some_iff.mp hlookup
    rw [Accepted, hk, valueAccepted_minFrom, ← htext]
    exact isVersion_of_reads (h.minimumReads floor hfloor)
  · exact h.x64.accepted h.nodup hversion (by decide) (by decide) he hk
  · exact h.x64.accepted h.nodup hversion (by decide) (by decide) he hk
  · exact h.x64.accepted h.nodup hversion (by decide) (by decide) he hk
  · exact h.arm64.accepted h.nodup hversion (by decide) (by decide) he hk
  · exact h.arm64.accepted h.nodup hversion (by decide) (by decide) he hk
  · exact h.arm64.accepted h.nodup hversion (by decide) (by decide) he hk

/-- **The updater accepts entries exactly where a record agrees with them**, and that is the
record it returns. -/
theorem finishManifest_eq_ok {entries : Tools.Entries} (hnodup : (keys entries).Nodup)
    {m : GcUpdateManifest} :
    ((∀ e ∈ entries, Accepted e) ∧ finishManifest (fieldsOf entries) = .ok m) ↔
      ManifestAgrees entries m := by
  constructor
  · rintro ⟨hentries, hok⟩
    unfold finishManifest at hok
    by_cases hformat : (fieldsOf entries).sawFormat = true
    swap
    · rw [Bool.not_eq_true] at hformat
      rw [hformat, Bool.not_false, if_pos rfl] at hok
      cases hok
    rw [hformat, Bool.not_true, if_neg Bool.false_ne_true] at hok
    split at hok
    · cases hok
    · rename_i version hparse
      obtain ⟨htext, hreads⟩ := bind_parse_eq_some.mp hparse
      have hversion := isVersion_of_reads hreads
      obtain ⟨x64, hx64, hok⟩ := bind_eq_ok.mp hok
      obtain ⟨arm64, harm64, hok⟩ := bind_eq_ok.mp hok
      split_ifs at hok with hnone
      cases hok
      obtain ⟨value, hvalue⟩ := Option.isSome_iff_exists.mp hformat
      have hone : Accepted ("format".toList, value) := hentries _ (mem_of_lookup hvalue)
      rw [Accepted, valueAccepted_format, beq_iff_eq] at hone
      obtain ⟨hmin, hminReads⟩ := (minimumFrom_iff hentries).mp (rfl :
        (entries.lookup "min_from".toList).bind gcUpdateVersionParse = (fieldsOf entries).minimumFrom)
      refine ⟨fun e he => mem_allowed_of_accepted (hentries e he), hnodup, hone ▸ hvalue, htext,
        hreads, hmin, hminReads, (finishAsset_eq_ok hentries hversion (by decide)).mp hx64,
        (finishAsset_eq_ok hentries hversion (by decide)).mp harm64, ?_⟩
      by_contra hneither
      push Not at hneither
      exact hnone ⟨by simpa using hneither.1, by simpa using hneither.2⟩
  · intro h
    have hentries := h.accepted
    refine ⟨hentries, ?_⟩
    have hversion := isVersion_of_reads h.versionReads
    have hformat : (fieldsOf entries).sawFormat = true := by
      rw [fieldsOf, h.format]
      rfl
    have hparse : (fieldsOf entries).version = some m.version :=
      bind_parse_eq_some.mpr ⟨h.version, h.versionReads⟩
    have hfloor : (fieldsOf entries).minimumFrom = m.minimumFrom :=
      (minimumFrom_iff hentries).mpr ⟨h.minimumFrom, h.minimumReads⟩
    have hx64 := (finishAsset_eq_ok hentries hversion (by decide)).mpr h.x64
    have harm64 := (finishAsset_eq_ok hentries hversion (by decide)).mpr h.arm64
    have hsome : ¬(m.x64.isNone = true ∧ m.arm64.isNone = true) := by
      rintro ⟨h1, h2⟩
      rcases h.described with hd | hd
      · rw [Option.isNone_iff_eq_none.mp h1] at hd
        cases hd
      · rw [Option.isNone_iff_eq_none.mp h2] at hd
        cases hd
    unfold finishManifest
    rw [hformat, Bool.not_true, if_neg Bool.false_ne_true, hparse]
    refine bind_eq_ok.mpr ⟨_, hx64, bind_eq_ok.mpr ⟨_, harm64, ?_⟩⟩
    rw [if_neg hsome, hfloor]
    rfl

/-! ## The release tool -/

theorem assetPresent_of_lookups {entries : Tools.Entries} {version : Text} {arch : GcUpdateArch}
    {file size sha256 : Text} (hfile : entries.lookup (assetKey arch "file") = some file)
    (hsize : entries.lookup (assetKey arch "size") = some size)
    (hsha : entries.lookup (assetKey arch "sha256") = some sha256) {asset : GcUpdateAsset} :
    AssetPresent entries version arch asset ↔
      asset = ⟨file, Tools.int size, sha256⟩ ∧
        file = Tools.assetName version (gcUpdateArchName arch) ∧
        (Tools.isSize size = true ∧ Tools.int size ≤ Tools.MAX_ASSET_BYTES) ∧
        sha256.length = 64 ∧ sha256.all isLowerHex = true := by
  constructor
  · intro h
    obtain ⟨text, htext, hok, hint, hmax⟩ := h.size
    obtain rfl : size = text := Option.some.inj (hsize.symm.trans htext)
    have hfile' : asset.file = file := Option.some.inj (h.file.symm.trans hfile)
    have hsha' : asset.sha256 = sha256 := Option.some.inj (h.sha256.symm.trans hsha)
    refine ⟨?_, hfile' ▸ h.name, ⟨hok, hint ▸ hmax⟩, hsha' ▸ h.digest⟩
    rw [← hfile', ← hint, ← hsha']
  · rintro ⟨rfl, hname, ⟨hok, hmax⟩, hdigest⟩
    exact ⟨hfile, hname, ⟨size, hsize, hok, rfl, hmax⟩, hsha, hdigest⟩

/-- The release tool's check of one architecture. -/
theorem checkAsset_eq_ok {entries : Tools.Entries} {version : Text} {arch : GcUpdateArch} {n : Nat} :
    Tools.checkAsset entries version (gcUpdateArchName arch) = .ok n ↔
      ∃ asset, AssetAgrees entries version arch asset ∧ n = if asset.isSome then 1 else 0 := by
  unfold Tools.checkAsset
  split
  case h_1 hfile hsize hsha =>
    have habsent : AssetAgrees entries version arch none := by
      intro field hfield
      simp only [List.mem_cons, List.not_mem_nil, or_false] at hfield
      rcases hfield with rfl | rfl | rfl
      · exact hfile
      · exact hsize
      · exact hsha
    constructor
    · intro hn
      exact ⟨none, habsent, (Except.ok.inj hn).symm⟩
    · rintro ⟨asset, hasset, rfl⟩
      cases asset with
      | none => rfl
      | some a =>
        have h : AssetPresent entries version arch a := hasset
        exact absurd (hfile.symm.trans h.file) (by simp)
  case h_2 file size sha256 hfile hsize hsha =>
    have hpresent : ∀ asset, AssetPresent entries version arch asset ↔ _ :=
      fun asset => assetPresent_of_lookups hfile hsize hsha
    have hsome : (∃ asset, AssetAgrees entries version arch asset ∧
        n = if asset.isSome then 1 else 0) ↔
        (file = Tools.assetName version (gcUpdateArchName arch) ∧
          (Tools.isSize size = true ∧ Tools.int size ≤ Tools.MAX_ASSET_BYTES) ∧
          sha256.length = 64 ∧ sha256.all isLowerHex = true) ∧ n = 1 := by
      constructor
      · rintro ⟨asset, hasset, rfl⟩
        cases asset with
        | none => exact absurd (hfile.symm.trans (hasset "file" (by simp))) (by simp)
        | some a => exact ⟨((hpresent a).mp hasset).2, rfl⟩
      · rintro ⟨h, rfl⟩
        exact ⟨some _, (hpresent _).mpr ⟨rfl, h⟩, rfl⟩
    rw [hsome]
    split_ifs with hname hsizes hdigest
    · simp only [false_iff]
      exact fun h => hname h.1.1
    · simp only [false_iff]
      rintro ⟨⟨-, ⟨hok, hmax⟩, -⟩, -⟩
      rw [hok, Bool.not_true, Bool.false_or, decide_eq_true_eq] at hsizes
      exact absurd hmax (Nat.not_le.mpr hsizes)
    · simp only [false_iff]
      rintro ⟨⟨-, -, hlen, hall⟩, -⟩
      rw [hall, Bool.and_true, decide_eq_true hlen] at hdigest
      exact absurd hdigest (by decide)
    · rw [not_not] at hname
      simp only [Bool.or_eq_true, Bool.not_eq_true', decide_eq_true_eq, not_or,
        Bool.not_eq_false, not_lt] at hsizes
      simp only [Bool.not_eq_true', Bool.not_eq_false, Bool.and_eq_true,
        decide_eq_true_eq] at hdigest
      constructor
      · intro hn
        exact ⟨⟨hname, hsizes, hdigest⟩, (Except.ok.inj hn).symm⟩
      · rintro ⟨-, rfl⟩
        rfl
  case h_3 hnone hsome =>
    constructor
    · exact fun h => nomatch h
    · rintro ⟨asset, hasset, -⟩
      cases asset with
      | none =>
        exact (hnone (hasset "file" (by simp)) (hasset "size" (by simp))
          (hasset "sha256" (by simp))).elim
      | some a =>
        have h : AssetPresent entries version arch a := hasset
        obtain ⟨text, htext, -⟩ := h.size
        exact (hsome _ _ _ h.file htext h.sha256).elim

theorem validateVersion_eq_ok {version : Option Text} {text : Text} :
    Tools.validateVersion version = .ok text ↔ version = some text ∧ Tools.isVersion text = true := by
  cases version with
  | none => simp [Tools.validateVersion]
  | some t =>
    simp only [Tools.validateVersion]
    split_ifs with h
    · simp only [Except.ok.injEq, Option.some.injEq]
      exact ⟨fun heq => ⟨heq, heq ▸ h⟩, fun heq => heq.1⟩
    · simp only [Option.some.injEq, false_iff]
      rintro ⟨rfl, htext⟩
      exact h htext

/-- A text of the pattern is the text of some version. -/
theorem exists_reads {text : Text} (h : Tools.isVersion text = true) :
    ∃ v : GcUpdateVersion, v.text = text ∧ v.Reads v.text := by
  rw [← isSome_gcUpdateVersionParse, Option.isSome_iff_exists] at h
  obtain ⟨v, hv⟩ := h
  have hreads := gcUpdateVersionParse_eq_some.mp hv
  have htext := hreads.text_eq
  subst htext
  exact ⟨v, rfl, hreads⟩

/-- Both architectures, at least one of them described. -/
theorem checkAssets_eq_ok {entries : Tools.Entries} {version : Text} :
    (do
      let x64 ← Tools.checkAsset entries version "x64".toList
      let arm64 ← Tools.checkAsset entries version "arm64".toList
      if x64 + arm64 = 0 then .error "manifest describes no assets" else .ok () :
        Except String Unit) = .ok () ↔
      ∃ x64 arm64, AssetAgrees entries version .x64 x64 ∧ AssetAgrees entries version .arm64 arm64 ∧
        (x64.isSome ∨ arm64.isSome) := by
  have hcheck : ∀ arch n, Tools.checkAsset entries version (gcUpdateArchName arch) = .ok n ↔
      ∃ asset, AssetAgrees entries version arch asset ∧ n = if asset.isSome then 1 else 0 :=
    fun _ _ => checkAsset_eq_ok
  rw [bind_eq_ok]
  constructor
  · rintro ⟨n, hn, hrest⟩
    obtain ⟨k, hk, hrest⟩ := bind_eq_ok.mp hrest
    obtain ⟨x64, hx64, rfl⟩ := (hcheck .x64 n).mp hn
    obtain ⟨arm64, harm64, rfl⟩ := (hcheck .arm64 k).mp hk
    refine ⟨x64, arm64, hx64, harm64, ?_⟩
    by_contra hneither
    push Not at hneither
    rw [if_neg hneither.1, if_neg hneither.2, if_pos rfl] at hrest
    cases hrest
  · rintro ⟨x64, arm64, hx64, harm64, hsome⟩
    refine ⟨_, (hcheck .x64 _).mpr ⟨x64, hx64, rfl⟩, bind_eq_ok.mpr
      ⟨_, (hcheck .arm64 _).mpr ⟨arm64, harm64, rfl⟩, if_neg ?_⟩⟩
    rcases hsome with h | h <;> rw [if_pos h] <;> split_ifs <;> decide

/-- **The release tool accepts entries exactly where some record agrees with them.** -/
theorem checkEntries_eq_ok {entries : Tools.Entries} (hknown : ∀ e ∈ entries, e.1 ∈ Tools.allowed)
    (hnodup : (keys entries).Nodup) :
    Tools.checkEntries entries = .ok () ↔ ∃ m, ManifestAgrees entries m := by
  unfold Tools.checkEntries
  by_cases hformat : entries.lookup "format".toList = some ['1']
  swap
  · rw [if_pos hformat]
    constructor
    · exact fun h => nomatch h
    · rintro ⟨m, hm⟩
      exact absurd hm.format hformat
  rw [if_neg (not_not.mpr hformat), bind_eq_ok]
  constructor
  · rintro ⟨version, hversion, hrest⟩
    obtain ⟨hlookup, hpattern⟩ := validateVersion_eq_ok.mp hversion
    obtain ⟨v, rfl, hreads⟩ := exists_reads hpattern
    -- the floor, and what is left to check behind it
    obtain ⟨floor, hfloor, hfloorReads, hrest⟩ : ∃ floor : Option GcUpdateVersion,
        entries.lookup "min_from".toList = floor.map GcUpdateVersion.text ∧
          (∀ u ∈ floor, u.Reads u.text) ∧ (do
            let x64 ← Tools.checkAsset entries v.text "x64".toList
            let arm64 ← Tools.checkAsset entries v.text "arm64".toList
            if x64 + arm64 = 0 then .error "manifest describes no assets" else .ok () :
              Except String Unit) = .ok () := by
      simp only at hrest
      split_ifs at hrest with hmin
      · obtain ⟨text, htext, hrest⟩ := bind_eq_ok.mp hrest
        obtain ⟨hlookupMin, hpatternMin⟩ := validateVersion_eq_ok.mp htext
        obtain ⟨u, rfl, hu⟩ := exists_reads hpatternMin
        exact ⟨some u, hlookupMin, by simpa using hu, hrest⟩
      · exact ⟨none, Option.not_isSome_iff_eq_none.mp hmin, by simp, hrest⟩
    obtain ⟨x64, arm64, hx64, harm64, hsome⟩ := checkAssets_eq_ok.mp hrest
    exact ⟨⟨v, floor, x64, arm64⟩, hknown, hnodup, hformat, hlookup, hreads, hfloor, hfloorReads,
      hx64, harm64, hsome⟩
  · rintro ⟨m, hm⟩
    have hassets := checkAssets_eq_ok.mpr ⟨m.x64, m.arm64, hm.x64, hm.arm64, hm.described⟩
    refine ⟨m.version.text, validateVersion_eq_ok.mpr
      ⟨hm.version, isVersion_of_reads hm.versionReads⟩, ?_⟩
    simp only
    split_ifs with hmin
    · obtain ⟨text, htext⟩ := Option.isSome_iff_exists.mp hmin
      obtain ⟨u, hu, rfl⟩ := Option.map_eq_some_iff.mp (hm.minimumFrom.symm.trans htext)
      exact bind_eq_ok.mpr ⟨_, validateVersion_eq_ok.mpr
        ⟨htext, isVersion_of_reads (hm.minimumReads u hu)⟩, hassets⟩
    · exact hassets

/-! ## Both readers -/

theorem ascii_of_isDigit {c : Char} (h : c.isDigit = true) : c.toNat < 128 := by
  have hhigh : c.toNat ≤ 57 := (Char.isDigit_iff_toNat.mp h).2
  omega

theorem ascii_of_isVersion {version : Text} (h : Tools.isVersion version = true) :
    ∀ c ∈ version, c.toNat < 128 := by
  intro c hc
  rcases mem_of_isVersion h c hc with hdigit | rfl
  · exact ascii_of_isDigit hdigit
  · decide

theorem ascii_of_isSize {size : Text} (h : Tools.isSize size = true) :
    ∀ c ∈ size, c.toNat < 128 := by
  cases size with
  | nil => cases h
  | cons d rest =>
    simp only [Tools.isSize, Bool.and_eq_true, List.all_eq_true] at h
    exact List.forall_mem_cons.mpr
      ⟨ascii_of_isDigit h.1.1.1, fun c hc => ascii_of_isDigit (h.1.2 c hc)⟩

theorem ascii_of_isLowerHex {c : Char} (h : isLowerHex c = true) : c.toNat < 128 := by
  rw [isLowerHex, Bool.or_eq_true, decide_eq_true_eq, decide_eq_true_eq] at h
  rcases h with ⟨-, hle⟩ | ⟨-, hle⟩
  · exact lt_of_le_of_lt (UInt32.le_iff_toNat_le.mp (Char.le_def.mp hle)) (by decide)
  · exact lt_of_le_of_lt (UInt32.le_iff_toNat_le.mp (Char.le_def.mp hle)) (by decide)

theorem ascii_assetName {version : Text} (h : Tools.isVersion version = true) {arch : GcUpdateArch}
    (harch : arch ∈ archs) :
    ∀ c ∈ Tools.assetName version (gcUpdateArchName arch), c.toNat < 128 := by
  have hname : ∀ c ∈ gcUpdateArchName arch, c.toNat < 128 := by
    rcases List.mem_pair.mp harch with rfl | rfl <;> decide
  show ∀ c ∈ "greencurve-".toList ++ version ++ "-windows-".toList ++ gcUpdateArchName arch ++
    "-setup.exe".toList, c.toNat < 128
  simp only [List.forall_mem_append]
  exact ⟨⟨⟨⟨by decide, ascii_of_isVersion h⟩, by decide⟩, hname⟩, by decide⟩

theorem AssetAgrees.ascii {entries : Tools.Entries} (hnodup : (keys entries).Nodup)
    {version : Text} (hversion : Tools.isVersion version = true) {arch : GcUpdateArch}
    (harch : arch ∈ archs) {asset : Option GcUpdateAsset}
    (h : AssetAgrees entries version arch asset) {field : String}
    (hfield : field ∈ ["file", "size", "sha256"]) {e : Text × Text} (he : e ∈ entries)
    (hkey : e.1 = assetKey arch field) : ∀ c ∈ e.2, c.toNat < 128 := by
  have hlookup : entries.lookup (assetKey arch field) = some e.2 := hkey ▸ lookup_of_mem hnodup he
  cases asset with
  | none => exact absurd (hlookup.symm.trans (h field hfield)) (by simp)
  | some a =>
    have h : AssetPresent entries version arch a := h
    simp only [List.mem_cons, List.not_mem_nil, or_false] at hfield
    rcases hfield with rfl | rfl | rfl
    · rw [Option.some.inj (hlookup.symm.trans h.file), h.name]
      exact ascii_assetName hversion harch
    · obtain ⟨text, htext, hsize, -⟩ := h.size
      rw [Option.some.inj (hlookup.symm.trans htext)]
      exact ascii_of_isSize hsize
    · rw [Option.some.inj (hlookup.symm.trans h.sha256)]
      exact fun c hc => ascii_of_isLowerHex (List.all_eq_true.mp h.digest.2 c hc)

/-- A manifest that means something is ASCII in all its fields. -/
theorem ManifestAgrees.ascii {entries : Tools.Entries} {m : GcUpdateManifest}
    (h : ManifestAgrees entries m) {e : Text × Text} (he : e ∈ entries) :
    ∀ c ∈ e.1 ++ '=' :: e.2, c.toNat < 128 := by
  have hkeys : ∀ k ∈ Tools.allowed, ∀ c ∈ k, c.toNat < 128 := by decide
  have hversion := isVersion_of_reads h.versionReads
  have hlookup := lookup_of_mem h.nodup he
  have hvalue : ∀ c ∈ e.2, c.toNat < 128 := by
    have hknown := h.known e he
    rw [allowed_eq] at hknown
    simp only [List.mem_cons, List.not_mem_nil, or_false] at hknown
    rcases hknown with hk | hk | hk | hk | hk | hk | hk | hk | hk
    · rw [hk, h.format] at hlookup
      rw [← Option.some.inj hlookup]
      decide
    · rw [hk, h.version] at hlookup
      rw [← Option.some.inj hlookup]
      exact ascii_of_isVersion hversion
    · rw [hk, h.minimumFrom] at hlookup
      obtain ⟨floor, hfloor, htext⟩ := Option.map_eq_some_iff.mp hlookup
      rw [← htext]
      exact ascii_of_isVersion (isVersion_of_reads (h.minimumReads floor hfloor))
    · exact h.x64.ascii h.nodup hversion (by decide) (by decide) he hk
    · exact h.x64.ascii h.nodup hversion (by decide) (by decide) he hk
    · exact h.x64.ascii h.nodup hversion (by decide) (by decide) he hk
    · exact h.arm64.ascii h.nodup hversion (by decide) (by decide) he hk
    · exact h.arm64.ascii h.nodup hversion (by decide) (by decide) he hk
    · exact h.arm64.ascii h.nodup hversion (by decide) (by decide) he hk
  rw [List.forall_mem_append, List.forall_mem_cons]
  exact ⟨hkeys e.1 (h.known e he), by decide, hvalue⟩

/-- The entries that the lines of a payload write. -/
def WritesEntries (payload : Text) (entries : Tools.Entries) : Prop :=
  List.Forall₂ (fun line e => readField line = some e)
    ((manifestLines payload).filterMap fieldLine) entries

theorem forall₂_and_right {α β : Type} {r : α → β → Prop} {p : β → Prop} {as : List α} {bs : List β} :
    List.Forall₂ (fun a b => r a b ∧ p b) as bs ↔ List.Forall₂ r as bs ∧ ∀ b ∈ bs, p b := by
  induction as generalizing bs with
  | nil =>
    cases bs <;> simp
  | cons a as ih =>
    cases bs with
    | nil => simp
    | cons b bs =>
      rw [List.forall₂_cons, List.forall₂_cons, ih, List.forall_mem_cons]
      tauto

/-- **The updater's reader.** -/
theorem gcUpdateManifestParse_eq_ok {payload : Text} {m : GcUpdateManifest} :
    gcUpdateManifestParse payload = .ok m ↔
      (0 < payload.length ∧ payload.length ≤ 4096) ∧
        ∃ entries, WritesEntries payload entries ∧ ManifestAgrees entries m := by
  unfold gcUpdateManifestParse
  by_cases hsize : payload.length = 0 ∨ payload.length > GC_UPDATE_MANIFEST_MAX_BYTES
  · rw [if_pos hsize]
    constructor
    · exact fun h => nomatch h
    · rintro ⟨hrange, -⟩
      have hsize : payload.length = 0 ∨ payload.length > 4096 := hsize
      omega
  · rw [if_neg hsize, bind_eq_ok]
    have hrange : 0 < payload.length ∧ payload.length ≤ 4096 := by
      have hsize : ¬(payload.length = 0 ∨ payload.length > 4096) := hsize
      omega
    have hscan : ∀ out, (manifestLines payload).foldlM manifestLine (fieldsOf []) = .ok out ↔
        ∃ more, List.Forall₂ (fun line e => readField line = some e ∧ Accepted e)
          ((manifestLines payload).filterMap fieldLine) more ∧
          (keys ([] ++ more)).Nodup ∧ out = fieldsOf ([] ++ more) :=
      fun out => manifestLine_scans.foldlM_eq_ok (fun _ _ h => h) _ List.nodup_nil
        (List.forall_mem_nil _)
    change (∃ a, (manifestLines payload).foldlM manifestLine (fieldsOf []) = .ok a ∧ _) ↔ _
    simp only [hscan, List.nil_append, forall₂_and_right]
    constructor
    · rintro ⟨out, ⟨entries, ⟨hwrites, hentries⟩, hnodup, rfl⟩, hfinish⟩
      exact ⟨hrange, entries, hwrites, (finishManifest_eq_ok hnodup).mp ⟨hentries, hfinish⟩⟩
    · rintro ⟨-, entries, hwrites, hagrees⟩
      obtain ⟨hentries, hfinish⟩ := (finishManifest_eq_ok hagrees.nodup).mpr hagrees
      exact ⟨_, ⟨entries, ⟨hwrites, hentries⟩, hagrees.nodup, rfl⟩, hfinish⟩

/-- The release tool's conditions on a line follow from what the entries mean. -/
theorem toolAccepts_of_agrees {lines : List Text} {entries : Tools.Entries} {m : GcUpdateManifest}
    (hwrites : List.Forall₂ (fun line e => readField line = some e) lines entries)
    (hagrees : ManifestAgrees entries m) :
    List.Forall₂ (fun line e => readField line = some e ∧ ToolAccepts line e) lines entries := by
  rw [List.forall₂_iff_get] at hwrites ⊢
  refine ⟨hwrites.1, fun i h₁ h₂ => ?_⟩
  have hread := hwrites.2 i h₁ h₂
  have hmem : entries.get ⟨i, h₂⟩ ∈ entries := List.get_mem _ _
  refine ⟨hread, ?_, hagrees.known _ hmem, (ne_nil_of_accepted (hagrees.accepted _ hmem)).2⟩
  rw [eq_of_readField hread]
  exact hagrees.ascii hmem

/-- **The release tool's reader.** -/
theorem parseManifest_eq_ok {payload : Text} {entries : Tools.Entries} :
    Tools.parseManifest payload = .ok entries ↔
      (0 < payload.length ∧ payload.length ≤ 4096) ∧
        WritesEntries payload entries ∧ ∃ m, ManifestAgrees entries m := by
  unfold Tools.parseManifest
  by_cases hrange : 0 < payload.length ∧ payload.length ≤ 4096
  swap
  · rw [if_pos hrange]
    constructor
    · exact fun h => nomatch h
    · exact fun h => absurd h.1 hrange
  rw [if_neg (not_not.mpr hrange), bind_eq_ok]
  have hscan : ∀ out : Tools.Entries, (payload.splitOn '\n').foldlM Tools.parseLine [] = .ok out ↔
      ∃ more, List.Forall₂ (fun line e => readField line = some e ∧ ToolAccepts line e)
        ((payload.splitOn '\n').filterMap fieldLine) more ∧
        (keys ([] ++ more)).Nodup ∧ out = id ([] ++ more) :=
    fun out => parseLine_scans.foldlM_eq_ok (fun _ _ _ => trivial) _ List.nodup_nil
      (List.forall_mem_nil _)
  simp only [hscan, List.nil_append, id, filterMap_fieldLine_splitOn]
  constructor
  · rintro ⟨out, ⟨more, hlines, hnodup, hmore⟩, hcheck⟩
    obtain ⟨u, hcheck, hout⟩ := bind_eq_ok.mp hcheck
    rw [← hmore, Except.ok.inj hout] at hlines hnodup
    rw [Except.ok.inj hout] at hcheck
    have hknown : ∀ e ∈ entries, e.1 ∈ Tools.allowed :=
      (forall₂_and_right.mp (hlines.imp fun _ _ h => ⟨h.1, h.2.2.1⟩)).2
    exact ⟨hrange, hlines.imp fun _ _ h => h.1, (checkEntries_eq_ok hknown hnodup).mp hcheck⟩
  · rintro ⟨-, hwrites, m, hagrees⟩
    refine ⟨entries, ⟨entries, toolAccepts_of_agrees hwrites hagrees, hagrees.nodup, rfl⟩, ?_⟩
    exact bind_eq_ok.mpr ⟨(), (checkEntries_eq_ok hagrees.known hagrees.nodup).mpr ⟨m, hagrees⟩, rfl⟩

end GreenCurve
