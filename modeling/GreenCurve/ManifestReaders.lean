import GreenCurve.ManifestScan

/-! # The two readers of the manifest accept one language

The updater and the release tool accept the same envelopes at the same times, and read the
same fields from them. -/

namespace GreenCurve

open Ini (Text)

/-! ## The release tool's scan -/

/-- What the release tool asks of one line and its entry. -/
def ToolAccepts (line : Text) (e : Text × Text) : Prop :=
  (∀ c ∈ line, c.toNat < 128) ∧ e.1 ∈ Tools.allowed ∧ e.2 ≠ []

theorem parseLine_scans : ScansFields Tools.parseLine id ToolAccepts fun _ => True := by
  refine .of_lines (fun entries raw hraw => ?_) fun entries raw line out _ _ hraw => ?_
  · unfold fieldLine at hraw
    split_ifs at hraw with hskip
    simp only [Tools.parseLine, if_pos hskip]
  · obtain ⟨rfl, hskip⟩ := fieldLine_eq_some.mp hraw
    simp only [Tools.parseLine, if_neg hskip, id, readField_eq_some, ToolAccepts]
    split_ifs with hlong hbad hkey hdup
    · constructor
      · exact fun h => nomatch h
      · rintro ⟨e, ⟨hlen, hnul, -⟩, -⟩
        rcases hlong with hlong | hlong
        · exact absurd hlen (Nat.not_lt.mpr hlong)
        · exact absurd hlong hnul
    · constructor
      · exact fun h => nomatch h
      · rintro ⟨e, ⟨-, -, hequals, -⟩, -, ⟨hascii, -⟩, -⟩
        rcases hbad with ⟨c, hc, hge⟩ | hno
        · exact absurd (hascii c hc) (Nat.not_lt.mpr hge)
        · exact absurd hequals hno
    · constructor
      · exact fun h => nomatch h
      · rintro ⟨e, ⟨-, -, -, rfl⟩, -, ⟨-, hallowed, hvalue⟩, -⟩
        rcases hkey with hkey | hkey
        · exact absurd hallowed hkey
        · exact absurd hkey hvalue
    · constructor
      · exact fun h => nomatch h
      · rintro ⟨e, ⟨-, -, -, rfl⟩, hnew, -⟩
        exact absurd (lookup_isSome_iff_mem_keys.mp hdup) hnew
    · push Not at hlong hbad hkey
      constructor
      · intro h
        cases h
        exact ⟨_, ⟨hlong.1, hlong.2, hbad.2, rfl⟩,
          fun hmem => hdup (lookup_isSome_iff_mem_keys.mpr hmem), ⟨hbad.1, hkey.1, hkey.2⟩, rfl⟩
      · rintro ⟨e, ⟨-, -, -, rfl⟩, -, -, rfl⟩
        rfl

/-! ## The updater's scan -/

/-- The architectures a manifest describes. -/
def archs : List GcUpdateArch := [.x64, .arm64]

/-- The key of one field of an architecture. -/
def assetKey (arch : GcUpdateArch) (field : String) : Text :=
  Tools.fieldKey (gcUpdateArchName arch) field.toList

/-- What the updater accepts as the value of a key. -/
def valueAccepted (key value : Text) : Bool :=
  if key = "format".toList then value == ['1']
  else if key = "version".toList ∨ key = "min_from".toList then Tools.isVersion value
  else if key = assetKey .x64 "file" ∨ key = assetKey .arm64 "file" then
    decide (gcUpdateCopyValue GC_UPDATE_ASSET_NAME_MAX_CHARS value = some value) &&
      gcUpdateAssetNameIsAcceptable value
  else if key = assetKey .x64 "size" ∨ key = assetKey .arm64 "size" then
    (gcUpdateParseSize value).isSome
  else if key = assetKey .x64 "sha256" ∨ key = assetKey .arm64 "sha256" then
    (gcUpdateParseSha256 value).isSome
  else false

/-- The updater accepts the entry on its own. -/
def Accepted (e : Text × Text) : Prop := valueAccepted e.1 e.2 = true

/-- The fields of one architecture after a list of entries. -/
def assetOf (entries : Tools.Entries) (arch : GcUpdateArch) : AssetFields where
  file := entries.lookup (assetKey arch "file")
  size := (entries.lookup (assetKey arch "size")).bind gcUpdateParseSize
  sha256 := (entries.lookup (assetKey arch "sha256")).bind gcUpdateParseSha256

/-- The fields of the manifest after a list of entries. -/
def fieldsOf (entries : Tools.Entries) : ManifestFields where
  sawFormat := (entries.lookup "format".toList).isSome
  version := (entries.lookup "version".toList).bind gcUpdateVersionParse
  minimumFrom := (entries.lookup "min_from".toList).bind gcUpdateVersionParse
  x64 := assetOf entries .x64
  arm64 := assetOf entries .arm64

theorem allowed_eq : Tools.allowed =
    ["format".toList, "version".toList, "min_from".toList, assetKey .x64 "file",
      assetKey .x64 "size", assetKey .x64 "sha256", assetKey .arm64 "file",
      assetKey .arm64 "size", assetKey .arm64 "sha256"] := by
  decide

/-- Only known keys have acceptable values. -/
theorem mem_allowed_of_accepted {e : Text × Text} (h : Accepted e) : e.1 ∈ Tools.allowed := by
  rw [allowed_eq]
  unfold Accepted valueAccepted at h
  split_ifs at h with hformat hversion hfile hsize hsha
  · simp [hformat]
  · rcases hversion with heq | heq <;> simp [heq]
  · rcases hfile with heq | heq <;> simp [heq]
  · rcases hsize with heq | heq <;> simp [heq]
  · rcases hsha with heq | heq <;> simp [heq]

section Values
variable {arch : GcUpdateArch} (harch : arch ∈ archs) (value : Text)
include harch

theorem valueAccepted_file : valueAccepted (assetKey arch "file") value =
    (decide (gcUpdateCopyValue GC_UPDATE_ASSET_NAME_MAX_CHARS value = some value) &&
      gcUpdateAssetNameIsAcceptable value) := by
  rcases List.mem_pair.mp harch with rfl | rfl <;> rfl

theorem valueAccepted_size :
    valueAccepted (assetKey arch "size") value = (gcUpdateParseSize value).isSome := by
  rcases List.mem_pair.mp harch with rfl | rfl <;> rfl

theorem valueAccepted_sha256 :
    valueAccepted (assetKey arch "sha256") value = (gcUpdateParseSha256 value).isSome := by
  rcases List.mem_pair.mp harch with rfl | rfl <;> rfl

end Values

theorem valueAccepted_format (value : Text) :
    valueAccepted "format".toList value = (value == ['1']) := rfl

theorem valueAccepted_version (value : Text) :
    valueAccepted "version".toList value = Tools.isVersion value := rfl

theorem valueAccepted_minFrom (value : Text) :
    valueAccepted "min_from".toList value = Tools.isVersion value := rfl

/-- A key that is read once adds its entry. -/
theorem readOnce_iff_entry {α σ : Type} {entries : Tools.Entries} {seen : Bool} {key : Text}
    {message : String} {value : Text} {parsed : Option α} {set : α → σ} {out target : σ}
    (hseen : seen = true ↔ key ∈ keys entries)
    (haccepted : valueAccepted key value = parsed.isSome)
    (htarget : key ∉ keys entries → ∀ a, parsed = some a → target = set a) :
    readOnce seen key message value parsed set = .ok out ↔
      Accepted (key, value) ∧ key ∉ keys entries ∧ out = target := by
  rw [readOnce_eq_ok, hseen, Accepted, haccepted, Option.isSome_iff_exists]
  constructor
  · rintro ⟨hnew, a, ha, rfl⟩
    exact ⟨⟨a, ha⟩, hnew, (htarget hnew a ha).symm⟩
  · rintro ⟨⟨a, ha⟩, hnew, rfl⟩
    exact ⟨hnew, a, ha, htarget hnew a ha⟩

/-- No field beyond the three has a key. -/
theorem fieldKey_notMem_allowed {arch : GcUpdateArch} (harch : arch ∈ archs) {field : Text}
    (hfile : field ≠ "file".toList) (hsize : field ≠ "size".toList)
    (hsha : field ≠ "sha256".toList) :
    Tools.fieldKey (gcUpdateArchName arch) field ∉ Tools.allowed := by
  intro hmem
  rw [allowed_eq] at hmem
  simp only [List.mem_cons, List.not_mem_nil, or_false] at hmem
  rcases List.mem_pair.mp harch with rfl | rfl
  case inl =>
    rcases hmem with h | h | h | h | h | h | h | h | h
    · exact absurd (show "x64_".toList = "form".toList from congrArg (List.take 4) h) (by decide)
    · exact absurd (show "x64_".toList = "vers".toList from congrArg (List.take 4) h) (by decide)
    · exact absurd (show "x64_".toList = "min_".toList from congrArg (List.take 4) h) (by decide)
    · exact hfile (congrArg (List.drop 4) h)
    · exact hsize (congrArg (List.drop 4) h)
    · exact hsha (congrArg (List.drop 4) h)
    · exact absurd (show "x64_".toList = "arm6".toList from congrArg (List.take 4) h) (by decide)
    · exact absurd (show "x64_".toList = "arm6".toList from congrArg (List.take 4) h) (by decide)
    · exact absurd (show "x64_".toList = "arm6".toList from congrArg (List.take 4) h) (by decide)
  case inr =>
    rcases hmem with h | h | h | h | h | h | h | h | h
    · exact absurd (show "arm6".toList = "form".toList from congrArg (List.take 4) h) (by decide)
    · exact absurd (show "arm6".toList = "vers".toList from congrArg (List.take 4) h) (by decide)
    · exact absurd (show "arm6".toList = "min_".toList from congrArg (List.take 4) h) (by decide)
    · exact absurd (show "arm6".toList = "x64_".toList from congrArg (List.take 4) h) (by decide)
    · exact absurd (show "arm6".toList = "x64_".toList from congrArg (List.take 4) h) (by decide)
    · exact absurd (show "arm6".toList = "x64_".toList from congrArg (List.take 4) h) (by decide)
    · exact hfile (congrArg (List.drop 6) h)
    · exact hsize (congrArg (List.drop 6) h)
    · exact hsha (congrArg (List.drop 6) h)

theorem ne_of_take {n : Nat} {key key' front : Text} (h : key.take n = front)
    (h' : key'.take n ≠ front) : key' ≠ key := fun heq => h' (heq ▸ h)

theorem fieldsOf_snoc_x64 {entries : Tools.Entries} {key value : Text} (hnew : key ∉ keys entries)
    (hkey : key.take 4 = "x64_".toList) :
    { fieldsOf entries with x64 := assetOf (entries ++ [(key, value)]) .x64 } =
      fieldsOf (entries ++ [(key, value)]) := by
  have hne : ∀ other : Text, other.take 4 ≠ "x64_".toList → other ≠ key :=
    fun other h => ne_of_take hkey h
  simp only [fieldsOf, assetOf, lookup_snoc hnew, if_neg (hne "format".toList (by decide)),
    if_neg (hne "version".toList (by decide)), if_neg (hne "min_from".toList (by decide)),
    if_neg (hne (assetKey .arm64 "file") (by decide)),
    if_neg (hne (assetKey .arm64 "size") (by decide)),
    if_neg (hne (assetKey .arm64 "sha256") (by decide))]

theorem fieldsOf_snoc_arm64 {entries : Tools.Entries} {key value : Text} (hnew : key ∉ keys entries)
    (hkey : key.take 6 = "arm64_".toList) :
    { fieldsOf entries with arm64 := assetOf (entries ++ [(key, value)]) .arm64 } =
      fieldsOf (entries ++ [(key, value)]) := by
  have hne : ∀ other : Text, other.take 6 ≠ "arm64_".toList → other ≠ key :=
    fun other h => ne_of_take hkey h
  simp only [fieldsOf, assetOf, lookup_snoc hnew, if_neg (hne "format".toList (by decide)),
    if_neg (hne "version".toList (by decide)), if_neg (hne "min_from".toList (by decide)),
    if_neg (hne (assetKey .x64 "file") (by decide)),
    if_neg (hne (assetKey .x64 "size") (by decide)),
    if_neg (hne (assetKey .x64 "sha256") (by decide))]

section Step
variable {entries : Tools.Entries} (hentries : ∀ e ∈ entries, Accepted e)
include hentries

/-- An entry that was read left its field set. -/
theorem isSome_bind_lookup {α : Type} {key : Text} {parse : Text → Option α}
    (hparse : ∀ value, valueAccepted key value = true → (parse value).isSome) :
    ((entries.lookup key).bind parse).isSome = true ↔ key ∈ keys entries := by
  rw [← lookup_isSome_iff_mem_keys]
  cases hlookup : entries.lookup key with
  | none => rfl
  | some value =>
    have haccepted : valueAccepted key value = true := hentries _ (mem_of_lookup hlookup)
    simpa using hparse value haccepted

/-- One field of an architecture: the value is parsed at once, and no field twice. -/
theorem assetField_eq_ok {arch : GcUpdateArch} (harch : arch ∈ archs) {field : String}
    (hfield : field ∈ ["file", "size", "sha256"]) {value : Text} {asset : AssetFields} :
    assetField (assetOf entries arch) field.toList (assetKey arch field) value = .ok asset ↔
      Accepted (assetKey arch field, value) ∧ assetKey arch field ∉ keys entries ∧
        asset = assetOf (entries ++ [(assetKey arch field, value)]) arch := by
  have hdistinct : assetKey arch "size" ≠ assetKey arch "file" ∧
      assetKey arch "sha256" ≠ assetKey arch "file" ∧
      assetKey arch "sha256" ≠ assetKey arch "size" := by
    rcases List.mem_pair.mp harch with rfl | rfl <;> decide
  obtain ⟨hsf, hdf, hds⟩ := hdistinct
  simp only [List.mem_cons, List.not_mem_nil, or_false] at hfield
  rcases hfield with rfl | rfl | rfl
  case inl =>
    rw [assetField, if_pos rfl]
    refine readOnce_iff_entry lookup_isSome_iff_mem_keys ?_ fun hnew file hfile => ?_
    · rw [valueAccepted_file harch, gcUpdateCopyValue]
      split_ifs with hcopy
      · cases hname : gcUpdateAssetNameIsAcceptable value <;> simp [Option.filter, hname]
      · rfl
    · have hvalue : file = value := by
        rw [gcUpdateCopyValue] at hfile
        split_ifs at hfile with hcopy
        · exact (Option.some.inj (Option.filter_eq_some_iff.mp hfile).1).symm
        · cases hfile
      simp only [assetOf, lookup_snoc hnew, if_true, if_neg hsf, if_neg hdf, hvalue]
  case inr.inl =>
    rw [assetField, if_neg (by decide), if_pos rfl]
    refine readOnce_iff_entry ?_ (valueAccepted_size harch value) fun hnew size hsize => ?_
    · exact isSome_bind_lookup hentries fun v hv => (valueAccepted_size harch v).symm.trans hv
    · simp only [assetOf, lookup_snoc hnew, if_true, if_neg hsf.symm, if_neg hds,
        Option.bind_some, hsize]
  case inr.inr =>
    rw [assetField, if_neg (by decide), if_neg (by decide), if_pos rfl]
    refine readOnce_iff_entry ?_ (valueAccepted_sha256 harch value) fun hnew sha hsha => ?_
    · exact isSome_bind_lookup hentries fun v hv => (valueAccepted_sha256 harch v).symm.trans hv
    · simp only [assetOf, lookup_snoc hnew, if_true, if_neg hdf.symm, if_neg hds.symm,
        Option.bind_some, hsha]

/-- The same for any field name: an unknown one is refused. -/
theorem archField_eq_ok {arch : GcUpdateArch} (harch : arch ∈ archs) {field key value : Text}
    (hkey : key = Tools.fieldKey (gcUpdateArchName arch) field) {asset : AssetFields} :
    assetField (assetOf entries arch) field key value = .ok asset ↔
      Accepted (key, value) ∧ key ∉ keys entries ∧
        asset = assetOf (entries ++ [(key, value)]) arch := by
  subst hkey
  by_cases hfile : field = "file".toList
  · subst hfile
    exact assetField_eq_ok hentries harch (by simp)
  by_cases hsize : field = "size".toList
  · subst hsize
    exact assetField_eq_ok hentries harch (by simp)
  by_cases hsha : field = "sha256".toList
  · subst hsha
    exact assetField_eq_ok hentries harch (by simp)
  rw [assetField, if_neg hfile, if_neg hsize, if_neg hsha]
  constructor
  · exact fun h => nomatch h
  · rintro ⟨haccepted, -⟩
    exact absurd (mem_allowed_of_accepted haccepted) (fieldKey_notMem_allowed harch hfile hsize hsha)

/-- One key of the manifest adds its entry. -/
theorem manifestField_eq_ok {key value : Text} {out : ManifestFields} :
    manifestField (fieldsOf entries) key value = .ok out ↔
      Accepted (key, value) ∧ key ∉ keys entries ∧
        out = fieldsOf (entries ++ [(key, value)]) := by
  by_cases hformat : key = "format".toList
  · subst hformat
    rw [manifestField, if_pos rfl]
    refine readOnce_iff_entry lookup_isSome_iff_mem_keys ?_ fun hnew _ _ => ?_
    · rw [valueAccepted_format]
      by_cases hone : value = ['1']
      · subst hone
        rfl
      · have hsize : gcUpdateParseSize value ≠ some GC_UPDATE_MANIFEST_FORMAT :=
          fun h => hone (gcUpdateParseSize_eq_format.mp h)
        cases hparse : gcUpdateParseSize value with
        | none => simpa using hone
        | some n =>
          have hn : n ≠ GC_UPDATE_MANIFEST_FORMAT := fun h => hsize (hparse.trans (congrArg some h))
          simpa [Option.filter, hn] using hone
    · simp only [fieldsOf, assetOf, lookup_snoc hnew]
      rfl
  by_cases hversion : key = "version".toList
  · subst hversion
    rw [manifestField, if_neg hformat, if_pos rfl]
    refine readOnce_iff_entry (isSome_bind_lookup hentries fun v hv => ?_) ?_
      fun hnew version hparse => ?_
    · rwa [isSome_gcUpdateVersionParse]
    · rw [valueAccepted_version, isSome_gcUpdateVersionParse]
    · simp only [fieldsOf, assetOf, lookup_snoc hnew, if_true, Option.bind_some, hparse]
      rfl
  by_cases hmin : key = "min_from".toList
  · subst hmin
    rw [manifestField, if_neg hformat, if_neg hversion, if_pos rfl]
    refine readOnce_iff_entry (isSome_bind_lookup hentries fun v hv => ?_) ?_
      fun hnew version hparse => ?_
    · rwa [isSome_gcUpdateVersionParse]
    · rw [valueAccepted_minFrom, isSome_gcUpdateVersionParse]
    · simp only [fieldsOf, assetOf, lookup_snoc hnew, if_true, Option.bind_some, hparse]
      rfl
  by_cases hx64 : key.take 4 = "x64_".toList
  · have hkey : key = Tools.fieldKey (gcUpdateArchName .x64) (key.drop 4) := by
      conv_lhs => rw [← List.take_append_drop 4 key, hx64]
      rfl
    have harch : GcUpdateArch.x64 ∈ archs := by decide
    rw [manifestField, if_neg hformat, if_neg hversion, if_neg hmin, if_pos hx64, bind_eq_ok]
    constructor
    · rintro ⟨asset, hasset, hout⟩
      obtain ⟨haccepted, hnew, rfl⟩ := (archField_eq_ok hentries harch hkey).mp hasset
      exact ⟨haccepted, hnew, (Except.ok.inj hout).symm.trans (fieldsOf_snoc_x64 hnew hx64)⟩
    · rintro ⟨haccepted, hnew, rfl⟩
      exact ⟨_, (archField_eq_ok hentries harch hkey).mpr ⟨haccepted, hnew, rfl⟩,
        congrArg Except.ok (fieldsOf_snoc_x64 hnew hx64)⟩
  by_cases harm64 : key.take 6 = "arm64_".toList
  · have hkey : key = Tools.fieldKey (gcUpdateArchName .arm64) (key.drop 6) := by
      conv_lhs => rw [← List.take_append_drop 6 key, harm64]
      rfl
    have harch : GcUpdateArch.arm64 ∈ archs := by decide
    rw [manifestField, if_neg hformat, if_neg hversion, if_neg hmin, if_neg hx64, if_pos harm64,
      bind_eq_ok]
    constructor
    · rintro ⟨asset, hasset, hout⟩
      obtain ⟨haccepted, hnew, rfl⟩ := (archField_eq_ok hentries harch hkey).mp hasset
      exact ⟨haccepted, hnew, (Except.ok.inj hout).symm.trans (fieldsOf_snoc_arm64 hnew harm64)⟩
    · rintro ⟨haccepted, hnew, rfl⟩
      exact ⟨_, (archField_eq_ok hentries harch hkey).mpr ⟨haccepted, hnew, rfl⟩,
        congrArg Except.ok (fieldsOf_snoc_arm64 hnew harm64)⟩
  · rw [manifestField, if_neg hformat, if_neg hversion, if_neg hmin, if_neg hx64, if_neg harm64]
    constructor
    · exact fun h => nomatch h
    · rintro ⟨haccepted, -⟩
      have hmem : key ∈ Tools.allowed := mem_allowed_of_accepted haccepted
      rw [allowed_eq] at hmem
      simp only [List.mem_cons, List.not_mem_nil, or_false] at hmem
      rcases hmem with h | h | h | rfl | rfl | rfl | rfl | rfl | rfl
      · exact absurd h hformat
      · exact absurd h hversion
      · exact absurd h hmin
      · exact absurd rfl hx64
      · exact absurd rfl hx64
      · exact absurd rfl hx64
      · exact absurd rfl harm64
      · exact absurd rfl harm64
      · exact absurd rfl harm64

end Step

end GreenCurve
