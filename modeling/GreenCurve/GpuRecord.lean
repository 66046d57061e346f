import GreenCurve.GpuSelection
import GreenCurve.HexText
import GreenCurve.ProfileBank

/-! # The record of a selection

The client keeps its GPU in the `[gpu]` section of its configuration file: the location as
text, the model and the role of the location.  A record that does not parse completely is
malformed and never absent, because a request without a target reaches a lone adapter.
What is saved is what is loaded (`load_save`). -/

namespace GreenCurve.Gpu

open Ini (Text Document)
open Profile (value getSectionInt setSectionInt setSectionValue streqi loadIniDocument)

/-! ## The location -/

def isSpace (c : Char) : Bool := decide (c = ' ' ∨ c = '\t')

def isEndSpace (c : Char) : Bool := isSpace c || decide (c = '\r' ∨ c = '\n')

/-- `parse_pci_bdf_string`, on a C string. -/
def parsePciBdfString (text : Text) : Option (Nat × Nat × Nat × Nat) := do
  let (domain, text) ← Hex.parseHexU32Field (text.dropWhile isSpace) 0xFFFF
  guard (text.head? = some ':')
  let (bus, text) ← Hex.parseHexU32Field text.tail 0xFF
  guard (text.head? = some ':')
  let (device, text) ← Hex.parseHexU32Field text.tail 0x1F
  guard (text.head? = some '.')
  let (function, text) ← Hex.parseHexU32Field text.tail 7
  guard (text.dropWhile isEndSpace = [])
  return (domain, bus, device, function)

/-- `linux_gpu_parse_bdf`: all-zero is not a location. -/
def linuxGpuParseBdf (text : Text) : Option GpuAdapterInfo := do
  let (domain, bus, device, function) ← parsePciBdfString text
  guard ((domain, bus, device, function) ≠ (0, 0, 0, 0))
  return {
    valid := true
    pciDomain := UInt32.ofNat domain
    pciBus := UInt32.ofNat bus
    pciDevice := UInt32.ofNat device
    pciFunction := UInt32.ofNat function }

/-- `format_linux_gpu_bdf`. -/
def formatLinuxGpuBdf (target : GpuAdapterInfo) : Text :=
  if target.valid then
    Hex.print 4 target.pciDomain.toNat ++ ':' :: (Hex.print 2 target.pciBus.toNat ++
      ':' :: (Hex.print 2 target.pciDevice.toNat ++
        '.' :: Nat.toDigits 10 target.pciFunction.toNat))
  else "unselected".toList

/-! ## The role -/

/-- `configured_gpu_location_role_name`. -/
def configuredGpuLocationRoleName : GpuLocationRole → String
  | .unrecorded => "unrecorded"
  | .advisory => "advisory"
  | .required => "required"

/-- `configured_gpu_location_role_parse`. -/
def configuredGpuLocationRoleParse (text : Text) : Option GpuLocationRole :=
  if text = [] then some .unrecorded
  else if streqi text (configuredGpuLocationRoleName .advisory) then some .advisory
  else if streqi text (configuredGpuLocationRoleName .required) then some .required
  else none

/-! ## The record -/

/-- `linux_gpu_selection_record_parse`: either key makes a record, which must then parse. -/
def linuxGpuSelectionRecordParse (bdfText roleText : Text) : SelectionRecord :=
  if bdfText = [] ∧ roleText = [] then .absent
  else
    match linuxGpuParseBdf bdfText, configuredGpuLocationRoleParse roleText with
    | some target, some role => .present target role
    | _, _ => .malformed

/-- `(unsigned int)` of an `int`. -/
def unsignedOfInt (n : Int) : UInt32 := UInt32.ofBitVec (BitVec.ofInt 32 n)

/-- `(int)` of an `unsigned int`. -/
def intOfUnsigned (n : UInt32) : Int := n.toBitVec.toInt

/-- The record of a document. -/
def selectionRecord (doc : Document) : SelectionRecord :=
  let entries := doc.entries "gpu".toList
  match linuxGpuSelectionRecordParse (Ini.cString (value entries "selected_bdf".toList))
      (Ini.cString (value entries "selected_pci_location_role".toList)) with
  | .present target role =>
    .present
      { target with
        pciInfoValid := decide (getSectionInt doc "gpu" "pci_info_valid" 0 ≠ 0)
        deviceId := unsignedOfInt (getSectionInt doc "gpu" "device_id" 0)
        subSystemId := unsignedOfInt (getSectionInt doc "gpu" "subsystem_id" 0) } role
  | record => record

/-- `load_linux_gpu_selection`: no file is no record, and a file that cannot be read may
hold one nobody can see. -/
def loadLinuxGpuSelection (file : Option Text) : SelectionRecord :=
  match file with
  | none => .absent
  | some text =>
    match loadIniDocument text with
    | .ok doc => selectionRecord doc
    | .error _ => .malformed

/-- `save_linux_gpu_selection`, the document it writes. -/
def saveLinuxGpuSelection (doc : Document) (target : GpuAdapterInfo) (role : GpuLocationRole) :
    Document :=
  let doc := setSectionValue doc "gpu" "selected_bdf" (formatLinuxGpuBdf target)
  let doc := setSectionInt doc "gpu" "pci_info_valid" (if target.pciInfoValid then 1 else 0)
  let doc := setSectionInt doc "gpu" "device_id" (intOfUnsigned target.deviceId)
  let doc := setSectionInt doc "gpu" "subsystem_id" (intOfUnsigned target.subSystemId)
  setSectionValue doc "gpu" "selected_pci_location_role"
    (if role ≠ .unrecorded ∧ target.bdfValid then (configuredGpuLocationRoleName role).toList
      else [])

/-- What the record keeps of an adapter: its location, and of its model the two ids. -/
def GpuAdapterInfo.recorded (gpu : GpuAdapterInfo) : GpuAdapterInfo where
  valid := gpu.valid
  pciInfoValid := gpu.pciInfoValid
  deviceId := gpu.deviceId
  subSystemId := gpu.subSystemId
  pciDomain := gpu.pciDomain
  pciBus := gpu.pciBus
  pciDevice := gpu.pciDevice
  pciFunction := gpu.pciFunction

/-! ## What is saved is loaded -/

theorem digit_function {n : Nat} (h : n ≤ 7) :
    Hex.parseHexU32Field (Nat.toDigits 10 n) 7 = some (n, []) := by
  interval_cases n <;> decide

theorem head_of_digits {width n : Nat} (hwidth : 0 < width ∧ width ≤ 8) (h : n < 16 ^ width)
    (rest : Text) : (Hex.print width n ++ rest).dropWhile isSpace = Hex.print width n ++ rest := by
  have hlength := Hex.length_print hwidth.1 h
  cases hdigits : Hex.print width n with
  | nil =>
    rw [hdigits, List.length_nil] at hlength
    omega
  | cons c digits =>
    have hc := (Hex.print_hex width n).1 c (by rw [hdigits]; exact List.mem_cons_self)
    refine List.dropWhile_cons_of_neg fun hspace => ?_
    rcases of_decide_eq_true hspace with rfl | rfl <;> exact absurd hc (by decide)

theorem parse_format {gpu : GpuAdapterInfo} (h : gpu.bdfValid = true) :
    parsePciBdfString (formatLinuxGpuBdf gpu) =
      some (gpu.pciDomain.toNat, gpu.pciBus.toNat, gpu.pciDevice.toNat, gpu.pciFunction.toNat) := by
  simp only [GpuAdapterInfo.bdfValid, Bool.and_eq_true, decide_eq_true_eq,
    UInt32.le_iff_toNat_le] at h
  obtain ⟨⟨⟨⟨⟨hvalid, hdomain⟩, hbus⟩, hdevice⟩, hfunction⟩, -⟩ := h
  have hdomain : gpu.pciDomain.toNat ≤ 0xFFFF := hdomain
  have hbus : gpu.pciBus.toNat ≤ 0xFF := hbus
  have hdevice : gpu.pciDevice.toNat ≤ 0x1F := hdevice
  have hfunction : gpu.pciFunction.toNat ≤ 7 := hfunction
  have hcolon : ∀ rest : Text, ∀ c ∈ (':' :: rest).head?, Hex.isHexDigit c = false := by
    rintro rest _ ⟨⟩
    rfl
  have hdot : ∀ rest : Text, ∀ c ∈ ('.' :: rest).head?, Hex.isHexDigit c = false := by
    rintro rest _ ⟨⟩
    rfl
  rw [formatLinuxGpuBdf, if_pos hvalid]
  unfold parsePciBdfString
  rw [head_of_digits (by decide) (by omega), Hex.parse_print (by decide) (by omega) hdomain (hcolon _)]
  simp only [Option.bind_eq_bind, Option.bind_some, List.head?_cons, List.tail_cons, guard_true]
  rw [Hex.parse_print (by decide) (by omega) hbus (hcolon _)]
  simp only [Option.bind_some, List.head?_cons, List.tail_cons]
  rw [Hex.parse_print (by decide) (by omega) hdevice (hdot _)]
  simp only [Option.bind_some, List.head?_cons, List.tail_cons]
  rw [digit_function hfunction]
  rfl

theorem linuxGpuParseBdf_format {gpu : GpuAdapterInfo} (h : gpu.bdfValid = true) :
    linuxGpuParseBdf (formatLinuxGpuBdf gpu) = some
      { valid := true
        pciDomain := gpu.pciDomain
        pciBus := gpu.pciBus
        pciDevice := gpu.pciDevice
        pciFunction := gpu.pciFunction } := by
  have hzero : (gpu.pciDomain.toNat, gpu.pciBus.toNat, gpu.pciDevice.toNat, gpu.pciFunction.toNat) ≠
      (0, 0, 0, 0) := by
    simp only [GpuAdapterInfo.bdfValid, Bool.and_eq_true, decide_eq_true_eq] at h
    intro hnil
    refine h.2 ?_
    simp only [Prod.mk.injEq, ← UInt32.toNat_zero, UInt32.toNat_inj] at hnil
    simp only [GpuAdapterInfo.bdf, hnil]
  rw [linuxGpuParseBdf, parse_format h]
  simp only [Option.bind_eq_bind, Option.bind_some, guard, if_pos hzero, Option.pure_def,
    UInt32.ofNat_toNat]

theorem cString_of_notMem {t : Text} (h : '\x00' ∉ t) : Ini.cString t = t := Ini.cString_eq_self.mpr h

theorem isHexDigit_ne_nul {c : Char} (h : Hex.isHexDigit c = true) : c ≠ '\x00' := by
  rintro rfl
  exact absurd h (by decide)

theorem nul_notMem_print (width n : Nat) : '\x00' ∉ Hex.print width n := fun h =>
  isHexDigit_ne_nul ((Hex.print_hex width n).1 _ h) rfl

theorem nul_notMem_format (gpu : GpuAdapterInfo) : '\x00' ∉ formatLinuxGpuBdf gpu := by
  have hfunction : '\x00' ∉ Nat.toDigits 10 gpu.pciFunction.toNat := fun h =>
    absurd (Nat.isDigit_of_mem_toDigits (by decide) (by decide) h) (by decide)
  unfold formatLinuxGpuBdf
  split
  · simp only [List.mem_append, List.mem_cons, nul_notMem_print, hfunction, or_false, false_or,
      not_or]
    decide
  · decide

theorem intOfUnsigned_range (n : UInt32) :
    -2147483648 ≤ intOfUnsigned n ∧ intOfUnsigned n ≤ 2147483647 := by
  have hlow : -2 ^ (32 - 1) ≤ n.toBitVec.toInt := BitVec.le_toInt n.toBitVec
  have hhigh : n.toBitVec.toInt < 2 ^ (32 - 1) := BitVec.toInt_lt
  unfold intOfUnsigned
  omega

theorem unsignedOfInt_intOfUnsigned (n : UInt32) : unsignedOfInt (intOfUnsigned n) = n := by
  simp only [unsignedOfInt, intOfUnsigned, BitVec.ofInt_toInt, UInt32.ofBitVec_toBitVec]

theorem entries_setSectionValue (doc : Document) (name key : String) (v : Text) :
    (setSectionValue doc name key v).entries name.toList =
      Ini.assign key.toList v (doc.entries name.toList) :=
  Document.entries_upsert_self _ _ doc

theorem printInt_ne_nil (n : Int) : printInt n ≠ [] := by
  cases n with
  | ofNat n => exact Nat.toDigits_ne_nil
  | negSucc n => exact List.cons_ne_nil _ _

theorem getSectionInt_of_lookup {doc : Document} {name key : String} {n : Int}
    (hrange : -2147483648 ≤ n ∧ n ≤ 2147483647)
    (h : Ini.lookup (doc.entries name.toList) key.toList = some (printInt n))
    (default : Int) : getSectionInt doc name key default = n := by
  simp only [getSectionInt, value, h, Option.getD_some, if_neg (printInt_ne_nil n),
    parseIntStrict_printInt hrange]

/-- The five entries after a save. -/
theorem lookup_save (doc : Document) (gpu : GpuAdapterInfo) (role : GpuLocationRole) :
    let entries := (saveLinuxGpuSelection doc gpu role).entries "gpu".toList
    Ini.lookup entries "selected_bdf".toList = some (formatLinuxGpuBdf gpu) ∧
    Ini.lookup entries "pci_info_valid".toList =
      some (printInt (if gpu.pciInfoValid then 1 else 0)) ∧
    Ini.lookup entries "device_id".toList = some (printInt (intOfUnsigned gpu.deviceId)) ∧
    Ini.lookup entries "subsystem_id".toList =
      some (printInt (intOfUnsigned gpu.subSystemId)) ∧
    Ini.lookup entries "selected_pci_location_role".toList =
      some (if role ≠ .unrecorded ∧ gpu.bdfValid then (configuredGpuLocationRoleName role).toList
        else []) := by
  simp only [saveLinuxGpuSelection, setSectionInt, entries_setSectionValue]
  refine ⟨?_, ?_, ?_, ?_, Ini.lookup_assign_self _ _ _⟩
  · rw [Ini.lookup_assign_of_ne (by decide), Ini.lookup_assign_of_ne (by decide),
      Ini.lookup_assign_of_ne (by decide), Ini.lookup_assign_of_ne (by decide),
      Ini.lookup_assign_self]
  · rw [Ini.lookup_assign_of_ne (by decide), Ini.lookup_assign_of_ne (by decide),
      Ini.lookup_assign_of_ne (by decide), Ini.lookup_assign_self]
  · rw [Ini.lookup_assign_of_ne (by decide), Ini.lookup_assign_of_ne (by decide),
      Ini.lookup_assign_self]
  · rw [Ini.lookup_assign_of_ne (by decide), Ini.lookup_assign_self]

theorem parse_roleName (role : GpuLocationRole) (bdfValid : Bool) (h : bdfValid = true) :
    configuredGpuLocationRoleParse (Ini.cString (if role ≠ .unrecorded ∧ bdfValid = true then
      (configuredGpuLocationRoleName role).toList else [])) = some role := by
  subst h
  cases role <;> decide

/-- **What is saved is loaded**: location, ids and role of a GPU with a location. -/
theorem load_save {gpu : GpuAdapterInfo} (h : gpu.bdfValid = true) (doc : Document)
    (role : GpuLocationRole) :
    selectionRecord (saveLinuxGpuSelection doc gpu role) = .present gpu.recorded role := by
  obtain ⟨hbdf, hinfo, hdevice, hsubsystem, hrole⟩ := lookup_save doc gpu role
  have hinfo' := getSectionInt_of_lookup (by split <;> decide) hinfo 0
  have hdevice' := getSectionInt_of_lookup (intOfUnsigned_range _) hdevice 0
  have hsubsystem' := getSectionInt_of_lookup (intOfUnsigned_range _) hsubsystem 0
  have hvalid : gpu.valid = true := by
    simp only [GpuAdapterInfo.bdfValid, Bool.and_eq_true] at h
    exact h.1.1.1.1.1
  have hne : formatLinuxGpuBdf gpu ≠ [] := by
    intro hnil
    have hparse := linuxGpuParseBdf_format h
    rw [hnil] at hparse
    cases hparse
  simp only [selectionRecord, value, hbdf, hrole, Option.getD_some,
    cString_of_notMem (nul_notMem_format gpu), linuxGpuSelectionRecordParse,
    if_neg (fun hboth : formatLinuxGpuBdf gpu = [] ∧ _ => hne hboth.1),
    linuxGpuParseBdf_format h, parse_roleName role gpu.bdfValid h, hinfo', hdevice', hsubsystem',
    unsignedOfInt_intOfUnsigned]
  simp only [SelectionRecord.present.injEq, and_true, GpuAdapterInfo.recorded, hvalid]
  cases gpu.pciInfoValid <;> rfl

end GreenCurve.Gpu
