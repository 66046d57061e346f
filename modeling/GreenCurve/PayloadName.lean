import GreenCurve.CString
import Mathlib.Data.List.DropRight
import Mathlib.Tactic.Common

/-! # The names in a payload

A payload is unpacked under the names it carries, so a name must be a bare one and the one
Windows will use: Win32 drops dots and blanks at the end of a name, takes `.` and `..` for
directories, and opens a device for some names whatever their extension.  `BareName` says
so in its own terms; the check of the installer accepts exactly the bare names that fit
their field (`gcArchiveNameIsSafe_iff`). -/

namespace GreenCurve.Payload

/-- `char c = 'x'`, for a character of one byte. -/
def char (c : Char) : UInt8 := c.toNat.toUInt8

def asciiUpper (c : UInt8) : UInt8 := if char 'a' ≤ c ∧ c ≤ char 'z' then c - 32 else c

def asciiLower (c : UInt8) : UInt8 := if char 'A' ≤ c ∧ c ≤ char 'Z' then c + 32 else c

/-! ## The check -/

abbrev GC_ARCHIVE_MAX_NAME : Nat := 63

/-- `kDevices`: the digit of a port may be a superscript, in UTF-8. -/
def kDevices : List (List UInt8) :=
  [ascii "CON", ascii "PRN", ascii "AUX", ascii "NUL", ascii "CONIN$", ascii "CONOUT$",
    ascii "COM" ++ [0xC2, 0xB9], ascii "COM" ++ [0xC2, 0xB2], ascii "COM" ++ [0xC2, 0xB3],
    ascii "LPT" ++ [0xC2, 0xB9], ascii "LPT" ++ [0xC2, 0xB2], ascii "LPT" ++ [0xC2, 0xB3],
    ascii "COM1", ascii "COM2", ascii "COM3", ascii "COM4", ascii "COM5", ascii "COM6",
    ascii "COM7", ascii "COM8", ascii "COM9",
    ascii "LPT1", ascii "LPT2", ascii "LPT3", ascii "LPT4", ascii "LPT5", ascii "LPT6",
    ascii "LPT7", ascii "LPT8", ascii "LPT9"]

/-- `gc_archive_name_device_free`. -/
def gcArchiveNameDeviceFree (name : List UInt8) : Bool :=
  let stem := (name.takeWhile (· ≠ char '.')).rdropWhile fun c => c = char ' ' ∨ c = char '.'
  if stem.length = 0 ∨ 7 < stem.length then true
  else kDevices.all fun device => device.length ≠ stem.length || stem.map asciiUpper ≠ device

/-- A character that no name may hold. -/
def refusedChar (c : UInt8) : Bool :=
  c = char '\\' || c = char '/' || c = char ':' || c < 0x20 || c = char '*' || c = char '?' ||
    c = char '"' || c = char '<' || c = char '>' || c = char '|'

/-- `gc_archive_name_is_safe`, of the text before the terminator. -/
def gcArchiveNameIsSafe (name : CString) : Bool :=
  if name.bytes = [] then false
  else if name.bytes.any refusedChar then false
  else if GC_ARCHIVE_MAX_NAME < name.bytes.length then false
  else if name.bytes = ascii "." ∨ name.bytes = ascii ".." then false
  else if name.bytes.getLast? = some (char '.') ∨ name.bytes.getLast? = some (char ' ') then false
  else gcArchiveNameDeviceFree name.bytes

/-! ## Names of files on Windows -/

/-- What Win32 makes of a name: it drops dots and blanks at the end. -/
def win32Canonical (name : List UInt8) : List UInt8 :=
  name.rdropWhile fun c => c = char '.' ∨ c = char ' '

def IsDirectory (name : List UInt8) : Prop := name = ascii "." ∨ name = ascii ".."

/-- The last characters of the ports: a digit or a superscript. -/
def portDigits : List (List UInt8) :=
  ["1", "2", "3", "4", "5", "6", "7", "8", "9"].map ascii ++ [[0xC2, 0xB9], [0xC2, 0xB2], [0xC2, 0xB3]]

/-- The names of the DOS devices. -/
def dosDevices : List (List UInt8) :=
  ["CON", "PRN", "AUX", "NUL", "CONIN$", "CONOUT$"].map ascii ++
    ["COM", "LPT"].flatMap fun port => portDigits.map fun digit => ascii port ++ digit

/-- The name stands for a device: without its extension, the blanks before that and its
case, it is the name of one. -/
def IsDevice (name : List UInt8) : Prop :=
  ((name.takeWhile (· ≠ char '.')).rdropWhile (· = char ' ')).map asciiUpper ∈ dosDevices

/-- **A bare name that Win32 takes as it stands**, for a file and not for a device. -/
structure BareName (name : List UInt8) : Prop where
  ne_nil : name ≠ []
  separators : char '\\' ∉ name ∧ char '/' ∉ name ∧ char ':' ∉ name
  printable : ∀ c ∈ name, 0x20 ≤ c
  wildcards : ∀ c ∈ ascii "*?\"<>|", c ∉ name
  canonical : win32Canonical name = name
  directory : ¬IsDirectory name
  device : ¬IsDevice name

theorem mem_kDevices {device : List UInt8} : device ∈ kDevices ↔ device ∈ dosDevices := by
  have hsub : kDevices ⊆ dosDevices ∧ dosDevices ⊆ kDevices := by decide
  exact ⟨fun h => hsub.1 h, fun h => hsub.2 h⟩

/-- Behind the first dot the stem holds none, so only blanks go. -/
theorem stem_eq (name : List UInt8) :
    ((name.takeWhile (· ≠ char '.')).rdropWhile fun c => c = char ' ' ∨ c = char '.') =
      (name.takeWhile (· ≠ char '.')).rdropWhile (· = char ' ') := by
  have hno : ∀ c ∈ (name.takeWhile (· ≠ char '.')).reverse, c ≠ char '.' := by
    intro c hc
    simpa using List.mem_takeWhile_imp (List.mem_reverse.mp hc)
  rw [List.rdropWhile, List.rdropWhile]
  refine congrArg List.reverse ?_
  generalize (name.takeWhile (· ≠ char '.')).reverse = stem at hno
  induction stem with
  | nil => rfl
  | cons c rest ih =>
    have hc := hno c List.mem_cons_self
    simp only [List.dropWhile_cons, hc, or_false]
    split
    · exact ih fun d hd => hno d (List.mem_cons_of_mem c hd)
    · rfl

theorem gcArchiveNameDeviceFree_iff (name : List UInt8) :
    gcArchiveNameDeviceFree name = true ↔ ¬IsDevice name := by
  have hlength : ∀ device ∈ dosDevices, 0 < device.length ∧ device.length ≤ 7 := by decide
  unfold gcArchiveNameDeviceFree IsDevice
  rw [stem_eq]
  generalize (name.takeWhile (· ≠ char '.')).rdropWhile (· = char ' ') = stem
  rw [← mem_kDevices]
  dsimp only
  split
  · rename_i hlong
    refine iff_of_true rfl fun hmem => ?_
    have h := hlength _ (mem_kDevices.mp hmem)
    rw [List.length_map] at h
    omega
  · rw [List.all_eq_true]
    constructor
    · intro h hmem
      have hdevice := h _ hmem
      simp at hdevice
    · intro hmem device hdevice
      have hne : stem.map asciiUpper ≠ device := fun heq => hmem (heq ▸ hdevice)
      simp [hne]

theorem win32Canonical_eq_self {name : List UInt8} : win32Canonical name = name ↔
    ¬(name.getLast? = some (char '.') ∨ name.getLast? = some (char ' ')) := by
  rw [win32Canonical, List.rdropWhile_eq_self_iff]
  cases name using List.reverseRecOn with
  | nil => simp
  | append_singleton name c => simp

/-- **The check accepts exactly the bare names that fit their field.** -/
theorem gcArchiveNameIsSafe_iff (name : CString) : gcArchiveNameIsSafe name = true ↔
    BareName name.bytes ∧ name.bytes.length ≤ GC_ARCHIVE_MAX_NAME := by
  have hchars : name.bytes.any refusedChar = false ↔
      (char '\\' ∉ name.bytes ∧ char '/' ∉ name.bytes ∧ char ':' ∉ name.bytes) ∧
        (∀ c ∈ name.bytes, 0x20 ≤ c) ∧ ∀ c ∈ ascii "*?\"<>|", c ∉ name.bytes := by
    rw [List.any_eq_false]
    constructor
    · intro h
      have hnot : ∀ d : UInt8, refusedChar d = true → d ∉ name.bytes := fun d hd hmem => h d hmem hd
      refine ⟨⟨hnot _ rfl, hnot _ rfl, hnot _ rfl⟩, fun c hc => ?_, fun c hc => hnot c ?_⟩
      · have hle : ¬c < 0x20 := fun hlt => h c hc (by simp [refusedChar, hlt])
        exact UInt8.not_lt.mp hle
      · have hwild : (ascii "*?\"<>|").all refusedChar = true := by decide
        exact List.all_eq_true.mp hwild c hc
    · rintro ⟨⟨hback, hslash, hcolon⟩, hprint, hwild⟩ c hc hrefused
      have hlow : ¬c < 0x20 := UInt8.not_lt.mpr (hprint c hc)
      have hne : ∀ d, d ∉ name.bytes → c ≠ d := fun d hd heq => hd (heq ▸ hc)
      have hw : ∀ d ∈ ascii "*?\"<>|", c ≠ d := fun d hd => hne d (hwild d hd)
      simp only [refusedChar, Bool.or_eq_true, decide_eq_true_eq] at hrefused
      have hstar := hw (char '*') (by decide)
      have hquestion := hw (char '?') (by decide)
      have hquote := hw (char '"') (by decide)
      have hless := hw (char '<') (by decide)
      have hgreater := hw (char '>') (by decide)
      have hbar := hw (char '|') (by decide)
      simp [hne _ hback, hne _ hslash, hne _ hcolon, hlow, hstar, hquestion, hquote, hless,
        hgreater, hbar] at hrefused
  unfold gcArchiveNameIsSafe
  split_ifs with hnil hrefused hlong hdirectory hlast
  · exact iff_of_false nofun fun h => h.1.ne_nil hnil
  · refine iff_of_false nofun fun h => ?_
    have hfalse := hchars.mpr ⟨h.1.separators, h.1.printable, h.1.wildcards⟩
    exact absurd (hrefused.symm.trans hfalse) (by decide)
  · exact iff_of_false nofun fun h => absurd h.2 (Nat.not_le.mpr hlong)
  · exact iff_of_false nofun fun h => h.1.directory hdirectory
  · exact iff_of_false nofun fun h => win32Canonical_eq_self.mp h.1.canonical hlast
  · obtain ⟨hseparators, hprintable, hwildcards⟩ := hchars.mp (Bool.not_eq_true _ ▸ hrefused)
    rw [gcArchiveNameDeviceFree_iff]
    constructor
    · intro hdevice
      exact ⟨⟨hnil, hseparators, hprintable, hwildcards, win32Canonical_eq_self.mpr hlast,
        hdirectory, hdevice⟩, Nat.not_lt.mp hlong⟩
    · exact fun h => h.1.device

end GreenCurve.Payload
