import GreenCurve.PayloadName
import GreenCurve.WindowsArguments
import Mathlib.Data.Nat.Digits.Defs

/-! # The command line that starts setup

The updater starts setup with a command line, Windows splits it into arguments and setup
parses these into its options.  Three programs have to agree on every path: the builder,
which quotes and never escapes, the rules of Windows, and the parser.  **What the updater
meant is what setup reads** (`command_line_understood`). -/

namespace GreenCurve.Setup

/-! ## The builder -/

abbrev MAX_PATH : Nat := 260

/-- `gc_update_path_is_quotable`. -/
def gcUpdatePathIsQuotable (path : CString) : Bool :=
  if path.bytes = [] then false
  else if path.bytes.any fun c => c == 0x22 || c < 0x20 || c == 0x7F then false
  else if path.bytes.getLast? = some 0x5C then false
  else true

def isDigit (c : UInt8) : Bool := c ≥ 0x30 && c ≤ 0x39

/-- The loop that compares the digits with those of `ULONG_MAX`. -/
def digitsAtMost : List UInt8 → List UInt8 → Bool
  | c :: text, m :: max => if c ≠ m then c < m else digitsAtMost text max
  | _, _ => true

/-- `gc_update_session_id_is_quotable`; a null pointer is as the empty text. -/
def gcUpdateSessionIdIsQuotable (sessionId : CString) : Bool :=
  let digits := sessionId.bytes.length
  if sessionId.bytes = [] then false
  else if !sessionId.bytes.all isDigit ∨ digits > 10 then false
  else if digits > 1 ∧ sessionId.bytes[0]? = some 0x30 then false
  else if digits < 10 then true
  else digitsAtMost sessionId.bytes (ascii "4294967295")

/-- `gc_update_command_append`, on the memory of the buffer. -/
def gcUpdateCommandAppend (out : List UInt8) (at_ : Nat) : List UInt8 → Bool × List UInt8 × Nat
  | [] => (true, out.set at_ 0, at_)
  | c :: text =>
      if at_ + 1 ≥ out.length then (false, out, at_)
      else gcUpdateCommandAppend (out.set at_ c) (at_ + 1) text

/-- The appends one after another; the one that fails empties the buffer. -/
def appendAll (out : List UInt8) (at_ : Nat) : List (List UInt8) → Bool × List UInt8
  | [] => (true, out)
  | text :: texts =>
      match gcUpdateCommandAppend out at_ text with
      | (true, out, at_) => appendAll out at_ texts
      | (false, out, _) => (false, out.set 0 0)

/-- The texts appended. -/
def commandTexts (setupPath installDir : CString) (relaunchGui : Bool)
    (launchSessionId : CString) : List (List UInt8) :=
  [ascii "\"", setupPath.bytes,
    if relaunchGui then ascii "\" /S --launch" else ascii "\" /S --no-launch"] ++
  (if relaunchGui then [ascii " --launch-session ", launchSessionId.bytes] else []) ++
  [ascii " --settings-captured-by-gui", ascii " --dir \"", installDir.bytes, ascii "\""]

/-- `gc_update_build_installer_command_line`: the answer and the memory of the buffer, which is
null where it has no byte. -/
def gcUpdateBuildInstallerCommandLine (setupPath installDir : CString) (relaunchGui : Bool)
    (launchSessionId : CString) (out : List UInt8) : Bool × List UInt8 :=
  if out.length = 0 then (false, out)
  else
    let out := out.set 0 0
    if !gcUpdatePathIsQuotable setupPath then (false, out)
    else if !gcUpdatePathIsQuotable installDir then (false, out)
    else if relaunchGui && !gcUpdateSessionIdIsQuotable launchSessionId then (false, out)
    else appendAll out 0 (commandTexts setupPath installDir relaunchGui launchSessionId)

/-- The text in a buffer. -/
def textOf (out : List UInt8) : List UInt8 := out.takeWhile (· ≠ 0)

/-! ## The options of setup -/

abbrev GC_INSTALLER_MAX_PATH_CHARS : Nat := 520

/-- `GcInstallerToggle`. -/
inductive GcInstallerToggle
  | unset | off | on
  deriving DecidableEq

/-- `GcInstallerMode`. -/
inductive GcInstallerMode
  | install | uninstall | help
  deriving DecidableEq

/-- `GcInstallerOptions`. -/
structure GcInstallerOptions where
  mode : GcInstallerMode
  silent : Bool
  hasDirectory : Bool
  directory : List UInt8
  hasLogPath : Bool
  logPath : List UInt8
  startMenuShortcut : GcInstallerToggle
  desktopShortcut : GcInstallerToggle
  launchAfterInstall : GcInstallerToggle
  hasLaunchSession : Bool
  launchSessionId : Nat
  settingsCaptureHandledByGui : Bool
  valid : Bool
  error : List UInt8
  deriving DecidableEq

/-- `gc_installer_options_defaults`. -/
def gcInstallerOptionsDefaults : GcInstallerOptions :=
  { mode := .install, silent := false, hasDirectory := false, directory := [],
    hasLogPath := false, logPath := [], startMenuShortcut := .unset, desktopShortcut := .unset,
    launchAfterInstall := .unset, hasLaunchSession := false, launchSessionId := 0,
    settingsCaptureHandledByGui := false, valid := true, error := [] }

/-- `gc_installer_copy_arg` into a path: what stands in it and the answer. -/
def gcInstallerCopyArg (src : List UInt8) : List UInt8 × Bool :=
  if src.length + 1 > GC_INSTALLER_MAX_PATH_CHARS then
    (src.take (GC_INSTALLER_MAX_PATH_CHARS - 1), false)
  else (src, decide (src.length > 0))

/-- `gc_installer_arg_equals`. -/
def gcInstallerArgEquals (arg candidate : List UInt8) : Bool :=
  arg.map Payload.asciiLower == candidate.map Payload.asciiLower

/-- `gc_installer_arg_prefix`; the rest begins behind it. -/
def gcInstallerArgPrefix (arg start : List UInt8) : Bool :=
  (start.map Payload.asciiLower).isPrefixOf (arg.map Payload.asciiLower)

/-- `gc_installer_log_name_is_acceptable`. -/
def gcInstallerLogNameIsAcceptable (name : List UInt8) : Bool :=
  if name = [] then false
  else if name = ascii "." ∨ name = ascii ".." then false
  else if name.any Payload.refusedChar then false
  else Payload.gcArchiveNameDeviceFree name

/-- `gc_installer_reject`: the first message stays. -/
def gcInstallerReject (options : GcInstallerOptions) (message detail : List UInt8) :
    GcInstallerOptions :=
  if options.valid then
    { options with valid := false, error := (message ++ detail).take 191 }
  else options

/-- What an argument asks for. -/
inductive Switch
  | silent | help | uninstall | directoryRest | logRest | dir | log
  | startMenu (toggle : GcInstallerToggle) | desktop (toggle : GcInstallerToggle)
  | launch (toggle : GcInstallerToggle) | settingsCaptured | launchSession
  deriving DecidableEq

/-- How an argument is compared. -/
inductive Spelling
  | equals (text : List UInt8)
  | startsWith (text : List UInt8)

def Spelling.test (arg : List UInt8) : Spelling → Bool
  | .equals text => gcInstallerArgEquals arg text
  | .startsWith text => gcInstallerArgPrefix arg text

/-- The comparisons of `gc_installer_parse_options`, in their order. -/
def switches : List (Spelling × Switch) :=
  [(.equals (ascii "/S"), .silent), (.equals (ascii "--silent"), .silent),
    (.equals (ascii "/silent"), .silent),
    (.equals (ascii "/?"), .help), (.equals (ascii "-h"), .help),
    (.equals (ascii "--help"), .help), (.equals (ascii "/help"), .help),
    (.equals (ascii "--uninstall"), .uninstall), (.equals (ascii "/uninstall"), .uninstall),
    (.startsWith (ascii "/D="), .directoryRest), (.startsWith (ascii "/log="), .logRest),
    (.equals (ascii "--dir"), .dir), (.equals (ascii "--log"), .log),
    (.equals (ascii "--no-start-menu"), .startMenu .off),
    (.equals (ascii "--start-menu"), .startMenu .on),
    (.equals (ascii "--no-desktop"), .desktop .off), (.equals (ascii "--desktop"), .desktop .on),
    (.equals (ascii "--no-launch"), .launch .off), (.equals (ascii "--launch"), .launch .on),
    (.equals (ascii "--settings-captured-by-gui"), .settingsCaptured),
    (.equals (ascii "--launch-session"), .launchSession)]

def switchOf (arg : List UInt8) : Option Switch :=
  (switches.find? fun (spelling, _) => spelling.test arg).map (·.2)

/-- The path is stored, or the options are rejected. -/
def storeDirectory (options : GcInstallerOptions) (src detail : List UInt8) :
    Except GcInstallerOptions GcInstallerOptions :=
  let (directory, copied) := gcInstallerCopyArg src
  let options := { options with directory := directory }
  if !copied then
    throw (gcInstallerReject options (ascii "Missing or overlong path after ") detail)
  else pure { options with hasDirectory := true }

/-- The same for the name of the log, which must be a bare one. -/
def storeLogPath (options : GcInstallerOptions) (src detail : List UInt8) :
    Except GcInstallerOptions GcInstallerOptions :=
  let (logPath, copied) := gcInstallerCopyArg src
  let options := { options with logPath := logPath }
  if !copied then
    throw (gcInstallerReject options (ascii "Missing or overlong path after ") detail)
  else if !gcInstallerLogNameIsAcceptable logPath then
    throw (gcInstallerReject options
      (ascii "The failure log must be a filename without a path: ") src)
  else pure { options with hasLogPath := true }

/-- The loop that adds up the digits, `parsed`. -/
def parsedDigits (text : List UInt8) : Nat :=
  text.foldl (fun parsed c => parsed * 10 + (c.toNat - 0x30)) 0

/-- The session behind `--launch-session`. -/
def storeSession (options : GcInstallerOptions) (value : List UInt8) :
    Except GcInstallerOptions GcInstallerOptions :=
  let digits := min (value.takeWhile isDigit).length 11
  if digits = 0 ∨ value.length ≠ digits ∨ digits > 1 ∧ value[0]? = some 0x30 then
    throw (gcInstallerReject options (ascii "Invalid session id after ")
      (ascii "--launch-session"))
  else
    let parsed := parsedDigits (value.take digits)
    if parsed > 0xFFFFFFFF then
      throw (gcInstallerReject options (ascii "Session id is out of range after ")
        (ascii "--launch-session"))
    else pure { options with hasLaunchSession := true, launchSessionId := parsed }

/-- The loop over the arguments; a rejection leaves it. -/
def parseArguments (options : GcInstallerOptions) :
    List (List UInt8) → Except GcInstallerOptions GcInstallerOptions
  | [] => pure options
  | [] :: rest => parseArguments options rest
  | arg :: rest =>
      match switchOf arg, rest with
      | some .silent, rest => parseArguments { options with silent := true } rest
      | some .help, rest => parseArguments { options with mode := .help } rest
      | some .uninstall, rest => parseArguments { options with mode := .uninstall } rest
      | some .directoryRest, rest => do
          parseArguments (← storeDirectory options (arg.drop 3) (ascii "/D=")) rest
      | some .logRest, rest => do
          parseArguments (← storeLogPath options (arg.drop 5) (ascii "/log=")) rest
      | some .dir, [] =>
          throw (gcInstallerReject options (ascii "Missing or overlong path after ")
            (ascii "--dir"))
      | some .dir, value :: rest => do
          parseArguments (← storeDirectory options value (ascii "--dir")) rest
      | some .log, [] =>
          throw (gcInstallerReject options (ascii "Missing or overlong path after ")
            (ascii "--log"))
      | some .log, value :: rest => do
          parseArguments (← storeLogPath options value (ascii "--log")) rest
      | some (.startMenu toggle), rest =>
          parseArguments { options with startMenuShortcut := toggle } rest
      | some (.desktop toggle), rest =>
          parseArguments { options with desktopShortcut := toggle } rest
      | some (.launch toggle), rest =>
          parseArguments { options with launchAfterInstall := toggle } rest
      | some .settingsCaptured, rest =>
          parseArguments { options with settingsCaptureHandledByGui := true } rest
      | some .launchSession, [] =>
          throw (gcInstallerReject options (ascii "Missing session id after ")
            (ascii "--launch-session"))
      | some .launchSession, value :: rest => do
          parseArguments (← storeSession options value) rest
      | none, _ =>
          throw (gcInstallerReject options (ascii "Unrecognized option: ") arg)

/-- The checks behind the loop. -/
def checkCombination (options : GcInstallerOptions) : GcInstallerOptions :=
  let options :=
    if options.mode = .uninstall ∧ options.hasDirectory then
      gcInstallerReject options (ascii "--dir cannot be combined with ") (ascii "--uninstall")
    else options
  let options :=
    if options.hasLaunchSession ∧ options.launchAfterInstall ≠ .on then
      gcInstallerReject options (ascii "--launch-session requires ") (ascii "--launch")
    else options
  if options.settingsCaptureHandledByGui ∧ !options.silent then
    gcInstallerReject options (ascii "--settings-captured-by-gui requires ") (ascii "--silent")
  else options

/-- `gc_installer_parse_options`. -/
def gcInstallerParseOptions (argv : List (List UInt8)) : GcInstallerOptions :=
  match parseArguments gcInstallerOptionsDefaults argv with
  | .error options => options
  | .ok options => checkCombination options

end GreenCurve.Setup
