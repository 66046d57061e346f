import GreenCurve.ShellWords

/-! # Generated desktop and unit files

`--write-assets` generates a desktop entry and a systemd unit that start the program with
its configuration.  Both hand a command to a shell, so a path goes through two layers of
quoting: single quotes for the shell, and an escape for the grammar of the file around
them.  What no grammar can hold is refused before anything is written. -/

namespace GreenCurve.LinuxAssets

/-- The bytes of a text, each the character of its code. -/
abbrev Text := List Char

/-- `linux_asset_path_reject_reason`. -/
def linuxAssetPathRejectReason (path : Text) : Option String :=
  if path = [] then some "path is empty"
  else path.findSome? fun c =>
    if c = '\n' ∨ c = '\r' then
      some "path contains a line break, which would split a generated systemd unit directive"
    else if c < ' ' ∨ c = '\x7f' then some "path contains a control character"
    else none

/-- `shell_quote_single`. -/
def shellQuoteSingle (text : Text) : Text :=
  '\'' :: text.flatMap (fun c => if c = '\'' then "'\"'\"'".toList else [c]) ++ ['\'']

/-- What a buffer of a size holds with its terminator; nothing is cut. -/
def put (outSize : Nat) (out : Text) : Option Text :=
  if out.length + 1 ≤ outSize then some out else none

def desktopExecChar (c : Char) : Text :=
  if c = '"' ∨ c = '`' ∨ c = '$' ∨ c = '\\' then
    ['\\', '\\'] ++ (if c = '\\' then ['\\'] else []) ++ [c]
  else if c = '%' then ['%', c]
  else [c]

/-- `linux_desktop_exec_escape`. -/
def linuxDesktopExecEscape (value : Text) (outSize : Nat) : Option Text :=
  put outSize (value.flatMap desktopExecChar)

def systemdValueChar (c : Char) : Text := if c = '%' ∨ c = '$' then [c, c] else [c]

/-- `linux_systemd_value_escape`. -/
def linuxSystemdValueEscape (value : Text) (outSize : Nat) : Option Text :=
  put outSize (value.flatMap systemdValueChar)

structure LinuxAssetEscapedPaths where
  desktopExec : Text
  desktopConfig : Text
  systemdExec : Text
  systemdConfig : Text
  systemdConditionPath : Text

abbrev escapedPathSize : Nat := 1024

/-- `linux_asset_escape_all`. -/
def linuxAssetEscapeAll (shellQuotedExec shellQuotedConfig rawConfig : Text) :
    Option LinuxAssetEscapedPaths := do
  let desktopExec ← linuxDesktopExecEscape shellQuotedExec escapedPathSize
  let desktopConfig ← linuxDesktopExecEscape shellQuotedConfig escapedPathSize
  let systemdExec ← linuxSystemdValueEscape shellQuotedExec escapedPathSize
  let systemdConfig ← linuxSystemdValueEscape shellQuotedConfig escapedPathSize
  let systemdConditionPath ← linuxSystemdValueEscape rawConfig escapedPathSize
  return { desktopExec, desktopConfig, systemdExec, systemdConfig, systemdConditionPath }

/-- `linux_asset_prepare_paths`. -/
def linuxAssetPreparePaths (rawExec shellQuotedExec rawConfig shellQuotedConfig : Text) :
    Except String LinuxAssetEscapedPaths :=
  match linuxAssetPathRejectReason rawExec with
  | some why => .error why
  | none =>
    match linuxAssetPathRejectReason rawConfig with
    | some why => .error why
    | none =>
      match linuxAssetEscapeAll shellQuotedExec shellQuotedConfig rawConfig with
      | some escaped => .ok escaped
      | none => .error "path is too long once escaped for the generated file formats"

def desktopCommand (escaped : LinuxAssetEscapedPaths) : Text :=
  "sh -lc \"exec ".toList ++ escaped.desktopExec ++
    " --tui --from-desktop --config ".toList ++ escaped.desktopConfig ++ "\"".toList

def serviceCommand (escaped : LinuxAssetEscapedPaths) : Text :=
  "/bin/sh -lc \"exec ".toList ++ escaped.systemdExec ++
    " --apply-config --config ".toList ++ escaped.systemdConfig ++ "\"".toList

/-- The desktop entry. -/
def desktopFile (escaped : LinuxAssetEscapedPaths) : Text :=
  "[Desktop Entry]\nType=Application\nVersion=1.0\nName=Green Curve\n".toList ++
    "Comment=Open the Linux terminal UI for Green Curve\nExec=".toList ++
    desktopCommand escaped ++
    "\nTerminal=true\nCategories=Utility;System;\nStartupNotify=false\n".toList

/-- The unit. -/
def serviceFile (escaped : LinuxAssetEscapedPaths) : Text :=
  "[Unit]\nDescription=Green Curve one-shot profile apply via daemon\n".toList ++
    "After=greencurve.service\nRequires=greencurve.service\nConditionPathExists=".toList ++
    escaped.systemdConditionPath ++ "\n\n[Service]\nType=oneshot\nExecStart=".toList ++
    serviceCommand escaped ++
    "\nStandardOutput=journal\nStandardError=journal\n\n[Install]\n".toList ++
    "WantedBy=multi-user.target\n".toList

/-- The files that carry a command or a path. -/
structure Assets where
  desktop : Text
  autostart : Text
  service : Text

/-- `write_linux_assets`; the files themselves are written. -/
def writeLinuxAssets (outputDir execPath configPath : Text) : Except String Assets :=
  if outputDir = [] ∨ execPath = [] ∨ configPath = [] then
    .error "Missing asset generation paths"
  else
    match linuxAssetPreparePaths execPath (shellQuoteSingle execPath) configPath
        (shellQuoteSingle configPath) with
    | .error why => .error ("Cannot generate desktop assets: " ++ why)
    | .ok escaped =>
      .ok {
        desktop := desktopFile escaped
        autostart := desktopFile escaped ++ "X-GNOME-Autostart-enabled=true\n".toList
        service := serviceFile escaped }

end GreenCurve.LinuxAssets
