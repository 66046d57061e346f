import GreenCurve.AssetSyntax
import GreenCurve.LinuxAssets

/-! # What the generated files say

The desktop entry always decodes to the command that was meant (`desktop_decodes`).  The
unit does so for paths without quotes and backslashes, which its escape leaves alone
although the argument is quoted, and its condition for a configuration path without a
dollar sign, which the escape doubles although a condition has no variables
(`generated_assets`). -/

namespace GreenCurve.LinuxAssets

open AssetSyntax
open Shell (shellWords run)

/-! ## The escapes -/

theorem systemdValue_eq (text : Text) :
    text.flatMap systemdValueChar = double '%' (double '$' text) := by
  induction text with
  | nil => rfl
  | cons c rest ih =>
    have hc : systemdValueChar c = double '%' (double '$' [c]) := by
      unfold systemdValueChar
      by_cases hpercent : c = '%'
      · subst hpercent
        rfl
      by_cases hdollar : c = '$'
      · subst hdollar
        rfl
      simp [double, hpercent, hdollar]
    rw [List.flatMap_cons, hc, ih, ← double_append, ← double_append, List.singleton_append]

/-! ## The desktop entry -/

/-- An escaped character behind the layer of the string values. -/
def execChar (c : Char) : Text :=
  if c ∈ execReserved then ['\\', c] else if c = '%' then ['%', '%'] else [c]

theorem stringValue_cons {c : Char} (h : c ≠ '\\') (text : Text) :
    stringValue (c :: text) = (stringValue text).map (c :: ·) := by
  cases text with
  | nil => simp [stringValue, h]
  | cons c' rest => rw [stringValue, if_neg h]

theorem stringValue_backslash (text : Text) :
    stringValue ('\\' :: '\\' :: text) = (stringValue text).map ('\\' :: ·) := by
  rw [stringValue, if_pos rfl]
  rfl

theorem stringValue_plain {before : Text} (h : '\\' ∉ before) (text : Text) :
    stringValue (before ++ text) = (stringValue text).map (before ++ ·) := by
  induction before with
  | nil => simp
  | cons c rest ih =>
    rw [List.mem_cons, not_or] at h
    rw [List.cons_append, stringValue_cons (Ne.symm h.1), ih h.2, Option.map_map]
    rfl

theorem stringValue_char (c : Char) (text : Text) :
    stringValue (desktopExecChar c ++ text) = (stringValue text).map (execChar c ++ ·) := by
  unfold desktopExecChar execChar
  have hreserved : c ∈ execReserved ↔ c = '"' ∨ c = '`' ∨ c = '$' ∨ c = '\\' := by
    simp [execReserved]
  by_cases hback : c = '\\'
  · subst hback
    rw [if_pos (by simp), if_pos (by decide)]
    change stringValue ('\\' :: '\\' :: '\\' :: '\\' :: text) = _
    rw [stringValue_backslash, stringValue_backslash, Option.map_map]
    rfl
  by_cases hquoted : c ∈ execReserved
  · rw [if_pos (hreserved.mp hquoted), if_pos hquoted, if_neg hback]
    change stringValue ('\\' :: '\\' :: c :: text) = _
    rw [stringValue_backslash, stringValue_cons hback, Option.map_map]
    rfl
  · rw [if_neg (mt hreserved.mpr hquoted), if_neg hquoted]
    by_cases hpercent : c = '%'
    · subst hpercent
      exact stringValue_plain (by decide) text
    · rw [if_neg hpercent, if_neg hpercent]
      exact stringValue_cons hback text

theorem stringValue_escaped (text rest : Text) :
    stringValue (text.flatMap desktopExecChar ++ rest) =
      (stringValue rest).map (text.flatMap execChar ++ ·) := by
  induction text with
  | nil => simp
  | cons c text ih =>
    rw [List.flatMap_cons, List.append_assoc, stringValue_char, ih, Option.map_map,
      List.flatMap_cons]
    simp only [Function.comp_def, List.append_assoc]

theorem execQuoted_cons {c : Char} (h : c ∉ execReserved) (text : Text) :
    execQuoted (c :: text) = (execQuoted text).map fun r => (c :: r.1, r.2) := by
  have hreserved : c ∉ execReserved ↔ c ≠ '"' ∧ c ≠ '`' ∧ c ≠ '$' ∧ c ≠ '\\' := by
    simp [execReserved]
  obtain ⟨hquote, htick, hdollar, hback⟩ := hreserved.mp h
  cases text with
  | nil => simp [execQuoted, hquote]
  | cons c' rest =>
    rw [execQuoted, if_neg hquote, if_neg hback, if_neg (not_or.mpr ⟨htick, hdollar⟩)]

theorem execQuoted_char (c : Char) (text : Text) :
    execQuoted (execChar c ++ text) =
      (execQuoted text).map fun r => (double '%' [c] ++ r.1, r.2) := by
  unfold execChar
  by_cases hquoted : c ∈ execReserved
  · have hpercent : c ≠ '%' := by
      rintro rfl
      exact absurd hquoted (by decide)
    rw [if_pos hquoted]
    change execQuoted ('\\' :: c :: text) = _
    rw [execQuoted, if_neg (by decide), if_pos rfl, if_pos hquoted]
    simp [double, hpercent]
  · rw [if_neg hquoted]
    by_cases hpercent : c = '%'
    · subst hpercent
      change execQuoted ('%' :: '%' :: text) = _
      rw [execQuoted_cons (by decide), execQuoted_cons (by decide), Option.map_map]
      rfl
    · rw [if_neg hpercent, List.singleton_append, execQuoted_cons hquoted]
      simp [double, hpercent]

/-- **A quoted argument is read up to its end**, with its percent signs still doubled. -/
theorem execQuoted_escaped (text rest : Text) :
    execQuoted (text.flatMap execChar ++ '"' :: rest) = some (double '%' text, rest) := by
  induction text with
  | nil =>
    cases rest with
    | nil => rfl
    | cons c rest => rw [List.flatMap_nil, List.nil_append, execQuoted, if_pos rfl]; rfl
  | cons c text ih =>
    rw [List.flatMap_cons, List.append_assoc, execQuoted_char, ih, Option.map_some]
    simp [double]

/-! ## Lines -/

theorem lineValue_behind {key before : Text}
    (h : ∀ line ∈ before.splitOn '\n', ¬key ++ ['='] <+: line) (rest : Text) :
    lineValue key (before ++ '\n' :: rest) = lineValue key rest := by
  unfold lineValue
  rw [List.splitOn_append_cons_self, List.findSome?_append]
  have hnone : (before.splitOn '\n').findSome? (fun line =>
      if key ++ ['='] <+: line then some (line.drop (key.length + 1)) else none) = none := by
    rw [List.findSome?_eq_none_iff]
    exact fun line hline => if_neg (h line hline)
  rw [hnone, Option.none_or]

theorem lineValue_here {key value : Text} (hkey : '\n' ∉ key) (hvalue : '\n' ∉ value)
    (rest : Text) : lineValue key (key ++ '=' :: value ++ '\n' :: rest) = some value := by
  have hline : '\n' ∉ key ++ '=' :: value := by simp [hkey, hvalue]
  have hprefix : key ++ ['='] <+: key ++ '=' :: value := ⟨value, by simp⟩
  have hdrop : (key ++ '=' :: value).drop (key.length + 1) = value := by
    rw [← List.drop_drop, List.drop_left]
    rfl
  unfold lineValue
  rw [List.splitOn_append_cons_self, List.splitOn_eq_singleton hline, List.singleton_append,
    List.findSome?_cons, if_pos hprefix, hdrop]

/-- A path that is not refused stays on its line. -/
theorem notMem_of_accepted {path : Text} (h : linuxAssetPathRejectReason path = none) {c : Char}
    (hc : c < ' ' ∨ c = '\x7f') : c ∉ path := by
  intro hmem
  unfold linuxAssetPathRejectReason at h
  split at h
  · cases h
  · have hnone := List.findSome?_eq_none_iff.mp h c hmem
    rw [if_pos hc] at hnone
    split at hnone <;> cases hnone

theorem ne_nil_of_accepted {path : Text} (h : linuxAssetPathRejectReason path = none) :
    path ≠ [] := by
  rintro rfl
  cases h

/-! ## The command -/

def execWord : Text := ['e', 'x', 'e', 'c']

/-- What stands in front of the program. -/
def opening : Text := ['e', 'x', 'e', 'c', ' ']

/-- Switches, with a blank around each. -/
def switchesOf (words : List Text) : Text := words.flatMap (' ' :: ·) ++ [' ']

/-- The command that starts the program with its switches. -/
def command (words : List Text) (path config : Text) : Text :=
  opening ++ Shell.quote path ++ switchesOf words ++ Shell.quote config

/-- What the command is to be read as. -/
def meaning (words : List Text) (path config : Text) : List Text :=
  execWord :: path :: words ++ [config]

/-- **The shell reads the command as it was meant**, every path as one word. -/
theorem shellWords_command {words : List Text}
    (hwords : ∀ word ∈ words, word ≠ [] ∧ word.all Shell.literalChar = true)
    (path config : Text) :
    shellWords (command words path config) = some (meaning words path config) := by
  have hexec : run {} opening = some ⟨.plain, none, [execWord]⟩ := rfl
  unfold shellWords command
  rw [Shell.run_append, Shell.run_append, Shell.run_append, hexec, Option.bind_some,
    Shell.run_quote path _ rfl, Option.bind_some]
  change ((run ⟨.plain, some path, [execWord]⟩ (switchesOf words)).bind _).bind _ = _
  rw [switchesOf, Shell.run_words hwords, Option.bind_some, Shell.run_quote config _ rfl,
    Option.bind_some, if_pos rfl]
  rfl

def desktopWords : List Text := ["--tui".toList, "--from-desktop".toList, "--config".toList]

def serviceWords : List Text := ["--apply-config".toList, "--config".toList]

theorem desktopWords_literal :
    ∀ word ∈ desktopWords, word ≠ [] ∧ word.all Shell.literalChar = true := by
  simp [desktopWords, Shell.literalChar, Shell.special]

theorem serviceWords_literal :
    ∀ word ∈ serviceWords, word ≠ [] ∧ word.all Shell.literalChar = true := by
  simp [serviceWords, Shell.literalChar, Shell.special]

/-- The words of the commands, as they are printed. -/
theorem switchesOf_desktop :
    switchesOf desktopWords = " --tui --from-desktop --config ".toList := by
  simp [switchesOf, desktopWords]

theorem switchesOf_service :
    switchesOf serviceWords = " --apply-config --config ".toList := by
  simp [switchesOf, serviceWords]

theorem mem_quote {c : Char} {text : Text} (h : c ∈ Shell.quote text) :
    c = '\'' ∨ c = '"' ∨ c ∈ text := by
  simp only [Shell.quote, List.cons_append, List.mem_cons, List.mem_append, List.mem_flatMap,
    List.not_mem_nil, or_false] at h
  rcases h with h | ⟨a, ha, h⟩ | h
  · exact .inl h
  · split at h
    · have hquotes : ∀ d ∈ "'\"'\"'".toList, d = '\'' ∨ d = '"' := by decide
      exact (hquotes c h).imp_right .inl
    · exact .inr (.inr (List.mem_singleton.mp h ▸ ha))
  · exact .inl h

/-! ## What was written -/

/-- The escaped paths of two paths. -/
def escapedPaths (execPath configPath : Text) : LinuxAssetEscapedPaths where
  desktopExec := (Shell.quote execPath).flatMap desktopExecChar
  desktopConfig := (Shell.quote configPath).flatMap desktopExecChar
  systemdExec := (Shell.quote execPath).flatMap systemdValueChar
  systemdConfig := (Shell.quote configPath).flatMap systemdValueChar
  systemdConditionPath := configPath.flatMap systemdValueChar

theorem put_eq_some {outSize : Nat} {out text : Text} (h : put outSize out = some text) :
    text = out := by
  unfold put at h
  split at h
  · exact (Option.some.inj h).symm
  · cases h

/-- The files are those of the escaped paths, and no path was refused. -/
theorem writeLinuxAssets_eq_ok {outputDir execPath configPath : Text} {assets : Assets}
    (h : writeLinuxAssets outputDir execPath configPath = .ok assets) :
    linuxAssetPathRejectReason execPath = none ∧ linuxAssetPathRejectReason configPath = none ∧
      assets.desktop = desktopFile (escapedPaths execPath configPath) ∧
      assets.autostart = desktopFile (escapedPaths execPath configPath) ++
        "X-GNOME-Autostart-enabled=true\n".toList ∧
      assets.service = serviceFile (escapedPaths execPath configPath) := by
  unfold writeLinuxAssets at h
  split at h
  · cases h
  cases hprepared : linuxAssetPreparePaths execPath (shellQuoteSingle execPath) configPath
      (shellQuoteSingle configPath) with
  | error why =>
    rw [hprepared] at h
    cases h
  | ok escaped =>
    rw [hprepared] at h
    unfold linuxAssetPreparePaths at hprepared
    cases hexec : linuxAssetPathRejectReason execPath with
    | some why =>
      rw [hexec] at hprepared
      cases hprepared
    | none =>
      cases hconfig : linuxAssetPathRejectReason configPath with
      | some why =>
        rw [hexec, hconfig] at hprepared
        cases hprepared
      | none =>
        cases hall : linuxAssetEscapeAll (shellQuoteSingle execPath) (shellQuoteSingle configPath)
            configPath with
        | none =>
          rw [hexec, hconfig, hall] at hprepared
          cases hprepared
        | some escaped' =>
          rw [hexec, hconfig, hall] at hprepared
          obtain rfl : escaped' = escaped := Except.ok.inj hprepared
          have hescaped : escaped' = escapedPaths execPath configPath := by
            simp only [linuxAssetEscapeAll, linuxDesktopExecEscape, linuxSystemdValueEscape,
              Option.bind_eq_bind, Option.bind_eq_some_iff] at hall
            obtain ⟨a, ha, b, hb, c, hc, d, hd, e, he, hout⟩ := hall
            rw [← Option.some.inj hout, put_eq_some ha, put_eq_some hb, put_eq_some hc,
              put_eq_some hd, put_eq_some he]
            rfl
          obtain rfl := Except.ok.inj h
          exact ⟨rfl, rfl, by rw [hescaped], by rw [hescaped], by rw [hescaped]⟩

/-! ## The desktop entry decodes -/

/-- A command around two paths, escaped piece by piece. -/
theorem flatMap_command {escape : Char → Text} {front path config close : Text}
    {words : List Text} (hexec : opening.flatMap escape = opening)
    (hswitches : (switchesOf words).flatMap escape = switchesOf words) :
    front ++ opening ++ (Shell.quote path).flatMap escape ++ switchesOf words ++
        (Shell.quote config).flatMap escape ++ close =
      front ++ ((command words path config).flatMap escape ++ close) := by
  rw [command, List.flatMap_append, List.flatMap_append, List.flatMap_append, hexec, hswitches]
  simp only [List.append_assoc]

theorem desktopCommand_eq (path config : Text) : desktopCommand (escapedPaths path config) =
    "sh -lc \"".toList ++ ((command desktopWords path config).flatMap desktopExecChar ++
      ['"']) := by
  have hexec : opening.flatMap desktopExecChar = opening := by decide
  have hswitches : (switchesOf desktopWords).flatMap desktopExecChar = switchesOf desktopWords := by
    simp [switchesOf, desktopWords, desktopExecChar]
  have hopen : "sh -lc \"exec ".toList = "sh -lc \"".toList ++ opening := by simp [opening]
  have hclose : "\"".toList = ['"'] := by simp
  have hdef : desktopCommand (escapedPaths path config) = "sh -lc \"exec ".toList ++
      (Shell.quote path).flatMap desktopExecChar ++ " --tui --from-desktop --config ".toList ++
        (Shell.quote config).flatMap desktopExecChar ++ "\"".toList := rfl
  rw [hdef, hopen, hclose, ← switchesOf_desktop]
  exact flatMap_command hexec hswitches

theorem notMem_command {c : Char} {words : List Text} {path config : Text} (hsingle : c ≠ '\'')
    (hdouble : c ≠ '"') (hexec : c ∉ opening) (hswitches : c ∉ switchesOf words)
    (hpath : c ∉ path) (hconfig : c ∉ config) : c ∉ command words path config := by
  have hquote : ∀ text : Text, c ∉ text → c ∉ Shell.quote text := by
    intro text htext hmem
    rcases mem_quote hmem with h | h | h
    · exact hsingle h
    · exact hdouble h
    · exact htext h
  simp only [command, List.mem_append, not_or]
  exact ⟨⟨⟨hexec, hquote path hpath⟩, hswitches⟩, hquote config hconfig⟩

theorem newline_notMem_desktopCommand {path config : Text} (hpath : '\n' ∉ path)
    (hconfig : '\n' ∉ config) : '\n' ∉ desktopCommand (escapedPaths path config) := by
  have hswitches : '\n' ∉ switchesOf desktopWords := by simp [switchesOf, desktopWords]
  have hopen : '\n' ∉ "sh -lc \"".toList := by simp
  have hexec : '\n' ∉ opening := by decide
  have hcommand := notMem_command (by decide) (by decide) hexec hswitches hpath hconfig
  have hchar : ∀ c, '\n' ∈ desktopExecChar c → c = '\n' := by
    intro c hmem
    unfold desktopExecChar at hmem
    split_ifs at hmem <;> simp at hmem <;> exact hmem.symm
  rw [desktopCommand_eq]
  simp only [List.mem_append, List.mem_flatMap, List.mem_singleton, not_or, not_exists, not_and]
  exact ⟨hopen, fun c hc hmem => hcommand (hchar c hmem ▸ hc), by decide⟩

/-- **The desktop entry decodes to the command that was meant**, whatever stands behind it. -/
theorem desktop_decodes {path config : Text} (hpath : '\n' ∉ path) (hconfig : '\n' ∉ config)
    (extra : Text) : desktopArgument (desktopFile (escapedPaths path config) ++ extra) =
      some (command desktopWords path config) := by
  have hline : lineValue "Exec".toList (desktopFile (escapedPaths path config) ++ extra) =
      some (desktopCommand (escapedPaths path config)) := by
    have hkey : "Comment=Open the Linux terminal UI for Green Curve\nExec=".toList =
        "Comment=Open the Linux terminal UI for Green Curve".toList ++
          '\n' :: ("Exec".toList ++ ['=']) := by simp
    have hbefore : ∀ line ∈
        ("[Desktop Entry]\nType=Application\nVersion=1.0\nName=Green Curve\n".toList ++
          "Comment=Open the Linux terminal UI for Green Curve".toList).splitOn '\n',
        ¬"Exec".toList ++ ['='] <+: line := by
      simp only [String.reduceToList]
      decide
    have hrest : "\nTerminal=true\nCategories=Utility;System;\nStartupNotify=false\n".toList =
        '\n' :: "Terminal=true\nCategories=Utility;System;\nStartupNotify=false\n".toList := by
      simp
    have hfile : desktopFile (escapedPaths path config) ++ extra =
        ("[Desktop Entry]\nType=Application\nVersion=1.0\nName=Green Curve\n".toList ++
          "Comment=Open the Linux terminal UI for Green Curve".toList) ++
          '\n' :: ("Exec".toList ++ '=' :: desktopCommand (escapedPaths path config) ++
            '\n' :: ("Terminal=true\nCategories=Utility;System;\nStartupNotify=false\n".toList ++
              extra)) := by
      have hdef : desktopFile (escapedPaths path config) =
          "[Desktop Entry]\nType=Application\nVersion=1.0\nName=Green Curve\n".toList ++
            "Comment=Open the Linux terminal UI for Green Curve\nExec=".toList ++
            desktopCommand (escapedPaths path config) ++
            "\nTerminal=true\nCategories=Utility;System;\nStartupNotify=false\n".toList := rfl
      rw [hdef, hkey, hrest]
      simp only [List.append_assoc, List.cons_append, List.nil_append]
    rw [hfile, lineValue_behind hbefore,
      lineValue_here (by decide) (newline_notMem_desktopCommand hpath hconfig)]
  have hvalue : stringValue (desktopCommand (escapedPaths path config)) =
      some ("sh -lc \"".toList ++ ((command desktopWords path config).flatMap execChar ++
        ['"'])) := by
    have hopen : '\\' ∉ "sh -lc \"".toList := by simp
    have hclose : stringValue ['"'] = some ['"'] := rfl
    rw [desktopCommand_eq, stringValue_plain hopen, stringValue_escaped, hclose, Option.map_some,
      Option.map_some]
  have hdrop : ("sh -lc \"".toList ++
      ((command desktopWords path config).flatMap execChar ++ ['"'])).drop 8 =
        (command desktopWords path config).flatMap execChar ++ ['"'] :=
    List.drop_left' (by simp)
  unfold desktopArgument
  simp only [hline, Option.bind_some, hvalue, Option.bind_eq_bind, List.prefix_append, hdrop,
    execQuoted_escaped, if_true, undouble_double]

/-! ## The lines of the unit -/

theorem serviceCommand_eq (path config : Text) : serviceCommand (escapedPaths path config) =
    "/bin/sh -lc \"".toList ++ ((command serviceWords path config).flatMap systemdValueChar ++
      ['"']) := by
  have hexec : opening.flatMap systemdValueChar = opening := by decide
  have hswitches :
      (switchesOf serviceWords).flatMap systemdValueChar = switchesOf serviceWords := by
    simp [switchesOf, serviceWords, systemdValueChar]
  have hopen : "/bin/sh -lc \"exec ".toList = "/bin/sh -lc \"".toList ++ opening := by
    simp [opening]
  have hclose : "\"".toList = ['"'] := by simp
  have hdef : serviceCommand (escapedPaths path config) = "/bin/sh -lc \"exec ".toList ++
      (Shell.quote path).flatMap systemdValueChar ++ " --apply-config --config ".toList ++
        (Shell.quote config).flatMap systemdValueChar ++ "\"".toList := rfl
  rw [hdef, hopen, hclose, ← switchesOf_service]
  exact flatMap_command hexec hswitches

theorem mem_systemdValue {c : Char} {text : Text} :
    c ∈ text.flatMap systemdValueChar ↔ c ∈ text := by
  rw [systemdValue_eq, mem_double, mem_double]

theorem newline_notMem_serviceCommand {path config : Text} (hpath : '\n' ∉ path)
    (hconfig : '\n' ∉ config) : '\n' ∉ serviceCommand (escapedPaths path config) := by
  have hswitches : '\n' ∉ switchesOf serviceWords := by simp [switchesOf, serviceWords]
  have hopen : '\n' ∉ "/bin/sh -lc \"".toList := by simp
  have hexec : '\n' ∉ opening := by decide
  have hcommand := notMem_command (by decide) (by decide) hexec hswitches hpath hconfig
  rw [serviceCommand_eq, List.mem_append, List.mem_append, mem_systemdValue]
  simp only [List.mem_singleton, not_or]
  exact ⟨hopen, hcommand, by decide⟩

/-- What stands in front of the condition. -/
def unitHead : Text :=
  "[Unit]\nDescription=Green Curve one-shot profile apply via daemon\n".toList ++
    "After=greencurve.service\nRequires=greencurve.service".toList

def serviceHead : Text := "\n[Service]\nType=oneshot".toList

/-- What follows the command. -/
def serviceTail : Text :=
  "StandardOutput=journal\nStandardError=journal\n\n[Install]\n".toList ++
    "WantedBy=multi-user.target\n".toList

theorem unitHead_eq : unitHead =
    "[Unit]\nDescription=Green Curve one-shot profile apply via daemon\n".toList ++
      "After=greencurve.service\nRequires=greencurve.service".toList := rfl

theorem serviceHead_eq : serviceHead = "\n[Service]\nType=oneshot".toList := rfl

theorem serviceTail_eq : serviceTail =
    "StandardOutput=journal\nStandardError=journal\n\n[Install]\n".toList ++
      "WantedBy=multi-user.target\n".toList := rfl

/-- The unit, line by line. -/
theorem serviceFile_eq (escaped : LinuxAssetEscapedPaths) : serviceFile escaped =
    unitHead ++ '\n' :: ("ConditionPathExists".toList ++ '=' :: escaped.systemdConditionPath ++
      '\n' :: (serviceHead ++ '\n' :: ("ExecStart".toList ++ '=' :: serviceCommand escaped ++
        '\n' :: serviceTail))) := by
  have hcondition :
      "After=greencurve.service\nRequires=greencurve.service\nConditionPathExists=".toList =
        "After=greencurve.service\nRequires=greencurve.service".toList ++
          '\n' :: ("ConditionPathExists".toList ++ ['=']) := by simp
  have hstart : "\n\n[Service]\nType=oneshot\nExecStart=".toList =
      '\n' :: ("\n[Service]\nType=oneshot".toList ++
        '\n' :: ("ExecStart".toList ++ ['='])) := by simp
  have houtput : "\nStandardOutput=journal\nStandardError=journal\n\n[Install]\n".toList =
      '\n' :: "StandardOutput=journal\nStandardError=journal\n\n[Install]\n".toList := by
    simp
  have hdef : serviceFile escaped =
      "[Unit]\nDescription=Green Curve one-shot profile apply via daemon\n".toList ++
        "After=greencurve.service\nRequires=greencurve.service\nConditionPathExists=".toList ++
        escaped.systemdConditionPath ++ "\n\n[Service]\nType=oneshot\nExecStart=".toList ++
        serviceCommand escaped ++
        "\nStandardOutput=journal\nStandardError=journal\n\n[Install]\n".toList ++
        "WantedBy=multi-user.target\n".toList := rfl
  rw [hdef, hcondition, hstart, houtput, unitHead_eq, serviceTail_eq, serviceHead_eq]
  simp only [List.append_assoc, List.cons_append, List.nil_append]

theorem notMem_unitHead : ∀ line ∈ unitHead.splitOn '\n',
    (¬"ConditionPathExists".toList ++ ['='] <+: line) ∧ ¬"ExecStart".toList ++ ['='] <+: line := by
  rw [unitHead_eq]
  simp only [String.reduceToList]
  decide

theorem notMem_serviceHead : ∀ line ∈ serviceHead.splitOn '\n',
    ¬"ExecStart".toList ++ ['='] <+: line := by
  rw [serviceHead_eq]
  simp only [String.reduceToList]
  decide

theorem condition_line {escaped : LinuxAssetEscapedPaths}
    (h : '\n' ∉ escaped.systemdConditionPath) :
    lineValue "ConditionPathExists".toList (serviceFile escaped) =
      some escaped.systemdConditionPath := by
  rw [serviceFile_eq, lineValue_behind fun line hline => (notMem_unitHead line hline).1,
    lineValue_here (by decide) h]

theorem execStart_line {escaped : LinuxAssetEscapedPaths}
    (hcondition : '\n' ∉ escaped.systemdConditionPath) (h : '\n' ∉ serviceCommand escaped) :
    lineValue "ExecStart".toList (serviceFile escaped) = some (serviceCommand escaped) := by
  have hkey : '\n' ∉ "ConditionPathExists".toList ++ '=' :: escaped.systemdConditionPath := by
    rw [List.mem_append, List.mem_cons]
    rintro (hmem | hmem | hmem)
    · exact absurd hmem (by decide)
    · exact absurd hmem (by decide)
    · exact hcondition hmem
  have hother : ¬"ExecStart".toList ++ ['='] <+:
      "ConditionPathExists".toList ++ '=' :: escaped.systemdConditionPath := by
    have hexec : "ExecStart".toList ++ ['='] = 'E' :: "xecStart=".toList := by simp
    have hcond : "ConditionPathExists".toList = 'C' :: "onditionPathExists".toList := by
      simp
    rw [hexec, hcond, List.cons_append, List.cons_prefix_cons]
    rintro ⟨hhead, -⟩
    exact absurd hhead (by decide)
  rw [serviceFile_eq, lineValue_behind fun line hline => (notMem_unitHead line hline).2,
    lineValue_behind, lineValue_behind notMem_serviceHead, lineValue_here (by decide) h]
  rw [List.splitOn_eq_singleton hkey]
  intro line hline
  rwa [List.mem_singleton.mp hline]

/-! ## The command of the unit -/

/-- What is left of the command once its shell is named. -/
theorem unitArgument_eq {path config : Text} (hpath : '\n' ∉ path) (hconfig : '\n' ∉ config) :
    unitArgument (serviceFile (escapedPaths path config)) =
      (unquote 0 (double '%' (double '$' (command serviceWords path config)) ++ ['"'])).bind
        fun r => if r.2 = [] then (undouble '%' r.1).bind (undouble '$') else none := by
  have hline := execStart_line (mt mem_systemdValue.mp hconfig)
    (newline_notMem_serviceCommand hpath hconfig)
  have hopen : "/bin/sh -lc \"".toList = '/' :: "bin/sh -lc \"".toList := by simp
  have hvalue : unitValue "ExecStart".toList (serviceFile (escapedPaths path config)) =
      some (serviceCommand (escapedPaths path config)) := by
    have hfirst : (serviceCommand (escapedPaths path config)).dropWhile (· = ' ') =
        serviceCommand (escapedPaths path config) := by
      rw [serviceCommand_eq, hopen, List.cons_append, List.dropWhile_cons_of_neg (by decide)]
    have hlast : ∀ front : Text, (front ++ ['"']).rdropWhile (· = ' ') = front ++ ['"'] :=
      fun front => List.rdropWhile_concat_neg _ _ _ (by decide)
    unfold unitValue
    rw [hline, Option.bind_some, hfirst, serviceCommand_eq, ← List.append_assoc, hlast,
      List.getLast?_concat, if_neg (by decide)]
  have hdrop : ("/bin/sh -lc \"".toList ++
      ((command serviceWords path config).flatMap systemdValueChar ++ ['"'])).drop 13 =
        (command serviceWords path config).flatMap systemdValueChar ++ ['"'] :=
    List.drop_left' (by simp)
  unfold unitArgument
  simp only [hvalue, Option.bind_eq_bind, Option.bind_some]
  rw [serviceCommand_eq, if_pos (List.prefix_append _ _), hdrop, systemdValue_eq]

/-- A path that both quotings of the unit leave alone. -/
structure Plain (path : Text) : Prop where
  single : '\'' ∉ path
  double : '"' ∉ path
  back : '\\' ∉ path

theorem quote_of_notMem {text : Text} (h : '\'' ∉ text) :
    Shell.quote text = '\'' :: text ++ ['\''] := by
  have hbody : text.flatMap (fun c => if c = '\'' then "'\"'\"'".toList else [c]) = text := by
    induction text with
    | nil => rfl
    | cons c rest ih =>
      rw [List.mem_cons, not_or] at h
      rw [List.flatMap_cons, if_neg (Ne.symm h.1), ih h.2]
      rfl
  rw [Shell.quote, hbody]

/-- A quoted single quote is followed by a double quote and more. -/
theorem quote_of_mem {text : Text} (h : '\'' ∈ text) :
    ∃ before after, Shell.quote text = before ++ '\'' :: '"' :: '\'' :: after := by
  obtain ⟨front, back, rfl⟩ := List.append_of_mem h
  have hquotes : "'\"'\"'".toList = ['\'', '"', '\'', '"', '\''] := by simp
  rw [Shell.quote, List.flatMap_append, List.flatMap_cons, if_pos rfl, hquotes]
  simp only [List.append_assoc, List.cons_append, List.nil_append]
  exact ⟨_ :: _, _, rfl⟩

/-- **The unit decodes to the command that was meant**, for plain paths. -/
theorem unit_decodes {path config : Text} (hpath : '\n' ∉ path) (hconfig : '\n' ∉ config)
    (hplain : Plain path) (hplain' : Plain config) :
    unitArgument (serviceFile (escapedPaths path config)) =
      some (command serviceWords path config) := by
  have hdouble : '"' ∉ command serviceWords path config := by
    have hexec : '"' ∉ opening := by decide
    have hswitches : '"' ∉ switchesOf serviceWords := by simp [switchesOf, serviceWords]
    rw [command, quote_of_notMem hplain.single, quote_of_notMem hplain'.single]
    simp only [List.mem_append, List.mem_cons, List.not_mem_nil, or_false, not_or]
    exact ⟨⟨⟨hexec, ⟨by decide, hplain.double⟩, by decide⟩, hswitches⟩,
      ⟨by decide, hplain'.double⟩, by decide⟩
  have hback : '\\' ∉ command serviceWords path config :=
    notMem_command (by decide) (by decide) (by decide) (by simp [switchesOf, serviceWords])
      hplain.back hplain'.back
  rw [unitArgument_eq hpath hconfig, unquote_plain (by rwa [mem_double, mem_double])
    (by rwa [mem_double, mem_double]), Option.bind_some, if_pos rfl, undouble_double,
    Option.bind_some, undouble_double]

/-- A single quote in the command ends the argument early. -/
theorem unitArgument_single {words : List Text} {path config before after arg : Text}
    (hcommand : command words path config = before ++ '\'' :: '"' :: '\'' :: after)
    (h : (unquote 0 (double '%' (double '$' (command words path config)) ++ ['"'])).bind
      (fun r => if r.2 = [] then (undouble '%' r.1).bind (undouble '$') else none) = some arg) :
    False := by
  obtain ⟨⟨out, rest⟩, hunquote, hrest⟩ := Option.bind_eq_some_iff.mp h
  dsimp only at hrest
  split_ifs at hrest with hnil
  have hquotes : double '%' (double '$' ['\'', '"', '\'']) = ['\'', '"', '\''] := by decide
  have hsplit : double '%' (double '$' (command words path config)) ++ ['"'] =
      double '%' (double '$' before) ++ '\'' :: '"' ::
        ('\'' :: double '%' (double '$' after) ++ ['"']) := by
    have hparts : command words path config = before ++ (['\'', '"', '\''] ++ after) := by
      rw [hcommand]
      rfl
    rw [hparts, double_append, double_append, double_append, double_append, hquotes]
    simp only [List.append_assoc, List.cons_append, List.nil_append]
  rw [hsplit] at hunquote
  have hle := le_length_of_unquote (Nat.zero_le _) hunquote
  rw [hnil] at hle
  simp at hle

theorem length_doubled (text : Text) : (double '%' (double '$' text)).length =
    text.length + text.count '$' + text.count '%' := by
  rw [length_double, length_double, count_double_of_ne (by decide)]

theorem counts_doubled (text : Text) :
    (double '%' (double '$' text)).count '\'' = text.count '\'' ∧
      (double '%' (double '$' text)).count '%' = 2 * text.count '%' ∧
      (double '%' (double '$' text)).count '$' = 2 * text.count '$' := by
  refine ⟨?_, ?_, ?_⟩
  · rw [count_double_of_ne (by decide), count_double_of_ne (by decide)]
  · rw [count_double_self, count_double_of_ne (by decide)]
  · rw [count_double_of_ne (by decide), count_double_self]

theorem length_serviceCommand {path config : Text} (hpath : '\'' ∉ path)
    (hconfig : '\'' ∉ config) :
    (command serviceWords path config).length = path.length + config.length + 34 ∧
      4 ≤ (command serviceWords path config).count '\'' := by
  have hexec : opening.length = 5 := rfl
  have hswitches : (switchesOf serviceWords).length = 25 := by simp [switchesOf, serviceWords]
  rw [command, quote_of_notMem hpath, quote_of_notMem hconfig]
  simp only [List.length_append, List.length_cons, List.length_nil, List.count_append,
    List.count_cons_self, List.count_nil, hexec, hswitches]
  omega

theorem length_meaning {path config : Text} (hpath : '\'' ∉ path) (hconfig : '\'' ∉ config) :
    (meaning serviceWords path config).flatten.length = path.length + config.length + 26 ∧
      (meaning serviceWords path config).flatten.count '\'' = 0 := by
  have hflat : (meaning serviceWords path config).flatten =
      execWord ++ path ++ serviceWords.flatten ++ config := by
    simp [meaning]
  have hexec : execWord.length = 4 ∧ execWord.count '\'' = 0 := by decide
  have hservice : serviceWords.flatten.length = 22 ∧ serviceWords.flatten.count '\'' = 0 := by
    simp [serviceWords]
  simp only [hflat, List.length_append, List.count_append, hexec, hservice,
    List.count_eq_zero_of_not_mem hpath, List.count_eq_zero_of_not_mem hconfig]
  exact ⟨by omega, trivial⟩

/-- A backslash would make the argument shorter than the words that come back from it. -/
theorem back_notMem_of_unit {path config arg : Text} (hpath : '\'' ∉ path)
    (hconfig : '\'' ∉ config)
    (hunquote : unquote 0 (double '%' (double '$' (command serviceWords path config)) ++ ['"']) =
      some (double '%' (double '$' arg), []))
    (hwords : shellWords arg = some (meaning serviceWords path config)) :
    '\\' ∉ command serviceWords path config := by
  intro hmem
  have hquoted := unquote_all hunquote
  have hshorter := hquoted.shorter (by
    rw [List.drop_zero, List.mem_append, mem_double, mem_double]
    exact .inl hmem)
  have hcount : ∀ d ∈ kept,
      (double '%' (double '$' (command serviceWords path config))).count d ≤
        (double '%' (double '$' arg)).count d := by
    intro d hd
    have hle := hquoted.count d hd
    rw [List.drop_zero, List.count_append] at hle
    omega
  have hsingle := hcount '\'' (by decide)
  have hpercent := hcount '%' (by decide)
  have hdollar := hcount '$' (by decide)
  simp only [counts_doubled] at hsingle hpercent hdollar
  rw [List.length_append, length_doubled, length_doubled, List.length_singleton] at hshorter
  have hlength := Shell.length_le hwords
  have hcommand := length_serviceCommand hpath hconfig
  have hflat := length_meaning hpath hconfig
  have hsize : (meaning serviceWords path config).length = 5 := rfl
  omega

/-- A double quote would end the argument, with no backslash in front of it. -/
theorem double_notMem_of_unit {text : Text} {out : Text} (hback : '\\' ∉ text)
    (h : unquote 0 (text ++ ['"']) = some (out, [])) : '"' ∉ text := by
  intro hmem
  obtain ⟨before, after, rfl, hbefore⟩ := List.eq_append_cons_of_mem hmem
  rw [List.mem_append, not_or] at hback
  rw [List.append_assoc, List.cons_append, unquote_plain hbefore hback.1] at h
  exact List.append_ne_nil_of_right_ne_nil after (List.cons_ne_nil _ _)
    (Prod.mk.inj (Option.some.inj h)).2

/-- **Only plain paths come back from the unit.** -/
theorem plain_of_unit {path config arg : Text} (hpath : '\n' ∉ path) (hconfig : '\n' ∉ config)
    (h : unitArgument (serviceFile (escapedPaths path config)) = some arg)
    (hwords : shellWords arg = some (meaning serviceWords path config)) :
    Plain path ∧ Plain config := by
  rw [unitArgument_eq hpath hconfig] at h
  have hsingle : '\'' ∉ path := by
    intro hmem
    obtain ⟨before, after, hquote⟩ := quote_of_mem hmem
    have hcommand : command serviceWords path config =
        (opening ++ before) ++
          '\'' :: '"' :: '\'' :: (after ++ switchesOf serviceWords ++ Shell.quote config) := by
      rw [command, hquote]
      simp only [List.append_assoc, List.cons_append]
    exact unitArgument_single hcommand h
  have hsingle' : '\'' ∉ config := by
    intro hmem
    obtain ⟨before, after, hquote⟩ := quote_of_mem hmem
    have hcommand : command serviceWords path config =
        (opening ++ Shell.quote path ++ switchesOf serviceWords ++ before) ++
          '\'' :: '"' :: '\'' :: after := by
      rw [command, hquote]
      simp only [List.append_assoc]
    exact unitArgument_single hcommand h
  obtain ⟨⟨out, rest⟩, hunquote, hrest⟩ := Option.bind_eq_some_iff.mp h
  dsimp only at hrest
  split_ifs at hrest with hnil
  obtain ⟨half, hhalf, harg⟩ := Option.bind_eq_some_iff.mp hrest
  rw [hnil, double_of_undouble hhalf, double_of_undouble harg] at hunquote
  have hback := back_notMem_of_unit hsingle hsingle' hunquote hwords
  have hdouble : '"' ∉ command serviceWords path config := by
    have hnone := double_notMem_of_unit (by rwa [mem_double, mem_double]) hunquote
    rwa [mem_double, mem_double] at hnone
  have hquote : ∀ {c : Char} {text : Text}, '\'' ∉ text → c ∈ text → c ∈ Shell.quote text := by
    intro c text htext hmem
    rw [quote_of_notMem htext]
    exact List.mem_append_left _ (List.mem_cons_of_mem _ hmem)
  have hparts : ∀ {c : Char}, c ∉ command serviceWords path config → c ∉ path ∧ c ∉ config := by
    intro c hc
    simp only [command, List.mem_append, not_or] at hc
    exact ⟨fun hmem => hc.1.1.2 (hquote hsingle hmem), fun hmem => hc.2 (hquote hsingle' hmem)⟩
  exact ⟨⟨hsingle, (hparts hdouble).1, (hparts hback).1⟩,
    ⟨hsingle', (hparts hdouble).2, (hparts hback).2⟩⟩

/-! ## The condition of the unit -/

theorem conditionPath_eq {path config : Text} (hconfig : '\n' ∉ config) :
    conditionPath (serviceFile (escapedPaths path config)) =
      if config.getLast? = some '\\' then none
      else undouble '%' (stripped (double '%' (double '$' config))) := by
  have hline : lineValue "ConditionPathExists".toList
      (serviceFile (escapedPaths path config)) = some (double '%' (double '$' config)) := by
    rw [← systemdValue_eq]
    exact condition_line (mt mem_systemdValue.mp hconfig)
  unfold conditionPath unitValue
  rw [hline, Option.bind_some, getLast?_double, getLast?_double]
  split <;> rfl

/-! ## Both files -/

/-- What the generated files are to say. -/
structure Decodes (path config : Text) (assets : Assets) : Prop where
  desktop : (desktopArgument assets.desktop).bind shellWords =
    some (meaning desktopWords path config)
  autostart : (desktopArgument assets.autostart).bind shellWords =
    some (meaning desktopWords path config)
  unit : (unitArgument assets.service).bind shellWords = some (meaning serviceWords path config)
  condition : conditionPath assets.service = some config

/-- **The generated files say what they are to say** exactly if no path has a quote or a
backslash, which the escape of the unit leaves alone in a quoted argument, and the
configuration path has no dollar sign, which is doubled although a condition has no
variables, no blank at an end and no mark of a condition in front. -/
theorem generated_assets {outputDir execPath configPath : Text} {assets : Assets}
    (h : writeLinuxAssets outputDir execPath configPath = .ok assets) :
    Decodes execPath configPath assets ↔
      Plain execPath ∧ Plain configPath ∧ '$' ∉ configPath ∧ Unmarked configPath := by
  obtain ⟨hexec, hconfig, hdesktop, hautostart, hservice⟩ := writeLinuxAssets_eq_ok h
  have hbreak : '\n' < ' ' ∨ '\n' = '\x7f' := .inl (by decide)
  have hpath := notMem_of_accepted hexec hbreak
  have hpath' := notMem_of_accepted hconfig hbreak
  constructor
  · rintro ⟨-, -, hunit, hcondition⟩
    rw [hservice] at hunit hcondition
    obtain ⟨arg, harg, hwords⟩ := Option.bind_eq_some_iff.mp hunit
    obtain ⟨hplain, hplain'⟩ := plain_of_unit hpath hpath' harg hwords
    rw [conditionPath_eq hpath'] at hcondition
    split_ifs at hcondition
    exact ⟨hplain, hplain', undouble_stripped.mp hcondition⟩
  · rintro ⟨hplain, hplain', hunmarked⟩
    have hlast : configPath.getLast? ≠ some '\\' := fun hback =>
      hplain'.back (List.mem_of_getLast? hback)
    have hmeant := shellWords_command desktopWords_literal execPath configPath
    refine ⟨?_, ?_, ?_, ?_⟩
    · have hdecodes := desktop_decodes hpath hpath' []
      rw [List.append_nil] at hdecodes
      rw [hdesktop, hdecodes]
      exact hmeant
    · rw [hautostart, desktop_decodes hpath hpath']
      exact hmeant
    · rw [hservice, unit_decodes hpath hpath' hplain hplain']
      exact shellWords_command serviceWords_literal execPath configPath
    · rw [hservice, conditionPath_eq hpath', if_neg hlast]
      exact undouble_stripped.mpr hunmarked

/-- Ordinary paths. -/
theorem generated_assets_ordinary : ∃ assets,
    writeLinuxAssets "/tmp".toList "/usr/bin/greencurve".toList "/etc/green curve.ini".toList =
      .ok assets ∧
    Decodes "/usr/bin/greencurve".toList "/etc/green curve.ini".toList assets := by
  obtain ⟨assets, hwritten⟩ : ∃ assets, writeLinuxAssets "/tmp".toList
      "/usr/bin/greencurve".toList "/etc/green curve.ini".toList = .ok assets := ⟨_, rfl⟩
  refine ⟨assets, hwritten, (generated_assets hwritten).mpr ?_⟩
  exact ⟨⟨by simp, by simp, by simp⟩, ⟨by simp, by simp, by simp⟩, by simp,
    by simp, by simp, by simp, by simp⟩

/-- A quote in a path is written, and ends the command of the unit. -/
theorem quoted_path_lost : ∃ assets,
    writeLinuxAssets "/tmp".toList "/usr/bin/greencurve".toList "/home/o'brien/gc.ini".toList =
      .ok assets ∧
    ¬Decodes "/usr/bin/greencurve".toList "/home/o'brien/gc.ini".toList assets := by
  obtain ⟨assets, hwritten⟩ : ∃ assets, writeLinuxAssets "/tmp".toList
      "/usr/bin/greencurve".toList "/home/o'brien/gc.ini".toList = .ok assets := ⟨_, rfl⟩
  refine ⟨assets, hwritten, fun h => ?_⟩
  obtain ⟨-, -, -, -, hservice⟩ := writeLinuxAssets_eq_ok hwritten
  have hunit : unitArgument (serviceFile (escapedPaths "/usr/bin/greencurve".toList
      "/home/o'brien/gc.ini".toList)) = none := by decide +kernel
  have hnone := h.unit
  rw [hservice, hunit] at hnone
  cases hnone

end GreenCurve.LinuxAssets
