import GreenCurve.UpdateCommand

/-! # What setup understands

The command line of the updater, split by Windows and parsed by setup. -/

namespace GreenCurve.Setup

open WindowsArguments

/-! ## The fixed texts -/

/-- The words of the command line that are fixed. -/
def fixedWords : List (List UInt8) :=
  ["/S", "--launch", "--no-launch", "--launch-session", "--settings-captured-by-gui",
    "--dir"].map ascii

theorem fixedWords_plain : ∀ word ∈ fixedWords,
    word ≠ [] ∧ quote ∉ word ∧ (∀ c ∈ word, blank c = false) ∧ 0 ∉ word := by
  decide +kernel

theorem plain_of_fixed {word : List UInt8} (h : word ∈ fixedWords) : Plain word :=
  have hword := fixedWords_plain word h
  ⟨hword.1, hword.2.1, hword.2.2.1⟩

theorem texts_eq :
    ascii "\"" = [quote] ∧
    ascii "\" /S --launch" = quote :: 0x20 :: ascii "/S" ++ 0x20 :: ascii "--launch" ∧
    ascii "\" /S --no-launch" = quote :: 0x20 :: ascii "/S" ++ 0x20 :: ascii "--no-launch" ∧
    ascii " --launch-session " = 0x20 :: ascii "--launch-session" ++ [0x20] ∧
    ascii " --settings-captured-by-gui" = 0x20 :: ascii "--settings-captured-by-gui" ∧
    ascii " --dir \"" = 0x20 :: ascii "--dir" ++ [0x20, quote] := by
  decide

theorem switchOf_fixed :
    switchOf (ascii "/S") = some .silent ∧
    switchOf (ascii "--launch") = some (.launch .on) ∧
    switchOf (ascii "--no-launch") = some (.launch .off) ∧
    switchOf (ascii "--launch-session") = some .launchSession ∧
    switchOf (ascii "--settings-captured-by-gui") = some .settingsCaptured ∧
    switchOf (ascii "--dir") = some .dir := by
  decide

/-- The words of the command line before the directory. -/
def words (relaunchGui : Bool) (launchSessionId : CString) : List (List UInt8) :=
  if relaunchGui then
    [ascii "/S", ascii "--launch", ascii "--launch-session", launchSessionId.bytes,
      ascii "--settings-captured-by-gui", ascii "--dir"]
  else [ascii "/S", ascii "--no-launch", ascii "--settings-captured-by-gui", ascii "--dir"]

/-- The command line: the program inside quotes, the words and the directory inside quotes. -/
def commandLine (setupPath installDir : CString) (relaunchGui : Bool) (launchSessionId : CString) :
    List UInt8 :=
  quote :: setupPath.bytes ++ quote ::
    ((words relaunchGui launchSessionId).flatMap (0x20 :: ·) ++
      0x20 :: (quote :: installDir.bytes ++ [quote]))

theorem flatten_commandTexts (setupPath installDir : CString) (relaunchGui : Bool)
    (launchSessionId : CString) :
    (commandTexts setupPath installDir relaunchGui launchSessionId).flatten =
      commandLine setupPath installDir relaunchGui launchSessionId := by
  obtain ⟨hquote, hlaunch, hnoLaunch, hsession, hcaptured, hdir⟩ := texts_eq
  cases relaunchGui <;>
    simp [commandTexts, commandLine, words, hquote, hlaunch, hnoLaunch, hsession, hcaptured, hdir]

/-- A word is a fixed one or the session. -/
theorem mem_words {relaunchGui : Bool} {launchSessionId : CString} {word : List UInt8}
    (h : word ∈ words relaunchGui launchSessionId) :
    word ∈ fixedWords ∨ relaunchGui = true ∧ word = launchSessionId.bytes := by
  rw [words] at h
  cases relaunchGui with
  | true =>
    simp only [if_true, List.mem_cons, List.not_mem_nil, or_false] at h
    rcases h with rfl | rfl | rfl | rfl | rfl | rfl <;> simp [fixedWords]
  | false =>
    simp only [Bool.false_eq_true, if_false, List.mem_cons, List.not_mem_nil, or_false] at h
    rcases h with rfl | rfl | rfl | rfl <;> simp [fixedWords]

theorem zero_notMem_commandLine (setupPath installDir : CString) (relaunchGui : Bool)
    (launchSessionId : CString) :
    0 ∉ commandLine setupPath installDir relaunchGui launchSessionId := by
  have hwords : ∀ word ∈ words relaunchGui launchSessionId, 0 ∉ word := by
    intro word hword
    rcases mem_words hword with hfixed | ⟨-, rfl⟩
    · exact (fixedWords_plain word hfixed).2.2.2
    · exact launchSessionId.nulFree
  have hquote : (0 : UInt8) ≠ quote := by decide
  have hblank : (0 : UInt8) ≠ 0x20 := by decide
  simp only [commandLine, List.cons_append, List.mem_cons, List.mem_append, List.mem_flatMap,
    List.not_mem_nil, hquote, hblank, setupPath.nulFree, installDir.nulFree, false_or, or_false]
  rintro ⟨word, hword, hzero⟩
  exact hwords word hword hzero

/-! ## What the builder writes -/

section Append

variable {out out' : List UInt8} {start at' : Nat} {text : List UInt8} {texts : List (List UInt8)}
  {appended : Bool}

theorem length_append_memory (h : gcUpdateCommandAppend out start text = (appended, out', at')) :
    out'.length = out.length := by
  induction text generalizing out start with
  | nil =>
    cases h
    exact List.length_set
  | cons c text ih =>
    rw [gcUpdateCommandAppend] at h
    split_ifs at h
    · cases h
      rfl
    · rw [ih h, List.length_set]

/-- An append that succeeds: the text stands behind what was there, and a terminator behind
it. -/
theorem append_text (hstart : start < out.length)
    (h : gcUpdateCommandAppend out start text = (true, out', at')) :
    at' < out'.length ∧ out'.take at' = out.take start ++ text ∧ out'[at']? = some 0 := by
  induction text generalizing out start with
  | nil =>
    cases h
    refine ⟨by rwa [List.length_set], ?_, List.getElem?_set_self hstart⟩
    rw [List.take_set_of_le (Nat.le_refl _), List.append_nil]
  | cons c text ih =>
    rw [gcUpdateCommandAppend] at h
    split_ifs at h with hfull
    · cases h
    have hnext : start + 1 < (out.set start c).length := by
      rw [List.length_set]
      omega
    obtain ⟨hlt, htake, hend⟩ := ih hnext h
    refine ⟨hlt, ?_, hend⟩
    rw [htake, List.take_add_one, List.take_set_of_le (Nat.le_refl _),
      List.getElem?_set_self hstart]
    simp

/-- All the appends: one text, or an empty one. -/
theorem appendAll_text (hstart : start < out.length) (hend : out[start]? = some 0)
    (h : appendAll out start texts = (true, out')) :
    ∃ n, out'.take n = out.take start ++ texts.flatten ∧ out'[n]? = some 0 := by
  induction texts generalizing out start with
  | nil =>
    cases h
    exact ⟨start, by simp, hend⟩
  | cons text texts ih =>
    rw [appendAll] at h
    rcases happend : gcUpdateCommandAppend out start text with ⟨appended, out₁, at₁⟩
    rw [happend] at h
    cases appended with
    | false => cases h
    | true =>
      obtain ⟨hlt, htake, hzero⟩ := append_text hstart happend
      obtain ⟨n, hn, hterminator⟩ := ih hlt hzero h
      exact ⟨n, by rw [hn, htake, List.append_assoc, List.flatten_cons], hterminator⟩

theorem appendAll_empty (hpos : 0 < out.length) (h : appendAll out start texts = (false, out')) :
    out'[0]? = some 0 := by
  induction texts generalizing out start with
  | nil => cases h
  | cons text texts ih =>
    rw [appendAll] at h
    rcases happend : gcUpdateCommandAppend out start text with ⟨appended, out₁, at₁⟩
    rw [happend] at h
    have hlength := length_append_memory happend
    cases appended with
    | false =>
      cases h
      exact List.getElem?_set_self (by omega)
    | true => exact ih (by omega) h

end Append

theorem textOf_eq {out text : List UInt8} {n : Nat} (htake : out.take n = text)
    (hzero : out[n]? = some 0) (htext : 0 ∉ text) : textOf out = text := by
  have hdrop : out.drop n = 0 :: out.drop (n + 1) := by
    obtain ⟨hlt, hget⟩ := List.getElem?_eq_some_iff.mp hzero
    rw [List.drop_eq_getElem_cons hlt, hget]
  have hall : ∀ c ∈ text, decide (c ≠ 0) = true := fun c hc =>
    decide_eq_true fun h => htext (h ▸ hc)
  rw [textOf, ← List.take_append_drop n out, htake, hdrop, List.takeWhile_append_of_pos hall,
    List.takeWhile_cons_of_neg (by decide), List.append_nil]

theorem textOf_eq_nil {out : List UInt8} (h : out[0]? = some 0) : textOf out = [] :=
  textOf_eq (n := 0) List.take_zero h List.not_mem_nil

section Build

variable {setupPath installDir launchSessionId : CString} {relaunchGui : Bool}
  {out out' : List UInt8}

/-- A build that fails leaves no text. -/
theorem build_empty
    (h : gcUpdateBuildInstallerCommandLine setupPath installDir relaunchGui launchSessionId out =
      (false, out')) : textOf out' = [] := by
  rw [gcUpdateBuildInstallerCommandLine] at h
  split_ifs at h with hnone
  · cases h
    rw [List.length_eq_zero_iff.mp hnone]
    rfl
  all_goals
    have hzero : (out.set 0 0)[0]? = some 0 := List.getElem?_set_self (by omega)
  · cases h
    exact textOf_eq_nil hzero
  · cases h
    exact textOf_eq_nil hzero
  · cases h
    exact textOf_eq_nil hzero
  · exact textOf_eq_nil (appendAll_empty (by rw [List.length_set]; omega) h)

/-- What a build that succeeds has checked, and the text it leaves. -/
theorem build_text
    (h : gcUpdateBuildInstallerCommandLine setupPath installDir relaunchGui launchSessionId out =
      (true, out')) :
    gcUpdatePathIsQuotable setupPath = true ∧ gcUpdatePathIsQuotable installDir = true ∧
      (relaunchGui = true → gcUpdateSessionIdIsQuotable launchSessionId = true) ∧
      textOf out' = commandLine setupPath installDir relaunchGui launchSessionId := by
  rw [gcUpdateBuildInstallerCommandLine] at h
  split_ifs at h with hnone hsetup hdir hsession
  · cases h
  · cases h
  · cases h
  · cases h
  simp only [Bool.not_eq_true', Bool.not_eq_false, Bool.and_eq_true, not_and]
    at hsetup hdir hsession
  obtain ⟨n, htake, hzero⟩ := appendAll_text (by rw [List.length_set]; omega)
    (List.getElem?_set_self (by omega)) h
  rw [List.take_zero, List.nil_append, flatten_commandTexts] at htake
  exact ⟨hsetup, hdir, hsession, textOf_eq htake hzero (zero_notMem_commandLine _ _ _ _)⟩

end Build

/-! ## How Windows splits it -/

/-- A path that can be quoted. -/
theorem path_of_quotable {path : CString} (h : gcUpdatePathIsQuotable path = true) :
    quote ∉ path.bytes ∧ ∃ c, path.bytes.getLast? = some c ∧ c ≠ backslash := by
  rw [gcUpdatePathIsQuotable] at h
  split_ifs at h with hnil hany hlast
  refine ⟨fun hmem => hany (List.any_eq_true.mpr ⟨quote, hmem, rfl⟩), _,
    List.getLast?_eq_some_getLast hnil, fun heq => hlast ?_⟩
  rw [List.getLast?_eq_some_getLast hnil, heq]
  rfl

theorem isDigit_iff {c : UInt8} : isDigit c = true ↔ 0x30 ≤ c.toNat ∧ c.toNat ≤ 0x39 := by
  simp only [isDigit, Bool.and_eq_true, decide_eq_true_eq, ge_iff_le, UInt8.le_iff_toNat_le,
    UInt8.reduceToNat]

/-- What is known of a session that can be quoted. -/
theorem session_of_quotable {sessionId : CString}
    (h : gcUpdateSessionIdIsQuotable sessionId = true) :
    sessionId.bytes ≠ [] ∧ (∀ c ∈ sessionId.bytes, isDigit c = true) ∧
      sessionId.bytes.length ≤ 10 ∧
      ¬(sessionId.bytes.length > 1 ∧ sessionId.bytes[0]? = some 0x30) ∧
      (sessionId.bytes.length = 10 →
        digitsAtMost sessionId.bytes (ascii "4294967295") = true) := by
  rw [gcUpdateSessionIdIsQuotable] at h
  split_ifs at h with hnil hdigits hzero hshort
  all_goals
    simp only [not_or, Bool.not_eq_true', Bool.not_eq_false, List.all_eq_true, not_lt] at hdigits
  · exact ⟨hnil, hdigits.1, hdigits.2, hzero, fun hten => absurd hten (by omega)⟩
  · exact ⟨hnil, hdigits.1, hdigits.2, hzero, fun _ => h⟩

theorem plain_of_digits {text : List UInt8} (hne : text ≠ []) (h : ∀ c ∈ text, isDigit c = true) :
    Plain text where
  ne_nil := hne
  noQuote hmem := absurd (h quote hmem) (by decide)
  noBlank c hc := by
    have hdigit := isDigit_iff.mp (h c hc)
    rw [blank, Bool.or_eq_false_iff, beq_eq_false_iff_ne, beq_eq_false_iff_ne]
    constructor <;>
    · rintro rfl
      simp at hdigit

/-- **How Windows splits the command line.** -/
theorem commandLineToArgv_commandLine {setupPath installDir launchSessionId : CString}
    {relaunchGui : Bool} (hsetup : gcUpdatePathIsQuotable setupPath = true)
    (hdir : gcUpdatePathIsQuotable installDir = true)
    (hsession : relaunchGui = true → gcUpdateSessionIdIsQuotable launchSessionId = true) :
    commandLineToArgv (commandLine setupPath installDir relaunchGui launchSessionId) =
      setupPath.bytes :: (words relaunchGui launchSessionId ++ [installDir.bytes]) := by
  obtain ⟨hquote, c, hlast, hslash⟩ := path_of_quotable hdir
  have hwords : ∀ word ∈ words relaunchGui launchSessionId, Plain word := by
    intro word hword
    rcases mem_words hword with hfixed | ⟨hrelaunch, rfl⟩
    · exact plain_of_fixed hfixed
    · obtain ⟨hne, hdigits, -⟩ := session_of_quotable (hsession hrelaunch)
      exact plain_of_digits hne hdigits
  rw [commandLineToArgv, commandLine, program_quoted (path_of_quotable hsetup).1]
  dsimp only
  rw [arguments_words hwords, ← List.cons_append, ← List.cons_append,
    arguments_quoted hquote hlast hslash, List.cons_append]

/-! ## How setup reads it -/

/-- The number that digits write. -/
def decimalNumber (text : List UInt8) : Nat :=
  Nat.ofDigits 10 (text.reverse.map fun c => c.toNat - 0x30)

theorem parsedDigits_eq (text : List UInt8) : parsedDigits text = decimalNumber text := by
  rw [parsedDigits, decimalNumber, Nat.ofDigits_eq_foldr, List.foldr_map, List.foldr_reverse]
  congr 1
  funext parsed c
  simp only [Nat.cast_id]
  omega

theorem decimalNumber_cons (c : UInt8) (text : List UInt8) :
    decimalNumber (c :: text) = (c.toNat - 0x30) * 10 ^ text.length + decimalNumber text := by
  rw [decimalNumber, List.reverse_cons, List.map_append, Nat.ofDigits_append, List.length_map,
    List.length_reverse, Nat.add_comm, decimalNumber, Nat.mul_comm]
  simp

theorem decimalNumber_lt {text : List UInt8} (h : ∀ c ∈ text, isDigit c = true) :
    decimalNumber text < 10 ^ text.length := by
  have hlt := Nat.ofDigits_lt_base_pow_length (b := 10)
    (l := text.reverse.map fun c => c.toNat - 0x30) (by decide) ?_
  · rwa [List.length_map, List.length_reverse] at hlt
  · intro d hd
    obtain ⟨c, hc, rfl⟩ := List.mem_map.mp hd
    have hdigit := isDigit_iff.mp (h c (List.mem_reverse.mp hc))
    omega

/-- The comparison of the digits is one of the numbers. -/
theorem decimalNumber_le_of_digitsAtMost {text max : List UInt8}
    (hlength : text.length = max.length) (htext : ∀ c ∈ text, isDigit c = true)
    (hmax : ∀ c ∈ max, isDigit c = true) (h : digitsAtMost text max = true) :
    decimalNumber text ≤ decimalNumber max := by
  induction text generalizing max with
  | nil => exact Nat.zero_le _
  | cons c text ih =>
    cases max with
    | nil => cases hlength
    | cons m max =>
      rw [List.forall_mem_cons] at htext hmax
      have hlen : text.length = max.length := Nat.succ.inj hlength
      rw [decimalNumber_cons, decimalNumber_cons, ← hlen]
      rw [digitsAtMost] at h
      split_ifs at h with hne
      · have hlt : c.toNat < m.toNat := UInt8.lt_iff_toNat_lt.mp (of_decide_eq_true h)
        have hc := isDigit_iff.mp htext.1
        have hrest := decimalNumber_lt htext.2
        have hstep : (c.toNat - 0x30 + 1) * 10 ^ text.length ≤
            (m.toNat - 0x30) * 10 ^ text.length := Nat.mul_le_mul_right _ (by omega)
        rw [Nat.add_mul, Nat.one_mul] at hstep
        omega
      · rw [not_not.mp hne]
        exact Nat.add_le_add_left (ih hlen htext.2 hmax.2 h) _

theorem largest_session :
    (ascii "4294967295").length = 10 ∧ (∀ c ∈ ascii "4294967295", isDigit c = true) ∧
      parsedDigits (ascii "4294967295") = 4294967295 := by
  decide +kernel

section Parse

variable {options : GcInstallerOptions} {arg value : List UInt8} {rest : List (List UInt8)}

theorem parse_silent (hne : arg ≠ []) (h : switchOf arg = some .silent) :
    parseArguments options (arg :: rest) = parseArguments { options with silent := true } rest := by
  cases arg with
  | nil => exact absurd rfl hne
  | cons c arg => simp only [parseArguments, h]

theorem parse_launch (hne : arg ≠ []) {toggle : GcInstallerToggle}
    (h : switchOf arg = some (.launch toggle)) :
    parseArguments options (arg :: rest) =
      parseArguments { options with launchAfterInstall := toggle } rest := by
  cases arg with
  | nil => exact absurd rfl hne
  | cons c arg =>
    rw [parseArguments.eq_def]
    simp only [h]

theorem parse_settingsCaptured (hne : arg ≠ []) (h : switchOf arg = some .settingsCaptured) :
    parseArguments options (arg :: rest) =
      parseArguments { options with settingsCaptureHandledByGui := true } rest := by
  cases arg with
  | nil => exact absurd rfl hne
  | cons c arg => simp only [parseArguments, h]

/-- The session of a text that the builder took. -/
theorem parse_launchSession (hne : arg ≠ []) (h : switchOf arg = some .launchSession)
    {sessionId : CString} (hsession : gcUpdateSessionIdIsQuotable sessionId = true) :
    parseArguments options (arg :: sessionId.bytes :: rest) =
      parseArguments
        { options with
          hasLaunchSession := true, launchSessionId := decimalNumber sessionId.bytes } rest := by
  obtain ⟨hsome, hdigits, hlength, hzero, hten⟩ := session_of_quotable hsession
  have hpos := List.length_pos_of_ne_nil hsome
  have htakeWhile : sessionId.bytes.takeWhile isDigit = sessionId.bytes :=
    List.takeWhile_eq_self_iff.mpr hdigits
  have hmin : min sessionId.bytes.length 11 = sessionId.bytes.length := by omega
  have hrange : ¬decimalNumber sessionId.bytes > 0xFFFFFFFF := by
    rcases Nat.lt_or_ge sessionId.bytes.length 10 with hshort | hlong
    · have hlt := decimalNumber_lt hdigits
      have hpow : 10 ^ sessionId.bytes.length ≤ 10 ^ 9 :=
        Nat.pow_le_pow_right (by decide) (by omega)
      omega
    · have hten' : sessionId.bytes.length = 10 := by omega
      obtain ⟨hmaxLength, hmaxDigits, hmax⟩ := largest_session
      have hle := decimalNumber_le_of_digitsAtMost (hten'.trans hmaxLength.symm) hdigits hmaxDigits
        (hten hten')
      rw [← parsedDigits_eq (ascii "4294967295"), hmax] at hle
      omega
  have hstore : storeSession options sessionId.bytes =
      .ok { options with
        hasLaunchSession := true, launchSessionId := decimalNumber sessionId.bytes } := by
    rw [storeSession]
    dsimp only
    rw [htakeWhile, hmin, List.take_length, parsedDigits_eq,
      if_neg (by rintro (h | h | h); exacts [by omega, h rfl, hzero h]), if_neg hrange]
    rfl
  cases arg with
  | nil => exact absurd rfl hne
  | cons c arg =>
    simp only [parseArguments, h, hstore]
    rfl

/-- A directory that fits its field. -/
theorem parse_dir (hne : arg ≠ []) (h : switchOf arg = some .dir) (hvalue : value ≠ [])
    (hfits : value.length < GC_INSTALLER_MAX_PATH_CHARS) :
    parseArguments options (arg :: value :: rest) =
      parseArguments { options with directory := value, hasDirectory := true } rest := by
  have hstore : storeDirectory options value (ascii "--dir") =
      .ok { options with directory := value, hasDirectory := true } := by
    have hcopy : gcInstallerCopyArg value = (value, true) := by
      rw [gcInstallerCopyArg, if_neg (by omega),
        decide_eq_true (List.length_pos_of_ne_nil hvalue)]
    rw [storeDirectory, hcopy]
    rfl
  cases arg with
  | nil => exact absurd rfl hne
  | cons c arg =>
    simp only [parseArguments, h, hstore]
    rfl

end Parse

/-- What the updater means setup to do. -/
def meant (installDir : CString) (relaunchGui : Bool) (launchSessionId : CString) :
    GcInstallerOptions :=
  { gcInstallerOptionsDefaults with
    mode := .install
    silent := true
    hasDirectory := true
    directory := installDir.bytes
    launchAfterInstall := if relaunchGui then .on else .off
    hasLaunchSession := relaunchGui
    launchSessionId := if relaunchGui then decimalNumber launchSessionId.bytes else 0
    settingsCaptureHandledByGui := true
    valid := true }

/-- The words and the directory, parsed. -/
theorem parse_words {installDir launchSessionId : CString} {relaunchGui : Bool}
    (hdir : installDir.bytes ≠ []) (hfits : installDir.bytes.length < GC_INSTALLER_MAX_PATH_CHARS)
    (hsession : relaunchGui = true → gcUpdateSessionIdIsQuotable launchSessionId = true) :
    gcInstallerParseOptions (words relaunchGui launchSessionId ++ [installDir.bytes]) =
      meant installDir relaunchGui launchSessionId := by
  obtain ⟨hsilent, hon, hoff, hlaunchSession, hcaptured, hdirSwitch⟩ := switchOf_fixed
  have hne : ∀ word ∈ fixedWords, word ≠ [] := fun word hword => (fixedWords_plain word hword).1
  have hneSilent := hne (ascii "/S") (by simp [fixedWords])
  have hneOn := hne (ascii "--launch") (by simp [fixedWords])
  have hneOff := hne (ascii "--no-launch") (by simp [fixedWords])
  have hneSession := hne (ascii "--launch-session") (by simp [fixedWords])
  have hneCaptured := hne (ascii "--settings-captured-by-gui") (by simp [fixedWords])
  have hneDir := hne (ascii "--dir") (by simp [fixedWords])
  rw [gcInstallerParseOptions, words]
  cases relaunchGui with
  | true =>
    simp only [if_true, List.cons_append, List.nil_append]
    rw [parse_silent hneSilent hsilent, parse_launch hneOn hon,
      parse_launchSession hneSession hlaunchSession (hsession rfl),
      parse_settingsCaptured hneCaptured hcaptured, parse_dir hneDir hdirSwitch hdir hfits]
    rfl
  | false =>
    simp only [Bool.false_eq_true, if_false, List.cons_append, List.nil_append]
    rw [parse_silent hneSilent hsilent, parse_launch hneOff hoff,
      parse_settingsCaptured hneCaptured hcaptured, parse_dir hneDir hdirSwitch hdir hfits]
    rfl

/-- **Setup understands what the updater meant**: a command line that could be built, split by
Windows, gives setup the options that the updater means, the directory byte for byte; one that
could not be built leaves no text. -/
theorem command_line_understood (setupPath installDir : CString) (relaunchGui : Bool)
    (launchSessionId : CString) (out out' : List UInt8)
    (hdir : installDir.bytes.length < MAX_PATH) :
    (gcUpdateBuildInstallerCommandLine setupPath installDir relaunchGui launchSessionId out =
        (true, out') →
      gcInstallerParseOptions (commandLineToArgv (textOf out')).tail =
        meant installDir relaunchGui launchSessionId) ∧
    (gcUpdateBuildInstallerCommandLine setupPath installDir relaunchGui launchSessionId out =
        (false, out') →
      textOf out' = []) := by
  refine ⟨fun h => ?_, build_empty⟩
  obtain ⟨hsetup, hquotable, hsession, htext⟩ := build_text h
  obtain ⟨-, c, hlast, -⟩ := path_of_quotable hquotable
  have hne : installDir.bytes ≠ [] := List.ne_nil_of_mem (List.mem_of_getLast? hlast)
  have hfits : installDir.bytes.length < GC_INSTALLER_MAX_PATH_CHARS := by
    have hmax : MAX_PATH ≤ GC_INSTALLER_MAX_PATH_CHARS := by decide
    omega
  rw [htext, commandLineToArgv_commandLine hsetup hquotable hsession, List.tail_cons,
    parse_words hne hfits hsession]

def exampleSetup : CString := ⟨ascii "C:\\W\\setup.exe", by decide +kernel⟩
def exampleDir : CString := ⟨ascii "D:\\Green Curve", by decide +kernel⟩
def exampleSession : CString := ⟨ascii "2", by decide +kernel⟩

/-- Setup is started for a folder with a blank in its name, to relaunch into session 2. -/
theorem command_line_understood_green_curve :
    gcInstallerParseOptions (commandLineToArgv (textOf (gcUpdateBuildInstallerCommandLine
        exampleSetup exampleDir true exampleSession (List.replicate 120 0xFF)).2)).tail =
      meant exampleDir true exampleSession :=
  (command_line_understood exampleSetup exampleDir true exampleSession (List.replicate 120 0xFF) _
    (by decide +kernel)).1 (Prod.ext (by decide +kernel) rfl)

end GreenCurve.Setup
