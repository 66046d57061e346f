import GreenCurve.Installer

/-! # A failed installation

What each step of the transaction can do is stated as the state it returns in:
the stop and the service steps change the service, the file steps the target
folder, the record steps the uninstall record, and the clean-up the saved copies.
A rollback that reports success has put all three back. -/

namespace GreenCurve.Setup

open CrashM

variable {Name : Type} {s : Session Name}

/-! ## Calls -/

theorem returns_succeeds {Q : Bool → Session Name → Prop} (h : ∀ ok, Q ok s) :
    Returns (succeeds : SetupM Name Bool) Q s :=
  returns_ask_bind fun _ => returns_pure (h _)

theorem returns_succeeds_bind {α : Type} {f : Bool → SetupM Name α} {Q : α → Session Name → Prop}
    (h : ∀ ok, Returns (f ok) Q s) : Returns (succeeds >>= f) Q s :=
  (returns_succeeds (Q := fun _ s' => s' = s) fun _ => rfl).bind fun ok _ hs => hs ▸ h ok

namespace Session

@[simp] theorem setService_record (service : Option Service) :
    (s.setService service).machine.record = s.machine.record := rfl

@[simp] theorem setRecord_transaction (record : Option UninstallRecord) :
    (s.setRecord record).transaction = s.transaction := rfl

end Session

section Put
variable {K V : Type} [DecidableEq K] (f : K → V) {key key' : K} {value : V}

@[simp] theorem put_self : put f key value key = value := if_pos rfl

theorem put_of_ne (h : key' ≠ key) : put f key value key' = f key' := if_neg h

end Put

/-! ## The saved state -/

/-- The registration that was saved. -/
def Transaction.registration (tx : Transaction Name) : Service where
  command := tx.serviceCommand
  displayName := tx.serviceDisplayName
  startType := tx.serviceStartType
  failureActions := tx.failureActions
  failureFlag := tx.failureFlag
  description := tx.description
  running := tx.serviceWasRunning

/-- `tx` holds `service`; a configuration of no bytes is never saved. -/
def SavedService (tx : Transaction Name) : Option Service → Prop
  | none => tx.servicePresent = false ∧ tx.serviceWasRunning = false
  | some service => tx.servicePresent = true ∧ tx.registration = service ∧
      tx.failureActions ≠ [] ∧ tx.failureFlag ≠ [] ∧ tx.description ≠ []

/-- `tx` holds `record`. -/
def SavedRecord (tx : Transaction Name) : Option UninstallRecord → Prop
  | none => tx.registryPresent = false ∧ ∀ name, tx.values name = none
  | some record => tx.registryPresent = true ∧ ∀ name ∈ registrationValues,
      tx.values name = record name

/-- `tx` and `storage` hold what a rollback needs to put `before` back. -/
structure Kept (before : Machine Name) (files : List (PayloadFile Name)) (tx : Transaction Name)
    (storage : Storage Name) : Prop where
  service : SavedService tx before.service
  record : SavedRecord tx before.record
  oldFile : ∀ index, tx.oldFile index =
    (files[index]?.bind fun file => before.target file.name).isSome
  backup : ∀ file ∈ files, ∀ data, before.target file.name = some data →
    storage.backup file.name = some data

/-- What `prepare` leaves once it has saved `files`: nothing has changed. -/
structure Prepared (before : Machine Name) (files : List (PayloadFile Name)) (s : Session Name) :
    Prop extends Kept before files s.transaction s.storage where
  machine : s.machine = before
  changedFile : ∀ index, s.transaction.changedFile index = false
  recoveries : s.recoveries = []

/-! ### The snapshots -/

theorem returns_queryExtra {data : Bytes} :
    Returns (queryExtra data : SetupM Name Bool) (fun ok s' => s' = s ∧ (ok = true → data ≠ []))
      s := by
  refine returns_succeeds_bind fun queried => returns_pure ⟨rfl, ?_⟩
  cases queried with
  | false => intro h; cases h
  | true => intro h hnil; rw [hnil] at h; cases h

/-- A query that has to succeed for the snapshot to go on. -/
theorem returns_queryExtra_bind {data : Bytes} {Q : Bool → Session Name → Prop}
    {next : SetupM Name Bool} (hno : Q false s) (hyes : data ≠ [] → Returns next Q s) :
    Returns (queryExtra data >>= fun ok => if (!ok) = true then pure false else next) Q s := by
  refine returns_queryExtra.bind fun ok s' hs => ?_
  obtain ⟨rfl, hdata⟩ := hs
  exact returns_unless (fun _ => returns_pure hno) fun hok => hyes (hdata hok)

/-- A call that has to succeed for the program to go on. -/
theorem returns_demand {Q : Bool → Session Name → Prop} {next : SetupM Name Bool}
    (hno : Q false s) (hyes : Returns next Q s) :
    Returns (succeeds >>= fun ok => if (!ok) = true then pure false else next) Q s :=
  returns_succeeds_bind fun _ => returns_unless (fun _ => returns_pure hno) fun _ => hyes

/-- The transaction `prepare` starts from, up to the service it saves. -/
structure Unused (tx : Transaction Name) : Prop where
  oldFile : tx.oldFile = fun _ => false
  changedFile : tx.changedFile = fun _ => false
  registryPresent : tx.registryPresent = false
  values : tx.values = fun _ => none

theorem returns_snapshotService (hunused : Unused s.transaction)
    (hpresent : s.transaction.servicePresent = false)
    (hrunning : s.transaction.serviceWasRunning = false) :
    Returns (snapshotService : SetupM Name Bool) (fun ok s' => ok = true → ∃ tx,
      s' = s.setTransaction tx ∧ Unused tx ∧ SavedService tx s.machine.service) s := by
  refine returns_demand nofun <| returns_demand nofun <| returns_get_bind ?_
  generalize hservice : s.machine.service = registered
  cases registered with
  | none => exact returns_pure fun _ => ⟨s.transaction, rfl, hunused, hpresent, hrunning⟩
  | some service =>
    refine returns_demand nofun <| returns_queryExtra_bind nofun fun hactions =>
      returns_queryExtra_bind nofun fun hflag => returns_queryExtra_bind nofun fun hdescription =>
      returns_succeeds_bind fun directoryHardened => returns_succeeds_bind fun binaryHardened =>
      returns_demand nofun <| returns_modify_bind <| returns_pure fun _ => ?_
    exact ⟨_, rfl, ⟨hunused.oldFile, hunused.changedFile, hunused.registryPresent, hunused.values⟩,
      rfl, rfl, hactions, hflag, hdescription⟩

/-- The values under `names` are read into the transaction, and nothing else is. -/
theorem returns_readValues (record : UninstallRecord) (names : List String) :
    ∀ s : Session Name, Returns (readValues record names : SetupM Name Bool) (fun ok s' => ∃ values,
      s' = s.setTransaction { s.transaction with values := values } ∧
      (ok = true → ∀ name, name ∈ names ∨ s.transaction.values name = record name →
        values name = record name)) s := by
  induction names with
  | nil =>
    intro s
    refine returns_pure ⟨s.transaction.values, rfl, fun _ name h => ?_⟩
    exact h.resolve_left List.not_mem_nil
  | cons name rest ih =>
    intro s
    refine returns_demand ⟨s.transaction.values, rfl, nofun⟩ <| returns_modify_bind <|
      (ih _).mono fun ok s' h => ?_
    obtain ⟨values, rfl, hvalues⟩ := h
    refine ⟨values, rfl, fun hok name' h => hvalues hok name' ?_⟩
    show name' ∈ rest ∨ put s.transaction.values name (record name) name' = record name'
    by_cases hname : name' = name
    · rw [hname]
      exact .inr (put_self _)
    · rw [put_of_ne _ hname]
      exact h.imp_left fun hmem => (List.mem_cons.mp hmem).resolve_left hname

theorem returns_snapshotRegistry (hunused : Unused s.transaction) :
    Returns (snapshotRegistry : SetupM Name Bool) (fun ok s' => ok = true → ∃ present values,
      s' = s.setTransaction { s.transaction with registryPresent := present, values := values } ∧
      SavedRecord s'.transaction s.machine.record) s := by
  refine returns_demand nofun <| returns_get_bind ?_
  generalize hrecord : s.machine.record = record
  cases record with
  | none =>
    refine returns_pure fun _ => ⟨_, _, rfl, hunused.registryPresent, fun name => ?_⟩
    rw [hunused.values]
  | some record =>
    refine returns_modify_bind <| (returns_readValues record _ _).mono fun ok s' h hok => ?_
    obtain ⟨values, rfl, hvalues⟩ := h
    exact ⟨true, values, rfl, rfl, fun name hname => hvalues hok name (.inl hname)⟩

/-! ### The copies -/

section Files
variable [DecidableEq Name]

/-- Only the private folder is cleaned up. -/
theorem returns_discard (names : List Name) :
    ∀ s : Session Name, Returns (discard names) (fun _ s' => ∃ storage, s' = s.setStorage storage)
      s := by
  induction names with
  | nil => exact fun s => returns_pure ⟨s.storage, rfl⟩
  | cons name rest ih =>
    intro s
    refine returns_succeeds_bind fun unstaged => ?_
    refine Returns.bind (Q := fun _ s' => ∃ storage, s' = s.setStorage storage)
      (returns_when (fun _ => ⟨_, rfl⟩) fun _ => ⟨s.storage, rfl⟩) fun _ s' h => ?_
    obtain ⟨storage, rfl⟩ := h
    refine returns_succeeds_bind fun removed => ?_
    refine Returns.bind (Q := fun _ s' => ∃ storage, s' = s.setStorage storage)
      (returns_when (fun _ => ⟨_, rfl⟩) fun _ => ⟨storage, rfl⟩) fun _ s' h => ?_
    obtain ⟨storage', rfl⟩ := h
    refine (ih _).mono fun _ s' h => ?_
    obtain ⟨storage'', rfl⟩ := h
    exact ⟨storage'', rfl⟩

theorem returns_cleanup :
    Returns (cleanup : SetupM Name Unit) (fun _ s' => ∃ storage, s' = s.setStorage storage) s :=
  returns_get_bind (returns_discard _ s)

variable {before : Machine Name} {files rest : List (PayloadFile Name)} {file : PayloadFile Name}

omit [DecidableEq Name] in
/-- A file that is not there needs no copy. -/
theorem Prepared.absent (h : Prepared before files s) (habsent : before.target file.name = none) :
    Prepared before (files ++ [file]) s where
  service := h.service
  record := h.record
  oldFile := by
    intro index
    rw [h.oldFile, List.getElem?_append]
    split
    · rfl
    · rename_i hlength
      rw [List.getElem?_eq_none (Nat.le_of_not_lt hlength)]
      cases hindex : index - files.length with
      | zero => simp [habsent]
      | succ index => simp
  backup := by
    intro file' hmem data hdata
    rcases List.mem_append.mp hmem with hold | hnew
    · exact h.backup file' hold data hdata
    · rw [List.mem_singleton.mp hnew, habsent] at hdata
      cases hdata
  machine := h.machine
  changedFile := h.changedFile
  recoveries := h.recoveries

/-- A file that is there is copied before it can be replaced. -/
theorem Prepared.copied (h : Prepared before files s) {data : Bytes}
    (hdata : before.target file.name = some data) :
    Prepared before (files ++ [file]) ((s.setStorage
      { s.storage with backup := put s.storage.backup file.name (some data) }).setTransaction
      { s.transaction with oldFile := put s.transaction.oldFile files.length true }) where
  service := h.service
  record := h.record
  oldFile := by
    intro index
    show put s.transaction.oldFile files.length true index = _
    by_cases hindex : index = files.length
    · rw [hindex, put_self, List.getElem?_concat_length]
      simp [hdata]
    · rw [put_of_ne _ hindex, h.oldFile, List.getElem?_append]
      split
      · rfl
      · rename_i hlength
        rw [List.getElem?_eq_none (Nat.le_of_not_lt hlength), List.getElem?_eq_none]
        show 1 ≤ index - files.length
        omega
  backup := by
    intro file' hmem data' hdata'
    show put s.storage.backup file.name (some data) file'.name = some data'
    by_cases hname : file'.name = file.name
    · rw [hname, put_self, ← hdata, ← hdata', hname]
    · rw [put_of_ne _ hname]
      rcases List.mem_append.mp hmem with hold | hnew
      · exact h.backup file' hold data' hdata'
      · exact absurd (congrArg PayloadFile.name (List.mem_singleton.mp hnew)) hname
  machine := h.machine
  changedFile := h.changedFile
  recoveries := h.recoveries

theorem returns_saveOldFile (h : Prepared before files s) {data : Bytes}
    (hdata : before.target file.name = some data) :
    Returns (saveOldFile files.length file.name data)
      (fun ok s' => ok = true → Prepared before (files ++ [file]) s') s := by
  refine returns_succeeds_bind fun copied => returns_get_bind ?_
  split
  · exact returns_pure nofun
  · exact returns_modify_bind (returns_pure fun _ => h.copied hdata)

theorem returns_saveExisting (h : Prepared before files s) :
    Returns (saveExisting files.length file.name)
      (fun ok s' => ok = true → Prepared before (files ++ [file]) s') s := by
  refine returns_demand nofun <| returns_get_bind ?_
  rw [h.machine]
  cases hdata : before.target file.name with
  | none => exact returns_pure fun _ => h.absent hdata
  | some data => exact returns_demand nofun (returns_saveOldFile h hdata)

theorem returns_prepareFile (h : Prepared before files s) (file : PayloadFile Name) :
    Returns (prepareFile files.length file)
      (fun ok s' => ok = true → Prepared before (files ++ [file]) s') s := by
  refine returns_demand nofun <| returns_modify_bind <| returns_demand nofun <|
    returns_modify_bind <| returns_saveExisting ?_
  exact ⟨⟨h.service, h.record, h.oldFile, h.backup⟩, h.machine, h.changedFile, h.recoveries⟩

theorem returns_prepareFrom (rest : List (PayloadFile Name)) :
    ∀ files s, Prepared before files s → Returns (prepareFrom files.length rest)
      (fun ok s' => ok = true → Prepared before (files ++ rest) s') s := by
  induction rest with
  | nil =>
    intro files s h
    rw [List.append_nil]
    exact returns_pure fun _ => h
  | cons file rest ih =>
    intro files s h
    refine (returns_prepareFile h file).bind fun prepared s' hfile =>
      returns_unless (fun _ => returns_cleanup.bind fun _ _ _ => returns_pure nofun) fun hok => ?_
    have hrest := ih (files ++ [file]) s' (hfile hok)
    rw [List.append_assoc, List.length_append] at hrest
    exact hrest

/-- The session setup starts in. -/
def Session.start (before : Machine Name) : Session Name where
  machine := before

/-- **A successful `prepare` has saved everything and changed nothing.** -/
theorem returns_prepare (context : InstallContext Name) (before : Machine Name) :
    Returns (prepare context) (fun ok s => ok = true → Prepared before context.files s)
      (.start before) := by
  refine returns_demand nofun <| (returns_snapshotService ⟨rfl, rfl, rfl, rfl⟩ rfl rfl).bind
    fun service s hservice => returns_unless (fun _ => returns_pure nofun) fun hok => ?_
  obtain ⟨tx, rfl, hunused, hsaved⟩ := hservice hok
  refine (returns_snapshotRegistry hunused).bind
    fun registry s hregistry => returns_unless (fun _ => returns_pure nofun) fun hok => ?_
  obtain ⟨present, values, rfl, hrecord⟩ := hregistry hok
  refine returns_succeeds_bind fun storage =>
    returns_unless (fun _ => returns_cleanup.bind fun _ _ _ => returns_pure nofun) fun _ => ?_
  refine returns_prepareFrom context.files [] _ ⟨⟨hsaved, hrecord, ?_, nofun⟩, rfl, ?_, rfl⟩
  · intro index
    exact congrFun hunused.oldFile index
  · intro index
    exact congrFun hunused.changedFile index

end Files

/-! ## The forward steps -/

/-- No service is running. -/
def Down (service : Option Service) : Prop :=
  ∀ registered, service = some registered → registered.running = false

theorem down_stoppedService (service : Option Service) : Down (stoppedService service) := by
  intro registered h
  obtain ⟨_, _, rfl⟩ := Option.map_eq_some_iff.mp h
  rfl

/-- A stop changes the service only; it reports success of a service that is down,
and running of one that was. -/
theorem returns_gcStopBackgroundService :
    Returns (gcStopBackgroundService : SetupM Name (Bool × Bool)) (fun found s' => ∃ service,
      s' = s.setService service ∧ (found.1 = true → Down service) ∧
      (found.2 = true → ∃ registered, s.machine.service = some registered ∧
        registered.running = true)) s := by
  have hrefused : ∃ service, s = s.setService service ∧ (false = true → Down service) ∧
      (false = true → ∃ registered, s.machine.service = some registered ∧
        registered.running = true) := ⟨s.machine.service, rfl, nofun, nofun⟩
  refine returns_succeeds_bind fun manager => returns_unless (fun _ => returns_pure hrefused)
    fun _ => returns_succeeds_bind fun opened => returns_unless (fun _ => returns_pure hrefused)
    fun _ => returns_get_bind ?_
  cases hservice : s.machine.service with
  | none => exact returns_pure ⟨none, by rw [← hservice]; rfl, fun _ => nofun, nofun⟩
  | some service =>
    rw [hservice] at hrefused
    refine returns_succeeds_bind fun queried => returns_unless (fun _ => returns_pure hrefused)
      fun _ => returns_unless (fun hstopped => returns_pure ?_) fun hrunning => ?_
    · refine ⟨some service, by rw [← hservice]; rfl, fun _ registered h => ?_, nofun⟩
      rw [← Option.some.inj h]
      exact hstopped
    have hunstopped : ∃ left, s = s.setService left ∧ (false = true → Down left) ∧
        (true = true → ∃ registered, some service = some registered ∧
          registered.running = true) :=
      ⟨s.machine.service, rfl, nofun, fun _ => ⟨service, rfl, hrunning⟩⟩
    refine returns_succeeds_bind fun process => returns_unless (fun _ => returns_pure hunstopped)
      fun _ => returns_succeeds_bind fun controlled =>
      returns_unless (fun _ => returns_pure hunstopped) fun _ => returns_ask_bind fun exit => ?_
    refine Returns.bind (Q := fun _ s' => ∃ left, s' = s.setService left ∧
      (exit.ok = true → Down left)) (returns_when (fun _ => ?_) fun hexit => ?_) fun _ s' h => ?_
    · exact ⟨_, rfl, fun _ => down_stoppedService _⟩
    · refine ⟨s.machine.service, rfl, fun hok => ?_⟩
      rw [hok] at hexit
      cases hexit
    · obtain ⟨left, rfl, hdown⟩ := h
      exact returns_pure ⟨left, rfl, hdown, fun _ => ⟨service, rfl, hrunning⟩⟩

/-- The snapshot knows whether the service that is running now was running. -/
theorem SavedService.running {tx : Transaction Name} {service : Option Service}
    (h : SavedService tx service) {registered : Service} (hservice : service = some registered) :
    tx.serviceWasRunning = registered.running := by
  subst hservice
  exact congrArg Service.running h.2.1

variable {before : Machine Name} {files : List (PayloadFile Name)} {context : InstallContext Name}
  {touched : Bool}

/-- The stop of a prepared transaction finds what the snapshot found. -/
theorem returns_stop (h : Prepared before files s) :
    Returns (stop : SetupM Name Bool) (fun _ s' => ∃ service, s' = s.setService service) s := by
  refine returns_gcStopBackgroundService.bind fun found s' hstop => ?_
  obtain ⟨service, rfl, _, hfound⟩ := hstop
  refine returns_modify_bind (returns_pure ⟨service, ?_⟩)
  have hrunning :
      (s.transaction.serviceWasRunning || found.2) = s.transaction.serviceWasRunning := by
    cases hwas : found.2 with
    | false => exact Bool.or_false _
    | true =>
      obtain ⟨registered, hservice, hrunning⟩ := hfound hwas
      rw [h.machine] at hservice
      rw [h.service.running hservice, hrunning]
      rfl
  show (s.setService service).setTransaction { s.transaction with
    serviceWasRunning := s.transaction.serviceWasRunning || found.2 } = s.setService service
  rw [hrunning]
  rfl

/-- The record after a write that stayed among the saved values. -/
structure WrittenOver (before record : Option UninstallRecord) : Prop where
  present : before.isSome = true → record.isSome = true
  others : ∀ name, name ∉ registrationValues →
    record.getD (fun _ => none) name = before.getD (fun _ => none) name

theorem WrittenOver.refl (record : Option UninstallRecord) : WrittenOver record record :=
  ⟨id, fun _ _ => rfl⟩

/-- Every value the record step writes is one that was saved. -/
theorem uninstallRegistration_names (context : InstallContext Name) :
    (uninstallRegistration context).map Prod.fst = registrationValues := rfl

theorem writeSome_of_notMem (written : String → Bool) {name : String}
    (values : List (String × RegistryValue)) :
    ∀ record : UninstallRecord, name ∉ values.map Prod.fst →
      writeSome written record values name = record name := by
  induction values with
  | nil => exact fun _ _ => rfl
  | cons entry rest ih =>
    intro record hname
    have hne := List.ne_of_not_mem_cons hname
    have hrest := List.not_mem_of_not_mem_cons hname
    show writeSome written (if written entry.1 then _ else record) rest name = record name
    rw [ih _ hrest]
    split
    · exact put_of_ne _ hne
    · rfl

theorem writtenOver_writeSome (record : Option UninstallRecord) (written : String → Bool)
    (context : InstallContext Name) :
    WrittenOver record (some (writeSome written (record.getD fun _ => none)
      (uninstallRegistration context))) where
  present _ := rfl
  others name hname := by
    rw [← uninstallRegistration_names context] at hname
    exact writeSome_of_notMem written _ _ hname

theorem returns_gcWriteUninstallRegistration :
    Returns (gcWriteUninstallRegistration context) (fun _ s' => ∃ record,
      s' = s.setRecord record ∧ WrittenOver s.machine.record record) s := by
  refine returns_ask_bind fun answer => returns_modify_bind <| returns_pure ?_
  dsimp only
  split_ifs
  · exact ⟨_, rfl, writtenOver_writeSome _ _ _⟩
  · exact ⟨_, rfl, writtenOver_writeSome _ _ _⟩
  · exact ⟨s.machine.record, rfl, .refl _⟩

theorem returns_gcRegisterService :
    Returns (gcRegisterService : SetupM Name Bool)
      (fun _ s' => ∃ service, s' = s.setService service) s :=
  returns_ask_bind fun answer => returns_modify_bind <| returns_pure ⟨answer.left, rfl⟩

/-- Where `target` is not as before, one of the changed files among `indices` is
to blame. -/
def ChangedAmong (before : Machine Name) (files : List (PayloadFile Name)) (changed : Nat → Bool)
    (indices : List Nat) (target : Name → Option Bytes) : Prop :=
  ∀ name, target name = before.target name ∨ ∃ index ∈ indices, changed index = true ∧
    ∃ file, files[index]? = some file ∧ file.name = name

/-- A transaction that has replaced some of its files, and, when `touched`, may
have written the record. -/
structure Underway (before : Machine Name) (files : List (PayloadFile Name)) (touched : Bool)
    (s : Session Name) : Prop extends Kept before files s.transaction s.storage where
  target : ChangedAmong before files s.transaction.changedFile (List.range files.length)
    s.machine.target
  untouched : touched = false → s.machine.record = before.record
  written : WrittenOver before.record s.machine.record
  recoveries : s.recoveries = []

theorem Prepared.underway (h : Prepared before files s) (service : Option Service) :
    Underway before files false (s.setService service) where
  service := h.service
  record := h.record
  oldFile := h.oldFile
  backup := h.backup
  target name := .inl (congrFun (congrArg Machine.target h.machine) name)
  untouched _ := (congrArg Machine.record h.machine :)
  written := by
    rw [Session.setService_record, h.machine]
    exact .refl _
  recoveries := h.recoveries

theorem Underway.setService (h : Underway before files touched s) (service : Option Service) :
    Underway before files touched (s.setService service) :=
  ⟨⟨h.service, h.record, h.oldFile, h.backup⟩, h.target, h.untouched, h.written, h.recoveries⟩

theorem Underway.setRecord (h : Underway before files false s) {record : Option UninstallRecord}
    (hrecord : WrittenOver s.machine.record record) :
    Underway before files true (s.setRecord record) where
  service := h.service
  record := h.record
  oldFile := h.oldFile
  backup := h.backup
  target := h.target
  untouched := nofun
  written := by
    rw [← h.untouched rfl]
    exact hrecord
  recoveries := h.recoveries

section Files
variable [DecidableEq Name]

/-- A replaced file is marked changed. -/
theorem Underway.replaced (h : Underway before files touched s) {index : Nat}
    {file : PayloadFile Name} (hfile : files[index]? = some file) (data : Bytes) :
    Underway before files touched
      ((s.setTarget (put s.machine.target file.name (some data))).setTransaction
        { s.transaction with changedFile := put s.transaction.changedFile index true }) where
  service := h.service
  record := h.record
  oldFile := h.oldFile
  backup := h.backup
  target := by
    intro name
    by_cases hname : name = file.name
    · refine .inr ⟨index, ?_, put_self _, file, hfile, hname.symm⟩
      exact List.mem_range.mpr (List.getElem?_eq_some_iff.mp hfile).1
    · refine (h.target name).imp (fun hsame => (put_of_ne _ hname).trans hsame) ?_
      rintro ⟨other, hmem, hchanged, hother⟩
      refine ⟨other, hmem, ?_, hother⟩
      by_cases hindex : other = index
      · rw [hindex]
        exact put_self _
      · exact (put_of_ne _ hindex).trans hchanged
  untouched := h.untouched
  written := h.written
  recoveries := h.recoveries

theorem returns_replace (h : Underway before context.files touched s) (index : Nat) :
    Returns (replace context index) (fun _ s' => Underway before context.files touched s') s := by
  refine returns_succeeds_bind fun replaced => returns_get_bind ?_
  cases hfile : context.files[index]? with
  | none => exact returns_pure h
  | some file =>
    cases hstaged : s.storage.staged file.name with
    | none =>
      simp only [hstaged]
      exact returns_pure h
    | some data =>
      simp only [hstaged]
      exact returns_unless (fun _ => returns_pure h) fun _ =>
        returns_modify_bind <| returns_pure <| h.replaced hfile data

theorem returns_replaceAll (indices : List Nat) :
    ∀ s, Underway before context.files touched s → Returns (replaceAll (replace context) indices)
      (fun _ s' => Underway before context.files touched s') s := by
  induction indices with
  | nil => exact fun s h => returns_pure h
  | cons index rest ih =>
    intro s h
    exact (returns_replace h index).bind fun _ s' h' =>
      returns_unless (fun _ => returns_pure h') fun _ => ih s' h'

end Files

/-! ## Putting the files back -/

section Files
variable [DecidableEq Name]

/-- One file: if the step succeeds, the file is as before. -/
theorem returns_restoreFile (h : Kept before context.files s.transaction s.storage)
    (index : Nat) :
    Returns (if s.transaction.oldFile index then onFile context restorePrevious index
        else onFile context removeNew index) (fun ok s' => ∃ target, s' = s.setTarget target ∧
      (ok = true → ∃ file, context.files[index]? = some file ∧
        target = put s.machine.target file.name (before.target file.name))) s := by
  have hfailed : ∃ target, s = s.setTarget target ∧ (false = true → ∃ file,
      context.files[index]? = some file ∧
        target = put s.machine.target file.name (before.target file.name)) :=
    ⟨s.machine.target, rfl, nofun⟩
  have hold := h.oldFile index
  unfold onFile
  cases hfile : context.files[index]? with
  | none =>
    split
    · exact returns_pure ⟨s.machine.target, rfl, nofun⟩
    · exact returns_pure ⟨s.machine.target, rfl, nofun⟩
  | some file =>
    rw [hfile] at hold hfailed
    cases hbefore : before.target file.name with
    | none =>
      rw [show s.transaction.oldFile index = false by simpa [hbefore] using hold]
      refine returns_succeeds_bind fun removed => returns_unless (fun _ => returns_pure hfailed)
        fun _ => returns_modify_bind <| returns_pure ⟨_, rfl, fun _ => ⟨file, rfl, ?_⟩⟩
      rw [hbefore]
    | some data =>
      have hbackup := h.backup file (List.mem_of_getElem? hfile) data hbefore
      rw [show s.transaction.oldFile index = true by simpa [hbefore] using hold]
      refine returns_succeeds_bind fun restored => returns_get_bind ?_
      rw [hbackup]
      refine returns_unless (fun _ => returns_pure hfailed)
        fun _ => returns_modify_bind <| returns_pure ⟨_, rfl, fun _ => ⟨file, rfl, ?_⟩⟩
      rw [hbefore]

/-- Once a changed file is put back, only the others can be to blame. -/
theorem ChangedAmong.restored {changed : Nat → Bool} {index : Nat} {rest : List Nat}
    {target : Name → Option Bytes} {file : PayloadFile Name}
    (h : ChangedAmong before files changed (index :: rest) target)
    (hfile : files[index]? = some file) :
    ChangedAmong before files changed rest (put target file.name (before.target file.name)) := by
  intro name
  by_cases hname : name = file.name
  · rw [hname]
    exact .inl (put_self _)
  · rw [put_of_ne _ hname]
    refine (h name).imp id ?_
    rintro ⟨other, hmem, hchanged, file', hfile', rfl⟩
    refine ⟨other, (List.mem_cons.mp hmem).resolve_left fun heq => hname ?_, hchanged, file',
      hfile', rfl⟩
    rw [heq, hfile] at hfile'
    exact congrArg PayloadFile.name (Option.some.inj hfile').symm

theorem returns_restoreChanged (indices : List Nat) :
    ∀ (s : Session Name) (complete : Bool), Kept before context.files s.transaction s.storage →
      (complete = true → ChangedAmong before context.files s.transaction.changedFile indices
        s.machine.target) →
      Returns (restoreChanged s.transaction.changedFile s.transaction.oldFile
        (onFile context restorePrevious) (onFile context removeNew) complete indices)
        (fun ok s' => ∃ target, s' = s.setTarget target ∧ (ok = true → target = before.target))
        s := by
  induction indices with
  | nil =>
    intro s complete _ hrest
    refine returns_pure ⟨s.machine.target, rfl, fun hok => funext fun name => ?_⟩
    refine (hrest hok name).resolve_right ?_
    rintro ⟨index, hmem, _⟩
    exact List.not_mem_nil hmem
  | cons index rest ih =>
    intro s complete h hrest
    unfold restoreChanged
    refine returns_unless (fun hsame => ih s complete h fun hok name => ?_) fun _ => ?_
    · refine (hrest hok name).imp id ?_
      rintro ⟨other, hmem, hchanged, hother⟩
      refine ⟨other, (List.mem_cons.mp hmem).resolve_left fun heq => ?_, hchanged, hother⟩
      rw [heq, hsame] at hchanged
      cases hchanged
    · refine (returns_restoreFile h index).bind fun restored s' hfile => ?_
      obtain ⟨target, rfl, hput⟩ := hfile
      refine (ih (s.setTarget target) (complete && restored) h fun hok => ?_).mono
        fun ok s' h' => ?_
      · obtain ⟨hcomplete, hrestored⟩ := Bool.and_eq_true_iff.mp hok
        obtain ⟨file, hfile, rfl⟩ := hput hrestored
        exact (hrest hcomplete).restored hfile
      · obtain ⟨target', rfl, htarget⟩ := h'
        exact ⟨target', rfl, htarget⟩

/-- Restored files are as before, whatever happens to the rest. -/
theorem returns_restoreFiles (h : Underway before context.files touched s) :
    Returns (restoreFiles context)
      (fun ok s' => ∃ target, s' = s.setTarget target ∧ (ok = true → target = before.target)) s :=
  returns_get_bind <| returns_restoreChanged _ s true h.toKept fun _ => h.target

end Files

/-! ## Putting the service back -/

theorem returns_restartPreviousService :
    Returns (restartPreviousService : SetupM Name Bool) (fun ok s' => ∃ service,
      s' = s.setService service ∧ (ok = true → service = startedService s.machine.service)) s := by
  refine returns_succeeds_bind fun started => returns_unless (fun _ => returns_pure ?_) fun _ => ?_
  · exact ⟨s.machine.service, rfl, nofun⟩
  · exact returns_modify_bind <| returns_succeeds fun ok => ⟨_, rfl, fun _ => rfl⟩

/-- A change that fails changes nothing. -/
theorem returns_changeConfig (change : Service → Service) {service : Service} :
    Returns (changeConfig change : SetupM Name Bool) (fun ok s' =>
      s' = s.setService (some (if ok then change service else service)))
      (s.setService (some service)) :=
  returns_succeeds_bind fun changed =>
    Returns.bind (Q := fun _ s' => s' = s.setService (some (if changed then change service
      else service))) (returns_when (fun h => by rw [h]; rfl) fun h => by rw [h]; rfl)
      fun _ _ h => returns_pure h

theorem returns_changeConfig2 (change : Service → Service) {data : Bytes} (hdata : data ≠ [])
    {service : Service} :
    Returns (changeConfig2 data change : SetupM Name Bool) (fun ok s' =>
      s' = s.setService (some (if ok then change service else service)))
      (s.setService (some service)) := by
  unfold changeConfig2
  rw [if_neg (by simpa using hdata)]
  exact returns_changeConfig change

theorem returns_restoreProtection (hardened : Bool) :
    Returns (restoreProtection hardened : SetupM Name Bool) (fun _ s' => s' = s) s := by
  cases hardened with
  | false => exact returns_pure rfl
  | true => exact returns_succeeds fun _ => rfl

/-- A registration that is back, with the service down, is started again if the
service was running. -/
theorem returns_restartIfRunning {registered : Service} {ok wasRunning : Bool}
    (hwas : wasRunning = registered.running)
    (hservice : ok = true → s.machine.service = some { registered with running := false }) :
    Returns (if (ok && wasRunning) = true then restartPreviousService else pure ok :
        SetupM Name Bool) (fun ok s' => ∃ service,
      s' = s.setService service ∧ (ok = true → service = some registered)) s := by
  cases ok with
  | false => exact returns_pure ⟨s.machine.service, rfl, nofun⟩
  | true =>
    have hleft := hservice rfl
    cases wasRunning with
    | false =>
      refine returns_pure ⟨s.machine.service, rfl, fun _ => hleft.trans ?_⟩
      rw [hwas]
    | true =>
      refine returns_restartPreviousService.mono fun ok s' h => ?_
      obtain ⟨left, rfl, hstarted⟩ := h
      refine ⟨left, rfl, fun hok => (hstarted hok).trans ?_⟩
      rw [hleft]
      show some { registered with running := true } = some registered
      rw [hwas]

theorem returns_restoreRegistration {registered service : Service}
    (hservice : s.machine.service = some service) (hdown : service.running = false)
    (hsaved : SavedService s.transaction (some registered)) :
    Returns (restoreRegistration : SetupM Name Bool) (fun ok s' => ∃ service,
      s' = s.setService service ∧ (ok = true → service = some registered)) s := by
  have hwas := hsaved.running rfl
  obtain ⟨_, hregistration, hactions, hflag, hdescription⟩ := hsaved
  rw [show s = s.setService (some service) by rw [← hservice]; rfl]
  refine returns_get_bind <| (returns_changeConfig _).bind fun configured s₁ h₁ => ?_
  rw [h₁]
  refine (returns_changeConfig2 _ hactions).bind fun failureActions s₂ h₂ => ?_
  rw [h₂]
  refine (returns_changeConfig2 _ hflag).bind fun failureFlag s₃ h₃ => ?_
  rw [h₃]
  refine (returns_changeConfig2 _ hdescription).bind fun description s₄ h₄ => ?_
  rw [h₄]
  refine (returns_restoreProtection _).bind fun directory s₅ h₅ => ?_
  rw [h₅]
  refine (returns_restoreProtection _).bind fun binary s₆ h₆ => ?_
  rw [h₆]
  refine (returns_restartIfRunning hwas fun hok => ?_).mono fun ok s' h => ?_
  · -- every write succeeded, so every field is the saved one
    simp only [Bool.and_eq_true] at hok
    obtain ⟨⟨⟨⟨⟨rfl, rfl⟩, rfl⟩, rfl⟩, _⟩, _⟩ := hok
    rw [← hregistration, ← hdown]
    rfl
  · obtain ⟨left, rfl, hleft⟩ := h
    exact ⟨left, rfl, hleft⟩

/-- **A restored service is the one that was there before.**  It is given a service
that is down, and starts it again only if it was running. -/
theorem returns_restoreService (hsaved : SavedService s.transaction before.service)
    (hdown : Down s.machine.service) :
    Returns (restoreService : SetupM Name Bool) (fun ok s' => ∃ service,
      s' = s.setService service ∧ (ok = true → service = before.service)) s := by
  have hrefused : ∃ service, s = s.setService service ∧ (false = true → service = before.service) :=
    ⟨s.machine.service, rfl, nofun⟩
  refine returns_demand hrefused <| returns_demand hrefused <| returns_get_bind ?_
  cases hservice : s.machine.service with
  | none =>
    refine returns_pure ⟨none, by rw [← hservice]; rfl, fun hok => ?_⟩
    cases hbefore : before.service with
    | none => rfl
    | some registered =>
      rw [hbefore] at hsaved
      rw [hsaved.1] at hok
      cases hok
  | some service =>
    cases hbefore : before.service with
    | none =>
      rw [hbefore] at hsaved hrefused
      simp only [hsaved.1]
      exact returns_demand hrefused <| returns_modify_bind <| returns_pure ⟨none, rfl, fun _ => rfl⟩
    | some registered =>
      rw [hbefore] at hsaved
      simp only [hsaved.1]
      exact returns_restoreRegistration hservice (hdown service hservice) hsaved

/-! ## Putting the record back -/

/-- The values under `names` are the saved ones if every write succeeded, and the
others are left alone. -/
theorem returns_restoreValues (saved : UninstallRecord) (names : List String) :
    ∀ (s : Session Name) (record : UninstallRecord) (ok : Bool), s.machine.record = some record →
      Returns (restoreValues saved ok names : SetupM Name Bool) (fun ok' s' => ∃ record',
        s' = s.setRecord (some record') ∧ (∀ name, name ∉ names → record' name = record name) ∧
        (ok' = true → ok = true ∧ ∀ name ∈ names, record' name = saved name)) s := by
  induction names with
  | nil =>
    intro s record ok hrecord
    refine returns_pure ⟨record, by rw [← hrecord]; rfl, fun _ _ => rfl, fun hok => ⟨hok, nofun⟩⟩
  | cons name rest ih =>
    intro s record ok hrecord
    refine returns_succeeds_bind fun restored => ?_
    refine Returns.bind (Q := fun _ s' => s' = s.setRecord (some (if restored
      then put record name (saved name) else record))) (returns_when (fun h => ?_) fun h => ?_)
      fun _ s' hs => ?_
    · rw [h, hrecord]
      rfl
    · rw [h, if_neg nofun, ← hrecord]
      rfl
    · rw [hs]
      refine (ih _ _ (ok && restored) rfl).mono fun ok' s'' h => ?_
      obtain ⟨record', rfl, hothers, hnames⟩ := h
      refine ⟨record', rfl, fun name' hname' => ?_, fun hok' => ?_⟩
      · rw [hothers name' (List.not_mem_of_not_mem_cons hname')]
        split
        · exact put_of_ne _ (List.ne_of_not_mem_cons hname')
        · rfl
      · obtain ⟨hok, hrest⟩ := hnames hok'
        obtain ⟨hok, hrestored⟩ := Bool.and_eq_true_iff.mp hok
        refine ⟨hok, fun name' hname' => ?_⟩
        by_cases hmem : name' ∈ rest
        · exact hrest name' hmem
        · rw [hothers name' hmem, if_pos hrestored, (List.mem_cons.mp hname').resolve_right hmem]
          exact put_self _

/-- **A restored record is the one that was there before.** -/
theorem returns_restoreRegistry (hsaved : SavedRecord s.transaction before.record)
    (hwritten : WrittenOver before.record s.machine.record) :
    Returns (restoreRegistry : SetupM Name Bool) (fun ok s' => ∃ record,
      s' = s.setRecord record ∧ (ok = true → record = before.record)) s := by
  refine returns_demand ⟨s.machine.record, rfl, nofun⟩ <| returns_modify_bind <| returns_get_bind ?_
  refine (returns_restoreValues _ _ _ _ true rfl).bind fun ok s' h => ?_
  obtain ⟨record, rfl, hothers, hnames⟩ := h
  cases hbefore : before.record with
  | none =>
    rw [hbefore] at hsaved
    split
    · refine returns_succeeds_bind fun deleted => ?_
      refine Returns.bind (Q := fun _ s' => ∃ record, s' = s.setRecord record ∧
        (deleted = true → record = none)) (returns_when (fun _ => ?_) fun h => ?_) fun _ s' h => ?_
      · exact ⟨none, rfl, fun _ => rfl⟩
      · exact ⟨some record, rfl, by rw [h]; nofun⟩
      · exact returns_pure h
    · rename_i hkeep
      refine returns_pure ⟨some record, rfl, fun hok => absurd ?_ hkeep⟩
      rw [hok, Session.setRecord_transaction, hsaved.1]
      rfl
  | some old =>
    rw [hbefore] at hsaved hwritten
    rw [Session.setRecord_transaction, hsaved.1, if_neg nofun]
    refine returns_pure ⟨some record, rfl, fun hok => congrArg some (funext fun name => ?_)⟩
    by_cases hname : name ∈ registrationValues
    · exact ((hnames hok).2 name hname).trans (hsaved.2 name hname)
    · exact (hothers name hname).trans (hwritten.others name hname)

/-! ## The recoveries -/

section Files
variable [DecidableEq Name]

/-- What a rollback may leave: the whole machine if it reports success, the saved
copies if it does not. -/
structure RolledBack (before : Machine Name) (files : List (PayloadFile Name)) (ok : Bool)
    (s : Session Name) : Prop where
  machine : ok = true → s.machine = before
  backup : ok = false → ∀ file ∈ files, ∀ data, before.target file.name = some data →
    s.storage.backup file.name = some data
  recoveries : s.recoveries = []

omit [DecidableEq Name] in
theorem Underway.refused (h : Underway before files touched s) (service : Option Service) :
    RolledBack before files false (s.setService service) :=
  ⟨nofun, fun _ => h.backup, h.recoveries⟩

/-- The end of a rollback, once files, service and record have been tried. -/
theorem returns_settleRollback (h : Underway before files touched s) {ok : Bool}
    {target : Name → Option Bytes} {service : Option Service} {record : Option UninstallRecord}
    (hok : ok = true → target = before.target ∧ service = before.service ∧
      record = before.record) :
    Returns (do CrashM.when ok cleanup; return ok : SetupM Name Bool)
      (fun ok s' => RolledBack before files ok s')
      (((s.setTarget target).setService service).setRecord record) := by
  cases ok with
  | false => exact returns_pure ⟨nofun, fun _ => h.backup, h.recoveries⟩
  | true =>
    obtain ⟨rfl, rfl, rfl⟩ := hok rfl
    refine returns_cleanup.bind fun _ s' hs => ?_
    obtain ⟨storage, rfl⟩ := hs
    exact returns_pure ⟨fun _ => rfl, nofun, h.recoveries⟩

omit [DecidableEq Name] in
/-- A record that no step may have written is not restored. -/
theorem returns_restoreRecord (hsaved : SavedRecord s.transaction before.record)
    (huntouched : touched = false → s.machine.record = before.record)
    (hwritten : WrittenOver before.record s.machine.record) :
    Returns (if touched then restoreRegistry else pure true : SetupM Name Bool) (fun ok s' =>
      ∃ record, s' = s.setRecord record ∧ (ok = true → record = before.record)) s := by
  cases touched with
  | false => exact returns_pure ⟨s.machine.record, rfl, fun _ => huntouched rfl⟩
  | true => exact returns_restoreRegistry hsaved hwritten

/-- **A rollback puts everything back, or keeps every saved copy.** -/
theorem returns_rollback (h : Underway before context.files touched s) :
    Returns (rollback context touched) (fun ok s' => RolledBack before context.files ok s') s := by
  refine returns_gcStopBackgroundService.bind fun found s₁ h₁ => ?_
  obtain ⟨idle, rfl, hdown, _⟩ := h₁
  refine returns_unless (fun _ => returns_pure (h.refused idle)) fun hstopped => ?_
  refine (returns_restoreFiles (h.setService idle)).bind fun files s₂ h₂ => ?_
  obtain ⟨target, rfl, htarget⟩ := h₂
  have hservice : Returns (if files = true then restoreService else pure false : SetupM Name Bool)
      (fun ok s' => ∃ service, s' = ((s.setService idle).setTarget target).setService service ∧
        (ok = true → service = before.service)) ((s.setService idle).setTarget target) := by
    split
    · exact returns_restoreService h.service (hdown hstopped)
    · exact returns_pure ⟨idle, rfl, nofun⟩
  refine hservice.bind fun ok₃ s₃ h₃ => ?_
  obtain ⟨service, rfl, hservice⟩ := h₃
  refine (returns_restoreRecord (s := ((s.setService idle).setTarget target).setService service)
    h.record h.untouched h.written).bind fun ok₄ s₄ h₄ => ?_
  obtain ⟨record, rfl, hrecord⟩ := h₄
  refine returns_settleRollback h fun hok => ?_
  simp only [Bool.and_eq_true] at hok
  exact ⟨htarget hok.1.1, hservice hok.1.2, hrecord hok.2⟩

omit [DecidableEq Name] in
theorem returns_queryServiceAfterStopFailure :
    Returns (queryServiceAfterStopFailure : SetupM Name StopFailureServiceState)
      (fun _ s' => s' = s) s := by
  refine returns_succeeds_bind fun opened => returns_unless (fun _ => returns_pure rfl)
    fun _ => returns_get_bind ?_
  cases s.machine.service with
  | none => exact returns_pure rfl
  | some service =>
    refine returns_succeeds_bind fun queried => returns_unless (fun _ => returns_pure rfl)
      fun _ => returns_pure rfl

/-- The recovery after a failed stop touches the service and the copies only. -/
theorem returns_recoverAfterStopFailure :
    Returns (recoverAfterStopFailure : SetupM Name Unit) (fun _ s' =>
      ∃ service storage action restarted, s' = ((s.setService service).setStorage
        storage).recovered (.stopFailure action restarted)) s := by
  refine returns_succeeds_bind fun manager => ?_
  refine Returns.bind (Q := fun _ s' => s' = s) ?_ fun now s₁ h₁ => ?_
  · cases manager with
    | false => exact returns_pure rfl
    | true => exact returns_queryServiceAfterStopFailure
  rw [h₁]
  refine returns_get_bind <| Returns.bind (Q := fun _ s' => ∃ service, s' = s.setService service)
    ?_ fun restarted s₂ h₂ => ?_
  · split
    · refine returns_restartPreviousService.mono fun _ s' h => ?_
      obtain ⟨service, rfl, _⟩ := h
      exact ⟨service, rfl⟩
    · exact returns_pure ⟨s.machine.service, rfl⟩
  obtain ⟨service, rfl⟩ := h₂
  refine returns_cleanup.bind fun _ s₃ h₃ => ?_
  obtain ⟨storage, rfl⟩ := h₃
  exact returns_modify ⟨service, storage, _, restarted, rfl⟩

/-! ## The transaction -/

/-- What a recovery leaves of `before`. -/
def RecoveredFrom (before : Machine Name) (files : List (PayloadFile Name)) (s : Session Name) :
    Recovery → Prop
  | .stopFailure _ _ => s.machine.target = before.target ∧ s.machine.record = before.record
  | .rollback true => s.machine = before
  | .rollback false => ∀ file ∈ files, ∀ data, before.target file.name = some data →
      s.storage.backup file.name = some data

/-- One recovery ran, and left `s`. -/
def FailedCleanly (before : Machine Name) (files : List (PayloadFile Name)) (s : Session Name) :
    Prop :=
  ∃ recovery, s.recoveries = [recovery] ∧ RecoveredFrom before files s recovery

theorem returns_rollbackAndReport (h : Underway before context.files touched s) :
    Returns (do rollbackAndReport context touched; return false : SetupM Name Bool)
      (fun ok s' => ok = false → FailedCleanly before context.files s') s := by
  refine Returns.bind (Q := fun _ s' => FailedCleanly before context.files s') ?_
    fun _ s' hs => returns_pure fun _ => hs
  refine (returns_rollback h).bind fun restored s' hrolled => returns_modify ?_
  refine ⟨.rollback restored, ?_, ?_⟩
  · show s'.recoveries ++ [_] = [_]
    rw [hrolled.recoveries]
    rfl
  · cases restored with
    | false => exact hrolled.backup rfl
    | true => exact hrolled.machine rfl

theorem returns_installTransaction (h : Prepared before context.files s) :
    Returns (installTransaction context)
      (fun ok s' => ok = false → FailedCleanly before context.files s') s := by
  refine (returns_stop h).bind fun stopped s₁ h₁ => ?_
  obtain ⟨service, rfl⟩ := h₁
  have hunderway := h.underway service
  refine returns_unless (fun _ => ?_) fun _ => ?_
  · refine returns_recoverAfterStopFailure.bind fun _ s' hs => returns_pure fun _ => ?_
    obtain ⟨left, storage, action, restarted, rfl⟩ := hs
    refine ⟨.stopFailure action restarted, ?_, ?_, ?_⟩
    · show s.recoveries ++ [_] = [_]
      rw [h.recoveries]
      rfl
    · exact (congrArg Machine.target h.machine :)
    · exact (congrArg Machine.record h.machine :)
  refine (returns_replaceAll _ _ hunderway).bind fun replaced s₂ h₂ =>
    returns_unless (fun _ => returns_rollbackAndReport h₂) fun _ => ?_
  refine returns_gcWriteUninstallRegistration.bind fun recorded s₃ h₃ => ?_
  obtain ⟨record, rfl, hwritten⟩ := h₃
  have hrecorded := h₂.setRecord hwritten
  refine returns_unless (fun _ => returns_rollbackAndReport hrecorded) fun _ => ?_
  refine returns_gcRegisterService.bind fun registered s₄ h₄ => ?_
  obtain ⟨left, rfl⟩ := h₄
  exact returns_unless (fun _ => returns_rollbackAndReport (hrecorded.setService left))
    fun _ => returns_pure nofun

/-- **A failed installation that reports a successful rollback changed nothing.**
For every machine, payload and pattern of failures: once `prepare` has succeeded,
a transaction that returns `false` has run exactly one recovery.  A rollback that
reports success left the machine as it was found; one that reports failure kept
the saved copy of every file that was there. -/
theorem failed_install_recovered (context : InstallContext Name) (before : Machine Name)
    {prepareAnswers answers : List Answer} {prepared failed : Session Name}
    (hprepare : exec (prepare context) prepareAnswers (.start before) = (some true, prepared))
    (hfailed : exec (installTransaction context) answers prepared = (some false, failed)) :
    ∃ recovery, failed.recoveries = [recovery] ∧
      RecoveredFrom before context.files failed recovery := by
  have hprepared := (returns_prepare context before).of_exec hprepare rfl
  exact (returns_installTransaction hprepared).of_exec hfailed rfl

end Files

/-! ### An upgrade whose service helper fails -/

/-- The payload replaces a file and adds another. -/
def upgrade : InstallContext Nat where
  files := [⟨0, [2]⟩, ⟨1, [3]⟩]
  targetDirectory := "C:\\Program Files\\Green Curve"
  version := "2.0"
  createStartMenuShortcut := true
  createDesktopShortcut := false

def oldService : Service where
  command := "\"C:\\Program Files\\Green Curve\\greencurve-service.exe\""
  displayName := "Green Curve"
  startType := 2
  failureActions := [1]
  failureFlag := [1]
  description := [1]
  running := true

/-- An older version is installed, and its service runs. -/
def installed : Machine Nat where
  target := put (fun _ => none) 0 (some [1])
  service := some oldService
  record := some fun name => if name = "DisplayVersion" then some (.string "1.0") else none

def granted : Answer := {}

def preparedUpgrade : Session Nat :=
  (exec (prepare upgrade) (List.replicate 40 granted) (.start installed)).2

/-- The helper registers its service in the old one's place, starts it and fails. -/
def helperFails : List Answer :=
  List.replicate 9 granted ++
    [{ granted with ok := false, left := some { oldService with command := "new" } }] ++
    List.replicate 40 granted

def failedUpgrade : Session Nat :=
  (exec (installTransaction upgrade) helperFails preparedUpgrade).2

theorem failedUpgrade_recoveries : failedUpgrade.recoveries = [.rollback true] := by
  decide

theorem failed_install_recovered_upgrade : failedUpgrade.recoveries = [.rollback true] ∧
    failedUpgrade.machine = installed := by
  have hprepare : (exec (prepare upgrade) (List.replicate 40 granted) (.start installed)).1 =
      some true := by decide +kernel
  have hfailed : (exec (installTransaction upgrade) helperFails preparedUpgrade).1 =
      some false := by decide +kernel
  obtain ⟨recovery, hlogged, hrecovered⟩ := failed_install_recovered upgrade installed
    (Prod.ext hprepare rfl) (Prod.ext hfailed rfl)
  have hrollback := hlogged.symm.trans failedUpgrade_recoveries
  cases List.singleton_inj.mp hrollback
  exact ⟨failedUpgrade_recoveries, hrecovered⟩

end GreenCurve.Setup
