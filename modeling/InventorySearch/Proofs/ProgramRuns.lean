import InventorySearch.CommandLine.Run
import InventorySearch.Proofs.DiskTree
import InventorySearch.Proofs.SavedSettings

/-!
# What runs of the program do to a disk

A run of the program is given by its surroundings and its words (`Invocation`).  A command
prints its report, but not before everything is done that can fail (`Command.run_eq`); so a
failure prints nothing (`Command.printed_of_error`).  All commands but one only read.  The one
that creates settings writes a single file, if nothing is found at its path, and only as the
last thing it does before it prints (`Invocation.runOn_cases`).

From this follows what one run preserves, and by induction what any number of them preserve
(`keepsAll_diskAfter`): no file is changed or removed, and a tree stays a tree.  The usual
settings that were written are read back as what a missing file stands for
(`Invocation.found_of_created`), so that later runs answer as if nothing had been written.
`runs_keep_files` is all of this about one run among others.
-/

namespace InventorySearch

/-! ## Loading snapshots -/

/-- The inventory at a path, given what is found there. -/
def Inventory.ofPresence (path : String) : Presence → Except Failure Inventory
  | .absent => .error (.snapshotNotFound path)
  | .unreadable fault => .error (.file fault)
  | .text content => Inventory.ofSnapshot (.ofPath path) content

/-- Loading leaves the disk as it is. -/
theorem Inventory.load_run (disk : Disk) (path : String) :
    (Inventory.load Disk.access path).run disk =
      (Inventory.ofPresence path (disk.probe path), disk) := by
  have hprobe : (Disk.access.probe path).run disk = (disk.probe path, disk) := rfl
  rw [load, Settings.run_bind_of_run hprobe]
  cases disk.probe path <;> rfl

/-! ## Saving settings in a tree -/

namespace Settings

variable {disk : Disk} {settings : Settings}

theorem isTree_saveOn (htree : disk.IsTree) : (saveOn disk settings).2.IsTree := by
  have hmade := htree.makeParents settings.path
  rw [saveOn_eq]
  split
  · next hmake => rwa [hmake] at hmade
  · next made hmake =>
    rw [hmake] at hmade
    split
    · exact hmade
    · exact hmade.write _ _

/-- What is saved at a path without two dots where nothing is found is a new file. -/
theorem createsFile_saveOn (settings : Settings) (htree : disk.IsTree)
    (hforward : ".." ∉ Path.rawParts settings.path)
    (habsent : disk.probe settings.path = .absent) (hsaved : (saveOn disk settings).1 = .ok ()) :
    ∃ content, text? settings.tolerance = some content ∧
      disk.CreatesFile (saveOn disk settings).2 settings.path content := by
  have hcreates := fun content => htree.createsFile_write content hforward habsent
  rw [saveOn_eq] at hsaved ⊢
  rcases hmade : Disk.makeParents settings.path disk with ⟨fault | _, made⟩
  · simp [hmade] at hsaved
  · simp only [hmade] at hsaved hcreates ⊢
    cases htext : text? settings.tolerance with
    | none => simp [htext] at hsaved
    | some content =>
      simp only [htext] at hsaved ⊢
      refine ⟨content, rfl, hcreates content ?_⟩
      cases hwrite : (Disk.write settings.path content made).1 with
      | error fault => simp [hwrite, Except.mapError] at hsaved
      | ok => rfl

/-- Nothing is lost where settings are saved, or fail to be saved, and nothing was found. -/
theorem keepsAll_saveOn (htree : disk.IsTree) (hforward : ".." ∉ Path.rawParts settings.path)
    (habsent : disk.probe settings.path = .absent) : disk.KeepsAll (saveOn disk settings).2 := by
  cases hsaved : (saveOn disk settings).1 with
  | error failure => exact (addsDirectories_of_saveOn_error hsaved).keepsAll
  | ok =>
    obtain ⟨content, -, hcreates⟩ := createsFile_saveOn settings htree hforward habsent hsaved
    exact hcreates.keepsAll

/-- What is loaded from a path where something is found stays the same as long as nothing is
lost. -/
theorem loadFrom_eq_of_keepsAll {later : Disk} {path : String} (h : disk.KeepsAll later)
    (hfound : disk.probe path ≠ .absent) : loadFrom later path = loadFrom disk path := by
  rw [loadFrom_eq, loadFrom_eq, h.probe_eq hfound]

end Settings

namespace CommandLine

/-! ## Tasks on a disk -/

/-- What comes of a task on a disk, given what has been printed before: its result, what has been
printed in the end, and the disk afterwards. -/
def Task.runOn {α : Type} (task : Task (StateM Disk) α) (printed : String) (disk : Disk) :
    (Except Failure α × String) × Disk := (task.run.run printed).run disk

/-- Where a task ends that prints its answer, or fails and prints nothing. -/
def ending (printed : String) : Except Failure String → Except Failure Unit × String
  | .ok text => (.ok (), printed ++ text)
  | .error failure => (.error failure, printed)

namespace Task

variable {α β : Type} {printed : String} {disk after : Disk}

theorem runOn_print (text : String) (printed : String) (disk : Disk) :
    (print text).runOn printed disk = (ending printed (.ok text), disk) :=
  rfl

/-- To look at a path changes nothing and prints nothing. -/
theorem runOn_probe_bind (path : String) (next : Presence → Task (StateM Disk) β) :
    ((liftM (Disk.access.probe path) : Task (StateM Disk) Presence) >>= next).runOn printed disk =
      (next (disk.probe path)).runOn printed disk :=
  rfl

/-- An attempt prints nothing. -/
theorem runOn_attempt {work : StateM Disk (Except Failure α)} {result : Except Failure α}
    (h : work.run disk = (result, after)) (printed : String) :
    (attempt work).runOn printed disk = ((result, printed), after) := by
  show (work >>= fun result => pure (result, printed)).run disk = _
  rw [StateT.run_bind, h]
  rfl

/-- When an attempt succeeds, the next task goes on from there. -/
theorem runOn_attempt_bind_of_ok {work : StateM Disk (Except Failure α)} {answer : α}
    (h : work.run disk = (.ok answer, after)) (next : α → Task (StateM Disk) β) :
    (attempt work >>= next).runOn printed disk = (next answer).runOn printed after := by
  have hattempt := runOn_attempt h printed
  unfold runOn at hattempt ⊢
  rw [ExceptT.run_bind, StateT.run_bind, StateT.run_bind, hattempt]
  rfl

/-- When an attempt fails, nothing else is done. -/
theorem runOn_attempt_bind_of_error {work : StateM Disk (Except Failure α)} {failure : Failure}
    (h : work.run disk = (.error failure, after)) (next : α → Task (StateM Disk) β) :
    (attempt work >>= next).runOn printed disk = ((.error failure, printed), after) := by
  have hattempt := runOn_attempt h printed
  unfold runOn at hattempt ⊢
  rw [ExceptT.run_bind, StateT.run_bind, StateT.run_bind, hattempt]
  rfl

/-- A report on what is attempted is printed if the attempt succeeds. -/
theorem runOn_attempt_print {work : StateM Disk (Except Failure α)} {result : Except Failure α}
    (h : work.run disk = (result, after)) (report : α → String) :
    (attempt work >>= fun answer => print (report answer)).runOn printed disk =
      (ending printed (result.map report), after) := by
  cases result with
  | error failure => exact runOn_attempt_bind_of_error h _
  | ok answer =>
    rw [runOn_attempt_bind_of_ok h, runOn_print]
    rfl

end Task

/-! ## Commands on a disk -/

/-- What comes of creating settings on a disk, and the disk afterwards. -/
def createSettingsOn (disk : Disk) (settings : Settings) : Except Failure String × Disk :=
  match disk.probe settings.path with
  | .absent =>
    ((settings.saveOn disk).1.map fun _ => lines ["Wrote default config to " ++ settings.path],
      (settings.saveOn disk).2)
  | _ => (.ok (lines ["Config already exists at " ++ settings.path]), disk)

theorem createSettings_runOn (printed : String) (disk : Disk) (settings : Settings) :
    (createSettings Disk.access settings).runOn printed disk =
      (createSettingsOn disk settings).map (ending printed) id := by
  rw [createSettings, Task.runOn_probe_bind, createSettingsOn]
  cases disk.probe settings.path with
  | unreadable fault => rfl
  | text content => rfl
  | absent =>
    rcases hsave : settings.saveOn disk with ⟨answer, after⟩
    have hrun : (settings.save Disk.access).run disk = (answer, after) := hsave
    cases answer with
    | error failure => exact Task.runOn_attempt_bind_of_error hrun _
    | ok => exact Task.runOn_attempt_bind_of_ok hrun _

/-- What a command prints, or its failure, and the disk afterwards, if the settings are at the given
path. -/
def Command.runOn (disk : Disk) (settingsPath : Except Failure String) :
    Command → Except Failure String × Disk
  | parse query format => (.ok (reportQuery query format), disk)
  | search query snapshot direct format =>
    (do
      let loaded ← settingsPath.bind (Settings.loadFrom disk)
      let inv ← Inventory.ofPresence snapshot (disk.probe snapshot)
      return reportFound inv loaded.tolerance query direct format, disk)
  | inspect snapshot format =>
    ((Inventory.ofPresence snapshot (disk.probe snapshot)).map (reportInventory · format), disk)
  | settings false => ((settingsPath.bind (Settings.loadFrom disk)).map settingsText, disk)
  | settings true =>
    match settingsPath.bind (Settings.loadFrom disk) with
    | .error failure => (.error failure, disk)
    | .ok loaded => createSettingsOn disk loaded

theorem loadSettings_run (disk : Disk) (env : Environment) (given : Option String) :
    (loadSettings Disk.access env given).run disk =
      ((given.elim env.settingsPath .ok).bind (Settings.loadFrom disk), disk) := by
  rw [loadSettings]
  cases given.elim env.settingsPath .ok with
  | error failure => rfl
  | ok path =>
    simp only [Settings.load_run, Except.bind, Settings.loadFrom_eq]

/-- A command does everything that can fail before it prints its answer. -/
theorem Command.run_eq (printed : String) (disk : Disk) (env : Environment)
    (given : Option String) (command : Command) :
    (command.run Disk.access env given).runOn printed disk =
      (command.runOn disk (given.elim env.settingsPath .ok)).map (ending printed) id := by
  have hloaded := loadSettings_run disk env given
  have hread (snapshot : String) := Inventory.load_run disk snapshot
  cases command with
  | parse query format => rfl
  | inspect snapshot format => exact Task.runOn_attempt_print (hread snapshot) _
  | settings create =>
    cases create with
    | false => exact Task.runOn_attempt_print hloaded settingsText
    | true =>
      rw [run, runOn]
      cases hsettings : (given.elim env.settingsPath .ok).bind (Settings.loadFrom disk) with
      | error failure =>
        rw [hsettings] at hloaded
        exact Task.runOn_attempt_bind_of_error hloaded _
      | ok loaded =>
        rw [hsettings] at hloaded
        rw [Task.runOn_attempt_bind_of_ok hloaded]
        exact createSettings_runOn printed disk loaded
  | search query snapshot direct format =>
    rw [run, runOn]
    cases hsettings : (given.elim env.settingsPath .ok).bind (Settings.loadFrom disk) with
    | error failure =>
      rw [hsettings] at hloaded
      exact Task.runOn_attempt_bind_of_error hloaded _
    | ok loaded =>
      rw [hsettings] at hloaded
      rw [Task.runOn_attempt_bind_of_ok hloaded, Task.runOn_attempt_print (hread snapshot)]
      cases Inventory.ofPresence snapshot (disk.probe snapshot) <;> rfl

/-- A command that fails has printed nothing. -/
theorem Command.printed_of_error {printed : String} {disk : Disk} {env : Environment}
    {given : Option String} {command : Command} {failure : Failure}
    (h : ((command.run Disk.access env given).runOn printed disk).1.1 = .error failure) :
    ((command.run Disk.access env given).runOn printed disk).1.2 = printed := by
  rw [Command.run_eq] at h ⊢
  generalize command.runOn disk (given.elim env.settingsPath .ok) = ended at h ⊢
  obtain ⟨answer, after⟩ := ended
  cases answer with
  | ok text => exact absurd h (by simp [ending])
  | error failure => rfl

/-- If nothing is found at the path of the settings, the usual ones are saved there. -/
theorem Command.runOn_create_of_absent {disk : Disk} {path : String}
    (h : disk.probe path = .absent) : (settings true).runOn disk (.ok path) =
      (Settings.saveOn disk { path }).map
        (Except.map fun _ => lines ["Wrote default config to " ++ path]) id := by
  simp only [runOn, Except.bind, Settings.loadFrom_eq, h, Settings.ofPresence, createSettingsOn]
  rfl

/-- If something is found at the path of the settings, creating them changes nothing. -/
theorem Command.runOn_create_of_found {disk : Disk} {path : String}
    (h : disk.probe path ≠ .absent) : ((settings true).runOn disk (.ok path)).2 = disk := by
  rw [runOn]
  simp only [Except.bind, Settings.loadFrom_eq]
  cases hprobe : disk.probe path with
  | absent => exact absurd hprobe h
  | unreadable fault => rfl
  | text content =>
    simp only [Settings.ofPresence]
    cases Settings.readText? content with
    | none => rfl
    | some tolerance => simp only [createSettingsOn, hprobe]

/-- The outcome of a command with this answer. -/
def Outcome.ofAnswer (answer : Except Failure String) : Outcome :=
  .ofEnd (ending "" answer).2 (ending "" answer).1

@[simp]
theorem Outcome.code_ofAnswer_ok (text : String) : (ofAnswer (.ok text)).code = 0 :=
  rfl

@[simp]
theorem Outcome.code_ofAnswer_error (failure : Failure) : (ofAnswer (.error failure)).code = 1 :=
  rfl

/-! ## One run -/

/-- A run of the program: its surroundings and the words on its command line. -/
structure Invocation where
  /-- The surroundings. -/
  env : Environment := {}
  /-- The words. -/
  words : List String
deriving DecidableEq, Repr

namespace Invocation

/-- How a run ends on a disk, and the disk afterwards. -/
def runOn (call : Invocation) (disk : Disk) : Outcome × Disk :=
  (run Disk.access call.env call.words).run disk

/-- The command that a run carries out, with the path of its settings file, if it has both. -/
def asked? (call : Invocation) : Option (Command × String) :=
  match Request.ofWords call.words with
  | .command given command =>
    (given.elim call.env.settingsPath .ok).toOption.map fun path => (command, path)
  | _ => none

/-- If a run is to create settings, no part of their path goes back. -/
def GoesForward (call : Invocation) : Prop :=
  ∀ path, call.asked? = some (.settings true, path) → ".." ∉ Path.rawParts path

variable {call : Invocation} {disk : Disk} {command : Command} {path : String}

/-- A run with a command ends as the command does. -/
theorem runOn_eq_ofEnd {given : Option String}
    (h : Request.ofWords call.words = .command given command) (disk : Disk) :
    call.runOn disk = ((command.run Disk.access call.env given).runOn "" disk).map
      (fun ended => Outcome.ofEnd ended.2 ended.1) id := by
  rw [runOn, run, h]
  rfl

theorem runOn_of_command {given : Option String}
    (h : Request.ofWords call.words = .command given command) (disk : Disk) :
    call.runOn disk = ((command.runOn disk (given.elim call.env.settingsPath .ok)).map
      Outcome.ofAnswer id) := by
  rw [runOn_eq_ofEnd h, Command.run_eq]
  rfl

theorem runOn_of_asked (h : call.asked? = some (command, path)) (disk : Disk) :
    call.runOn disk = (command.runOn disk (.ok path)).map Outcome.ofAnswer id := by
  rw [asked?] at h
  split at h
  · next given asked hwords =>
    obtain ⟨found, hfound, heq⟩ := Option.map_eq_some_iff.1 h
    obtain ⟨rfl, rfl⟩ : asked = command ∧ found = path := by simpa using heq
    have hpath : given.elim call.env.settingsPath .ok = .ok found := by
      cases hgiven : given.elim call.env.settingsPath .ok with
      | error failure => simp [hgiven, Except.toOption] at hfound
      | ok other => simpa [hgiven, Except.toOption] using hfound
    rw [runOn_of_command hwords, hpath]
  · exact absurd h (by simp)

/-- A failure prints nothing but a complaint. -/
theorem output_of_code_eq_one (h : (call.runOn disk).1.code = 1) :
    (call.runOn disk).1.output = "" := by
  cases hwords : Request.ofWords call.words with
  | command given command =>
    rw [runOn_eq_ofEnd hwords] at h ⊢
    have hprinted := @Command.printed_of_error "" disk call.env given command
    generalize (command.run Disk.access call.env given).runOn "" disk = ended at h hprinted ⊢
    obtain ⟨⟨result, printed⟩, after⟩ := ended
    cases result with
    | ok => exact absurd h (by simp [Outcome.ofEnd])
    | error failure => exact hprinted rfl
  | help =>
    rw [runOn, run, hwords] at h
    exact absurd h (by show (0 : Nat) ≠ 1; omega)
  | version =>
    rw [runOn, run, hwords] at h
    exact absurd h (by show (0 : Nat) ≠ 1; omega)
  | misuse =>
    rw [runOn, run, hwords]
    rfl

/-- A run changes nothing on a disk, unless it is to create settings and nothing is found at their
path.  Then it saves the usual settings there, and ends as the save does. -/
theorem runOn_cases (call : Invocation) (disk : Disk) :
    (call.runOn disk).2 = disk ∨
    ∃ path, call.asked? = some (.settings true, path) ∧ disk.probe path = .absent ∧
      call.runOn disk = (Settings.saveOn disk { path }).map (fun answer => Outcome.ofAnswer
        (answer.map fun _ => lines ["Wrote default config to " ++ path])) id := by
  cases hwords : Request.ofWords call.words with
  | help => exact .inl (by rw [runOn, run, hwords]; rfl)
  | version => exact .inl (by rw [runOn, run, hwords]; rfl)
  | misuse => exact .inl (by rw [runOn, run, hwords]; rfl)
  | command given command =>
    rw [runOn_of_command hwords]
    cases command with
    | parse query format => exact .inl rfl
    | search query snapshot direct format => exact .inl rfl
    | inspect snapshot format => exact .inl rfl
    | settings create =>
      cases create with
      | false => exact .inl rfl
      | true =>
        cases hgiven : given.elim call.env.settingsPath .ok with
        | error failure => exact .inl rfl
        | ok path =>
          have hasked : call.asked? = some (.settings true, path) := by
            simp [asked?, hwords, hgiven, Except.toOption]
          by_cases habsent : disk.probe path = .absent
          · refine .inr ⟨path, hasked, habsent, ?_⟩
            rw [Command.runOn_create_of_absent habsent]
            rfl
          · exact .inl (Command.runOn_create_of_found habsent)

/-- A run leaves a tree a tree. -/
theorem isTree_runOn (htree : disk.IsTree) (call : Invocation) : (call.runOn disk).2.IsTree := by
  rcases call.runOn_cases disk with hsame | ⟨path, -, -, hsaves⟩
  · rwa [hsame]
  · rw [hsaves]
    exact Settings.isTree_saveOn htree

/-- A run keeps all directories and files as they are. -/
theorem keepsAll_runOn (htree : disk.IsTree) (hforward : call.GoesForward) :
    disk.KeepsAll (call.runOn disk).2 := by
  rcases call.runOn_cases disk with hsame | ⟨path, hasked, habsent, hsaves⟩
  · rw [hsame]
    exact .refl disk
  · rw [hsaves]
    exact Settings.keepsAll_saveOn htree (hforward path hasked) habsent

/-- A run that fails makes directories at most. -/
theorem addsDirectories_of_code_eq_one (h : (call.runOn disk).1.code = 1) :
    disk.AddsDirectories (call.runOn disk).2 := by
  rcases call.runOn_cases disk with hsame | ⟨path, -, -, hsaves⟩
  · rw [hsame]
    exact .refl disk
  · rw [hsaves] at h ⊢
    cases hanswer : (Settings.saveOn disk { path }).1 with
    | ok => exact absurd h (by simp [hanswer, Except.map])
    | error failure => exact Settings.addsDirectories_of_saveOn_error hanswer

/-- A new file is that of the settings which a run was to create, and did. -/
theorem created_of_hasNewFile {location : Location} (htree : disk.IsTree)
    (hforward : call.GoesForward) (hnew : disk.HasNewFile (call.runOn disk).2 location) :
    ∃ path, call.asked? = some (.settings true, path) ∧ (call.runOn disk).1.code = 0 ∧
      disk.probe path = .absent ∧ (call.runOn disk).2.LeadsTo path location ∧
      ∀ other, disk.HasNewFile (call.runOn disk).2 other → other = location := by
  rcases call.runOn_cases disk with hsame | ⟨path, hasked, habsent, hsaves⟩
  · rw [hsame] at hnew
    exact absurd hnew ((Disk.AddsDirectories.refl disk).not_hasNewFile location)
  · rw [hsaves] at hnew ⊢
    cases hanswer : (Settings.saveOn disk { path }).1 with
    | error failure =>
      have hadds := Settings.addsDirectories_of_saveOn_error hanswer
      exact absurd hnew (hadds.not_hasNewFile location)
    | ok =>
      obtain ⟨content, -, hcreates⟩ :=
        Settings.createsFile_saveOn { path } htree (hforward path hasked) habsent hanswer
      obtain ⟨place, hleads, honly⟩ := hcreates.only
      obtain rfl := honly location hnew
      refine ⟨path, hasked, ?_, habsent, hleads, honly⟩
      simp [hanswer, Except.map]

/-- When settings have been created, or were there already, they are found, and they are what was
loaded from their path before. -/
theorem found_of_created (htree : disk.IsTree) (hforward : call.GoesForward)
    (hasked : call.asked? = some (.settings true, path)) (hcode : (call.runOn disk).1.code = 0) :
    (call.runOn disk).2.probe path ≠ .absent ∧
      Settings.loadFrom (call.runOn disk).2 path = Settings.loadFrom disk path := by
  rw [runOn_of_asked hasked] at hcode ⊢
  by_cases habsent : disk.probe path = .absent
  · rw [Command.runOn_create_of_absent habsent] at hcode ⊢
    cases hanswer : (Settings.saveOn disk { path }).1 with
    | error failure => exact absurd hcode (by simp [hanswer, Except.map])
    | ok =>
      obtain ⟨content, htext, hcreates⟩ :=
        Settings.createsFile_saveOn { path } htree (hforward path hasked) habsent hanswer
      have hfound : (Settings.saveOn disk { path }).2.probe path = .text content := hcreates.found
      refine ⟨by simp [hfound], ?_⟩
      -- The text that was written says what a missing file means.
      show Settings.loadFrom (Settings.saveOn disk { path }).2 path = _
      rw [Settings.loadFrom_eq, Settings.loadFrom_eq, hfound, habsent]
      simp only [Settings.ofPresence, Settings.readText?_of_text? htext]
  · have hsame := Command.runOn_create_of_found habsent
    exact ⟨by simpa [hsame] using habsent, by simp [hsame]⟩

end Invocation

/-! ## Many runs -/

/-- The disk after some runs, one after the other. -/
def diskAfter (disk : Disk) : List Invocation → Disk
  | [] => disk
  | call :: calls => diskAfter (call.runOn disk).2 calls

theorem isTree_diskAfter {disk : Disk} (htree : disk.IsTree) (calls : List Invocation) :
    (diskAfter disk calls).IsTree := by
  induction calls generalizing disk with
  | nil => exact htree
  | cons call rest ih => exact ih (Invocation.isTree_runOn htree call)

/-- No number of runs changes or removes what is there. -/
theorem keepsAll_diskAfter {disk : Disk} {calls : List Invocation} (htree : disk.IsTree)
    (hforward : ∀ call ∈ calls, call.GoesForward) : disk.KeepsAll (diskAfter disk calls) := by
  induction calls generalizing disk with
  | nil => exact .refl disk
  | cons call rest ih =>
    obtain ⟨hcall, hrest⟩ := List.forall_mem_cons.1 hforward
    have hone := Invocation.keepsAll_runOn htree hcall
    exact hone.trans (ih (Invocation.isTree_runOn htree call) hrest)

/-- One run among others on a tree: what it keeps, what it can create, what its failure means, and
what later runs make of settings that it has created. -/
theorem runs_keep_files (disk : Disk) (earlier : List Invocation) (call : Invocation)
    (later : List Invocation) (htree : disk.IsTree)
    (hforward : ∀ one ∈ call :: later, one.GoesForward) :
    let now := diskAfter disk earlier
    let outcome := (call.runOn now).1
    let after := (call.runOn now).2
    let final := diskAfter after later
    -- What exists is neither modified nor removed, by this run or by those behind it.
    (∀ location node, now.node? location = some node → final.node? location = some node) ∧
    -- Only settings that are created are a new file, and the only one.
    (∀ location, now.HasNewFile after location →
      ∃ path, call.asked? = some (.settings true, path) ∧ outcome.code = 0 ∧
        now.probe path = .absent ∧ after.LeadsTo path location ∧
        ∀ other, now.HasNewFile after other → other = location) ∧
    -- A failure prints no result and makes directories at most.
    (outcome.code = 1 → outcome.output = "" ∧ now.AddsDirectories after) ∧
    -- Settings that have been created are shown and used as before, and not created again.
    (∀ path, call.asked? = some (.settings true, path) → outcome.code = 0 →
      ∀ next : Invocation,
        (next.asked? = some (.settings false, path) →
          (next.runOn final).1 = (next.runOn now).1) ∧
        (next.asked? = some (.settings true, path) → (next.runOn final).2 = final) ∧
        ∀ query snapshot direct format,
          next.asked? = some (.search query snapshot direct format, path) →
          now.probe snapshot ≠ .absent → (next.runOn final).1 = (next.runOn now).1) := by
  intro now outcome after final
  obtain ⟨hcall, hlater⟩ := List.forall_mem_cons.1 hforward
  have hnow : now.IsTree := isTree_diskAfter htree earlier
  have hkept : now.KeepsAll after := Invocation.keepsAll_runOn hnow hcall
  have hfinal : after.KeepsAll final :=
    keepsAll_diskAfter (Invocation.isTree_runOn hnow call) hlater
  refine ⟨fun location node => (hkept.trans hfinal).kept,
    fun location => Invocation.created_of_hasNewFile hnow hcall, fun hcode =>
      ⟨Invocation.output_of_code_eq_one hcode, Invocation.addsDirectories_of_code_eq_one hcode⟩,
    fun path hasked hcode next => ?_⟩
  obtain ⟨hfound, hloaded⟩ := Invocation.found_of_created hnow hcall hasked hcode
  have hfoundFinal : final.probe path ≠ .absent := by
    rw [hfinal.probe_eq hfound]
    exact hfound
  have hloadedFinal : Settings.loadFrom final path = Settings.loadFrom now path :=
    (Settings.loadFrom_eq_of_keepsAll hfinal hfound).trans hloaded
  refine ⟨fun hnext => ?_, fun hnext => ?_, fun query snapshot direct format hnext hthere => ?_⟩
  · rw [Invocation.runOn_of_asked hnext, Invocation.runOn_of_asked hnext]
    simp only [Command.runOn, Except.bind, hloadedFinal, Prod.map]
  · rw [Invocation.runOn_of_asked hnext]
    exact Command.runOn_create_of_found hfoundFinal
  · have hsnapshot := (hkept.trans hfinal).probe_eq hthere
    rw [Invocation.runOn_of_asked hnext, Invocation.runOn_of_asked hnext]
    simp only [Command.runOn, Except.bind, hloadedFinal, hsnapshot, Prod.map]

/-- A home directory with a snapshot of one item. -/
def homeWithSnapshot : Disk where
  nodes := [("/home", .directory),
    ("/home/bag.toml", .file (some "[[items]]\nname = \"Pine Cone\"\n"))]
  workingDirectory := "/home"

/-- A run with settings in a directory that is not there. -/
def nestedRun (words : List String) : Invocation where
  env := { settingsFile := some "nested/config.toml" }
  words := words

/-- Creating the settings twice makes one new file, and the item is still found. -/
theorem pine_cone_found_after_creation :
    homeWithSnapshot.IsTree ∧ (nestedRun ["config", "--init"]).GoesForward ∧
    homeWithSnapshot.HasNewFile ((nestedRun ["config", "--init"]).runOn homeWithSnapshot).2
      "/home/nested/config.toml" ∧
    ((nestedRun ["match", "pine", "-i", "bag.toml"]).runOn (diskAfter homeWithSnapshot
      [nestedRun ["config", "--init"], nestedRun ["config", "--init"]])).1 =
        { code := 0, output := "#0    Pine Cone\n" } := by
  have htree : homeWithSnapshot.IsTree := .of_nodes rfl (by decide)
  have hasked : (nestedRun ["config", "--init"]).asked? =
      some (.settings true, "nested/config.toml") := by decide +kernel
  have hforward : (nestedRun ["config", "--init"]).GoesForward := by
    intro path hpath
    obtain rfl : "nested/config.toml" = path := by simpa [hasked] using hpath
    decide +kernel
  have hkept := (runs_keep_files homeWithSnapshot [] (nestedRun ["config", "--init"])
    [nestedRun ["config", "--init"]] htree (by simpa using hforward)).2.2.2 _ hasked
      (by decide +kernel) (nestedRun ["match", "pine", "-i", "bag.toml"])
  have hsame := hkept.2.2 "pine" "bag.toml" false "text" (by decide +kernel) (by decide +kernel)
  refine ⟨htree, hforward, ⟨rfl, _, rfl⟩, ?_⟩
  simp only [diskAfter] at hsame ⊢
  rw [hsame]
  decide +kernel

end CommandLine

end InventorySearch
