import InventorySearch.Proofs.DiskChanges
import InventorySearch.Proofs.SettingsText

/-!
# Settings that are saved and loaded again

On a disk, loading settings only looks at what is found at their path (`loadFrom_eq`), and
saving them makes the parents of the path first and then writes the text, if there is one
(`saveOn_eq`).  A save that fails, for whatever reason, leaves every file as it was
(`addsDirectories_of_saveOn_error`).

`saveOn_then_loadFrom` is the law of both: settings that TOML can write are loaded as they
were saved, and others are not saved at all, so that their file and what is loaded from it
stay the same.  The last part needs a file that is not there, or that is found before the
save.  The parents of a path are made first, even if nothing is written then, and a path can
lead somewhere else once they are there (`failed_save_uncovers_file`).
-/

namespace InventorySearch.Settings

/-- What comes of saving settings on a disk, and the disk afterwards. -/
def saveOn (disk : Disk) (settings : Settings) : Except Failure Unit × Disk :=
  (settings.save Disk.access).run disk

/-- What comes of loading the settings at a path of a disk. -/
def loadFrom (disk : Disk) (path : String) : Except Failure Settings :=
  ((load Disk.access path).run disk).1

variable {disk : Disk} {settings : Settings}

/-- A request is carried out before what follows on its answer. -/
theorem run_bind_of_run {α β : Type} {first : StateM Disk α} {next : α → StateM Disk β}
    {after : Disk} {answer : α} (h : first.run disk = (answer, after)) :
    (first >>= next).run disk = (next answer).run after := by
  rw [StateT.run_bind, h]
  rfl

/-! ## Loading -/

/-- The settings at a path, given what is found there. -/
def ofPresence (path : String) : Presence → Except Failure Settings
  | .absent => .ok { path := path }
  | .unreadable fault => .error (.file fault)
  | .text content =>
    match readText? content with
    | some tolerance => .ok { path, tolerance }
    | none => .error .malformedSettings

/-- Loading leaves the disk as it is. -/
theorem load_run (disk : Disk) (path : String) :
    (load Disk.access path).run disk = (ofPresence path (disk.probe path), disk) := by
  have hprobe : (Disk.access.probe path).run disk = (disk.probe path, disk) := rfl
  rw [load, run_bind_of_run hprobe]
  cases disk.probe path with
  | absent => rfl
  | unreadable fault => rfl
  | text content =>
    simp only [ofPresence]
    cases readText? content <;> rfl

/-- Loading depends on nothing but what is found at the path. -/
theorem loadFrom_eq (disk : Disk) (path : String) :
    loadFrom disk path = ofPresence path (disk.probe path) := by
  rw [loadFrom, load_run]

/-! ## Saving -/

/-- What is saved is written when the parents of the path are made, if it can be written. -/
theorem saveOn_eq (disk : Disk) (settings : Settings) : saveOn disk settings =
    match Disk.makeParents settings.path disk with
    | (.error fault, made) => (.error (.file fault), made)
    | (.ok (), made) =>
      match text? settings.tolerance with
      | none => (.error .unwritableSettings, made)
      | some content =>
        ((Disk.write settings.path content made).1.mapError .file,
          (Disk.write settings.path content made).2) := by
  rcases hmade : Disk.makeParents settings.path disk with ⟨answer, made⟩
  have hmake : (Disk.access.makeParents settings.path).run disk = (answer, made) := hmade
  rw [saveOn, save, run_bind_of_run hmake]
  cases answer with
  | error fault => rfl
  | ok =>
    cases text? settings.tolerance with
    | none => rfl
    | some content =>
      rcases hafter : Disk.write settings.path content made with ⟨answer, after⟩
      have hwrite : (Disk.access.write settings.path content).run made = (answer, after) := hafter
      simp only [run_bind_of_run hwrite, hafter]
      cases answer <;> rfl

/-- A save that fails makes directories at most. -/
theorem addsDirectories_of_saveOn_error {failure : Failure}
    (h : (saveOn disk settings).1 = .error failure) :
    disk.AddsDirectories (saveOn disk settings).2 := by
  have hadds := Disk.addsDirectories_makeParents settings.path disk
  rw [saveOn_eq] at h ⊢
  rcases hmade : Disk.makeParents settings.path disk with ⟨fault | _, made⟩
  · rwa [hmade] at hadds
  · rw [hmade] at h hadds
    cases htext : text? settings.tolerance with
    | none => exact hadds
    | some content =>
      simp only [htext] at h ⊢
      cases hwrite : (Disk.write settings.path content made).1 with
      | error fault => rwa [Disk.write_eq_error hwrite]
      | ok => exact absurd h (by simp [hwrite, Except.mapError])

/-- Settings that can be written are saved, and loaded as they were. -/
theorem loadFrom_saveOn {place : Location} {content : String}
    (haccepts : disk.AcceptsFile settings.path place)
    (htext : text? settings.tolerance = some content) :
    (saveOn disk settings).1 = .ok () ∧
      loadFrom (saveOn disk settings).2 settings.path = .ok settings := by
  have hmade : Disk.makeParents settings.path disk =
      (.ok (), (Disk.makeParents settings.path disk).2) := Prod.ext haccepts.parents rfl
  have hwrite := haccepts.writes content
  rw [saveOn_eq, hmade]
  simp only [htext]
  refine ⟨by rw [hwrite]; rfl, ?_⟩
  rw [loadFrom_eq, Disk.probe_write hwrite]
  simp only [ofPresence, readText?_of_text? htext]

/-- Of settings that cannot be written only the parents of their path are made. -/
theorem saveOn_of_text?_eq_none {place : Location}
    (haccepts : disk.AcceptsFile settings.path place) (htext : text? settings.tolerance = none) :
    saveOn disk settings =
      (.error .unwritableSettings, (Disk.makeParents settings.path disk).2) := by
  have hmade : Disk.makeParents settings.path disk =
      (.ok (), (Disk.makeParents settings.path disk).2) := Prod.ext haccepts.parents rfl
  rw [saveOn_eq, hmade]
  simp only [htext]

/-- Settings with two numbers below the 63rd power of two are loaded as they were saved.  If one of
the numbers is greater, saving fails: no file changes, what is at the place of the settings is what
was there, and what is loaded from their path is the same as without the save, whether there was no
file before or one was found. -/
theorem saveOn_then_loadFrom (disk : Disk) (settings : Settings) (place : Location)
    (haccepts : disk.AcceptsFile settings.path place) :
    (settings.tolerance.maxEdits < power 2 63 ∧ settings.tolerance.minTypoLength < power 2 63 →
      (saveOn disk settings).1 = .ok () ∧
      loadFrom (saveOn disk settings).2 settings.path = .ok settings) ∧
    (power 2 63 ≤ settings.tolerance.maxEdits ∨ power 2 63 ≤ settings.tolerance.minTypoLength →
      (saveOn disk settings).1 = .error .unwritableSettings ∧
      (saveOn disk settings).2.node? place = disk.node? place ∧
      (∀ location content, (saveOn disk settings).2.node? location = some (.file content) ↔
        disk.node? location = some (.file content)) ∧
      (disk.node? place = none ∨ disk.probe settings.path ≠ .absent →
        loadFrom (saveOn disk settings).2 settings.path = loadFrom disk settings.path)) := by
  refine ⟨fun hsmall => loadFrom_saveOn haccepts (text?_eq_some_iff.2 ⟨hsmall, rfl⟩),
    fun hgreat => ?_⟩
  have hsaved := saveOn_of_text?_eq_none haccepts (text?_eq_none_iff.2 hgreat)
  have hadds := addsDirectories_of_saveOn_error (congrArg Prod.fst hsaved)
  refine ⟨congrArg Prod.fst hsaved, ?_, fun location content => hadds.file_iff, fun hheld => ?_⟩
  · rw [hsaved]
    exact haccepts.node?_makeParents
  · rw [loadFrom_eq, loadFrom_eq, hsaved, haccepts.probe_makeParents hheld]

/-- A home directory with a file of settings. -/
def homeWithSettings : Disk where
  nodes := [("/home", .directory), ("/home/b", .file (some "[fuzzy]\nmax_edits = 7\n"))]
  workingDirectory := "/home"

/-- A disk with nothing but an empty home directory. -/
def emptyHome : Disk := { nodes := [("/home", .directory)], workingDirectory := "/home" }

/-- Two errors in a new directory are kept; so many that they cannot be written leave the usual
settings. -/
theorem two_edits_are_kept :
    loadFrom (saveOn emptyHome ⟨"nested/config.toml", ⟨2, 5⟩⟩).2 "nested/config.toml" =
      .ok ⟨"nested/config.toml", ⟨2, 5⟩⟩ ∧
    loadFrom (saveOn emptyHome ⟨"nested/config.toml", ⟨power 2 63, 5⟩⟩).2 "nested/config.toml" =
      .ok { path := "nested/config.toml" } := by
  have haccepts : emptyHome.AcceptsFile "nested/config.toml" "/home/nested/config.toml" :=
    ⟨rfl, ⟨"/home/nested", "config.toml", rfl, rfl⟩, fun _ => rfl⟩
  have hkept := (saveOn_then_loadFrom _ ⟨"nested/config.toml", ⟨2, 5⟩⟩ _ haccepts).1
    ⟨by decide, by decide⟩
  have hrefused := (saveOn_then_loadFrom _ ⟨"nested/config.toml", ⟨power 2 63, 5⟩⟩ _ haccepts).2
    (.inl (Nat.le_refl _))
  exact ⟨hkept.2, hrefused.2.2.2 (.inl rfl)⟩

/-- A save that fails can change what is loaded.  There is a file `b` that is not found at `a/../b`
as long as there is no `a`; the save makes `a`, and then the file is found.  At `c/../c` the save
makes a directory of the name that the file should have. -/
theorem failed_save_uncovers_file :
    let hidden : Settings := ⟨"a/../b", ⟨power 2 63, 5⟩⟩
    let blocked : Settings := ⟨"c/../c", ⟨power 2 63, 5⟩⟩
    (homeWithSettings.AcceptsFile "a/../b" "/home/b" ∧
      (saveOn homeWithSettings hidden).1 = .error .unwritableSettings ∧
      loadFrom homeWithSettings "a/../b" = .ok { path := "a/../b" } ∧
      loadFrom (saveOn homeWithSettings hidden).2 "a/../b" = .ok ⟨"a/../b", ⟨7, 5⟩⟩) ∧
    (saveOn emptyHome blocked).1 = .error .unwritableSettings ∧
    loadFrom emptyHome "c/../c" = .ok { path := "c/../c" } ∧
    loadFrom (saveOn emptyHome blocked).2 "c/../c" = .error (.file .isDirectory) := by
  intro hidden blocked
  have haccepts : homeWithSettings.AcceptsFile "a/../b" "/home/b" :=
    ⟨rfl, ⟨"/home", "b", rfl, rfl⟩, fun _ => rfl⟩
  have hgreat : text? ⟨power 2 63, 5⟩ = none := text?_eq_none_iff.2 (.inl (Nat.le_refl _))
  have hrefused : (saveOn homeWithSettings hidden).1 = .error .unwritableSettings :=
    congrArg Prod.fst (saveOn_of_text?_eq_none haccepts hgreat)
  -- What is found after a save is looked up, and a file that is found is read as settings.
  have hfound : loadFrom (saveOn homeWithSettings hidden).2 "a/../b" = .ok ⟨"a/../b", ⟨7, 5⟩⟩ := by
    rw [loadFrom_eq]
    decide +kernel
  have hblocked : (saveOn emptyHome blocked).1 = .error .unwritableSettings := by decide +kernel
  have hdirectory :
      loadFrom (saveOn emptyHome blocked).2 "c/../c" = .error (.file .isDirectory) := by
    rw [loadFrom_eq]
    decide +kernel
  exact ⟨⟨haccepts, hrefused, rfl, hfound⟩, hblocked, rfl, hdirectory⟩

end InventorySearch.Settings
