import InventorySearch.Files.Disk

/-!
# What requests change on a disk

A request to a disk changes little.  Three relations between a disk and a later one say how
little, each of them implying the one before it:

* `KeepsDirectories`: every directory is still one.  Then a path that led somewhere still
  leads there (`KeepsDirectories.resolve_eq`).
* `KeepsAll`: every directory and every file is as it was.  Then whatever was found at a
  path is still found there (`KeepsAll.probe_eq`).
* `AddsDirectories`: nothing is lost, and what is new is a directory.  Making the parents
  of a path changes no more than that, whether it succeeds or not
  (`addsDirectories_makeParents`).

`write_eq_ok` says what an accepted write does, and `probe_write` that its text is found at
its path afterwards.
-/

namespace InventorySearch.Disk

variable {disk before after : Disk} {location other : Location} {node : DiskNode}

/-! ## What is at a location -/

theorem inside_ne_root (directory : Location) (name : String) : inside directory name ≠ "" := by
  intro h
  have htext := congrArg String.toList h
  simp [inside] at htext

theorem lookup_putNode_self (location : Location) (node : DiskNode)
    (nodes : List (Location × DiskNode)) :
    (putNode location node nodes).lookup location = some node := by
  induction nodes with
  | nil => simp [putNode]
  | cons entry nodes ih =>
    obtain ⟨first, old⟩ := entry
    by_cases heq : first = location
    · simp [putNode, heq]
    · have hne : (location == first) = false := beq_eq_false_iff_ne.2 (Ne.symm heq)
      simp [putNode, heq, List.lookup_cons, hne, ih]

theorem lookup_putNode_of_ne (h : other ≠ location) (node : DiskNode)
    (nodes : List (Location × DiskNode)) :
    (putNode location node nodes).lookup other = nodes.lookup other := by
  have hne : (other == location) = false := beq_eq_false_iff_ne.2 h
  induction nodes with
  | nil => simp [putNode, List.lookup_cons, hne]
  | cons entry nodes ih =>
    obtain ⟨first, old⟩ := entry
    by_cases heq : first = location
    · simp [putNode, heq, List.lookup_cons, hne]
    · simp [putNode, heq, List.lookup_cons, ih]

@[simp]
theorem node?_root (disk : Disk) : disk.node? "" = some .directory := by
  simp [node?]

theorem node?_put_self (disk : Disk) (h : location ≠ "") (node : DiskNode) :
    (disk.put location node).node? location = some node := by
  simp [node?, put, h, lookup_putNode_self]

theorem node?_put_of_ne (disk : Disk) (h : other ≠ location) (node : DiskNode) :
    (disk.put location node).node? other = disk.node? other := by
  simp [node?, put, lookup_putNode_of_ne h]

/-! ## Where names and paths lead -/

theorem entry_eq_ok_iff {directory : Location} {name : String} {found : Option DiskNode} :
    disk.entry directory name = .ok found ↔
      name.utf8ByteSize ≤ nameLimit ∧ disk.node? (inside directory name) = found := by
  rw [entry]
  split
  · simp; omega
  · simp; omega

theorem enter_eq_ok_iff {directory : Location} {name : String} :
    disk.enter directory name = .ok location ↔
      disk.entry directory name = .ok (some .directory) ∧ inside directory name = location := by
  rw [enter]
  split <;> simp_all

theorem resolve_eq_ok_iff {path : String} {target : Target} :
    disk.resolve path = .ok target ↔
      (path.toList.contains '\x00' = false ∧ path.isEmpty = false ∧
        path.utf8ByteSize ≤ pathLimit) ∧
      disk.target (disk.origin path) (Path.rawParts path) = .ok target := by
  unfold resolve
  split
  · next hzero => simp_all
  split
  · next hempty => simp_all
  split
  · next hlong => simp [Nat.not_le.2 hlong]
  · next hshort => simp_all [Nat.not_lt.1 hshort]

/-! ## Directories that stay -/

/-- Every directory of a disk is a directory of a later one. -/
structure KeepsDirectories (before after : Disk) : Prop where
  workingDirectory : after.workingDirectory = before.workingDirectory
  directory : ∀ {location}, before.node? location = some .directory →
    after.node? location = some .directory

theorem KeepsDirectories.put (h : disk.node? location ≠ some .directory) (node : DiskNode) :
    KeepsDirectories disk (disk.put location node) where
  workingDirectory := rfl
  directory {other} hother := by
    have hne : other ≠ location := by
      rintro rfl
      exact h hother
    rw [node?_put_of_ne disk hne, hother]

namespace KeepsDirectories

variable (h : KeepsDirectories before after)
include h

theorem enter_eq {directory : Location} {name : String}
    (henter : before.enter directory name = .ok location) :
    after.enter directory name = .ok location := by
  rw [enter_eq_ok_iff, entry_eq_ok_iff] at henter ⊢
  obtain ⟨⟨hlength, hnode⟩, heq⟩ := henter
  exact ⟨⟨hlength, h.directory hnode⟩, heq⟩

/-- Parts that could be followed lead to the same directory. -/
theorem follow_eq {parts : List String} {directory : Location}
    (hfollow : before.follow directory parts = .ok location) :
    after.follow directory parts = .ok location := by
  induction parts generalizing directory with
  | nil => exact hfollow
  | cons part rest ih =>
    rw [follow] at hfollow ⊢
    -- Only a name asks the disk for something, and it asks for a directory.
    by_cases hidle : Path.isIdle part
    · rw [if_pos hidle] at hfollow ⊢
      exact ih hfollow
    rw [if_neg hidle] at hfollow ⊢
    by_cases hback : part = ".."
    · rw [if_pos hback] at hfollow ⊢
      exact ih hfollow
    rw [if_neg hback] at hfollow ⊢
    cases henter : before.enter directory part with
    | error fault => simp [henter] at hfollow
    | ok inner =>
      simp only [henter] at hfollow
      rw [h.enter_eq henter]
      exact ih hfollow

theorem target_eq {start : Location} {written : List String} {target : Target}
    (htarget : before.target start written = .ok target) :
    after.target start written = .ok target := by
  have hmap : ∀ {parts : List String} {toTarget : Location → Target},
      (before.follow start parts).map toTarget = .ok target →
        (after.follow start parts).map toTarget = .ok target := by
    intro parts toTarget hmap
    cases hfollow : before.follow start parts with
    | error fault => simp [hfollow, Except.map] at hmap
    | ok location => rwa [h.follow_eq hfollow, ← hfollow]
  unfold Disk.target at htarget ⊢
  split at htarget
  · exact hmap htarget
  · exact hmap htarget

/-- A path that led somewhere still leads there. -/
theorem resolve_eq {path : String} {target : Target} (hresolve : before.resolve path = .ok target) :
    after.resolve path = .ok target := by
  rw [resolve_eq_ok_iff] at hresolve ⊢
  rw [origin, h.workingDirectory]
  exact ⟨hresolve.1, h.target_eq hresolve.2⟩

end KeepsDirectories

/-! ## Directories and files that stay -/

/-- Every directory and every file of a disk is in a later one as it was. -/
structure KeepsAll (before after : Disk) : Prop where
  workingDirectory : after.workingDirectory = before.workingDirectory
  kept : ∀ {location node}, before.node? location = some node → after.node? location = some node

namespace KeepsAll

theorem refl (disk : Disk) : KeepsAll disk disk := ⟨rfl, id⟩

theorem trans {between : Disk} (h : KeepsAll before between) (h' : KeepsAll between after) :
    KeepsAll before after where
  workingDirectory := h'.workingDirectory.trans h.workingDirectory
  kept hnode := h'.kept (h.kept hnode)

/-- Putting something where nothing is. -/
theorem put (h : disk.node? location = none) (node : DiskNode) :
    KeepsAll disk (disk.put location node) where
  workingDirectory := rfl
  kept {other old} hnode := by
    have hne : other ≠ location := by
      rintro rfl
      exact absurd (h.symm.trans hnode) (by simp)
    rw [node?_put_of_ne disk hne, hnode]

variable (h : KeepsAll before after)
include h

theorem keepsDirectories : KeepsDirectories before after := ⟨h.workingDirectory, h.kept⟩

/-- What was found at a path is still found there. -/
theorem probe_eq {path : String} (hfound : before.probe path ≠ .absent) :
    after.probe path = before.probe path := by
  rw [probe] at hfound ⊢
  rw [probe]
  cases hresolve : before.resolve path with
  | error fault => exact absurd (by rw [hresolve]) hfound
  | ok target =>
    rw [h.keepsDirectories.resolve_eq hresolve]
    cases target with
    | directory location => rfl
    | name directory name slash =>
      simp only [hresolve] at hfound ⊢
      cases hentry : before.entry directory name with
      | error fault => exact absurd (by rw [hentry]) hfound
      | ok found =>
        cases found with
        | none => exact absurd (by rw [hentry]) hfound
        | some node =>
          obtain ⟨hlength, hnode⟩ := entry_eq_ok_iff.1 hentry
          rw [entry_eq_ok_iff.2 ⟨hlength, h.kept hnode⟩]

end KeepsAll

/-! ## Directories that are new -/

/-- Nothing of a disk is lost in a later one, and what is new there is a directory. -/
structure AddsDirectories (before after : Disk) : Prop where
  workingDirectory : after.workingDirectory = before.workingDirectory
  kept : ∀ {location node}, before.node? location = some node → after.node? location = some node
  added : ∀ {location}, before.node? location = none →
    after.node? location = none ∨ after.node? location = some .directory

namespace AddsDirectories

theorem refl (disk : Disk) : AddsDirectories disk disk := ⟨rfl, id, .inl⟩

theorem trans {between : Disk} (h : AddsDirectories before between)
    (h' : AddsDirectories between after) : AddsDirectories before after where
  workingDirectory := h'.workingDirectory.trans h.workingDirectory
  kept hnode := h'.kept (h.kept hnode)
  added hfree := by
    rcases h.added hfree with hfree | hnode
    · exact h'.added hfree
    · exact .inr (h'.kept hnode)

/-- Making a directory where nothing is. -/
theorem put (h : disk.node? location = none) :
    AddsDirectories disk (disk.put location .directory) where
  workingDirectory := rfl
  kept := (KeepsAll.put h .directory).kept
  added {other} hfree := by
    by_cases heq : other = location
    · have hroot : location ≠ "" := by
        rintro rfl
        exact absurd (h.symm.trans (node?_root disk)) (by simp)
      rw [heq, node?_put_self disk hroot]
      exact .inr rfl
    · rw [node?_put_of_ne disk heq]
      exact .inl hfree

variable (h : AddsDirectories before after)
include h

theorem keepsAll : KeepsAll before after := ⟨h.workingDirectory, h.kept⟩

/-- The files are the same, and so are their contents. -/
theorem file_iff {content : Option String} :
    after.node? location = some (.file content) ↔ before.node? location = some (.file content) := by
  refine ⟨fun hfile => ?_, h.kept⟩
  cases hbefore : before.node? location with
  | some node => rw [← hfile, h.kept hbefore]
  | none =>
    rcases h.added hbefore with hfree | hdirectory
    · exact absurd (hfree.symm.trans hfile) (by simp)
    · exact absurd (hdirectory.symm.trans hfile) (by simp)

end AddsDirectories

theorem addsDirectories_makeDirectory {path : String} {made : Disk}
    (h : disk.makeDirectory path = .ok made) : AddsDirectories disk made := by
  rw [makeDirectory] at h
  split at h
  · obtain rfl := Except.ok.inj h
    exact .refl disk
  · split at h
    · obtain rfl := Except.ok.inj h
      exact .refl disk
    · exact absurd h (by simp)
    · next hentry =>
      obtain rfl := Except.ok.inj h
      exact .put (entry_eq_ok_iff.1 hentry).2
    · exact absurd h (by simp)
  · exact absurd h (by simp)

/-- What is made along the parts of a path stays a row of directories, however far it goes. -/
theorem addsDirectories_makeAlong (parts : List String) (directory : Location) (disk : Disk) :
    AddsDirectories disk (makeAlong directory parts disk).2 := by
  induction parts generalizing directory disk with
  | nil => exact .refl disk
  | cons part rest ih =>
    rw [makeAlong]
    split
    · exact ih directory disk
    split
    · exact ih (around directory) disk
    split
    · exact ih (inside directory part) disk
    · exact .refl disk
    · next hentry => exact .trans (.put (entry_eq_ok_iff.1 hentry).2) (ih _ _)
    · exact .refl disk

theorem addsDirectories_makeDirectories (path : String) (disk : Disk) :
    AddsDirectories disk (makeDirectories path disk).2 := by
  rw [makeDirectories]
  split
  · next hmade => exact addsDirectories_makeDirectory hmade
  · exact addsDirectories_makeAlong _ _ disk
  · exact .refl disk

/-- Making the parents of a path adds directories and changes nothing else. -/
theorem addsDirectories_makeParents (path : String) (disk : Disk) :
    AddsDirectories disk (makeParents path disk).2 := by
  rw [makeParents]
  split
  · exact addsDirectories_makeDirectories _ disk
  · exact .refl disk

/-! ## Files that are written -/

/-- A write that is accepted goes to a name that is not too long and not that of a directory, and
puts its text there. -/
theorem write_eq_ok {path content : String} (h : (write path content disk).1 = .ok ()) :
    ∃ directory name, disk.resolve path = .ok (.name directory name false) ∧
      name.utf8ByteSize ≤ nameLimit ∧
      disk.node? (inside directory name) ≠ some .directory ∧
      (write path content disk).2 = disk.put (inside directory name) (.file (some content)) := by
  unfold write writeFile at h ⊢
  split at h
  · exact absurd h (by simp)
  · exact absurd h (by simp)
  · next directory name hresolve =>
    cases hentry : disk.entry directory name with
    | error fault => simp [hentry] at h
    | ok found =>
      obtain ⟨hlength, hnode⟩ := entry_eq_ok_iff.1 hentry
      have hne : found ≠ some .directory := by
        rintro rfl
        simp [hentry] at h
      refine ⟨directory, name, hresolve, hlength, hnode ▸ hne, ?_⟩
      -- `hne` leaves only the branch that writes
      simp only
  · exact absurd h (by simp)

/-- A write that is refused changes nothing. -/
theorem write_eq_error {path content : String} {fault : FileFault}
    (h : (write path content disk).1 = .error fault) : (write path content disk).2 = disk := by
  unfold write writeFile at h ⊢
  split at h
  · rfl
  · rfl
  · split at h
    · rfl
    · exact absurd h (by simp)
    · rfl
  · rfl

/-- What is written to a path is found there. -/
theorem probe_write {path content : String} (h : (write path content disk).1 = .ok ()) :
    (write path content disk).2.probe path = .text content := by
  obtain ⟨directory, name, hresolve, hlength, hnode, hafter⟩ := write_eq_ok h
  have hkeeps := KeepsDirectories.put hnode (.file (some content))
  have hentry : (disk.put (inside directory name) (.file (some content))).entry directory name =
      .ok (some (.file (some content))) :=
    entry_eq_ok_iff.2 ⟨hlength, node?_put_self disk (inside_ne_root directory name) _⟩
  rw [hafter, probe, hkeeps.resolve_eq hresolve]
  simp only [hentry]
  rfl

/-! ## Paths where files can be saved -/

/-- A path at which a disk lets a file be saved: the directories on the way are there or can be
made, the path then leads to a name, at the given place, and a text can be written there. -/
structure AcceptsFile (disk : Disk) (path : String) (place : Location) : Prop where
  parents : (makeParents path disk).1 = .ok ()
  leads : ∃ directory name,
    (makeParents path disk).2.resolve path = .ok (.name directory name false) ∧
      inside directory name = place
  writes : ∀ content, (write path content (makeParents path disk).2).1 = .ok ()

namespace AcceptsFile

variable {path : String} {place : Location} (h : disk.AcceptsFile path place)
include h

/-- With the parents of the path made, its place is what it was: none of them is made there. -/
theorem node?_makeParents : (makeParents path disk).2.node? place = disk.node? place := by
  have hadds := addsDirectories_makeParents path disk
  cases hnode : disk.node? place with
  | some node => exact hadds.kept hnode
  | none =>
    rcases hadds.added hnode with hfree | hdirectory
    · exact hfree
    · obtain ⟨directory, name, hleads, rfl⟩ := h.leads
      obtain ⟨directory', name', hleads', -, hnot, -⟩ := write_eq_ok (h.writes "")
      obtain ⟨rfl, rfl⟩ : directory = directory' ∧ name = name' := by
        simpa [hleads] using hleads'
      exact absurd hdirectory hnot

/-- With the parents of the path made, what is found there is the same, if there was nothing at the
place or something was found.  A path of which neither holds, such as `a/../b` where there is `b`
but no `a`, only leads to a file once its parents are made. -/
theorem probe_makeParents (hheld : disk.node? place = none ∨ disk.probe path ≠ .absent) :
    (makeParents path disk).2.probe path = disk.probe path := by
  have hadds := addsDirectories_makeParents path disk
  by_cases hfound : disk.probe path = .absent
  · have hfree := hheld.resolve_right (not_not_intro hfound)
    obtain ⟨directory, name, hleads, rfl⟩ := h.leads
    rw [hfound, probe, hleads]
    have hentry := h.node?_makeParents.trans hfree
    cases hafter : (makeParents path disk).2.entry directory name with
    | error fault => simp [hafter]
    | ok found =>
      obtain rfl := (entry_eq_ok_iff.1 hafter).2.symm.trans hentry
      simp [hafter]
  · exact hadds.keepsAll.probe_eq hfound

end AcceptsFile

end InventorySearch.Disk
