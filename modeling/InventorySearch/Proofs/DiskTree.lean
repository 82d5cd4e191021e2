import InventorySearch.Proofs.DiskChanges

/-!
# Disks that are trees

The locations of a disk are mere texts, so that a disk may hold a file in a directory that
is not there.  In a file system it cannot: what is at a location lies in a directory
(`IsTree`).  Every request leaves a tree a tree (`IsTree.makeParents`, `IsTree.write`).

In a tree a path without two dots cannot pass through what is missing.  So if nothing is
found at such a path, making the directories on the way to it does not bring anything to
light: the place that the path then leads to is free (`IsTree.node?_eq_none_of_absent`).
With two dots this fails.  Nothing is found at `a/../b` as long as there is no `a`, even if
there is a file `b`.
-/

namespace InventorySearch

/-! ## The parts of a path -/

namespace Path

/-- There is no separator in what stands between separators. -/
theorem not_mem_of_mem_splitOn {separator : Char} {text part : List Char}
    (h : part ∈ splitOn separator text) : separator ∉ part := by
  induction text generalizing part with
  | nil =>
    obtain rfl : part = [] := by simpa [splitOn] using h
    exact List.not_mem_nil
  | cons c rest ih =>
    rw [splitOn] at h
    by_cases hc : c = separator
    · rw [if_pos hc, List.mem_cons] at h
      rcases h with rfl | h
      · exact List.not_mem_nil
      · exact ih h
    · rw [if_neg hc] at h
      cases hrest : splitOn separator rest with
      | nil =>
        obtain rfl : part = [c] := by simpa [hrest] using h
        simpa using Ne.symm hc
      | cons first others =>
        simp only [hrest, List.mem_cons] at h ih
        rcases h with rfl | h
        · simpa [Ne.symm hc] using ih (.inl rfl)
        · exact ih (.inr h)

theorem slash_not_mem_of_mem_rawParts {path part : String} (h : part ∈ rawParts path) :
    '/' ∉ part.toList := by
  obtain ⟨text, htext, rfl⟩ := List.mem_map.1 h
  simpa using not_mem_of_mem_splitOn htext

/-- The last step of a path takes its names from the parts of the path. -/
theorem mem_of_lastStep?_eq_some {written : List String} {step : LastStep}
    (h : lastStep? written = some step) :
    step.name ∈ written ∧ ∀ part ∈ step.directory, part ∈ written := by
  rw [lastStep?] at h
  -- Behind the last step stand only empty parts.
  have hsub : ∀ part ∈ written.reverse.dropWhile (· = ""), part ∈ written := fun part hpart =>
    List.mem_reverse.1 ((List.dropWhile_sublist _).subset hpart)
  cases hsteps : written.reverse.dropWhile (· = "") with
  | nil => simp [hsteps] at h
  | cons name earlier =>
    rw [hsteps] at hsub
    by_cases hdots : name = "." ∨ name = ".."
    · simp [hsteps, hdots] at h
    · simp only [hsteps, Bool.or_eq_true, decide_eq_true_eq, if_neg hdots, Option.some.injEq] at h
      subst h
      refine ⟨hsub name List.mem_cons_self, fun part hpart => ?_⟩
      exact hsub part (List.mem_cons_of_mem name (List.mem_reverse.1 hpart))

end Path

namespace Disk

variable {disk later : Disk} {location directory start : Location} {name path : String}
  {parts : List String} {slash : Bool}

/-- What is around the location of a name in a directory is that directory. -/
theorem around_inside (directory : Location) (h : '/' ∉ name.toList) :
    around (inside directory name) = directory := by
  have hname : ∀ c ∈ name.toList.reverse, decide (c ≠ '/') = true := by
    intro c hc
    have hne : c ≠ '/' := fun heq => h (heq ▸ List.mem_reverse.1 hc)
    exact decide_eq_true hne
  have hreverse : (inside directory name).toList.reverse =
      name.toList.reverse ++ '/' :: directory.toList.reverse := by
    simp [inside]
  rw [around, hreverse, List.dropWhile_append_of_pos hname]
  simp

/-- A path leads to a name if its last step is that name and the parts before it lead to the
directory. -/
theorem target_eq_name_iff {written : List String} :
    disk.target start written = .ok (.name directory name slash) ↔
      ∃ steps, Path.lastStep? written = some ⟨steps, name, slash⟩ ∧
        disk.follow start steps = .ok directory := by
  rw [Disk.target]
  cases hstep : Path.lastStep? written with
  | none => cases hfollow : disk.follow start written <;> simp [Except.map]
  | some step =>
    obtain ⟨steps, last, ended⟩ := step
    cases hfollow : disk.follow start steps with
    | error fault => simp [hfollow, Except.map]
    | ok reached =>
      simp only [hfollow, Except.map, Except.ok.injEq, Target.name.injEq, Option.some.injEq,
        Path.LastStep.mk.injEq]
      constructor
      · rintro ⟨rfl, rfl, rfl⟩
        exact ⟨steps, ⟨rfl, rfl, rfl⟩, hfollow⟩
      · rintro ⟨others, ⟨rfl, rfl, rfl⟩, hothers⟩
        exact ⟨Except.ok.inj (hfollow.symm.trans hothers), rfl, rfl⟩

/-! ## Trees -/

/-- Everything on a disk lies in a directory, and work starts in one. -/
structure IsTree (disk : Disk) : Prop where
  workingDirectory : disk.node? disk.workingDirectory = some .directory
  around : ∀ {location node}, disk.node? location = some node →
    disk.node? (Disk.around location) = some .directory

namespace IsTree

/-- It is enough to look at what is listed. -/
theorem of_nodes (hworking : disk.node? disk.workingDirectory = some .directory)
    (hnodes : ∀ entry ∈ disk.nodes, disk.node? (Disk.around entry.1) = some .directory) :
    disk.IsTree where
  workingDirectory := hworking
  around {location node} hnode := by
    by_cases hroot : location = ""
    · rw [hroot]
      exact node?_root disk
    · have hlookup : disk.nodes.lookup location = some node := by
        simpa [node?, hroot] using hnode
      obtain ⟨earlier, later, hlist, -⟩ := List.lookup_eq_some_iff.1 hlookup
      exact hnodes (location, node) (by simp [hlist])

/-- Something can be put into a directory if it replaces no directory. -/
theorem put (h : disk.IsTree) (hplace : disk.node? location ≠ some .directory)
    (haround : disk.node? (Disk.around location) = some .directory) (node : DiskNode) :
    (disk.put location node).IsTree where
  workingDirectory := (KeepsDirectories.put hplace node).directory h.workingDirectory
  around {other found} hfound := by
    apply (KeepsDirectories.put hplace node).directory
    by_cases heq : other = location
    · rw [heq]
      exact haround
    · rw [node?_put_of_ne disk heq] at hfound
      exact h.around hfound

/-- Something can be put under a name into a directory if it replaces no directory. -/
theorem put_inside (h : disk.IsTree) (hdirectory : disk.node? directory = some .directory)
    (hname : '/' ∉ name.toList) (hplace : disk.node? (inside directory name) ≠ some .directory)
    (node : DiskNode) : (disk.put (inside directory name) node).IsTree := by
  refine h.put hplace ?_ node
  rw [around_inside directory hname]
  exact hdirectory

variable (h : disk.IsTree)
include h

/-- What has a name in a directory shows that the directory is there. -/
theorem directory_of_inside {node : DiskNode} (hname : '/' ∉ name.toList)
    (hnode : disk.node? (inside directory name) = some node) :
    disk.node? directory = some .directory := by
  rw [← around_inside directory hname]
  exact h.around hnode

theorem origin (path : String) : disk.node? (disk.origin path) = some .directory := by
  rw [Disk.origin]
  split
  · exact node?_root disk
  · exact h.workingDirectory

/-! ## Where paths lead in a tree -/

theorem follow (hstart : disk.node? start = some .directory)
    (hfollow : disk.follow start parts = .ok location) :
    disk.node? location = some .directory := by
  induction parts generalizing start with
  | nil =>
    obtain rfl := Except.ok.inj hfollow
    exact hstart
  | cons part rest ih =>
    rw [Disk.follow] at hfollow
    split at hfollow
    · exact ih hstart hfollow
    split at hfollow
    · exact ih (h.around hstart) hfollow
    split at hfollow
    · next henter =>
      obtain ⟨hentry, rfl⟩ := enter_eq_ok_iff.1 henter
      exact ih (entry_eq_ok_iff.1 hentry).2 hfollow
    · exact absurd hfollow (by simp)

/-- A path that leads to a name leads into a directory that is there. -/
theorem directory_of_resolve (hresolve : disk.resolve path = .ok (.name directory name slash)) :
    disk.node? directory = some .directory ∧ '/' ∉ name.toList := by
  obtain ⟨steps, hstep, hfollow⟩ := target_eq_name_iff.1 (resolve_eq_ok_iff.1 hresolve).2
  exact ⟨h.follow (h.origin path) hfollow,
    Path.slash_not_mem_of_mem_rawParts (Path.mem_of_lastStep?_eq_some hstep).1⟩

/-! ## Requests to a tree -/

theorem makeDirectory {made : Disk} (hmade : disk.makeDirectory path = .ok made) :
    made.IsTree := by
  rw [Disk.makeDirectory] at hmade
  split at hmade
  · obtain rfl := Except.ok.inj hmade
    exact h
  · next directory name slash hresolve =>
    split at hmade
    · obtain rfl := Except.ok.inj hmade
      exact h
    · exact absurd hmade (by simp)
    · next hentry =>
      obtain rfl := Except.ok.inj hmade
      obtain ⟨hdirectory, hname⟩ := h.directory_of_resolve hresolve
      have hfree := (entry_eq_ok_iff.1 hentry).2
      exact h.put_inside hdirectory hname (by simp [hfree]) .directory
    · exact absurd hmade (by simp)
  · exact absurd hmade (by simp)

/-- Each directory on the way is made in one that is there already. -/
theorem makeAlong (hstart : disk.node? start = some .directory)
    (hparts : ∀ part ∈ parts, '/' ∉ part.toList) : (Disk.makeAlong start parts disk).2.IsTree := by
  induction parts generalizing start disk with
  | nil => exact h
  | cons part rest ih =>
    obtain ⟨hpart, hrest⟩ := List.forall_mem_cons.1 hparts
    rw [Disk.makeAlong]
    split
    · exact ih h hstart hrest
    split
    · exact ih h (h.around hstart) hrest
    split
    · next hentry => exact ih h (entry_eq_ok_iff.1 hentry).2 hrest
    · exact h
    · next hentry =>
      have hfree := (entry_eq_ok_iff.1 hentry).2
      exact ih (h.put_inside hstart hpart (by simp [hfree]) .directory)
        (node?_put_self disk (inside_ne_root start part) .directory) hrest
    · exact h

theorem makeDirectories (path : String) : (Disk.makeDirectories path disk).2.IsTree := by
  rw [Disk.makeDirectories]
  split
  · next hmade => exact h.makeDirectory hmade
  · exact h.makeAlong (h.origin path) fun part => Path.slash_not_mem_of_mem_rawParts
  · exact h

theorem makeParents (path : String) : (Disk.makeParents path disk).2.IsTree := by
  rw [Disk.makeParents]
  split
  · exact h.makeDirectories _
  · exact h

theorem write (path content : String) : (Disk.write path content disk).2.IsTree := by
  cases hanswer : (Disk.write path content disk).1 with
  | error fault => rwa [write_eq_error hanswer]
  | ok =>
    obtain ⟨directory, name, hresolve, -, hplace, hafter⟩ := write_eq_ok hanswer
    obtain ⟨hdirectory, hname⟩ := h.directory_of_resolve hresolve
    rw [hafter]
    exact h.put_inside hdirectory hname hplace _

/-! ## Places that are free -/

/-- Parts without two dots that lead to a directory of a tree, if only on another disk, lead there
in the tree as well: the directories on the way are around it. -/
theorem follow_eq_of_forward (hnames : ∀ part ∈ parts, '/' ∉ part.toList)
    (hforward : ".." ∉ parts) (hfollow : later.follow start parts = .ok location)
    (hlocation : disk.node? location = some .directory) :
    disk.node? start = some .directory ∧ disk.follow start parts = .ok location := by
  induction parts generalizing start with
  | nil =>
    obtain rfl := Except.ok.inj hfollow
    exact ⟨hlocation, rfl⟩
  | cons part rest ih =>
    obtain ⟨hpart, hrest⟩ := List.forall_mem_cons.1 hnames
    obtain ⟨hback, hforward⟩ := not_or.1 (mt List.mem_cons.2 hforward)
    rw [Disk.follow] at hfollow ⊢
    by_cases hidle : Path.isIdle part
    · rw [if_pos hidle] at hfollow ⊢
      exact ih hrest hforward hfollow
    rw [if_neg hidle, if_neg (Ne.symm hback)] at hfollow ⊢
    cases henter : later.enter start part with
    | error fault => simp [henter] at hfollow
    | ok inner =>
      simp only [henter] at hfollow
      obtain ⟨hentry, rfl⟩ := enter_eq_ok_iff.1 henter
      obtain ⟨hinner, hreached⟩ := ih hrest hforward hfollow
      -- The name is short enough, for the other disk has looked it up.
      have hhere : disk.enter start part = .ok (inside start part) :=
        enter_eq_ok_iff.2 ⟨entry_eq_ok_iff.2 ⟨(entry_eq_ok_iff.1 hentry).1, hinner⟩, rfl⟩
      rw [hhere]
      exact ⟨h.directory_of_inside hpart hinner, hreached⟩

/-- A path without two dots that leads, on a later disk, to the name of something that is in the
tree leads there in the tree as well. -/
theorem resolve_eq_of_forward {node : DiskNode}
    (hworking : later.workingDirectory = disk.workingDirectory)
    (hforward : ".." ∉ Path.rawParts path)
    (hresolve : later.resolve path = .ok (.name directory name slash))
    (hnode : disk.node? (inside directory name) = some node) :
    disk.resolve path = .ok (.name directory name slash) := by
  rw [resolve_eq_ok_iff] at hresolve ⊢
  refine ⟨hresolve.1, ?_⟩
  have horigin : later.origin path = disk.origin path := by rw [Disk.origin, Disk.origin, hworking]
  obtain ⟨steps, hstep, hfollow⟩ := target_eq_name_iff.1 hresolve.2
  obtain ⟨hlast, hsteps⟩ := Path.mem_of_lastStep?_eq_some hstep
  rw [horigin] at hfollow
  have hdirectory : disk.node? directory = some .directory :=
    h.directory_of_inside (Path.slash_not_mem_of_mem_rawParts hlast) hnode
  have hnames : ∀ part ∈ steps, '/' ∉ part.toList := fun part hpart =>
    Path.slash_not_mem_of_mem_rawParts (hsteps part hpart)
  have hhere := h.follow_eq_of_forward hnames (fun hback => hforward (hsteps _ hback)) hfollow
    hdirectory
  exact target_eq_name_iff.2 ⟨steps, hstep, hhere.2⟩

/-- If nothing is found at a path without two dots, then nothing is at the place that the path leads
to on a later disk. -/
theorem node?_eq_none_of_absent (hworking : later.workingDirectory = disk.workingDirectory)
    (hforward : ".." ∉ Path.rawParts path) (habsent : disk.probe path = .absent)
    (hresolve : later.resolve path = .ok (.name directory name false))
    (hlength : name.utf8ByteSize ≤ nameLimit) : disk.node? (inside directory name) = none := by
  cases hnode : disk.node? (inside directory name) with
  | none => rfl
  | some node =>
    have hhere := h.resolve_eq_of_forward hworking hforward hresolve hnode
    rw [probe, hhere] at habsent
    simp only [entry_eq_ok_iff.2 ⟨hlength, hnode⟩] at habsent
    cases node with
    | directory => exact absurd habsent (by simp)
    | file content => cases content <;> simp [presenceOf] at habsent

end IsTree

/-! ## New files -/

/-- There is a file at a location of a later disk where nothing was before. -/
def HasNewFile (before after : Disk) (location : Location) : Prop :=
  before.node? location = none ∧ ∃ content, after.node? location = some (.file content)

/-- A path leads to the name of what is at a location. -/
def LeadsTo (disk : Disk) (path : String) (location : Location) : Prop :=
  ∃ directory name, disk.resolve path = .ok (.name directory name false) ∧
    inside directory name = location

/-- A later disk has everything that was there and, as the only new file, one with the given text,
which the path leads to. -/
structure CreatesFile (before after : Disk) (path content : String) : Prop where
  keepsAll : KeepsAll before after
  found : after.probe path = .text content
  only : ∃ location, after.LeadsTo path location ∧
    ∀ other, before.HasNewFile after other → other = location

/-- Nothing but directories is new: no file is. -/
theorem AddsDirectories.not_hasNewFile {before after : Disk} (h : AddsDirectories before after)
    (location : Location) : ¬ before.HasNewFile after location := by
  rintro ⟨hfree, content, hfile⟩
  exact absurd (hfree.symm.trans (h.file_iff.1 hfile)) (by simp)

/-- In a tree, what is written to a path without two dots at which nothing is found replaces
nothing. -/
theorem IsTree.createsFile_write (h : disk.IsTree) (content : String)
    (hforward : ".." ∉ Path.rawParts path) (habsent : disk.probe path = .absent)
    (hwrite : (Disk.write path content (Disk.makeParents path disk).2).1 = .ok ()) :
    disk.CreatesFile (Disk.write path content (Disk.makeParents path disk).2).2 path content := by
  have hadds := addsDirectories_makeParents path disk
  obtain ⟨directory, name, hresolve, hlength, hplace, hafter⟩ := write_eq_ok hwrite
  have hfree := h.node?_eq_none_of_absent hadds.workingDirectory hforward habsent hresolve hlength
  have hmade : (Disk.makeParents path disk).2.node? (inside directory name) = none :=
    (hadds.added hfree).resolve_right hplace
  refine ⟨?_, probe_write hwrite, inside directory name, ?_, ?_⟩
  · rw [hafter]
    exact hadds.keepsAll.trans (.put hmade _)
  · rw [hafter]
    exact ⟨directory, name, (KeepsDirectories.put hplace _).resolve_eq hresolve, rfl⟩
  · rintro other ⟨hnone, written, hfile⟩
    by_cases heq : other = inside directory name
    · exact heq
    · rw [hafter, node?_put_of_ne _ heq] at hfile
      exact absurd ⟨hnone, written, hfile⟩ (hadds.not_hasNewFile other)

end Disk

end InventorySearch
