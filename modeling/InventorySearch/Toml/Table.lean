import InventorySearch.Value

/-!
# TOML tables

A TOML text defines its tables piece by piece, and the rules about which pieces may
follow which are about where a table comes from:

* a `header` table has a section of its own, and no second one;
* an `implied` table has only been passed on the way of a header, and a header of
  its own may still follow;
* a `dotted` table has been made by a key with dots, and only such keys, and headers
  of tables inside it, may reach into it.

A table written as a value is complete.
-/

namespace InventorySearch.Toml

/-- Where a table comes from. -/
inductive Origin where
  /-- From a header of its own. -/
  | header
  /-- From a longer header. -/
  | implied
  /-- From a key with dots. -/
  | dotted
deriving DecidableEq, Repr

/-- What stands under a key of a table that is being built. -/
inductive Node where
  /-- A complete value. -/
  | value (content : Value)
  /-- A table. -/
  | table (origin : Origin) (entries : List (String × Node))
  /-- The tables of a list, each with a header, the latest of which is open. -/
  | tables (closed : List (List (String × Node))) (latest : List (String × Node))

/-- The keys of a table with what stands under them. -/
abbrev Entries := List (String × Node)

namespace Entries

/-- Puts a node under a key, in the place of the old one if there is one. -/
def put (key : String) (node : Node) : Entries → Entries
  | [] => [(key, node)]
  | (first, old) :: entries =>
    if first = key then (key, node) :: entries else (first, old) :: put key node entries

/-- Changes the table at the end of a path.  Tables that are missing on the way are made.  A key
with dots must not pass a header table, and a list of tables stands for its latest one. -/
def changeAt (byDots : Bool) (change : Origin → Entries → Option Entries) :
    List String → Origin → Entries → Option Entries
  | [], origin, entries => change origin entries
  | key :: path, _, entries =>
    match entries.lookup key with
    | none => do
      let origin := if byDots then Origin.dotted else .implied
      let inner ← changeAt byDots change path origin []
      return entries.put key (.table origin inner)
    | some (.value _) => none
    | some (.table origin inner) => do
      guard (!byDots || origin ≠ .header)
      let inner ← changeAt byDots change path origin inner
      return entries.put key (.table origin inner)
    | some (.tables closed latest) => do
      let latest ← changeAt byDots change path .header latest
      return entries.put key (.tables closed latest)

end Entries

/-- A key with dots and the value that is given to it. -/
structure Assignment where
  /-- The keys of the tables on the way. -/
  path : List String
  /-- The last key. -/
  key : String
  /-- The value. -/
  value : Value

/-- Gives a value to a key of a section.  The table that it goes to has to be that of the section or
one made by a key with dots, and the key must be new there. -/
def Entries.assign (entries : Entries) (assignment : Assignment) : Option Entries :=
  Entries.changeAt true
    (fun origin entries =>
      if decide (origin = .dotted) = assignment.path.isEmpty then none
      else if (entries.lookup assignment.key).isSome then none
      else some (entries.put assignment.key (.value assignment.value)))
    assignment.path .header entries

/-- Gives values to the keys of a section, one after the other. -/
def Entries.assignAll (entries : Entries) (assignments : List Assignment) : Option Entries :=
  assignments.foldlM Entries.assign entries

mutual

/-- The value of a node. -/
def Node.toValue : Node → Value
  | .value content => content
  | .table _ entries => .record (Node.toFields entries)
  | .tables closed latest => .list (Node.toRecords closed ++ [.record (Node.toFields latest)])

/-- The fields of the record that some entries make. -/
def Node.toFields : List (String × Node) → List (String × Value)
  | [] => []
  | (key, node) :: entries => (key, node.toValue) :: Node.toFields entries

/-- The records that some tables make. -/
def Node.toRecords : List (List (String × Node)) → List Value
  | [] => []
  | entries :: others => .record (Node.toFields entries) :: Node.toRecords others

end

/-- The kind of a header. -/
inductive HeaderKind where
  /-- The header of a table. -/
  | single
  /-- The header of one more table of a list. -/
  | repeated
deriving DecidableEq, Repr

/-- A header. -/
structure Header where
  /-- Its kind. -/
  kind : HeaderKind
  /-- The keys of the tables on the way. -/
  path : List String
  /-- The last key. -/
  key : String
deriving DecidableEq, Repr

/-- A header with the assignments below it. -/
structure Section where
  /-- The header. -/
  header : Header
  /-- The assignments in order. -/
  assignments : List Assignment

/-- Adds a section to the table that its header's last key belongs to. -/
def Section.addTo (part : Section) (entries : Entries) : Option Entries :=
  let key := part.header.key
  match part.header.kind, entries.lookup key with
  | .single, none => do
    return entries.put key (.table .header (← Entries.assignAll [] part.assignments))
  | .single, some (.table .implied inner) => do
    return entries.put key (.table .header (← Entries.assignAll inner part.assignments))
  | .repeated, none => do
    return entries.put key (.tables [] (← Entries.assignAll [] part.assignments))
  | .repeated, some (.tables closed latest) => do
    let next ← Entries.assignAll [] part.assignments
    return entries.put key (.tables (closed ++ [latest]) next)
  | _, _ => none

/-- Adds a section to a text's outermost table. -/
def Section.place (root : Entries) (part : Section) : Option Entries :=
  Entries.changeAt false (fun _ entries => part.addTo entries) part.header.path .header root

/-- A TOML text by its parts. -/
structure Document where
  /-- The assignments before the first header. -/
  assignments : List Assignment
  /-- The sections in order. -/
  sections : List Section

/-- The record that a text defines, if its parts agree. -/
def Document.toValue? (document : Document) : Option Value := do
  let root ← Entries.assignAll [] document.assignments
  let root ← document.sections.foldlM Section.place root
  return .record (Node.toFields root)

end InventorySearch.Toml
