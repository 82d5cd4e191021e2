/-!
# Paths

Paths of files as texts whose parts are separated by slashes.  A path that starts
with a slash starts at the root, and every other one at the working directory.
-/

namespace InventorySearch.Path

/-- Whether a path starts at the root. -/
def isAbsolute (path : String) : Bool := path.toList.head? = some '/'

/-- The texts between slashes, which are empty between neighbouring slashes. -/
def splitOn (separator : Char) : List Char → List (List Char)
  | [] => [[]]
  | c :: rest =>
    if c = separator then [] :: splitOn separator rest
    else
      match splitOn separator rest with
      | [] => [[c]]
      | part :: parts => (c :: part) :: parts

/-- The parts of a path as they are written, empty ones included. -/
def rawParts (path : String) : List String :=
  (splitOn '/' path.toList).map String.ofList

/-- The parts of a path that count: a dot counts only at the very beginning. -/
def parts (path : String) : List String :=
  match rawParts path with
  | "." :: rest => "." :: rest.filter fun part => part ≠ "" && part ≠ "."
  | raw => raw.filter fun part => part ≠ "" && part ≠ "."

/-! ## The directory that a path leads into -/

/-- Whether a part stays where the parts before it lead. -/
def isIdle (part : String) : Bool := part = "" || part = "."

/-- The path with these parts.  The root, which has only an empty part, is written as a slash. -/
def ofRawParts : List String → String
  | [""] => "/"
  | written => "/".intercalate written

/-- The path of the directory that a path leads into.  It is what stands before the last part that
is not idle, without idle parts at its end.  The root and the empty path have none, and a path of
one part has the empty one. -/
def parent? (path : String) : Option String :=
  match rawParts path with
  | [] => none
  | first :: rest =>
    match rest.reverse.dropWhile isIdle with
    | [] => if first = "" then none else some ""
    | _ :: earlier => some (ofRawParts (first :: (earlier.dropWhile isIdle).reverse))

/-! ## Last names -/

/-- The last step of a path: a name that is looked up in a directory. -/
structure LastStep where
  /-- The parts that lead to the directory. -/
  directory : List String
  /-- The name. -/
  name : String
  /-- Whether a slash follows the name. -/
  slash : Bool
deriving DecidableEq, Repr

/-- The last step of a path, given by its parts.  There is none if the path ends in dots, and none
if it has only slashes. -/
def lastStep? (written : List String) : Option LastStep :=
  match written.reverse.dropWhile (· = "") with
  | [] => none
  | name :: earlier =>
    if name = "." || name = ".." then none
    else some ⟨earlier.reverse, name, written.getLast? = some ""⟩

/-- The name that a path ends in, if it ends in a name. -/
def fileName? (path : String) : Option String :=
  (parts path).getLast?.filter fun part => part ≠ "." && part ≠ ".."

/-- What is behind the last dot of a name.  A dot at the beginning starts no extension. -/
def extensionOfName? (name : List Char) : Option (List Char) :=
  let reversed := name.reverse
  match reversed.dropWhile (· ≠ '.') with
  | [] => none
  | [_] => none
  | _ :: _ => some (reversed.takeWhile (· ≠ '.')).reverse

/-- The extension of the name that a path ends in. -/
def extension? (path : String) : Option (List Char) :=
  (fileName? path).bind fun name => extensionOfName? name.toList

/-- The path of something inside a directory. -/
def join (directory name : String) : String :=
  if directory.isEmpty || directory.toList.getLast? = some '/' then directory ++ name
  else directory ++ "/" ++ name

end InventorySearch.Path
