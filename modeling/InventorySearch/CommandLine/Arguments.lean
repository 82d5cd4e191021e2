import InventorySearch.CommandLine.Options

/-!
# The commands

What the words of a command line ask for: one of four commands, help, or the
version.  The path of the settings file can be given before or behind the name of
the command, and then the latter counts.
-/

namespace InventorySearch.CommandLine

/-- What the program can do. -/
inductive Command where
  /-- Shows how a query is understood. -/
  | parse (query : String) (format : String)
  /-- Lists the items of a snapshot that light up for a query, or those that satisfy it directly. -/
  | search (query : String) (inventory : String) (direct : Bool) (format : String)
  /-- Shows the items and stacks of a snapshot. -/
  | inspect (inventory : String) (format : String)
  /-- Shows the settings, or writes a settings file if there is none. -/
  | settings (create : Bool)
deriving DecidableEq, Repr

/-- What the words of a command line ask for. -/
inductive Request where
  /-- A command, with the path of the settings file if one is given. -/
  | command (settingsPath : Option String) (command : Command)
  /-- Help. -/
  | help
  /-- The version. -/
  | version
  /-- Nothing that makes sense. -/
  | misuse
deriving DecidableEq, Repr

/-- The names of the commands. -/
inductive CommandName where
  | parse
  | search
  | inspect
  | settings
  | help
deriving DecidableEq, Repr

namespace CommandName

/-- The words that name commands. -/
def words : List (String × CommandName) :=
  [("parse", parse), ("p", parse), ("match", search), ("m", search), ("inspect", inspect),
    ("config", settings), ("help", help)]

/-- The command that a word names. -/
def ofWord? (word : String) : Option CommandName := words.lookup word

end CommandName

/-- The options that can be given before and behind the name of a command. -/
def globalOptions : List OptionSpec :=
  [⟨"verbose", some 'v', .counter⟩, ⟨"config", none, .path⟩, ⟨"help", some 'h', .help⟩]

/-- The option for the format of a report. -/
def formatOption : OptionSpec := ⟨"format", some 'f', .text⟩

/-- The option for a snapshot. -/
def inventoryOption : OptionSpec := ⟨"inventory", some 'i', .path⟩

/-- What is read before the name of a command. -/
def rootLevel : Level where
  options := ⟨"version", some 'V', .version⟩ :: globalOptions
  operands := 0
  isCommand word := (CommandName.ofWord? word).isSome

/-- What is read behind the name of a command. -/
def CommandName.level (name : CommandName) : Level where
  options := globalOptions ++
    match name with
    | parse => [formatOption]
    | search => [inventoryOption, ⟨"direct", some 'd', .switch⟩, formatOption]
    | inspect => [inventoryOption, formatOption]
    | settings => [⟨"init", none, .switch⟩]
    | help => []
  operands :=
    match name with
    | parse | search => 1
    | inspect | settings | help => 0
  isCommand _ := false

/-- The command that the words behind its name make, if nothing is missing. -/
def CommandName.command? (name : CommandName) (given : Given) : Option Command :=
  let format := (given.value? "format").getD "text"
  match name with
  | parse => given.operands.head?.map (.parse · format)
  | search => do
    let query ← given.operands.head?
    let inventory ← given.value? "inventory"
    return .search query inventory (given.has "direct") format
  | inspect => (given.value? "inventory").map (.inspect · format)
  | settings => some (.settings (given.has "init"))
  | help => none

/-- Reads the words that ask for help: nothing, or the name of a command. -/
def readHelp : List String → Except Stop Request
  | [] => .ok .help
  | [word] => if (CommandName.ofWord? word).isSome then .ok .help else .error .misuse
  | _ => .error .misuse

/-- Reads words, or says why that stops early. -/
def readWords (words : List String) : Except Stop Request := do
  let (outer, rest) ← rootLevel.read none words {}
  let some (word, words) := rest | .error .misuse
  let some name := CommandName.ofWord? word | .error .misuse
  if name = .help then readHelp words
  else
    let (inner, _) ← name.level.read none words {}
    let some command := name.command? inner | .error .misuse
    return .command ((inner.value? "config").or (outer.value? "config")) command

/-- What the words of a command line ask for. -/
def Request.ofWords (words : List String) : Request :=
  match readWords words with
  | .ok request => request
  | .error .help => .help
  | .error .version => .version
  | .error .misuse => .misuse

end InventorySearch.CommandLine
