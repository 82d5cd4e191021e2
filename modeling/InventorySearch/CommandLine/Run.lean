import InventorySearch.CommandLine.Arguments
import InventorySearch.CommandLine.Report
import InventorySearch.Settings.Location
import InventorySearch.Snapshot.Loading

/-!
# Running the commands

What the program prints and the code that it ends with.  A command prints as it goes
along, and what it has printed stays when something fails behind it.
-/

namespace InventorySearch.CommandLine

/-- How the program ends. -/
structure Outcome where
  /-- The code, zero for success. -/
  code : Nat
  /-- What is printed as a result. -/
  output : String := ""
  /-- What is printed as a complaint. -/
  complaint : String := ""
deriving DecidableEq, Repr

/-- The outcome of a command that has printed something and has then succeeded or failed. -/
def Outcome.ofEnd (output : String) : Except Failure Unit → Outcome
  | .ok () => { code := 0, output }
  | .error failure => { code := 1, output, complaint := lines ["Error: " ++ failure.message] }

/-- Whether a report is to be in JSON. -/
def isJson (format : String) : Bool := format = "json"

/-- The report on a query. -/
def reportQuery (query format : String) : String :=
  if isJson format then queryJson query else queryText query

/-- The report on the items of an inventory that are found. -/
def reportFound (inv : Inventory) (tolerance : Tolerance) (query : String) (direct : Bool)
    (format : String) : String :=
  let ids :=
    if direct then inv.satisfying tolerance inv.ids query
    else inv.highlighted tolerance inv.ids query
  if isJson format then foundJson inv ids else foundText inv ids

/-- The report on an inventory. -/
def reportInventory (inv : Inventory) (format : String) : String :=
  if isJson format then inventoryJson inv else inventoryText inv

variable {m : Type → Type} [Monad m]

/-- Work that can fail, with the text that has been printed up to now. -/
abbrev Task (m : Type → Type) := ExceptT Failure (StateT String m)

/-- Does something that can fail and prints nothing. -/
def Task.attempt {α : Type} (work : m (Except Failure α)) : Task m α := ExceptT.mk (liftM work)

/-- Prints a text. -/
def Task.print (text : String) : Task m Unit := modify (· ++ text)

/-- Loads the settings from a given path or from where they are kept. -/
def loadSettings (files : FileAccess m) (env : Environment) (path : Option String) :
    m (Except Failure Settings) :=
  match path.elim env.settingsPath .ok with
  | .ok path => Settings.load files path
  | .error failure => return .error failure

/-- Writes the settings to their file if there is none. -/
def createSettings (files : FileAccess m) (settings : Settings) : Task m Unit := do
  match ← files.probe settings.path with
  | .absent =>
    Task.attempt (settings.save files)
    Task.print (lines ["Wrote default config to " ++ settings.path])
  | _ => Task.print (lines ["Config already exists at " ++ settings.path])

/-- Carries out a command. -/
def Command.run (files : FileAccess m) (env : Environment) (settingsPath : Option String) :
    Command → Task m Unit
  | parse query format => Task.print (reportQuery query format)
  | search query inventory direct format => do
    let loaded ← Task.attempt (loadSettings files env settingsPath)
    let inv ← Task.attempt (Inventory.load files inventory)
    Task.print (reportFound inv loaded.tolerance query direct format)
  | inspect inventory format => do
    let inv ← Task.attempt (Inventory.load files inventory)
    Task.print (reportInventory inv format)
  | settings create => do
    let loaded ← Task.attempt (loadSettings files env settingsPath)
    if create then createSettings files loaded else Task.print (settingsText loaded)

/-- The line that names the program and its version. -/
def versionText : String := lines ["hsq 0.1.0"]

/-- How the program is used. -/
def helpText : String :=
  lines ["Haven Seek Query - evaluate inventory search queries against item snapshots",
    "",
    "Usage: hsq [OPTIONS] <COMMAND>",
    "",
    "Commands:",
    "  parse    Parse a query and print its canonical form [aliases: p]",
    "  match    List items in a snapshot that a query highlights [aliases: m]",
    "  inspect  Show the items and stacks of a snapshot",
    "  config   Show the resolved configuration",
    "  help     Print this message",
    "",
    "Options:",
    "  -v, --verbose          Accepted several times, without effect on the results",
    "      --config <CONFIG>  Config file (default: $SEEK_CONFIG or the user config dir)",
    "  -h, --help             Print help",
    "  -V, --version          Print version"]

/-- Does what the words of a command line ask for. -/
def run (files : FileAccess m) (env : Environment) (words : List String) : m Outcome := do
  match Request.ofWords words with
  | .command settingsPath command =>
    let (result, printed) ← (command.run files env settingsPath).run.run ""
    return Outcome.ofEnd printed result
  | .help => return { code := 0, output := helpText }
  | .version => return { code := 0, output := versionText }
  | .misuse =>
    return { code := 2, complaint := lines ["error: invalid arguments, try '--help'"] }

end InventorySearch.CommandLine
