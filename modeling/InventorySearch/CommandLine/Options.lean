/-!
# Options on a command line

Reading the words of a command line against a table of options.

A word with two hyphens names an option by its long name, and its value may follow
an equals sign.  A word with one hyphen names options by their letters; the first
of them that takes a value takes the rest of the word, an equals sign in front of
it left out.  A value that is not in the same word is the next word, which then
must not look like an option.  Two hyphens alone end the options.  A hyphen alone is
no option.

Words are read from left to right, and reading stops at the first one that decides
the outcome.
-/

namespace InventorySearch.CommandLine

/-- What an option does. -/
inductive OptionKind where
  /-- It can be given several times, which is all that counts. -/
  | counter
  /-- It is given or not. -/
  | switch
  /-- It takes a value. -/
  | text
  /-- It takes a value that must not be empty. -/
  | path
  /-- It asks for help instead of anything else. -/
  | help
  /-- It asks for the version instead of anything else. -/
  | version
deriving DecidableEq, Repr

namespace OptionKind

/-- Whether an option takes a value. -/
def takesValue : OptionKind → Bool
  | text | path => true
  | _ => false

end OptionKind

/-- An option. -/
structure OptionSpec where
  /-- Its long name. -/
  name : String
  /-- Its letter. -/
  letter : Option Char := none
  /-- What it does. -/
  kind : OptionKind
deriving DecidableEq, Repr

/-- Why reading stops early. -/
inductive Stop where
  /-- The words are not what they should be. -/
  | misuse
  /-- Help is asked for. -/
  | help
  /-- The version is asked for. -/
  | version
deriving DecidableEq, Repr

/-- What has been read so far. -/
structure Given where
  /-- The names of the options, each with its value if it takes one, in order. -/
  options : List (String × String) := []
  /-- The words that are no options, in order. -/
  operands : List String := []
deriving DecidableEq, Repr

namespace Given

/-- Whether an option has been given. -/
def has (given : Given) (name : String) : Bool := (given.options.lookup name).isSome

/-- The value of an option. -/
def value? (given : Given) (name : String) : Option String := given.options.lookup name

/-- Takes an option with its value.  Only a counter can be given again. -/
def accept (given : Given) (spec : OptionSpec) (value : String) : Except Stop Given :=
  match spec.kind with
  | .help => .error .help
  | .version => .error .version
  | .path =>
    if value.isEmpty || given.has spec.name then .error .misuse
    else .ok { given with options := given.options ++ [(spec.name, value)] }
  | .switch | .text =>
    if given.has spec.name then .error .misuse
    else .ok { given with options := given.options ++ [(spec.name, value)] }
  | .counter => .ok { given with options := given.options ++ [(spec.name, value)] }

end Given

/-- What is read at one level of a command line. -/
structure Level where
  /-- The options. -/
  options : List OptionSpec
  /-- How many words may stand there that are no options. -/
  operands : Nat
  /-- Whether such a word is the name of a command, which the remaining words belong to. -/
  isCommand : String → Bool

/-- Whether a word looks like an option. -/
def looksLikeOption (word : List Char) : Bool := word.head? = some '-' && word ≠ ['-']

/-- The value after an equals sign, or all of it. -/
def afterEquals : List Char → List Char
  | '=' :: value => value
  | value => value

/-- Reads the letters of a word.  The answer has the option that still needs a value. -/
def readLetters (specs : List OptionSpec) :
    List Char → Given → Except Stop (Given × Option OptionSpec)
  | [], given => .ok (given, none)
  | letter :: rest, given =>
    match specs.find? (·.letter = some letter) with
    | none => .error .misuse
    | some spec =>
      if spec.kind.takesValue then
        if rest.isEmpty then .ok (given, some spec)
        else (given.accept spec (String.ofList (afterEquals rest))).map (·, none)
      else
        match given.accept spec "" with
        | .ok given => readLetters specs rest given
        | .error stop => .error stop

/-- Reads the long name in a word.  The answer has the option if it still needs a value. -/
def readName (specs : List OptionSpec) (word : List Char) (given : Given) :
    Except Stop (Given × Option OptionSpec) :=
  let (name, rest) := word.span (· ≠ '=')
  match specs.find? (·.name = String.ofList name), rest with
  | none, _ => .error .misuse
  | some spec, [] =>
    if spec.kind.takesValue then .ok (given, some spec) else (given.accept spec "").map (·, none)
  | some spec, _ :: value =>
    if spec.kind.takesValue then (given.accept spec (String.ofList value)).map (·, none)
    else .error .misuse

/-- Takes a word that is no option. -/
def Given.addOperand (given : Given) (level : Level) (word : String) : Except Stop Given :=
  if given.operands.length < level.operands then
    .ok { given with operands := given.operands ++ [word] }
  else .error .misuse

/-- Reads words when the options have ended. -/
def Level.readOperands (level : Level) : List String → Given → Except Stop Given
  | [], given => .ok given
  | word :: words, given => do level.readOperands words (← given.addOperand level word)

/-- Reads words.  The option that is passed along still needs a value.  The answer has the command
that ends the level, with the words behind it. -/
def Level.read (level : Level) (pending : Option OptionSpec) :
    List String → Given → Except Stop (Given × Option (String × List String))
  | [], given => if pending.isSome then .error .misuse else .ok (given, none)
  | word :: words, given =>
    match pending with
    | some spec =>
      if looksLikeOption word.toList then .error .misuse
      else do level.read none words (← given.accept spec word)
    | none =>
      if level.isCommand word then .ok (given, some (word, words))
      else
        match word.toList with
        | ['-', '-'] => (level.readOperands words given).map (·, none)
        | '-' :: '-' :: name => do
          let (given, pending) ← readName level.options name given
          level.read pending words given
        | '-' :: letter :: letters => do
          let (given, pending) ← readLetters level.options (letter :: letters) given
          level.read pending words given
        | _ => do level.read none words (← given.addOperand level word)

end InventorySearch.CommandLine
