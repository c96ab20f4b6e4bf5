/-!
# The grammar of the command line

A command line leads through places: the program itself, one of its commands,
and for queries one of the queries.  At each place there are options, operands
in order, and commands that lead on.
-/

namespace ClusterTrace.Command

/-- What a value may be. -/
inductive ValueForm where
  /-- Any text. -/
  | text
  /-- A text that is not empty. -/
  | path
  /-- A number of 32 bits. -/
  | number
deriving Repr, DecidableEq

/-- Something that takes a value. -/
structure Parameter where
  name : String
  form : ValueForm := .text
  /-- It may be given more than once. -/
  isRepeatable : Bool := false
deriving Repr, DecidableEq

/-- What an option does. -/
inductive Effect where
  /-- It is given or not. -/
  | flag
  /-- It takes a value. -/
  | value (parameter : Parameter)
  | help
  | version
deriving Repr, DecidableEq

/-- An option. -/
structure Switch where
  /-- Its name after two dashes. -/
  name : String
  /-- Its letter after one dash. -/
  letter : Option Char := none
  effect : Effect
deriving Repr, DecidableEq

/-- Where a command line has led to. -/
inductive Place where
  | program
  | importing
  | querying
  | podQuery
  | instanceQuery
  | migrationQuery
  | historyQuery
  | listing
  | getting
  | claims
  | counting
  | ledger
deriving Repr, DecidableEq

/-- An option that takes a value. -/
def valued (name : String) (letter : Option Char) (form : ValueForm := .text)
    (isRepeatable : Bool := false) : Switch :=
  ⟨name, letter, .value ⟨name, form, isRepeatable⟩⟩

namespace Place

/-- The commands that lead on. -/
def commands : Place → List (String × Place)
  | .program =>
      [("import", .importing), ("query", .querying), ("list", .listing),
        ("get", .getting), ("pvcs", .claims), ("stats", .counting),
        ("imports", .ledger)]
  | .querying =>
      [("pod", .podQuery), ("vmi", .instanceQuery),
        ("migration", .migrationQuery), ("history", .historyQuery)]
  | _ => []

/-- The command that asks for help, where commands lead on. -/
def helpCommand : String := "help"

/-- The options that are there at every place. -/
def commonSwitches : List Switch :=
  [⟨"verbose", some 'v', .flag⟩, valued "config" (some 'c') .path,
    valued "home" none .path, ⟨"help", some 'h', .help⟩]

/-- The options of a place. -/
def switches : Place → List Switch
  | .program => commonSwitches ++ [⟨"version", some 'V', .version⟩]
  | .instanceQuery => commonSwitches ++ [valued "node" (some 'n')]
  | .listing =>
      commonSwitches ++
        [valued "uuid" none, valued "name" none,
          valued "namespace" (some 'n') .text true, valued "status" (some 's'),
          valued "page" none .number, valued "per-page" none .number,
          ⟨"all", none, .flag⟩]
  | .getting => commonSwitches ++ [⟨"yaml", none, .flag⟩]
  | _ => commonSwitches

/-- The operands of a place, in order. -/
def operands : Place → List Parameter
  | .importing => [{ name := "archive", form := .path }]
  | .podQuery => [{ name := "uuid" }]
  | .instanceQuery => [{ name := "uuid" }]
  | .migrationQuery => [{ name := "uuid" }]
  | .historyQuery => [{ name := "uuid" }]
  | .listing => [{ name := "kind" }]
  | .getting => [{ name := "kind" }, { name := "id" }]
  | .claims => [{ name := "kind" }, { name := "uuid" }]
  | _ => []

/-- The values that must be given. -/
def required : Place → List String
  | .instanceQuery => ["uuid", "node"]
  | place => place.operands.map (·.name)

/-- A command must lead on. -/
def needsCommand : Place → Bool
  | .querying => true
  | _ => false

def switch? (place : Place) (name : String) : Option Switch :=
  place.switches.find? fun switch => switch.name = name

def switchOfLetter? (place : Place) (letter : Char) : Option Switch :=
  place.switches.find? fun switch => switch.letter = some letter

end Place
end ClusterTrace.Command
