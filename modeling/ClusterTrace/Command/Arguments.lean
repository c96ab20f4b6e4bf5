import ClusterTrace.Command.Grammar
import ClusterTrace.Storage.Assoc
import ClusterTrace.Word

/-!
# Reading a command line

Arguments are read one by one.  A value that was read is kept back until the
next option or operand begins, and only then checked, so that an unknown
argument behind it is the fault that counts.  Options that are common to all
places may be given at any of them; the last place counts.
-/

namespace ClusterTrace.Command

/-- Why a command line cannot be followed, or that it asks for something
else. -/
inductive UsageFault where
  | unknownArgument
  | unknownCommand
  /-- A required value is not given. -/
  | missingArgument
  /-- A value is missing or empty. -/
  | emptyValue
  /-- A value is no number of 32 bits. -/
  | notANumber
  /-- A value is given to an option that takes none. -/
  | unneededValue
  /-- An option is given twice. -/
  | repeated
  | help
  | version
  /-- Nothing is given where a command must lead on. -/
  | nothingGiven
  | missingCommand
deriving Repr, DecidableEq

/-- The values that were given, by name. -/
abbrev Values := Assoc String (List String)

/-- What was read at a place. -/
structure Level where
  place : Place
  values : Values := []
  /-- What takes a value, and the value if it is known. -/
  pending : Option (Parameter × Option String) := none
  /-- How many operands were given. -/
  operands : Nat := 0
  /-- Only operands follow. -/
  isTrailing : Bool := false
deriving Repr

/-- A command line that was read: the place it led to and all values. -/
structure Reading where
  place : Place
  values : Values
deriving Repr

/-- Reads a number of 32 bits: digits with an optional sign. -/
def readNumber? (text : String) : Option Nat :=
  let (isNegative, digits) :=
    match text.toList with
    | '-' :: digits => (true, digits)
    | '+' :: digits => (false, digits)
    | digits => (false, digits)
  if digits.isEmpty || !digits.all Char.isDigit then none
  else
    let value :=
      digits.foldl (fun value c => value * 10 + (c.toNat - '0'.toNat)) 0
    if isNegative && value ≠ 0 then none
    else if Word.fits 32 value then some value else none

namespace Level

/-- The next argument is the value of an option. -/
def awaitsValue (level : Level) : Bool :=
  match level.pending with
  | some (_, none) => true
  | _ => false

/-- Checks a value and notes it. -/
def give (level : Level) (parameter : Parameter) (value : String) :
    Except UsageFault Level :=
  let earlier := (level.values.get? parameter.name).getD []
  if !earlier.isEmpty && !parameter.isRepeatable then .error .repeated
  else if parameter.form = .path && value.isEmpty then .error .emptyValue
  else if parameter.form = .number && (readNumber? value).isNone then
    .error .notANumber
  else
    .ok
      { level with
        values := level.values.put parameter.name (earlier ++ [value]) }

/-- Checks and notes the value that was kept back. -/
def settle (level : Level) : Except UsageFault Level :=
  let settled := { level with pending := none }
  match level.pending with
  | none => .ok settled
  | some (_, none) => .error .emptyValue
  | some (parameter, some value) => settled.give parameter value

/-- Applies an option, with the value that is attached to it if there is one. -/
def apply (level : Level) (switch : Switch) (attached : Option String) :
    Except UsageFault Level := do
  match switch.effect, attached with
  | .value parameter, some value => (← level.settle).give parameter value
  | .value parameter, none =>
      return { (← level.settle) with pending := some (parameter, none) }
  | .flag, none =>
      let level ← level.settle
      if level.values.has switch.name then throw .repeated
      return { level with values := level.values.put switch.name ["true"] }
  | .help, none =>
      let _ ← level.settle
      throw .help
  | .version, none =>
      let _ ← level.settle
      throw .version
  | _, some _ => throw .unneededValue

/-- Reads an option by its name, after the dashes. -/
def readLong (level : Level) (text : String) : Except UsageFault Level :=
  let chars := text.toList
  let name := String.ofList (chars.takeWhile (· ≠ '='))
  let attached :=
    match chars.dropWhile (· ≠ '=') with
    | _ :: value => some (String.ofList value)
    | [] => none
  match level.place.switch? name with
  | some switch => level.apply switch attached
  | none => .error .unknownArgument

/-- Reads options by their letters, after the dash.  What follows the letter of
an option that takes a value is the value, without an equals sign in front. -/
def readShort (level : Level) : List Char → Except UsageFault Level
  | [] => .ok level
  | letter :: rest =>
      match level.place.switchOfLetter? letter with
      | none => .error .unknownArgument
      | some switch =>
          match switch.effect, rest with
          | .value _, [] => level.apply switch none
          | .value _, '=' :: value =>
              level.apply switch (some (String.ofList value))
          | .value _, value => level.apply switch (some (String.ofList value))
          | _, _ =>
              match level.apply switch none with
              | .ok level => level.readShort rest
              | .error fault => .error fault

def readOperand (level : Level) (text : String) : Except UsageFault Level :=
  match level.place.operands[level.operands]? with
  | some parameter => do
      let level ← level.settle
      return { level with
        pending := some (parameter, some text)
        operands := level.operands + 1 }
  | none =>
      let commands := level.place.commands
      if commands.isEmpty then .error .unknownArgument
      else if level.isTrailing &&
          (text = Place.helpCommand || (commands.lookup text).isSome) then
            .error .unknownArgument
      else .error .unknownCommand

/-- Reads an argument that leads to no other place. -/
def read (level : Level) (argument : String) : Except UsageFault Level :=
  match argument.toList, level.pending with
  | '-' :: '-' :: c :: rest, _ => level.readLong (String.ofList (c :: rest))
  | '-' :: '-' :: [], _ => .ok { level with isTrailing := true }
  | '-' :: c :: rest, _ => level.readShort (c :: rest)
  | _, some (parameter, none) =>
      .ok { level with pending := some (parameter, some argument) }
  | _, _ => level.readOperand argument

/-- Checks what was read at a place, once all that follows was read. -/
def finish (level : Level) (further : Option Reading) :
    Except UsageFault Reading := do
  let level ← level.settle
  match further with
  | some reading =>
      let outer := level.values.filter fun pair => !reading.values.has pair.1
      return { reading with values := reading.values ++ outer }
  | none =>
      if level.place.needsCommand then
        throw (if level.values.isEmpty then .nothingGiven else .missingCommand)
      if level.place.required.all level.values.has then
        return ⟨level.place, level.values⟩
      else throw .missingArgument

end Level

/-- Follows the names of commands for which help is asked. -/
def readHelp (place : Place) : List String → UsageFault
  | [] => .help
  | name :: rest =>
      match place.commands.lookup name with
      | some place => readHelp place rest
      | none =>
          if name = Place.helpCommand && !place.commands.isEmpty &&
              rest.isEmpty then
            .help
          else .unknownCommand

/-- Reads the arguments that follow at a place. -/
def readFrom (level : Level) : List String → Except UsageFault Reading
  | [] => level.finish none
  | argument :: rest =>
      let isCommand := !level.isTrailing && !level.awaitsValue
      match isCommand, level.place.commands.lookup argument with
      | true, some place =>
          match readFrom { place := place } rest with
          | .ok reading => level.finish (some reading)
          | .error fault => .error fault
      | _, _ =>
          if isCommand && argument = Place.helpCommand &&
              !level.place.commands.isEmpty then
            .error (readHelp level.place rest)
          else
            match
              if level.isTrailing then level.readOperand argument
              else level.read argument with
            | .ok level => readFrom level rest
            | .error fault => .error fault

/-- Reads a command line. -/
def readArguments (arguments : List String) : Except UsageFault Reading :=
  readFrom { place := .program } arguments

end ClusterTrace.Command
