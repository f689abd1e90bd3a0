import LocaleLint.CommandLine.Flag

/-!
# Reading command lines

A command line is a command and its options. The value of an option is looked at when the next
option comes or the line ends, and so an unknown argument behind it is noticed first. Main function:
`Command.ofArguments`.
-/

namespace LocaleLint

/-- How far a command line has been read: the options so far, which of them were given, and the
option whose value has not been looked at yet or is still to come. -/
structure OptionReading where
  options : Options := {}
  given : List Flag := []
  pending : Option (Flag × Option Text) := none
deriving Repr

namespace OptionReading

def accept (reading : OptionReading) (flag : Flag) (value : Text) :
    Except Refusal OptionReading := do
  if reading.given.contains flag && !flag.isRepeatable then throw .optionRepeated
  return ⟨← reading.options.set flag value, flag :: reading.given, none⟩

/-- Looks at the value that has not been looked at yet. -/
def settle (reading : OptionReading) : Except Refusal OptionReading :=
  match reading.pending with
  | none => .ok reading
  | some (_, none) => .error .valueNotAllowed
  | some (flag, some value) => accept { reading with pending := none } flag value

/-- Takes an option, with its value if that stands with it. -/
def take (reading : OptionReading) (flag : Flag) (value : Option Text) :
    Except Refusal OptionReading := do
  let reading ← reading.settle
  if flag.isSwitch then reading.accept flag []
  else match value with
    | some value => reading.accept flag value
    | none => return { reading with pending := some (flag, none) }

/-- Takes an option by its long name. -/
def takeLong (flags : List Flag) (reading : OptionReading) (argument : Text) :
    Except Refusal OptionReading :=
  let (name, rest) := argument.span (· ≠ '=')
  let value := match rest with
    | [] => none
    | _ :: value => some value
  match flags.find? (·.longName = name) with
  | none => .error .unknownArgument
  | some flag =>
    if flag.isSwitch && value.isSome then .error .valueSuperfluous else reading.take flag value

/-- The value that stands with a letter. -/
def attached? : Text → Option Text
  | [] => none
  | '=' :: value => some value
  | value => some value

/-- Takes options by their letters; what follows the letter of an option with a value is the
value. -/
def takeLetters (flags : List Flag) : Text → OptionReading → Except Refusal OptionReading
  | [], reading => .ok reading
  | c :: rest, reading =>
    match flags.find? (·.letter? = some c) with
    | none => .error .unknownArgument
    | some flag =>
      if flag.isSwitch then do takeLetters flags rest (← reading.take flag none)
      else reading.take flag (attached? rest)

/-- Takes an argument that is neither an option nor behind one that waits for a value. -/
def takeOther (stray : Refusal) (reading : OptionReading) (argument : Text) :
    Except Refusal OptionReading :=
  match reading.pending with
  | some (flag, none) => .ok { reading with pending := some (flag, some argument) }
  | _ => .error stray

def takeArgument (flags : List Flag) (stray : Refusal) (reading : OptionReading)
    (argument : Text) : Except Refusal OptionReading :=
  match argument with
  | '-' :: '-' :: name => reading.takeLong flags name
  | ['-'] => reading.takeOther stray argument
  | '-' :: letters => takeLetters flags letters reading
  | _ => reading.takeOther stray argument

/-- Takes all arguments. Behind two dashes there are no options any more. -/
def takeAll (flags : List Flag) : List Text → OptionReading → Except Refusal Options
  | [], reading => do return (← reading.settle).options
  | argument :: rest, reading =>
    if argument = ['-', '-'] then
      if rest.isEmpty then do return (← reading.settle).options else .error .unknownArgument
    else do takeAll flags rest (← reading.takeArgument flags .unknownArgument argument)

end OptionReading

namespace Command

/-- The commands that a word may name. -/
inductive Name where
  | check
  | keys
  | init
  | help
deriving Repr, DecidableEq

def words : List (Text × Name) :=
  [("check".toList, .check), ("keys".toList, .keys), ("init".toList, .init),
    ("help".toList, .help)]

/-- The answer to a command that asks for help on another one. -/
def helpOn : List Text → Refusal
  | [] => .helpAsked
  | [word] => if (words.lookup word).isSome then .helpAsked else .unknownCommand
  | _ => .unknownCommand

def ofName (name : Name) (arguments : List Text) : Except Refusal Command :=
  match name with
  | .check => (OptionReading.takeAll Flag.ofCheck arguments {}).map check
  | .keys => (OptionReading.takeAll Flag.ofKeys arguments {}).map keys
  | .init => (OptionReading.takeAll [.help] arguments {}).map fun _ => init
  | .help => .error (helpOn arguments)

/-- What is said of arguments behind two dashes in front of a command. -/
def behindDashes : List Text → Except Refusal Command
  | [] => .ok overview
  | word :: _ =>
    .error (if (words.lookup word).isSome then .unknownArgument else .unknownCommand)

/-- What the arguments of a command line ask for. -/
def ofArguments : List Text → Except Refusal Command
  | [] => .ok overview
  | argument :: rest =>
    match words.lookup argument with
    | some name => ofName name rest
    | none =>
      if argument = ['-', '-'] then behindDashes rest
      else do
        let _ ← OptionReading.takeArgument Flag.global .unknownCommand {} argument
        ofArguments rest

end Command

end LocaleLint
