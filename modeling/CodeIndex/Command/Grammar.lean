import CodeIndex.Text.Decimal
/-!
# The grammar of a command line

A command line is read from left to right at one level: options, then values in their places, up to
the name of a command, which starts a level of its own. An option that wants a value and has none
attached takes the next argument, unless that looks like an option. What was read stays pending
until the next argument is recognized, and is only then checked.
-/
namespace CodeIndex.Command

/-- Why a command line is not accepted, or what it asks for instead. -/
inductive UsageFault where
  | help
  | version
  | helpOnMissing
  | missingCommand
  | invalidCommand
  | unknownArgument
  | tooManyValues
  | argumentConflict
  | invalidValue
  | valueValidation
  | missingArgument
  deriving DecidableEq, Repr

/-- Whether it was asked for information instead of a report. -/
def UsageFault.isRequest : UsageFault → Bool
  | .help | .version => true
  | _ => false

def UsageFault.message : UsageFault → String
  | .help => "help requested"
  | .version => "version requested"
  | .helpOnMissing => "nothing to do"
  | .missingCommand => "a command is missing"
  | .invalidCommand => "there is no such command"
  | .unknownArgument => "unexpected argument"
  | .tooManyValues => "an option that takes no value has one"
  | .argumentConflict => "an option is given twice"
  | .invalidValue => "an option lacks its value"
  | .valueValidation => "a value is not a number of 32 bits"
  | .missingArgument => "a required argument is missing"

inductive Wants where
  /-- Nothing; it may be given once. -/
  | nothing
  /-- Any text. -/
  | text
  /-- A text that is not empty. -/
  | path
  /-- A number of 32 bits. -/
  | number
  /-- To show the help. -/
  | help
  /-- To show the version. -/
  | version
  deriving DecidableEq, Repr

def Wants.value : Wants → Bool
  | .text | .path | .number => true
  | _ => false

/-- An argument known by its name: an option. -/
structure Named where
  long : String
  short : Option Char := none
  wants : Wants
  /-- The option that must be given with it. -/
  needs : Option String := none
  deriving DecidableEq, Repr

structure Place where
  name : String
  required : Bool
  deriving DecidableEq, Repr

/-- What may be given at one level. -/
structure Level where
  options : List Named
  places : List Place := []
  commands : List String := []
  deriving DecidableEq, Repr

structure Reading where
  /-- Checked values by the names of their options and places. -/
  given : List (String × String) := []
  /-- An option or a place with its value, still to be checked. -/
  pending : Option (String × Wants × Option String) := none
  /-- Whether the pending option waits for the next argument. -/
  waiting : Bool := false
  /-- How many places are taken. -/
  taken : Nat := 0
  /-- Whether only values follow. -/
  valuesOnly : Bool := false
  deriving DecidableEq, Repr

/-- A number of 32 bits, with an optional sign. -/
def number? (text : String) : Option UInt32 :=
  match text.toList with
  | '-' :: digits => if Text.word? digits = some 0 then some 0 else none
  | '+' :: digits => Text.word? digits
  | digits => Text.word? digits

def check (wants : Wants) (value : String) : Except UsageFault Unit :=
  match wants with
  | .path => if value.isEmpty then .error .invalidValue else .ok ()
  | .number => if (number? value).isNone then .error .valueValidation else .ok ()
  | _ => .ok ()

namespace Reading

def has (r : Reading) (name : String) : Bool := r.given.any (·.1 == name)

def value? (r : Reading) (name : String) : Option String := r.given.lookup name

/-- Takes down a value that is given for the first time and passes its check. -/
def accept (r : Reading) (name : String) (wants : Wants) (value : String) :
    Except UsageFault Reading := do
  if r.has name then .error .argumentConflict
  else
    check wants value
    .ok { r with given := r.given ++ [(name, value)] }

def settle (r : Reading) : Except UsageFault Reading :=
  match r.pending with
  | none => .ok r
  | some (_, _, none) => .error .invalidValue
  | some (name, wants, some value) => { r with pending := none }.accept name wants value

/-- Reads an option, with the value attached to it if there is one. -/
def readOption (r : Reading) (o : Named) (attached : Option String) :
    Except UsageFault Reading := do
  if o.wants.value then
    let r ← r.settle
    match attached with
    | some value => return { (← r.accept o.long o.wants value) with waiting := false }
    | none => return { r with pending := some (o.long, o.wants, none), waiting := true }
  else match attached with
    | some _ => .error .tooManyValues
    | none =>
      let r ← r.settle
      match o.wants with
      | .help => .error .help
      | .version => .error .version
      | _ => return { (← r.accept o.long o.wants "") with waiting := false }

/-- The part before the first `=`, and the part behind it if there is one. -/
def splitEquals : List Char → List Char × Option (List Char)
  | [] => ([], none)
  | c :: rest =>
    if c = '=' then ([], some rest)
    else
      let (name, value) := splitEquals rest
      (c :: name, value)

def readLong (level : Level) (r : Reading) (text : List Char) : Except UsageFault Reading :=
  let (name, value) := splitEquals text
  match level.options.find? (·.long == String.ofList name) with
  | none => .error .unknownArgument
  | some o => r.readOption o (value.map String.ofList)

/-- Reads the letters after a dash; one that wants a value takes the rest as its value. -/
def readShort (level : Level) (r : Reading) : List Char → Except UsageFault Reading
  | [] => .ok r
  | c :: rest =>
    match level.options.find? (·.short == some c) with
    | none => .error .unknownArgument
    | some o =>
      if o.wants.value then
        match rest with
        | [] => r.readOption o none
        | '=' :: value => r.readOption o (some (String.ofList value))
        | value => r.readOption o (some (String.ofList value))
      else do readShort level (← r.readOption o none) rest

def readValue (level : Level) (r : Reading) (argument : String) : Except UsageFault Reading := do
  match level.places[r.taken]? with
  | some place =>
    let r ← r.settle
    return { r with pending := some (place.name, .text, some argument), taken := r.taken + 1 }
  | none =>
    if level.commands.isEmpty then .error .unknownArgument
    else if r.valuesOnly && level.commands.contains argument then .error .unknownArgument
    else .error .invalidCommand

def readArgument (level : Level) (r : Reading) (argument : String) : Except UsageFault Reading :=
  if r.valuesOnly then r.readValue level argument
  else match argument.toList with
    | ['-', '-'] => .ok { r with valuesOnly := true }
    | '-' :: '-' :: text => r.readLong level text
    | '-' :: c :: text => r.readShort level (c :: text)
    | _ => match r.waiting, r.pending with
      | true, some (name, wants, _) =>
        .ok { r with pending := some (name, wants, some argument), waiting := false }
      | _, _ => r.readValue level argument

def startsCommand (level : Level) (r : Reading) (argument : String) : Bool :=
  !r.valuesOnly && !r.waiting && level.commands.contains argument

/-- Reads arguments up to the end or to a command, which is given with what follows it. -/
def readAll (level : Level) (r : Reading) :
    List String → Except UsageFault (Reading × Option (String × List String))
  | [] => .ok (r, none)
  | argument :: rest =>
    if r.startsCommand level argument then .ok (r, some (argument, rest))
    else do readAll level (← r.readArgument level argument) rest

/-- Checks the value that the environment has for an option, if the level needs it. -/
def checkFallback (r : Reading) (o : Named) (fallback : Option String) :
    Except UsageFault Unit :=
  match fallback with
  | some value => if r.has o.long then .ok () else check o.wants value
  | none => .ok ()

def complete (level : Level) (r : Reading) : Except UsageFault Reading :=
  if (level.places.all fun place => !place.required || r.has place.name) &&
      (level.options.all fun o => !r.has o.long || o.needs.all r.has) then .ok r
  else .error .missingArgument

end Reading

end CodeIndex.Command
