import CallPlan.Dialect

/-!
The flags of the command line. Flags and other arguments may stand in any order; a flag has a long
label, and some have a letter too. A switch is on when it is given; any other flag takes a value, from
its own argument or from the next.
-/

namespace CallPlan

inductive Flag where
  | file
  | engine
  | wasm
  | invocant
  | name
  | var
  | strictRequired
  | strictArity
  | debug
  | cbor
  | help
deriving DecidableEq, Repr

namespace Flag

def label : Flag → Text
  | .file => "file"
  | .engine => "engine"
  | .wasm => "wasm"
  | .invocant => "invocant"
  | .name => "name"
  | .var => "var"
  | .strictRequired => "strict-required"
  | .strictArity => "strict-arity"
  | .debug => "debug"
  | .cbor => "cbor"
  | .help => "help"

def letter? : Flag → Option Char
  | .file => some 'f'
  | .engine => some 'e'
  | .help => some 'h'
  | _ => none

/-- Whether the flag is a switch. -/
def isSwitch : Flag → Bool
  | .strictRequired | .strictArity | .debug | .cbor | .help => true
  | _ => false

/-- A flag in messages. -/
def display (flag : Flag) : Text :=
  match flag.letter? with
  | some c => "-" ++ Text.ofChar c ++ ", --" ++ flag.label
  | none => "--" ++ flag.label

def ofLabel? (known : List Flag) (label : Text) : Option Flag := known.find? (·.label = label)

def ofLetter? (known : List Flag) (letter : Glyph) : Option Flag :=
  known.find? fun flag => flag.letter?.map .char = some letter

end Flag

/-- What is wrong with the flags of a command line. -/
inductive FlagError where
  | badSyntax (arg : Text)
  | unknown (label : Text)
  | unknownLetter (letters : Text)
  | needsValue (label : Text)
  | letterNeedsValue (letter : Char)
  | badSwitch (flag : Flag) (value : Text)
deriving DecidableEq, Repr

namespace FlagError

/-- The letter that stands for the first glyph in messages: past ASCII only the two first bytes of
two-byte characters show. -/
def shownLetter : Text → Char
  | .char c :: _ => if c.toNat < 0x80 then c else '\u00c3'
  | .stray byte :: _ => if byte < 0xC0 then '\u00c2' else '\u00c3'
  | [] => '-'

def message : FlagError → Text
  | .badSyntax arg => "bad flag syntax: " ++ arg
  | .unknown label => "unknown flag: --" ++ label
  | .unknownLetter letters =>
      "unknown shorthand flag: " ++ Text.quotedChar (shownLetter letters) ++ " in -" ++ letters
  | .needsValue label => "flag needs an argument: --" ++ label
  | .letterNeedsValue letter =>
      "flag needs an argument: " ++ Text.quotedChar letter ++ " in -" ++ Text.ofChar letter
  | .badSwitch flag value =>
      "invalid argument " ++ value.quoted ++ " for " ++ flag.display.quoted ++
        " flag: strconv.ParseBool: parsing " ++ value.quoted ++ ": invalid syntax"

end FlagError

/-- The values of all flags. -/
structure Flags where
  file : Text := []
  engine : Text := Dialect.starlark.name
  wasm : Text := []
  invocant : Text := []
  name : Text := []
  vars : List Text := []
  strictRequired : Bool := false
  strictArity : Bool := false
  debug : Bool := false
  cbor : Bool := false
  help : Bool := false
deriving DecidableEq, Repr

namespace Flags

def onSpellings : List Text := ["1", "t", "T", "TRUE", "true", "True"].map Text.ofString

def offSpellings : List Text := ["0", "f", "F", "FALSE", "false", "False"].map Text.ofString

/-- The value of a switch, by the spellings that are understood. -/
def switch? (value : Text) : Option Bool :=
  if onSpellings.contains value then some true
  else if offSpellings.contains value then some false
  else none

def setSwitch (flags : Flags) (flag : Flag) (on : Bool) : Flags :=
  match flag with
  | .strictRequired => { flags with strictRequired := on }
  | .strictArity => { flags with strictArity := on }
  | .debug => { flags with debug := on }
  | .cbor => { flags with cbor := on }
  | .help => { flags with help := on }
  | _ => flags

def setValue (flags : Flags) (flag : Flag) (value : Text) : Flags :=
  match flag with
  | .file => { flags with file := value }
  | .engine => { flags with engine := value }
  | .wasm => { flags with wasm := value }
  | .invocant => { flags with invocant := value }
  | .name => { flags with name := value }
  | .var => { flags with vars := flags.vars ++ [value] }
  | _ => flags

/-- Gives a flag a value. Of several values the last holds, except that outer variables add up. -/
def set (flags : Flags) (flag : Flag) (value : Text) : Except FlagError Flags :=
  if flag.isSwitch then
    match switch? value with
    | some on => .ok (flags.setSwitch flag on)
    | none => .error (.badSwitch flag value)
  else .ok (flags.setValue flag value)

def setAll (flags : Flags) : List (Flag × Text) → Except FlagError Flags
  | [] => .ok flags
  | (flag, value) :: rest => do (← flags.set flag value).setAll rest

end Flags

/-- What one argument says: values for flags, and a flag at its end that takes the next argument,
with the complaint if there is none. -/
structure FlagWord where
  values : List (Flag × Text) := []
  pending : Option (Flag × FlagError) := none

namespace FlagWord

/-- What a switch gets when it is only named. -/
def on : Text := "true"

/-- Reads a long flag, by what follows its two dashes. -/
def ofLabel (known : List Flag) (body : Text) : Except FlagError FlagWord :=
  let (label, value) := body.cut '='
  if label.isEmpty || label.head? = some (.char '-') then .error (.badSyntax ("--" ++ body))
  else
    match Flag.ofLabel? known label, value with
    | none, _ => .error (.unknown label)
    | some flag, some value => .ok { values := [(flag, value)] }
    | some flag, none =>
        if flag.isSwitch then .ok { values := [(flag, on)] }
        else .ok { pending := some (flag, .needsValue label) }

/-- Reads flags given by letters. Letters of switches may stand together; the rest after any other
letter is its value. -/
def ofLetters (known : List Flag) : Text → Except FlagError FlagWord
  | [] => .ok {}
  | letter :: rest =>
      match Flag.ofLetter? known letter, rest with
      | none, _ => .error (.unknownLetter (letter :: rest))
      | some flag, .char '=' :: first :: value => .ok { values := [(flag, first :: value)] }
      | some flag, rest =>
          if flag.isSwitch then do
            let word ← ofLetters known rest
            return { word with values := (flag, on) :: word.values }
          else if rest.isEmpty then
            .ok { pending := some (flag, .letterNeedsValue letter.scalar) }
          else .ok { values := [(flag, rest)] }

/-- Reads one argument, if it is a flag. -/
def read? (known : List Flag) : Text → Option (Except FlagError FlagWord)
  | .char '-' :: .char '-' :: body => some (ofLabel known body)
  | .char '-' :: letter :: rest => some (ofLetters known (letter :: rest))
  | _ => none

end FlagWord

namespace Flags

/-- The argument that ends the flags. -/
def terminator : Text := "--"

/-- Reads the flags among arguments, and gives the arguments that are left. -/
def read (known : List Flag) (flags : Flags) : List Text → Except FlagError (Flags × List Text)
  | [] => .ok (flags, [])
  | arg :: rest =>
      if arg = terminator then .ok (flags, rest)
      else
        match FlagWord.read? known arg with
        | none => do
            let (flags, args) ← read known flags rest
            return (flags, arg :: args)
        | some word => do
            let word ← word
            let flags ← flags.setAll word.values
            match word.pending, rest with
            | none, rest => read known flags rest
            | some (flag, _), value :: rest => read known (← flags.set flag value) rest
            | some (_, complaint), [] => .error complaint

end Flags
end CallPlan
