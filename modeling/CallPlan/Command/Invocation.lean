import CallPlan.Command.Flags
import CallPlan.Text.Distance

/-!
A command line as it is meant: a command, the flags, and the arguments of the command. The command is
the first argument that is neither a flag nor the value of one.
-/

namespace CallPlan

inductive Command where
  | split
  | compile
  | bind
  | repl
  | help
  | completion
deriving DecidableEq, Repr

namespace Command

def all : List Command := [.split, .compile, .bind, .repl, .help, .completion]

def label : Command → Text
  | .split => "split"
  | .compile => "compile"
  | .bind => "bind"
  | .repl => "repl"
  | .help => "help"
  | .completion => "completion"

def ofLabel? (label : Text) : Option Command := all.find? (·.label = label)

/-- The most arguments that a command takes. -/
def maxArguments? : Command → Option Nat
  | .split | .compile | .repl => some 1
  | _ => none

/-- How far a word may be from the command it is taken to mean. -/
def maxDistance : Nat := 2

/-- A text with one character for each byte. -/
def byteWise (t : Text) : Text := t.toBytes.map fun byte => .char (Char.ofNat byte.toNat)

/-- Whether a word that is no command may be meant for one: it is close to it or begins it. -/
def isMeantBy (command : Command) (word : Text) : Bool :=
  Text.distance (byteWise word.lower) command.label ≤ maxDistance ||
    word.lower.isPrefixOf command.label

/-- The commands that a word may be meant for. Help is never proposed. -/
def suggestions (word : Text) : List Command :=
  all.filter fun command => command ≠ .help && command.isMeantBy word

end Command

/-- What is wrong with a command line. -/
inductive UsageError where
  | flag (error : FlagError)
  | unknownCommand (word : Text)
  | tooManyArguments (most given : Nat)
deriving DecidableEq, Repr

namespace UsageError

/-- The proposals for an unknown command. -/
def proposals : List Command → Text
  | [] => []
  | commands =>
      let proposal (command : Command) : Text := "\t" ++ command.label ++ "\n"
      "\n\nDid you mean this?\n" ++ Text.join [] (commands.map proposal)

def message : UsageError → Text
  | .flag e => e.message
  | .unknownCommand word =>
      "unknown command " ++ word.quoted ++ " for \"sigil\"" ++ proposals (Command.suggestions word)
  | .tooManyArguments most given =>
      "accepts at most " ++ Text.ofNat most ++ " arg(s), received " ++ Text.ofNat given

end UsageError

/-- A command line. Without a command the program is asked about itself. -/
structure Invocation where
  command : Option Command := none
  flags : Flags := {}
  args : List Text := []
deriving DecidableEq, Repr

namespace Invocation

/-- The flags that every command takes. -/
def sharedFlags : List Flag :=
  [.file, .engine, .wasm, .invocant, .name, .var, .strictRequired, .strictArity, .debug]

def knownFlags (command : Option Command) : List Flag :=
  sharedFlags ++ [.help] ++ if command = some .compile then [.cbor] else []

/-- Whether an argument before the command takes the next one as its value: a flag by itself that is
no shared switch. -/
def takesNext : Text → Bool
  | .char '-' :: .char '-' :: label =>
      !label.contains (.char '=') && !(Flag.ofLabel? sharedFlags label).any Flag.isSwitch
  | [.char '-', letter] => letter ≠ .char '=' && letter.width = 1
  | _ => false

/-- The arguments that are neither flags nor values of flags. A flag before the last argument has no
value here. -/
def operands : List Text → List Text
  | [] => []
  | arg :: rest =>
      if arg = Flags.terminator then []
      else if takesNext arg then
        match rest with
        | _ :: next :: rest => operands (next :: rest)
        | _ => []
      else if arg.isEmpty || arg.head? = some (.char '-') then operands rest
      else arg :: operands rest

/-- Takes the command out of the arguments. -/
def withoutCommand (label : Text) : List Text → List Text
  | [] => []
  | arg :: rest =>
      if arg = Flags.terminator then arg :: rest
      else if takesNext arg then
        match rest with
        | value :: rest => arg :: value :: withoutCommand label rest
        | [] => [arg]
      else if arg = label then rest
      else arg :: withoutCommand label rest

/-- The command of a command line, and the arguments that are left for it. -/
def locate (args : List Text) : Except UsageError (Option Command × List Text) :=
  match operands args with
  | [] => .ok (none, args)
  | word :: _ =>
      match Command.ofLabel? word with
      | some command => .ok (some command, withoutCommand word args)
      | none => .error (.unknownCommand word)

/-- Whether help is asked for, which goes before everything else. -/
def wantsHelp (i : Invocation) : Bool :=
  i.flags.help || i.command = none || i.command = some .help || i.command = some .completion

/-- Checks the number of arguments. -/
def checkArguments (i : Invocation) : Except UsageError Unit :=
  match i.command.bind Command.maxArguments? with
  | some most =>
      if i.args.length ≤ most then .ok () else .error (.tooManyArguments most i.args.length)
  | none => .ok ()

/-- Reads a command line. -/
def read (args : List Text) : Except UsageError Invocation := do
  let (command, args) ← locate args
  let (flags, args) ← (Flags.read (knownFlags command) {} args).mapError .flag
  let invocation : Invocation := { command, flags, args }
  unless invocation.wantsHelp do invocation.checkArguments
  return invocation

end Invocation
end CallPlan
