import CallPlan.Command.Console
import CallPlan.Command.Invocation

/-!
What each command does with the signature it is given.
-/

namespace CallPlan

/-- What a run can read besides its command line. -/
structure Surroundings where
  files : Files := {}
  input : List UInt8 := []

namespace Invocation

/-- What the program is for and how it is used. -/
def usage : Text :=
  ["Compile routine signatures and bind argument lists against them",
    "",
    "Usage:",
    "  sigil [command]",
    "",
    "Available Commands:",
    "  bind        Bind an argument list against a signature and print the bindings",
    "  compile     Compile a signature and print its binding plan",
    "  completion  Generate the autocompletion script for the specified shell",
    "  help        Help about any command",
    "  repl        Interactively bind argument lists against a signature",
    "  split       Print the top-level parameter clauses of a signature, one per line",
    "",
    "Flags:",
    "      --debug             Enable debug logging",
    "  -e, --engine string     Default expression engine (starlark, risor, hcl, extism) " ++
      "(default \"starlark\")",
    "  -f, --file string       Read the signature from a file (\"-\" for stdin)",
    "  -h, --help              help for sigil",
    "      --invocant string   Implied invocant name for method signatures",
    "      --name string       Routine name used in call errors",
    "      --strict-arity      Reject surplus positional arguments",
    "      --strict-required   Reject required parameters that declare a default",
    "      --var stringArray   Outer variable visible to defaults, as name=value (repeatable)",
    "      --wasm string       WASM module for the extism engine",
    "",
    "Use \"sigil [command] --help\" for more information about a command."].flatMap
    fun line => Text.ofString line ++ "\n"

/-- The file name that stands for standard input. -/
def standardInput : Text := "-"

/-- The source of the signature that a flag names. -/
def loader (place : Surroundings) (file : Text) : Except Cause Loader :=
  if file = standardInput then Loader.ofReader "stdin" (some (.ok place.input))
  else Loader.ofDisk place.files.directory file

/-- The signature that a command works on, and the arguments after it. -/
def signature (place : Surroundings) (i : Invocation) : Except Failure (Text × List Text) :=
  if i.flags.file.isEmpty then
    match i.args with
    | text :: rest => .ok (text, rest)
    | [] => .error (.ofText "no signature given, pass it as an argument or with --file")
  else
    let content := do (← loader place i.flags.file).read place.files
    match content with
    | .ok content => .ok (Text.ofBytes content, i.args)
    | .error cause => .error (.other cause)

/-- The files that a run reads. -/
def paths (directory : Text) (i : Invocation) : List Text :=
  [i.flags.file, i.flags.wasm].filterMap fun name =>
    match Loader.ofDisk directory name with
    | .ok (.disk path) => some path
    | _ => none

def runSplit (place : Surroundings) (i : Invocation) : Except Failure Text := do
  let (text, _) ← i.signature place
  match Split.split text with
  | .ok clauses => return clauses.flatMap fun clause => clause ++ "\n"
  | .error fault => .error (.signature (.ofSplit text fault))

def runCompile (place : Surroundings) (i : Invocation) : Except Failure Text := do
  let (text, _) ← i.signature place
  let prepared ← i.flags.prepare place.files text
  if i.flags.cbor then return Digest.hex prepared.plan.signature.encode ++ "\n"
  else return prepared.plan.render

def runBind (place : Surroundings) (i : Invocation) : Except Failure Text := do
  let (text, args) ← i.signature place
  let prepared ← i.flags.prepare place.files text
  return (← (prepared.bind (args.map Argument.read)).1).flatten

/-- The signature that a conversation starts with, if one is given. -/
def openingSignature (place : Surroundings) (i : Invocation) : Except Failure (Option Text) :=
  if i.flags.file.isEmpty && i.args.isEmpty then .ok none
  else do
    let (text, _) ← i.signature place
    return some text

/-- The lines of a text; a last line need not be ended. -/
def linesFrom (line : Text) : Text → List Text
  | [] => if line.isEmpty then [] else [line.reverse]
  | g :: rest =>
      if g = .char '\n' then line.reverse :: linesFrom [] rest else linesFrom (g :: line) rest

def runConsole (place : Surroundings) (i : Invocation) : Except Failure Text := do
  let opening ← i.openingSignature place
  let lines := linesFrom [] (Text.ofBytes place.input)
  return (Console.run (i.flags.prepare place.files) opening (.ok ()) lines).writes.flatten

/-- Runs a command. -/
def run (place : Surroundings) (i : Invocation) : Except Failure Text :=
  if i.wantsHelp then .ok usage
  else
    match i.command with
    | some .split => i.runSplit place
    | some .compile => i.runCompile place
    | some .bind => i.runBind place
    | some .repl => i.runConsole place
    | _ => .ok usage

end Invocation

/-- What the program prints for a command line, or why it fails. -/
def runCommandLine (place : Surroundings) (args : List Text) : Except Failure Text :=
  match Invocation.read args with
  | .error e => .error (.ofText e.message)
  | .ok invocation => invocation.run place

end CallPlan
