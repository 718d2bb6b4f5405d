import CallPlan.Command.Run

/-!
The program: reads what a command line names, runs it, and prints what it says.
-/

namespace CallPlan.Main

/-- What a path leads to. -/
def fileStatus (path : Text) : IO FileStatus :=
  try
    return .file (← IO.FS.readBinFile path.toString).toList
  catch
    | .inappropriateType _ code _ => return if code = 20 then .notADirectory else .directory
    | _ => return .missing

/-- The files that an invocation names, as they are now. -/
def gather (directory : Text) (i : Invocation) : IO Files := do
  let known ← (i.paths directory).mapM fun path => do return (path, ← fileStatus path)
  return { directory, status := fun path => (known.lookup path).getD .missing }

partial def readAll (stream : IO.FS.Stream) (content : ByteArray) : IO ByteArray := do
  let chunk ← stream.read 65536
  if chunk.isEmpty then return content else readAll stream (content ++ chunk)

def write (t : Text) : IO Unit := do
  let out ← IO.getStdout
  out.write (ByteArray.mk t.toBytes.toArray)
  out.flush

def fail (f : Failure) : IO UInt32 := do
  IO.eprintln ("Error: " ++ f.message.toString)
  return 1

/-- Answers lines as they are typed. -/
partial def converse (prepare : Preparation) (input : IO.FS.Stream) (plan : Option Prepared) :
    IO Unit := do
  write (Console.prompt plan)
  let line ← input.getLine
  if line.isEmpty then write "\n"
  else
    let line := (Text.ofString line).trim
    if line.isEmpty then converse prepare input plan
    else
      let reply := Console.reply prepare plan line
      reply.writes.forM write
      unless reply.quits do converse prepare input reply.plan

def runConsole (place : Surroundings) (i : Invocation) : IO UInt32 := do
  match i.openingSignature place with
  | .error f => fail f
  | .ok opening =>
      let prepare := i.flags.prepare place.files
      let first := Console.start prepare opening
      first.writes.forM write
      write Console.greeting
      converse prepare (← IO.getStdin) first.plan
      return 0

def run (i : Invocation) : IO UInt32 := do
  let files ← gather (Text.ofString (← IO.currentDir).toString) i
  let input ← if i.flags.file = Invocation.standardInput then readAll (← IO.getStdin) .empty
    else pure .empty
  let place : Surroundings := { files, input := input.toList }
  if i.command = some .repl && !i.wantsHelp then runConsole place i
  else
    match i.run place with
    | .ok text => do
        write text
        return 0
    | .error f => fail f

end CallPlan.Main

def main (args : List String) : IO UInt32 :=
  match CallPlan.Invocation.read (args.map CallPlan.Text.ofString) with
  | .error e => CallPlan.Main.fail (.ofText e.message)
  | .ok invocation => CallPlan.Main.run invocation
