import CallPlan.Command.Prepared

/-!
A conversation with the user, line by line. A line compiles a signature, is a request to the console
itself, or is a list of arguments for the plan in force.
-/

namespace CallPlan

/-- What a line asks for. -/
inductive Request where
  | quit
  | help
  | signature (text : Text)
  | plan
  | unknown (word : Text)
  /-- Arguments for the plan in force, or a signature where there is none. -/
  | plain (line : Text)
deriving DecidableEq, Repr

/-- Reads a line. A request to the console itself starts with a colon. -/
def Request.ofLine (line : Text) : Request :=
  let (word, rest) := line.cut ' '
  if word.head? ≠ some (.char ':') then .plain line
  else if word = ":quit" || word = ":q" then .quit
  else if word = ":help" then .help
  else if word = ":sig" then .signature (rest.getD [])
  else if word = ":plan" then .plan
  else .unknown word

/-- A compiler of signatures, fixed for the whole conversation. -/
abbrev Preparation := Text → Except Failure Prepared

namespace Console

/-- What a line leads to: what is written, the plan in force from then on, and whether the
conversation is over. -/
structure Reply where
  writes : List Text := []
  plan : Option Prepared
  quits : Bool := false

def helpText : Text :=
  ["Commands:",
    "  :sig TEXT   compile TEXT as the current signature",
    "  :plan       print the binding plan of the current signature",
    "  :help       show this help",
    "  :quit       exit",
    "Any other line is an argument list, either a JSON array or space separated values."].flatMap
    fun line => Text.ofString line ++ "\n"

def complaint (failure : Failure) : Text := "error: " ++ failure.message ++ "\n"

/-- Puts a signature in force. One that does not compile leaves the old plan. -/
def setSignature (prepare : Preparation) (plan : Option Prepared) (text : Text) : Reply :=
  match prepare text with
  | .error failure => { writes := [complaint failure], plan }
  | .ok prepared =>
      let p := prepared.plan
      { writes := ["signature (" ++ p.signature.render ++ ") compiled, plan " ++ p.id ++ "\n"]
        plan := some prepared }

/-- Answers a line of arguments. -/
def answer (prepared : Prepared) (line : Text) : Reply :=
  match Argument.readLine line with
  | .error cause => { writes := [complaint (.other cause)], plan := some prepared }
  | .ok args =>
      match prepared.bind args with
      | (.ok lines, after) => { writes := lines, plan := some after }
      | (.error failure, after) => { writes := [complaint failure], plan := some after }

/-- Answers a line that is not blank. -/
def reply (prepare : Preparation) (plan : Option Prepared) (line : Text) : Reply :=
  match Request.ofLine line, plan with
  | .quit, _ => { plan, quits := true }
  | .help, _ => { writes := [helpText], plan }
  | .signature text, _ => setSignature prepare plan text
  | .plan, none => { writes := ["no signature, use :sig TEXT\n"], plan }
  | .plan, some prepared => { writes := [prepared.plan.render], plan }
  | .unknown word, _ => { writes := ["unknown command " ++ word ++ ", type :help\n"], plan }
  | .plain line, none => setSignature prepare plan line
  | .plain line, some prepared => answer prepared line

/-- What the user is asked for. -/
def prompt : Option Prepared → Text
  | none => "sig> "
  | some _ => "args> "

def greeting : Text := "sigil repl, :help for commands\n"

/-- How the lines end: there are no more, or they cannot be read. -/
abbrev Ending := Except Text Unit

/-- All that happens in a conversation. -/
structure Transcript where
  writes : List Text := []
  prompts : List Text := []
  /-- The lines that were answered, without the blanks around them. -/
  history : List Text := []
  /-- The lines after the one that ended the conversation. -/
  unread : List Text := []
  plan : Option Prepared
  ending : Ending := .ok ()

/-- What is written when the lines end. -/
def farewell : Ending → List Text
  | .ok () => ["\n"]
  | .error _ => []

/-- The conversation from a plan on. -/
def converse (prepare : Preparation) (ending : Ending) (plan : Option Prepared) :
    List Text → Transcript
  | [] => { writes := farewell ending, prompts := [prompt plan], plan, ending }
  | line :: rest =>
      let line := line.trim
      if line.isEmpty then
        let later := converse prepare ending plan rest
        { later with prompts := prompt plan :: later.prompts }
      else
        let reply := reply prepare plan line
        if reply.quits then
          { writes := reply.writes, prompts := [prompt plan], history := [line], unread := rest
            plan := reply.plan }
        else
          let later := converse prepare ending reply.plan rest
          { later with
            writes := reply.writes ++ later.writes
            prompts := prompt plan :: later.prompts
            history := line :: later.history }

/-- How a conversation starts: with a signature in force, if one is given. -/
def start (prepare : Preparation) (signature : Option Text) : Reply :=
  match signature with
  | some text => setSignature prepare none text
  | none => { plan := none }

/-- A whole conversation. A signature given in advance is put in force before the greeting. -/
def run (prepare : Preparation) (signature : Option Text) (ending : Ending) (lines : List Text) :
    Transcript :=
  let first := start prepare signature
  let transcript := converse prepare ending first.plan lines
  { transcript with writes := first.writes ++ greeting :: transcript.writes }

end Console
end CallPlan
