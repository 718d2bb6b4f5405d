import CallPlan.Condition

/-!
The failure of a call: what went wrong, in the call of which routine, and from where.
-/

namespace CallPlan

/-- The routine being called, and where it is called from. -/
structure Site where
  routine : Text := []
  file : Text := []
  line : Int := 0
deriving DecidableEq, Repr

structure CallError where
  kind : Condition
  site : Site := {}
  param : Text := []
  keys : List Text := []
  suggestion : Text := []
  cause : Option Cause := none
deriving DecidableEq, Repr

namespace CallError

def routineName (e : CallError) : Text :=
  if e.site.routine.isEmpty then "__ANON__" else e.site.routine

def suggestionNote (e : CallError) : Text :=
  if e.suggestion.isEmpty then [] else " (did you mean " ++ e.suggestion ++ "?)"

def paramNote (e : CallError) : Text :=
  if e.param.isEmpty then [] else " for " ++ e.param

def causeNote (e : CallError) : Text :=
  match e.cause with
  | some cause => ": " ++ cause.text
  | none => []

def complaint (e : CallError) : Text :=
  match e.kind with
  | .missingArgument => "missing required argument " ++ e.param
  | .unexpectedNamedArgument =>
      "does not take " ++ Text.join ", " e.keys ++ " as named argument" ++
        (if e.keys.length > 1 then Text.ofString "s" else []) ++ e.suggestionNote
  | kind => kind.message ++ e.paramNote ++ e.causeNote

def siteNote (e : CallError) : Text :=
  if e.site.file.isEmpty then [] else " at " ++ e.site.file ++ " line " ++ Text.ofInt e.site.line

def message (e : CallError) : Text :=
  "In call to " ++ e.routineName ++ "(), " ++ e.complaint ++ e.siteNote

def conditions (e : CallError) : List Condition :=
  e.kind :: (e.cause.map Cause.conditions).getD []

end CallError
end CallPlan
