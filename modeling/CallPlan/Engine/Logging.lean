import CallPlan.Condition

/-!
What callers may tell an engine about logging. Engines do not show their logs here; what matters is
that nothing is never taken for a log.
-/

namespace CallPlan

inductive LogSetting where
  | handler (given : Bool)
  | logger (given : Bool)
deriving DecidableEq, Repr

namespace LogSetting

def complaint? : LogSetting → Option Text
  | .handler given => if given then none else some "log handler cannot be nil"
  | .logger given => if given then none else some "logger cannot be nil"

/-- A setting of an engine that cannot be taken. -/
def refused (complaint : Text) : Cause :=
  .within "error applying compiler option" (.message complaint)

/-- Accepts the settings, or refuses the first that names no log. -/
def check (settings : List LogSetting) : Except Cause Unit :=
  match settings.findSome? complaint? with
  | some complaint => .error (refused complaint)
  | none => .ok ()

end LogSetting
end CallPlan
