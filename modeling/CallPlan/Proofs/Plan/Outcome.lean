import CallPlan.Plan.Bind

/-!
What the computations of a call lead to. A statement about a computation is turned, one operation at a
time, into a statement about the session it starts from.
-/

namespace CallPlan

/-- From a session, a computation leads to a value and a session with the first property, or to a
failure and a session with the second. -/
def Leads {α : Type} (m : BindM α) (session : Session) (done : α → Session → Prop)
    (failed : BindFailure → Session → Prop) : Prop :=
  match m.run.run session with
  | (.ok value, after) => done value after
  | (.error failure, after) => failed failure after

namespace Leads

variable {α β : Type} {m : BindM α} {session : Session} {done : α → Session → Prop}
  {failed : BindFailure → Session → Prop}

theorem of_ok {value : α} {after : Session} (leads : Leads m session done failed)
    (run : m.run.run session = (.ok value, after)) : done value after := by
  simpa only [Leads, run] using leads

theorem of_error {failure : BindFailure} {after : Session} (leads : Leads m session done failed)
    (run : m.run.run session = (.error failure, after)) : failed failure after := by
  simpa only [Leads, run] using leads

theorem mono {done' : α → Session → Prop} {failed' : BindFailure → Session → Prop}
    (leads : Leads m session done failed) (values : ∀ a after, done a after → done' a after)
    (failures : ∀ e after, failed e after → failed' e after) : Leads m session done' failed' := by
  unfold Leads at leads ⊢
  rcases run : m.run.run session with ⟨outcome, after⟩
  cases outcome with
  | ok value => exact values value after (by simpa only [run] using leads)
  | error failure => exact failures failure after (by simpa only [run] using leads)

theorem with_run (leads : Leads m session done failed) :
    Leads m session (fun a after => m.run.run session = (.ok a, after) ∧ done a after)
      (fun e after => m.run.run session = (.error e, after) ∧ failed e after) := by
  unfold Leads at leads ⊢
  rcases run : m.run.run session with ⟨outcome, after⟩
  cases outcome with
  | ok value => exact ⟨rfl, by simpa only [run] using leads⟩
  | error failure => exact ⟨rfl, by simpa only [run] using leads⟩

theorem and {done' : α → Session → Prop} {failed' : BindFailure → Session → Prop}
    (first : Leads m session done failed) (second : Leads m session done' failed') :
    Leads m session (fun a after => done a after ∧ done' a after)
      (fun e after => failed e after ∧ failed' e after) := by
  unfold Leads at first second ⊢
  rcases run : m.run.run session with ⟨outcome, after⟩
  simp only [run] at first second
  cases outcome <;> exact ⟨first, second⟩

@[simp] theorem bind_iff {next : α → BindM β} {done : β → Session → Prop} :
    Leads (m >>= next) session done failed ↔
      Leads m session (fun a after => Leads (next a) after done failed) failed := by
  unfold Leads
  simp only [ExceptT.run_bind, StateT.run_bind]
  rcases m.run.run session with ⟨outcome, after⟩
  cases outcome <;> rfl

@[simp] theorem pure_iff {a : α} : Leads (pure a) session done failed ↔ done a session := Iff.rfl

@[simp] theorem get_iff {done : Session → Session → Prop} :
    Leads get session done failed ↔ done session session := Iff.rfl

@[simp] theorem modify_iff {change : Session → Session} {done : PUnit → Session → Prop} :
    Leads (modify change) session done failed ↔ done ⟨⟩ (change session) := Iff.rfl

@[simp] theorem fault_iff {fault : Fault} :
    Leads (Plan.Call.fault fault) session done failed ↔ failed (.fault fault) session := Iff.rfl

@[simp] theorem fail_iff {c : Plan.Call} {step : Step} {cause : Cause} :
    Leads (c.fail step cause) session done failed ↔ failed (.refused {
      kind := .defaultFailed, site := c.site, param := step.param.display, cause := some cause })
        session := Iff.rfl

@[simp] theorem record_iff {event : Event} {done : Unit → Session → Prop} :
    Leads (Plan.Call.record event) session done failed ↔
      done () { session with events := session.events ++ [event] } := Iff.rfl

@[simp] theorem setStore_iff {store : Store} {done : Unit → Session → Prop} :
    Leads (Plan.Call.setStore store) session done failed ↔ done () { session with store } := Iff.rfl

end Leads
end CallPlan
