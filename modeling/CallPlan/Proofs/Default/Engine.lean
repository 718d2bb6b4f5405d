import CallPlan.Engine.Select
import CallPlan.Plan.Compile
import CallPlan.Proofs.Data.Except
import CallPlan.Proofs.Data.Growth

/-!
What calls rely on when they evaluate a default. Evaluation adds storage and assigns none, and names no
storage but what its variables lead to and what it adds. A default may still be one of its variables
itself. The engines of all dialects see their variables as plain data, and so keep to this.
-/

namespace CallPlan

namespace Expression

/-- Evaluation adds storage and assigns none. -/
def Allocates (e : Expression) : Prop :=
  ∀ store vars value after, e.eval store vars = .ok (value, after) → store.Extends after

/-- Evaluation names no storage but what its variables lead to and what it adds. -/
def Confined (e : Expression) : Prop :=
  ∀ store vars value after, e.eval store vars = .ok (value, after) →
    ∀ known, store.Closed known → (∀ entry ∈ vars, entry.2.Within known) →
      store.Grows known after ∧ value.Within (store.Given known after)

theorem Confined.allocates {e : Expression} (confined : e.Confined) : e.Allocates := by
  intro store vars value after run
  have everything : store.Closed fun _ => True := fun _ _ _ _ _ _ _ _ => trivial
  exact (confined store vars value after run _ everything fun _ _ _ _ => trivial).1.kept

theorem ofData_confined (source : Text) (eval : Entries Datum → Except EvalFailure Datum) :
    (ofData source eval).Confined := by
  intro store vars value after run known _ _
  simp only [ofData, except_bind_ok] at run
  obtain ⟨datum, _, written⟩ := run
  have grown := Store.write_grows known store datum
  rwa [Except.ok.inj written] at grown

end Expression

namespace Engine

def Allocates (engine : Engine) : Prop :=
  ∀ source visible e, engine.compile source visible = .ok e → e.Allocates

def Confined (engine : Engine) : Prop :=
  ∀ source visible e, engine.compile source visible = .ok e → e.Confined

theorem Confined.allocates {engine : Engine} (confined : engine.Confined) : engine.Allocates :=
  fun source visible e compiled => (confined source visible e compiled).allocates

end Engine

/-- Every expression of the engine sees plain data and gives plain data back. -/
def Engine.OfData (engine : Engine) : Prop :=
  ∀ source visible e, engine.compile source visible = .ok e → ∃ name eval, e = .ofData name eval

theorem Engine.OfData.confined {engine : Engine} (plain : engine.OfData) : engine.Confined := by
  intro source visible e compiled
  obtain ⟨name, eval, rfl⟩ := plain source visible e compiled
  exact Expression.ofData_confined name eval

theorem Starlark.engine_ofData (maxSteps : Nat) : (engine maxSteps).OfData := by
  intro source visible e compiled
  simp only [engine] at compiled
  split at compiled
  · cases compiled
  · split at compiled
    · cases compiled
    · split at compiled
      · cases compiled
        exact ⟨_, _, rfl⟩
      · cases compiled

theorem Risor.engine_ofData (names : List Text) (globals : Entries Datum) :
    (engine names globals).OfData := by
  intro source visible e compiled
  simp only [engine] at compiled
  split at compiled
  · cases compiled
  · split at compiled
    · cases compiled
    · split at compiled
      · cases compiled
        exact ⟨_, _, rfl⟩
      · cases compiled

theorem Hcl.engine_ofData (extra : Entries Function) : (engine extra).OfData := by
  intro source visible e compiled
  simp only [engine] at compiled
  split at compiled
  · cases compiled
  · split at compiled
    · cases compiled
    · split at compiled
      · cases compiled
      · split at compiled
        · cases compiled
          exact ⟨_, _, rfl⟩
        · cases compiled

theorem Extism.engine_ofData (p : Plugin) : (engine p).OfData := by
  intro source visible e compiled
  simp only [engine, except_bind_ok] at compiled
  obtain ⟨name, _, made⟩ := compiled
  cases made
  exact ⟨_, _, rfl⟩

/-- The engine of every dialect sees plain data only. -/
theorem Config.dialectEngine_ofData {files : Files} {c : Config} {dialect : Dialect}
    {engine : Engine} (chosen : c.dialectEngine files dialect = .ok engine) : engine.OfData := by
  cases dialect with
  | starlark =>
      cases chosen
      exact Starlark.engine_ofData 0
  | risor =>
      cases chosen
      exact Risor.engine_ofData [] []
  | hcl =>
      cases chosen
      exact Hcl.engine_ofData []
  | extism =>
      simp only [dialectEngine] at chosen
      split at chosen
      · cases chosen
      · simp only [except_bind_ok] at chosen
        obtain ⟨_, _, plugin, _, made⟩ := chosen
        cases made
        exact Extism.engine_ofData plugin

theorem Config.dialectEngine_confined {files : Files} {c : Config} {dialect : Dialect}
    {engine : Engine} (chosen : c.dialectEngine files dialect = .ok engine) : engine.Confined :=
  (dialectEngine_ofData chosen).confined

namespace PlanOptions

variable {settings : PlanOptions}

/-- The engine of a plan evaluates defaults without assigning to storage. -/
def Allocates (settings : PlanOptions) : Prop :=
  ∀ engine, settings.engine = some engine → engine.Allocates

/-- The engine of a plan names no storage in a default but what its variables lead to. -/
def Confined (settings : PlanOptions) : Prop :=
  ∀ engine, settings.engine = some engine → engine.Confined

theorem Confined.allocates (confined : settings.Confined) : settings.Allocates :=
  fun engine chosen => (confined engine chosen).allocates

/-- A plan with the engine of a dialect keeps to both. -/
theorem Confined.of_dialect {files : Files} {c : Config} {dialect : Dialect} {engine : Engine}
    (chosen : c.dialectEngine files dialect = .ok engine) (given : settings.engine = some engine) :
    settings.Confined := by
  intro other same
  cases given.symm.trans same
  exact Config.dialectEngine_confined chosen

/-- A plan with Starlark defaults. -/
def starlark : PlanOptions := { engine := some (Starlark.engine 0) }

theorem starlark_confined : starlark.Confined :=
  have chosen : Config.initial.dialectEngine {} .starlark = .ok (Starlark.engine 0) := rfl
  .of_dialect chosen rfl

end PlanOptions
end CallPlan
