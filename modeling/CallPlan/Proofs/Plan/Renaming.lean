import CallPlan.Plan.Bind
import CallPlan.Proofs.Data.Except
import CallPlan.Proofs.Data.Reading
import CallPlan.Proofs.Default.Engine

/-!
Calls do not depend on how cells are numbered. On arguments that are the same in storage that is the
same under other numbers, a call fails in the same way, or makes the same bindings under those numbers.
-/

namespace CallPlan

/-- Two outcomes that are the same failure, or related results. -/
inductive Alike {ε α β : Type} (related : α → β → Prop) : Except ε α → Except ε β → Prop
  | ok {a : α} {b : β} (results : related a b) : Alike related (.ok a) (.ok b)
  | error (e : ε) : Alike related (.error e) (.error e)

theorem Alike.bind {ε α β γ δ : Type} {related : α → β → Prop} {later : γ → δ → Prop}
    {x : Except ε α} {y : Except ε β} {next : α → Except ε γ} {next' : β → Except ε δ}
    (first : Alike related x y) (rest : ∀ a b, related a b → Alike later (next a) (next' b)) :
    Alike later (x >>= next) (y >>= next') := by
  cases first with
  | ok results => exact rest _ _ results
  | error e => exact .error e

namespace Expression

/-- Evaluation does not depend on the numbers of cells, or on cells that its storage does not have. -/
def Equivariant (e : Expression) : Prop :=
  ∀ ρ store other vars, store.Renames ρ other →
    Alike (Store.Corresponds ρ) (e.eval store vars) (e.eval other (vars.mapValues (Value.rename ρ)))

/-- An expression that is a function of its variables. Its value may be one of them, in their storage. -/
structure Functional (e : Expression) : Prop where
  allocates : e.Allocates
  equivariant : e.Equivariant

end Expression

def Engine.Functional (engine : Engine) : Prop :=
  ∀ source visible e, engine.compile source visible = .ok e → e.Functional

/-- An expression that reads its variables completely and writes what it gives is a function of them. -/
theorem Expression.ofData_functional (source : Text) (eval : Entries Datum → Except EvalFailure Datum) :
    (ofData source eval).Functional where
  allocates := (ofData_confined source eval).allocates
  equivariant := by
    intro ρ store other vars renames
    have same : (vars.mapValues (Value.rename ρ)).map (fun entry => (entry.1, other.read entry.2)) =
        vars.map fun entry => (entry.1, store.read entry.2) := by
      simp only [Entries.mapValues, List.map_map, Function.comp_def, renames.read]
    simp only [ofData, same]
    cases eval (vars.map fun entry => (entry.1, store.read entry.2)) with
    | error failure => exact .error failure
    | ok datum => exact .ok (renames.write datum)

theorem Engine.OfData.functional {engine : Engine} (plain : engine.OfData) : engine.Functional := by
  intro source visible e compiled
  obtain ⟨name, eval, rfl⟩ := plain source visible e compiled
  exact Expression.ofData_functional name eval

def Content.rename (ρ : Nat → Nat) : Content → Content
  | .own value => .own (value.rename ρ)
  | .ref type place => .ref type (place.rename ρ)
  | .shared view => .shared (view.rename ρ)

def Binding.rename (ρ : Nat → Nat) (b : Binding) : Binding := { b with content := b.content.rename ρ }

def Bindings.rename (ρ : Nat → Nat) (b : Bindings) : Bindings where
  entries := b.entries.mapValues (Binding.rename ρ)
  args := b.args.rename ρ
  invocant := b.invocant.map (Value.rename ρ)

variable {ρ : Nat → Nat} {store other : Store}

theorem Binding.get_rename (renames : store.Renames ρ other) (b : Binding) :
    Alike (Store.Corresponds ρ) (b.get store) ((b.rename ρ).get other) := by
  have given : ∀ value : Value, Store.Corresponds ρ
      (if b.mode = .readOnly then store.clone value else (value, store))
      (if b.mode = .readOnly then other.clone (value.rename ρ) else (value.rename ρ, other)) := by
    intro value
    split
    · exact renames.clone value
    · exact ⟨rfl, renames⟩
  unfold get
  cases content : b.content with
  | own value =>
      simp only [Binding.rename, content, Content.rename]
      exact .ok (given value)
  | shared view =>
      simp only [Binding.rename, content, Content.rename]
      exact .ok ⟨rfl, renames⟩
  | ref type place =>
      simp only [Binding.rename, content, Content.rename, renames.load?]
      cases store.load? place with
      | none => exact .error Fault.noTarget
      | some value => exact .ok (given value)

theorem Bindings.valuesOf_rename (renames : store.Renames ρ other) (bound : Entries Binding) :
    Alike (fun result result' => result'.1 = result.1.mapValues (Value.rename ρ) ∧
        result.2.Renames ρ result'.2)
      (valuesOf store bound) (valuesOf other (bound.mapValues (Binding.rename ρ))) := by
  induction bound generalizing store other with
  | nil => exact .ok ⟨rfl, renames⟩
  | cons entry rest ih =>
      obtain ⟨name, binding⟩ := entry
      refine (Binding.get_rename renames binding).bind fun result result' first => ?_
      refine (ih first.store).bind fun values values' others => ?_
      refine .ok ⟨?_, others.2⟩
      rw [others.1, first.value]
      rfl

namespace Bindings

theorem lookup?_rename (b : Bindings) (name : Text) :
    (b.rename ρ).lookup? name = (b.lookup? name).map (Binding.rename ρ) := by
  have has : ∀ key, (b.rename ρ).entries.has key = b.entries.has key := by
    intro key
    simp only [rename, Entries.has, Entries.get?_mapValues, Option.isSome_map]
  have resolved : (b.rename ρ).resolve? name = b.resolve? name := by
    simp only [resolve?, has]
  simp only [lookup?, resolved]
  cases b.resolve? name with
  | none => rfl
  | some key => exact Entries.get?_mapValues (Binding.rename ρ) b.entries key

theorem mode?_rename (b : Bindings) (name : Text) : (b.rename ρ).mode? name = b.mode? name := by
  simp only [mode?, lookup?_rename, Option.map_map]
  rfl

theorem supplied_rename (b : Bindings) (name : Text) : (b.rename ρ).supplied name = b.supplied name := by
  simp only [supplied, lookup?_rename, Option.any_map]
  rfl

/-- What is bound to a name corresponds, where the name is bound. -/
theorem get?_rename (renames : store.Renames ρ other) (b : Bindings) (name : Text) :
    Alike (fun result result' => Store.Corresponds ρ (result.getD (.null, store)) (result'.getD (.null, other)))
      (b.get? store name) ((b.rename ρ).get? other name) := by
  simp only [get?, lookup?_rename]
  cases b.lookup? name with
  | none => exact .ok ⟨rfl, renames⟩
  | some binding => exact (Binding.get_rename renames binding).bind fun _ _ results => .ok results

end Bindings

theorem Arguments.offsetsFrom_rename : ∀ (position : Nat) (values : List Value),
    offsetsFrom position (values.map (Value.rename ρ)) = offsetsFrom position values
  | _, [] => rfl
  | _, [_] => rfl
  | position, key :: _ :: rest => by
      have later := offsetsFrom_rename (position + 2) rest
      simp only [List.map_cons, offsetsFrom, Value.text?_rename, Value.type?_rename, later]

theorem Arguments.pairs_rename (tail : List Value) :
    pairs (tail.map (Value.rename ρ)) = pairs tail := by
  simp only [pairs, List.length_map, offsetsFrom_rename]

theorem Arguments.checkRef_rename (sigil : Sigil) (value : Value) :
    checkRef sigil (value.rename ρ) = checkRef sigil value := by
  cases value <;> rfl

namespace Plan

variable {plan : Plan} {site : Site} {args : List Value} {c : Checked}

def Checked.rename (ρ : Nat → Nat) (c : Checked) : Checked :=
  { c with rest := c.rest.map (Value.rename ρ) }

theorem keysOf_rename : ∀ values : List Value,
    keysOf (values.map (Value.rename ρ)) = keysOf values
  | [] => rfl
  | [_] => rfl
  | key :: _ :: rest => by
      have later := keysOf_rename rest
      simp only [List.map_cons, keysOf, Value.text?_rename, later]

theorem checkPresent_rename (p : Param) (value : Value) :
    checkPresent site p (value.rename ρ) = checkPresent site p value := by
  simp only [checkPresent, Arguments.checkRef_rename]

theorem checkScalar_rename (step : Step) (value : Option Value) :
    checkScalar site step (value.map (Value.rename ρ)) = checkScalar site step value := by
  cases value with
  | none => rfl
  | some value => exact checkPresent_rename step.param value

theorem checkUnknown_rename (rest : List Value) :
    plan.checkUnknown site (rest.map (Value.rename ρ)) = plan.checkUnknown site rest := by
  simp only [checkUnknown, ← List.map_drop, keysOf_rename]

theorem checkStep_rename (step : Step) :
    plan.checkStep site (args.map (Value.rename ρ)) (c.rename ρ) step =
      (plan.checkStep site args c step).map (Checked.rename ρ) := by
  cases kind : step.kind with
  | invocant =>
      simp only [checkStep, kind]
      cases args <;> rfl
  | positional =>
      simp only [checkStep, kind, Checked.rename, List.getElem?_map, checkScalar_rename]
      cases checkScalar site step c.rest[step.index]? <;> rfl
  | slurpy =>
      simp only [checkStep, kind, Checked.rename, ← List.map_drop, Arguments.pairs_rename]
      split
      · cases Arguments.pairs (c.rest.drop step.index) <;> rfl
      · rfl
  | collectNamed =>
      simp only [checkStep, kind, Checked.rename, ← List.map_drop, Arguments.pairs_rename]
      cases Arguments.pairs (c.rest.drop step.index) <;> rfl
  | named =>
      simp only [checkStep, kind, Checked.rename, List.getElem?_map]
      cases c.named.get? step.param.name with
      | none => cases checkScalar site step none <;> rfl
      | some offset =>
          cases found : c.rest[offset + 1]? with
          | none => simp [found, Except.map]
          | some value =>
              simp only [found, Option.map_some, checkPresent_rename]
              cases checkPresent site step.param value <;> rfl
  | rejectUnknown =>
      simp only [checkStep, kind, Checked.rename, checkUnknown_rename]
      cases plan.checkUnknown site c.rest <;> rfl

theorem checkSteps_rename (steps : List Step) :
    plan.checkSteps site (args.map (Value.rename ρ)) (c.rename ρ) steps =
      (plan.checkSteps site args c steps).map (Checked.rename ρ) := by
  induction steps generalizing c with
  | nil => rfl
  | cons step rest ih =>
      simp only [checkSteps, checkStep_rename]
      cases plan.checkStep site args c step with
      | error failure => rfl
      | ok next => exact ih

/-- The checks look at texts, types and numbers of arguments only. -/
theorem check_rename (ρ : Nat → Nat) (plan : Plan) (site : Site) (args : List Value) :
    plan.check site (args.map (Value.rename ρ)) = (plan.check site args).map (Checked.rename ρ) := by
  have steps : plan.checkSteps site (args.map (Value.rename ρ)) { rest := args.map (Value.rename ρ) }
      plan.steps = (plan.checkSteps site args { rest := args } plan.steps).map (Checked.rename ρ) :=
    checkSteps_rename (c := { rest := args }) plan.steps
  rw [check, check, steps]
  cases plan.checkSteps site args { rest := args } plan.steps with
  | error failure => rfl
  | ok c =>
      have arity : plan.checkArity site (c.rename ρ).rest = plan.checkArity site c.rest := by
        simp only [checkArity, Checked.rename, List.length_map]
      simp only [Except.map, except_ok_bind, arity]
      cases plan.checkArity site c.rest <;> rfl

end Plan

/-- The sessions of two calls that have gone the same way. -/
structure Session.Renames (ρ : Nat → Nat) (session other : Session) : Prop where
  store : session.store.Renames ρ other.store
  data : other.scopeData = session.scopeData.map (Entries.mapValues (Value.rename ρ))

/-- From sessions that went the same way, two computations go the same way, and what one gives is what
the other gives under the new numbers. -/
def Mirrors {α : Type} (ρ : Nat → Nat) (move : α → α) (m m' : BindM α) : Prop :=
  ∀ session other, session.Renames ρ other →
    Alike (fun a b => b = move a) (m.run.run session).1 (m'.run.run other).1 ∧
      (m.run.run session).2.Renames ρ (m'.run.run other).2

namespace Mirrors

variable {α β : Type} {move : α → α} {move' : β → β}

theorem pure {a b : α} (same : b = move a) : Mirrors ρ move (Pure.pure a) (Pure.pure b) :=
  fun _ _ renames => ⟨.ok same, renames⟩

theorem bind {m m' : BindM α} {next next' : α → BindM β} (first : Mirrors ρ move m m')
    (rest : ∀ a, Mirrors ρ move' (next a) (next' (move a))) :
    Mirrors ρ move' (m >>= next) (m' >>= next') := by
  intro session other renames
  have start := first session other renames
  simp only [ExceptT.run_bind, StateT.run_bind]
  generalize m.run.run session = left at start ⊢
  generalize m'.run.run other = right at start ⊢
  obtain ⟨outcome, middle⟩ := left
  obtain ⟨outcome', middle'⟩ := right
  obtain ⟨alike, reached⟩ := start
  cases alike with
  | ok same =>
      subst same
      exact rest _ middle middle' reached
  | error e => exact ⟨.error e, reached⟩

theorem get_bind {next next' : Session → BindM β}
    (rest : ∀ session other, session.Renames ρ other → Mirrors ρ move' (next session) (next' other)) :
    Mirrors ρ move' (get >>= next) (get >>= next') :=
  fun session other renames => rest session other renames session other renames

theorem fail (e : BindFailure) : Mirrors ρ move (throw e) (throw e) :=
  fun _ _ renames => ⟨.error e, renames⟩

/-- What is recorded is no part of how a call goes. -/
theorem record (event event' : Event) :
    Mirrors ρ id (Plan.Call.record event) (Plan.Call.record event') :=
  fun _ _ renames => ⟨.ok rfl, renames.store, renames.data⟩

theorem setStore {store other : Store} (renames : store.Renames ρ other) :
    Mirrors ρ id (Plan.Call.setStore store) (Plan.Call.setStore other) :=
  fun _ _ earlier => ⟨.ok rfl, renames, earlier.data⟩

end Mirrors

namespace Plan.Call

variable {c : Call} {step : Step} {bound : Entries Binding} {data : Entries Value}

def rename (ρ : Nat → Nat) (c : Call) : Call :=
  { c with args := c.args.rename ρ, rest := c.rest.rename ρ }

/-- The scope of a call is fixed data, whose cells keep their numbers. -/
structure Fixed (ρ : Nat → Nat) (c : Call) (data : Entries Value) : Prop where
  static : c.plan.scope = .static data
  same : data.mapValues (Value.rename ρ) = data

theorem scopeData_mirrors (fixed : c.Fixed ρ data) :
    Mirrors ρ (Entries.mapValues (Value.rename ρ)) (c.scopeData step) ((c.rename ρ).scopeData step) := by
  refine .get_bind fun session other renames => ?_
  rw [renames.data]
  cases session.scopeData with
  | some found => exact .pure rfl
  | none =>
      refine (Mirrors.record _ _).bind fun _ => .get_bind fun _ _ _ => ?_
      simp only [rename, fixed.static, Scope.data]
      intro session other renames
      exact ⟨.ok fixed.same.symm, renames.store, congrArg some fixed.same.symm⟩

theorem vars_mirrors (fixed : c.Fixed ρ data) :
    Mirrors ρ (Entries.mapValues (Value.rename ρ)) (c.vars step bound)
      ((c.rename ρ).vars step (bound.mapValues (Binding.rename ρ))) := by
  refine (scopeData_mirrors fixed).bind fun found => .get_bind fun session other renames => ?_
  have read := Bindings.valuesOf_rename renames.store bound
  generalize Bindings.valuesOf session.store bound = values at read ⊢
  generalize Bindings.valuesOf other.store (bound.mapValues (Binding.rename ρ)) = values' at read ⊢
  cases read with
  | error f => exact .fail _
  | ok results =>
      refine (Mirrors.setStore results.2).bind fun _ => .pure ?_
      rw [results.1]
      exact Entries.merge_mapValues (Value.rename ρ) found _

theorem evalDefault_mirrors {e : Expression} (fixed : c.Fixed ρ data) (equivariant : e.Equivariant) :
    Mirrors ρ (Value.rename ρ) (c.evalDefault step e bound)
      ((c.rename ρ).evalDefault step e (bound.mapValues (Binding.rename ρ))) := by
  refine (vars_mirrors fixed).bind fun vars => ?_
  refine (Mirrors.record _ _).bind fun _ => .get_bind fun session other renames => ?_
  have run := equivariant ρ session.store other.store vars renames.store
  generalize e.eval session.store vars = outcome at run ⊢
  generalize e.eval other.store (vars.mapValues (Value.rename ρ)) = outcome' at run ⊢
  cases run with
  | ok results => exact (Mirrors.setStore results.store).bind fun _ => .pure results.value
  | error failure =>
      cases failure with
      | cause cause => exact .fail _
      | fault fault => exact .fail _

theorem absentValue_mirrors (fixed : c.Fixed ρ data)
    (equivariant : ∀ e, step.default? = some e → e.Equivariant) :
    Mirrors ρ (Value.rename ρ) (c.absentValue step bound)
      ((c.rename ρ).absentValue step (bound.mapValues (Binding.rename ρ))) := by
  unfold absentValue
  cases given : step.default? with
  | none => exact .pure rfl
  | some e =>
      simp only
      split
      · exact .pure rfl
      · exact evalDefault_mirrors fixed (equivariant e given)

theorem cloned_mirrors (value : Value) :
    Mirrors ρ (Value.rename ρ) (cloned value) (cloned (value.rename ρ)) := by
  refine .get_bind fun session other renames => ?_
  have copies := renames.store.clone value
  exact (Mirrors.setStore copies.store).bind fun _ => .pure copies.value

theorem freshRef_mirrors (value : Value) :
    Mirrors ρ (Content.rename ρ) (freshRef value) (freshRef (value.rename ρ)) := by
  refine .get_bind fun session other renames => ?_
  refine (Mirrors.setStore (renames.store.alloc (.variable value))).bind fun _ => .pure ?_
  exact congrArg (fun cell => Content.ref .any (.variable cell)) renames.store.fresh_size.symm

theorem target_mirrors (value : Value) :
    Mirrors ρ (Value.rename ρ) (target value) (target (value.rename ρ)) := by
  cases value with
  | pointer type place =>
      refine .get_bind fun session other renames => ?_
      simp only [renames.store.load?]
      cases session.store.load? place with
      | none => exact .fail _
      | some value => exact .pure rfl
  | plain datum => exact .fail _
  | list view => exact .fail _
  | dict cell => exact .fail _

theorem owned_mirrors (value : Value) : Mirrors ρ (Content.rename ρ)
    (do return .own (← cloned value)) (do return .own (← cloned (value.rename ρ))) :=
  (cloned_mirrors value).bind fun _ => .pure rfl

theorem bindAbsent_mirrors (fixed : c.Fixed ρ data)
    (equivariant : ∀ e, step.default? = some e → e.Equivariant) :
    Mirrors ρ (Content.rename ρ) (c.bindAbsent step bound)
      ((c.rename ρ).bindAbsent step (bound.mapValues (Binding.rename ρ))) := by
  refine (absentValue_mirrors fixed equivariant).bind fun value => ?_
  split
  · exact freshRef_mirrors value
  · exact owned_mirrors value

theorem bindPresent_mirrors (index : Nat) :
    Mirrors ρ (Content.rename ρ) (c.bindPresent step index) ((c.rename ρ).bindPresent step index) := by
  refine .get_bind fun session other renames => ?_
  simp only [rename, renames.store.items, List.getElem?_map]
  cases (session.store.items c.rest)[index]? with
  | none => exact .fail _
  | some value =>
      simp only [Option.map_some]
      split
      · split
        · cases value with
          | pointer type place => exact .pure rfl
          | plain datum => exact .fail _
          | list view => exact .fail _
          | dict cell => exact .fail _
        · exact .pure rfl
      · split
        · exact (target_mirrors value).bind fun target => owned_mirrors target
        · exact owned_mirrors value

theorem bindScalar_mirrors (fixed : c.Fixed ρ data)
    (equivariant : ∀ e, step.default? = some e → e.Equivariant) (index : Option Nat) :
    Mirrors ρ (Binding.rename ρ) (c.bindScalar step index bound)
      ((c.rename ρ).bindScalar step index (bound.mapValues (Binding.rename ρ))) := by
  cases index with
  | none => exact (bindAbsent_mirrors fixed equivariant).bind fun _ => .pure rfl
  | some index => exact (bindPresent_mirrors index).bind fun _ => .pure rfl

theorem pairEntries_rename : ∀ (entries : Entries Value) (values : List Value),
    pairEntries (entries.mapValues (Value.rename ρ)) (values.map (Value.rename ρ)) =
      (pairEntries entries values).map (Entries.mapValues (Value.rename ρ))
  | _, [] => rfl
  | _, [_] => rfl
  | entries, key :: value :: rest => by
      simp only [List.map_cons, pairEntries, Value.text?_rename]
      cases key.text? with
      | none => rfl
      | some name =>
          simp only [Entries.put_mapValues]
          exact pairEntries_rename (entries.put name value) rest

theorem bindSlurpy_mirrors :
    Mirrors ρ (Binding.rename ρ) (c.bindSlurpy step) ((c.rename ρ).bindSlurpy step) := by
  refine .get_bind fun session other renames => ?_
  have items : other.store.items ((c.rename ρ).rest.drop step.index) =
      (session.store.items (c.rest.drop step.index)).map (Value.rename ρ) :=
    renames.store.items (c.rest.drop step.index)
  simp only [items, List.isEmpty_map]
  generalize session.store.items (c.rest.drop step.index) = passed
  split
  · have entries : pairEntries [] (passed.map (Value.rename ρ)) = _ := pairEntries_rename [] passed
    rw [entries]
    cases pairEntries [] passed with
    | error f => exact .fail _
    | ok entries =>
        refine .get_bind fun session other renames => ?_
        have made := renames.store.newDict entries .any
        exact (Mirrors.setStore made.store).bind fun _ => .pure (by
          simp only [Binding.rename, Content.rename]
          rw [← made.value])
  · split
    · exact .pure rfl
    · refine .get_bind fun session other renames => ?_
      have made := renames.store.newList passed .any
      exact (Mirrors.setStore made.store).bind fun _ => .pure (by
          simp only [Binding.rename, Content.rename]
          rw [← made.value])

theorem bindStep_mirrors (fixed : c.Fixed ρ data)
    (equivariant : ∀ e, step.default? = some e → e.Equivariant) :
    Mirrors ρ (Option.map (Binding.rename ρ)) (c.bindStep bound step)
      ((c.rename ρ).bindStep (bound.mapValues (Binding.rename ρ)) step) := by
  cases kind : step.kind with
  | invocant =>
      simp only [bindStep, kind]
      refine .get_bind fun session other renames => ?_
      simp only [rename, renames.store.items, List.getElem?_map]
      cases (session.store.items c.args)[0]? with
      | none => exact .fail _
      | some value => exact .pure rfl
  | positional =>
      simp only [bindStep, kind]
      exact (bindScalar_mirrors fixed equivariant _).bind fun _ => .pure rfl
  | slurpy =>
      simp only [bindStep, kind]
      exact bindSlurpy_mirrors.bind fun _ => .pure rfl
  | named =>
      simp only [bindStep, kind]
      exact (bindScalar_mirrors fixed equivariant _).bind fun _ => .pure rfl
  | collectNamed =>
      simp only [bindStep, kind]
      exact .pure rfl
  | rejectUnknown =>
      simp only [bindStep, kind]
      exact .pure rfl

theorem bindSteps_mirrors {steps : List Step} (fixed : c.Fixed ρ data)
    (equivariant : ∀ step ∈ steps, ∀ e, step.default? = some e → e.Equivariant) :
    Mirrors ρ (Entries.mapValues (Binding.rename ρ)) (c.bindSteps bound steps)
      ((c.rename ρ).bindSteps (bound.mapValues (Binding.rename ρ)) steps) := by
  induction steps generalizing bound with
  | nil => exact .pure rfl
  | cons step rest ih =>
      have later := fun bound => @ih bound fun step member => equivariant step (List.mem_cons_of_mem _ member)
      refine (bindStep_mirrors fixed (equivariant step List.mem_cons_self)).bind fun made => ?_
      cases made with
      | none => exact later bound
      | some binding =>
          have added : (bound ++ [(step.param.name, binding)]).mapValues (Binding.rename ρ) =
              bound.mapValues (Binding.rename ρ) ++ [(step.param.name, binding.rename ρ)] :=
            List.map_append
          simp only [Option.map_some]
          rw [← added]
          exact later _

theorem bind_mirrors (fixed : c.Fixed ρ data)
    (equivariant : ∀ step ∈ c.plan.steps, ∀ e, step.default? = some e → e.Equivariant) :
    Mirrors ρ (Bindings.rename ρ) c.bind (c.rename ρ).bind := by
  refine (bindSteps_mirrors fixed equivariant).bind fun entries => .get_bind fun session other renames => ?_
  refine .pure ?_
  simp only [rename, renames.store.items, List.getElem?_map, Bindings.rename]
  cases c.plan.signature.invocant <;> rfl

end Plan.Call

namespace Plan

variable {plan : Plan} {data : Entries Value}

theorem check_mirrors (plan : Plan) (site : Site) (args : View) :
    Mirrors ρ (Checked.rename ρ) (ExceptT.mk (return plan.check site ((← get).store.items args)))
      (ExceptT.mk (return plan.check site ((← get).store.items (args.rename ρ)))) := by
  intro session other renames
  refine ⟨?_, renames⟩
  have checked := plan.check_rename ρ site (session.store.items args)
  rw [← renames.store.items] at checked
  change Alike _ (plan.check site (session.store.items args))
    (plan.check site (other.store.items (args.rename ρ)))
  rw [checked]
  cases plan.check site (session.store.items args) with
  | error failure => exact .error failure
  | ok c => exact .ok rfl

/-- A call goes the same way in storage that is the same under other numbers. -/
theorem call_renames (static : plan.scope = .static data) (same : data.mapValues (Value.rename ρ) = data)
    (equivariant : ∀ step ∈ plan.steps, ∀ e, step.default? = some e → e.Equivariant)
    (renames : store.Renames ρ other) (context : Context) (site : Site) (args : View) :
    Alike (fun b b' => b' = b.rename ρ) (plan.call context site store args).1
        (plan.call context site other (args.rename ρ)).1 ∧
      (plan.call context site store args).2.store.Renames ρ
        (plan.call context site other (args.rename ρ)).2.store := by
  -- The checks see no cell numbers; binding goes the same way step by step.
  have mirrors : Mirrors ρ (Bindings.rename ρ) (plan.bind context site args)
      (plan.bind context site (args.rename ρ)) := by
    refine (plan.check_mirrors _ args).bind fun checked => ?_
    simp only [Checked.rename, List.length_map]
    exact Call.bind_mirrors ⟨static, same⟩ equivariant
  obtain ⟨alike, later⟩ := mirrors { store } { store := other } ⟨renames, rfl⟩
  exact ⟨alike, later.store⟩

end Plan
end CallPlan
