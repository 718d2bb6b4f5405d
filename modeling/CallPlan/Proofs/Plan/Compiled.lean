import CallPlan.Plan.Compile

/-!
What a successful compilation consists of: one step for each parameter, in declaration order, with the
default that was compiled for it.
-/

namespace CallPlan

theorem Compilation.bind_ok {α β : Type} {c : Compilation α} {next : α → Compilation β} {b : β} :
    (c >>= next).outcome = .ok b ↔ ∃ a, c.outcome = .ok a ∧ (next a).outcome = .ok b := by
  change (c.andThen next).outcome = .ok b ↔ _
  unfold Compilation.andThen
  cases outcome : c.outcome with
  | error e => simp
  | ok a => simp

@[simp] theorem Compilation.pure_ok {α : Type} {a b : α} :
    (pure a : Compilation α).outcome = .ok b ↔ a = b :=
  ⟨fun same => by cases same; rfl, fun same => by cases same; rfl⟩

namespace Plan

/-- The steps compiled from parameters. Each default sees the names given and those of the parameters
before its own. -/
inductive Compiled (options : PlanOptions) (s : Signature) (step : Param → Option Expression → Step) :
    List Text → List Param → List Step → Prop
  | nil (visible : List Text) : Compiled options s step visible [] []
  | cons {visible : List Text} {p : Param} {rest : List Param} {default? : Option Expression}
      {steps : List Step}
      (own : (compileDefault options s p visible).outcome = .ok default?)
      (others : Compiled options s step (visible ++ [p.name]) rest steps) :
      Compiled options s step visible (p :: rest) (step p default? :: steps)

variable {options : PlanOptions} {s : Signature} {step : Param → Option Expression → Step}

theorem compileParams_compiled {visible : List Text} {params : List Param} {steps : List Step}
    (compiled : (compileParams options s step visible params).outcome = .ok steps) :
    Compiled options s step visible params steps := by
  induction params generalizing visible steps with
  | nil =>
      simp only [compileParams, Compilation.pure_ok] at compiled
      subst steps
      exact .nil visible
  | cons p rest ih =>
      simp only [compileParams, Compilation.bind_ok, Compilation.pure_ok] at compiled
      obtain ⟨default?, own, others, remaining, rfl⟩ := compiled
      exact .cons own (ih remaining)

/-- A compiled plan is its signature's invocant, positional and named steps, and nothing else. A
positional default sees the scope and the invocant, a named one the positional parameters as well. -/
theorem compile_steps {plan : Plan} (compiled : (compile s options).outcome = .ok plan) :
    ∃ positional named,
      Compiled options s positionalStep (options.scope.names ++ s.invocant.toList) s.positional
        positional ∧
      Compiled options s namedStep
        (options.scope.names ++ s.invocant.toList ++ s.positional.map (·.name)) s.named named ∧
      plan = {
        id := s.digest.take idLength
        name := options.name
        signature := s
        steps := (s.invocant.map invocantStep).toList ++ positional ++
          namedSteps s.positional.length named
        strictArity := options.strictArity
        scope := options.scope } := by
  simp only [compile, Compilation.bind_ok, Compilation.pure_ok] at compiled
  obtain ⟨positional, positionalCompiled, named, namedCompiled, same⟩ := compiled
  exact ⟨positional, named, compileParams_compiled positionalCompiled,
    compileParams_compiled namedCompiled, same.symm⟩

theorem compile_parts {plan : Plan} (compiled : (compile s options).outcome = .ok plan) :
    ∃ positional named visible visible',
      Compiled options s positionalStep visible s.positional positional ∧
      Compiled options s namedStep visible' s.named named ∧
      plan = {
        id := s.digest.take idLength
        name := options.name
        signature := s
        steps := (s.invocant.map invocantStep).toList ++ positional ++
          namedSteps s.positional.length named
        strictArity := options.strictArity
        scope := options.scope } := by
  obtain ⟨positional, named, positionalCompiled, namedCompiled, same⟩ := compile_steps compiled
  exact ⟨positional, named, _, _, positionalCompiled, namedCompiled, same⟩

theorem compile_fields {plan : Plan} (compiled : (compile s options).outcome = .ok plan) :
    plan.signature = s ∧ plan.name = options.name ∧ plan.scope = options.scope := by
  obtain ⟨_, _, _, _, _, _, parts⟩ := compile_parts compiled
  rw [parts]
  exact ⟨rfl, rfl, rfl⟩

theorem Compiled.length_eq {visible : List Text} {params : List Param} {steps : List Step}
    (compiled : Compiled options s step visible params steps) : steps.length = params.length := by
  induction compiled with
  | nil => rfl
  | cons own others ih => simp [ih]

end Plan
end CallPlan
