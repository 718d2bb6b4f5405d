import CallPlan.Proofs.Plan.Compiled
import CallPlan.Proofs.Data.Except

/-!
What an engine is asked to compile. Each default is asked for once, in declaration order, with the names
of the scope, the invocant and the parameters before its own; the first that is refused ends it.
-/

namespace CallPlan

/-- The names that the default of the parameter at an index may refer to. -/
def Signature.visibleAt (s : Signature) (scope : Scope) (index : Nat) : List Text :=
  scope.names ++ s.invocant.toList ++ (s.params.take index).map (·.name)

/-- The default of a parameter as an engine is asked for it. -/
def Param.request? (p : Param) (visible : List Text) : Option (Param × CompileRequest) :=
  p.defaultSource.map fun source => (p, { source := Source.stripSigils source, visible })

/-- Every default of a signature with what an engine is asked for, in declaration order. -/
def Signature.requests (s : Signature) (scope : Scope) : List (Param × CompileRequest) :=
  (s.params.mapIdx fun index p => (p.request? (s.visibleAt scope index)).toList).flatten

namespace Plan

variable {options : PlanOptions} {s : Signature} {α β : Type}

/-- What comes of asking for a default. -/
def answer (options : PlanOptions) (r : CompileRequest) : Except Cause Expression :=
  match options.engine with
  | some engine => engine.compile r.source r.visible
  | none => .error (.plain .noDefaultCompiler)

/-- What an engine has been asked, given what there was to ask for. -/
def asked (options : PlanOptions) (defaults : List (Param × CompileRequest)) : List CompileRequest :=
  match options.engine with
  | some _ => defaults.map (·.2)
  | none => []

/-- A compilation asks for defaults in order until one is refused. -/
inductive Asks (options : PlanOptions) (s : Signature) (defaults : List (Param × CompileRequest))
    (c : Compilation α) : Prop
  | all (result : α) (accepted : ∀ d ∈ defaults, ∃ e, answer options d.2 = .ok e)
      (requests : c.requests = asked options defaults) (outcome : c.outcome = .ok result)
  | upTo (earlier later : List (Param × CompileRequest)) (p : Param) (r : CompileRequest)
      (cause : Cause) (ordered : defaults = earlier ++ (p, r) :: later)
      (accepted : ∀ d ∈ earlier, ∃ e, answer options d.2 = .ok e)
      (refused : answer options r = .error cause)
      (requests : c.requests = asked options (earlier ++ [(p, r)]))
      (outcome : c.outcome = .error (defaultError s p cause))

theorem asked_append (options : PlanOptions) (first second : List (Param × CompileRequest)) :
    asked options (first ++ second) = asked options first ++ asked options second := by
  unfold asked
  cases options.engine with
  | none => rfl
  | some engine => exact List.map_append

theorem Asks.bind {c : Compilation α} {next : α → Compilation β}
    {first second : List (Param × CompileRequest)} (asks : Asks options s first c)
    (others : ∀ a, c.outcome = .ok a → Asks options s second (next a)) :
    Asks options s (first ++ second) (c >>= next) := by
  have unfolded : (c >>= next) = c.andThen next := rfl
  -- A refusal ends both; otherwise the second asks where the first has stopped.
  cases asks with
  | upTo earlier later p r cause ordered accepted refused requests outcome =>
      have ended : c.andThen next =
          { requests := c.requests, outcome := .error (defaultError s p cause) } := by
        simp only [Compilation.andThen, outcome]
      rw [unfolded, ended]
      refine .upTo earlier (later ++ second) p r cause ?_ accepted refused requests rfl
      rw [ordered, List.append_assoc, List.cons_append]
  | all a accepted requests outcome =>
      have went : c.andThen next =
          { requests := c.requests ++ (next a).requests, outcome := (next a).outcome } := by
        simp only [Compilation.andThen, outcome]
      rw [unfolded, went]
      cases others a outcome with
      | all result acceptedToo requestsToo outcomeToo =>
          refine .all result ?_ ?_ outcomeToo
          · intro d member
            rcases List.mem_append.mp member with earlier | later
            · exact accepted d earlier
            · exact acceptedToo d later
          · simp only [requests, requestsToo, asked_append]
      | upTo earlier later p r cause ordered acceptedToo refused requestsToo outcomeToo =>
          refine .upTo (first ++ earlier) later p r cause ?_ ?_ refused ?_ outcomeToo
          · rw [ordered, List.append_assoc]
          · intro d member
            rcases List.mem_append.mp member with before | here
            · exact accepted d before
            · exact acceptedToo d here
          · rw [requests, requestsToo, List.append_assoc, asked_append options first]

theorem Asks.pure (a : α) : Asks options s [] (pure a) := by
  refine .all a (by simp) ?_ rfl
  unfold asked
  cases options.engine <;> rfl

theorem Asks.map {c : Compilation α} {defaults : List (Param × CompileRequest)}
    (asks : Asks options s defaults c) (f : α → β) :
    Asks options s defaults (c >>= fun a => Pure.pure (f a)) := by
  rw [← List.append_nil defaults]
  exact asks.bind fun a _ => .pure (f a)

theorem compileDefault_asks (p : Param) (visible : List Text) :
    Asks options s (p.request? visible).toList (compileDefault options s p visible) := by
  unfold compileDefault Param.request?
  cases written : p.defaultSource with
  | none => exact .pure none
  | some source =>
      cases chosen : options.engine with
      | none =>
          exact .upTo [] [] p _ _ rfl (by simp) (by simp [answer, chosen]) (by simp [asked, chosen]) rfl
      | some engine =>
          cases compiled : engine.compile (Source.stripSigils source) visible with
          | ok e =>
              refine .all (some e) ?_ (by simp [asked, chosen]) (by simp [compiled])
              simpa [answer, chosen] using ⟨e, compiled⟩
          | error cause =>
              exact .upTo [] [] p _ cause rfl (by simp) (by simpa [answer, chosen] using compiled)
                (by simp [asked, chosen]) (by simp [compiled])

/-- The defaults of parameters in order; each sees the names given and those before it. -/
def requestsFrom (visible : List Text) : List Param → List (Param × CompileRequest)
  | [] => []
  | p :: rest => (p.request? visible).toList ++ requestsFrom (visible ++ [p.name]) rest

theorem compileParams_asks (step : Param → Option Expression → Step) (visible : List Text)
    (params : List Param) :
    Asks options s (requestsFrom visible params) (compileParams options s step visible params) := by
  induction params generalizing visible with
  | nil => exact .pure []
  | cons p rest ih =>
      refine (compileDefault_asks p visible).bind fun default? _ => ?_
      exact (ih (visible ++ [p.name])).map (step p default? :: ·)

theorem requestsFrom_append (visible : List Text) (first second : List Param) :
    requestsFrom visible (first ++ second) =
      requestsFrom visible first ++ requestsFrom (visible ++ first.map (·.name)) second := by
  induction first generalizing visible with
  | nil => simp [requestsFrom]
  | cons p rest ih => simp [requestsFrom, ih]

theorem requestsFrom_eq (visible : List Text) (params : List Param) :
    requestsFrom visible params =
      (params.mapIdx fun index p =>
        (p.request? (visible ++ (params.take index).map (·.name))).toList).flatten := by
  induction params generalizing visible with
  | nil => rfl
  | cons p rest ih =>
      rw [requestsFrom, ih, List.mapIdx_cons, List.flatten_cons]
      simp

/-- An engine is asked for every default of a signature, up to the first that it refuses. -/
theorem compile_asks (s : Signature) (options : PlanOptions) :
    Asks options s (s.requests options.scope) (compile s options) := by
  have ordered : s.requests options.scope =
      requestsFrom (options.scope.names ++ s.invocant.toList) s.positional ++
        requestsFrom (options.scope.names ++ s.invocant.toList ++ s.positional.map (·.name)) s.named := by
    rw [← requestsFrom_append, requestsFrom_eq]
    rfl
  rw [ordered]
  refine (compileParams_asks positionalStep _ s.positional).bind fun positional _ => ?_
  exact (compileParams_asks namedStep _ s.named).map _

end Plan
end CallPlan
