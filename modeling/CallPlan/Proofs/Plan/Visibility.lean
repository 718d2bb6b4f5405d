import CallPlan.Proofs.Plan.Refinement
import CallPlan.Proofs.Plan.Requests
import CallPlan.Proofs.Scope

/-!
What a default was compiled against is what it is evaluated with. When the default of a parameter is
evaluated, its variables are the invocant and the parameters before its own, as the bindings give them at
that moment, and the scope's for every other name; and all of them were visible when it was compiled.
-/

namespace CallPlan

theorem Bindings.valuesOf_ok {store after : Store} {bound : Entries Binding} {values : Entries Value}
    (read : valuesOf store bound = .ok (values, after)) :
    values.keys = bound.keys ∧ ∀ name b, (name, b) ∈ bound → ∃ between value next,
      store.Extends between ∧ b.get between = .ok (value, next) ∧ (name, value) ∈ values := by
  induction bound generalizing store values with
  | nil =>
      cases read
      exact ⟨rfl, by simp⟩
  | cons entry rest ih =>
      obtain ⟨own, binding⟩ := entry
      simp only [valuesOf, except_bind_ok, except_pure, Except.ok.injEq, Prod.exists] at read
      obtain ⟨value, next, got, others, last, later, same⟩ := read
      cases same
      obtain ⟨keys, each⟩ := ih later
      refine ⟨by simpa [Entries.keys] using keys, ?_⟩
      intro name b member
      rcases List.mem_cons.mp member with here | elsewhere
      · cases here
        exact ⟨store, value, next, .refl store, got, List.mem_cons_self⟩
      · obtain ⟨between, shown, after, extension, given, listed⟩ := each name b elsewhere
        have grown : store.Extends next := Binding.extends_of_get got
        exact ⟨between, shown, after, grown.trans extension, given, List.mem_cons_of_mem _ listed⟩

/-- Whether a step binds a name. -/
def Step.binds (step : Step) : Bool :=
  match step.kind with
  | .collectNamed | .rejectUnknown => false
  | _ => true

namespace Session

variable {before middle after : Session} {allowed : Text → Text → Entries Value → Prop}

/-- Between two sessions only allowed evaluations were recorded. -/
def Records (before after : Session) (allowed : Text → Text → Entries Value → Prop) : Prop :=
  ∃ new, after.events = before.events ++ new ∧
    ∀ name source vars, .evaluated name source vars ∈ new → allowed name source vars

theorem Records.of_same (same : after.events = before.events) : Records before after allowed :=
  ⟨[], by simpa using same, by simp⟩

theorem Records.trans (first : Records before middle allowed) (second : Records middle after allowed) :
    Records before after allowed := by
  obtain ⟨early, recorded, earlyAllowed⟩ := first
  obtain ⟨late, recordedToo, lateAllowed⟩ := second
  refine ⟨early ++ late, by rw [recordedToo, recorded, List.append_assoc], ?_⟩
  intro name source vars member
  rcases List.mem_append.mp member with here | there
  · exact earlyAllowed name source vars here
  · exact lateAllowed name source vars there

theorem Records.mono {wider : Text → Text → Entries Value → Prop} (records : Records before after allowed)
    (wide : ∀ name source vars, allowed name source vars → wider name source vars) :
    Records before after wider := by
  obtain ⟨new, recorded, each⟩ := records
  exact ⟨new, recorded, fun name source vars member => wide name source vars (each _ _ _ member)⟩

/-- Nothing happened besides adding storage. -/
structure Quiet (before after : Session) : Prop where
  store : before.store.Extends after.store
  events : after.events = before.events
  scopeData : after.scopeData = before.scopeData

theorem Quiet.refl (session : Session) : Quiet session session := ⟨.refl _, rfl, rfl⟩

theorem Quiet.trans (first : Quiet before middle) (second : Quiet middle after) : Quiet before after :=
  ⟨first.store.trans second.store, second.events.trans first.events,
    second.scopeData.trans first.scopeData⟩

end Session

namespace Plan.Call

open Session (Records Quiet)

variable {c : Call} {step : Step} {bound : Entries Binding} {session after : Session} {store : Store}

/-- What the scope gives in a session, which may have read it before. -/
def Gives (c : Call) (session : Session) (data : Entries Value) : Prop :=
  session.scopeData = some data ∨
    session.scopeData = none ∧ c.plan.scope.data session.store c.context = .ok data

/-- The default of a step is evaluated with the scope's variables and the values bound so far. -/
structure Evaluates (c : Call) (bound : Entries Binding) (step : Step) (session : Session)
    (name source : Text) (vars : Entries Value) : Prop where
  param : name = step.param.name
  expression : ∃ e, step.default? = some e ∧ source = e.source
  vars : ∃ data values given, c.Gives session data ∧
    Bindings.valuesOf session.store bound = .ok (values, given) ∧ vars = data.merge values

/-- The scope was read while storage had only been added to since the call began, if it was read. -/
def Grounded (c : Call) (store : Store) (session : Session) : Prop :=
  match session.scopeData with
  | none => store.Extends session.store
  | some data => ∃ read, store.Extends read ∧ c.plan.scope.data read c.context = .ok data

theorem Grounded.quiet (grounded : c.Grounded store session) (quiet : Quiet session after) :
    c.Grounded store after := by
  unfold Grounded at grounded ⊢
  rw [quiet.scopeData]
  cases read : session.scopeData with
  | none =>
      rw [read] at grounded
      exact Store.Extends.trans grounded quiet.store
  | some data =>
      rw [read] at grounded
      exact grounded

theorem Grounded.gives {data : Entries Value} (grounded : c.Grounded store session)
    (gives : c.Gives session data) :
    ∃ read, store.Extends read ∧ c.plan.scope.data read c.context = .ok data := by
  unfold Grounded at grounded
  rcases gives with given | ⟨unread, read⟩
  · rw [given] at grounded
    exact grounded
  · rw [unread] at grounded
    exact ⟨session.store, grounded, read⟩

theorem scopeData_records :
    Leads (c.scopeData step) session
      (fun data after => after.store = session.store ∧ after.scopeData = some data ∧
        c.Gives session data ∧ Records session after fun _ _ _ => False)
      (fun _ after => Records session after fun _ _ _ => False) := by
  have noted : Records session { session with events := session.events ++ [.scopeRead] }
      (fun _ _ _ => False) := ⟨[.scopeRead], rfl, by simp⟩
  unfold scopeData
  simp only [Leads.bind_iff, Leads.get_iff]
  cases read : session.scopeData with
  | some data => exact ⟨rfl, read, .inl read, .of_same rfl⟩
  | none =>
      simp only [Leads.bind_iff, Leads.record_iff, Leads.get_iff]
      cases given : c.plan.scope.data session.store c.context with
      | error e => exact noted
      | ok data => exact ⟨rfl, rfl, .inr ⟨read, given⟩, [.scopeRead], rfl, by simp⟩

theorem evalDefault_records {e : Expression} (given : step.default? = some e) :
    Leads (c.evalDefault step e bound) session
      (fun _ after => Records session after (c.Evaluates bound step session) ∧
        ∃ data, after.scopeData = some data ∧ c.Gives session data)
      (fun _ after => Records session after (c.Evaluates bound step session)) := by
  unfold evalDefault vars
  simp only [Leads.bind_iff, Leads.get_iff, Leads.record_iff]
  refine scopeData_records.mono ?_ fun _ _ records => records.mono fun _ _ _ => False.elim
  rintro data middle ⟨same, read, gives, records⟩
  have before : Records session middle (c.Evaluates bound step session) :=
    records.mono fun _ _ _ => False.elim
  rw [same]
  cases valued : Bindings.valuesOf session.store bound with
  | error fault => exact before
  | ok result =>
      obtain ⟨values, given'⟩ := result
      simp only [Leads.bind_iff, Leads.setStore_iff, Leads.pure_iff]
      have evaluates : c.Evaluates bound step session step.param.name e.source (data.merge values) :=
        ⟨rfl, ⟨e, given, rfl⟩, data, values, given', gives, valued, rfl⟩
      have noted : ∀ last : Session,
          last.events = middle.events ++ [.evaluated step.param.name e.source (data.merge values)] →
          Records session last (c.Evaluates bound step session) := by
        intro last recorded
        refine before.trans ⟨_, recorded, ?_⟩
        intro name source vars member
        cases List.mem_singleton.mp member
        exact evaluates
      cases e.eval given' (data.merge values) with
      | ok result => exact ⟨noted _ rfl, data, read, gives⟩
      | error failure =>
          cases failure with
          | cause cause => exact noted _ rfl
          | fault fault => exact noted _ rfl

/-- What a step does to the record of a call, whose scope stays grounded if the step succeeds. -/
def Traces (c : Call) (store : Store) (bound : Entries Binding) (step : Step)
    (session after : Session) : Prop :=
  Records session after (c.Evaluates bound step session) ∧ c.Grounded store after

theorem Traces.of_quiet (grounded : c.Grounded store session) (quiet : Quiet session after) :
    c.Traces store bound step session after :=
  ⟨.of_same quiet.events, grounded.quiet quiet⟩

theorem Traces.quiet {middle : Session} (traces : c.Traces store bound step session middle)
    (quiet : Quiet middle after) : c.Traces store bound step session after :=
  ⟨traces.1.trans (.of_same quiet.events), traces.2.quiet quiet⟩

theorem absentValue_traces (grounded : c.Grounded store session) :
    Leads (c.absentValue step bound) session
      (fun _ after => c.Traces store bound step session after)
      (fun _ after => Records session after (c.Evaluates bound step session)) := by
  have nothing : c.Traces store bound step session session := .of_quiet grounded (.refl session)
  unfold absentValue
  cases given : step.default? with
  | none => exact nothing
  | some e =>
      cases step.param.required with
      | true => exact nothing
      | false =>
          refine (evalDefault_records given).mono ?_ fun _ _ records => records
          rintro value after ⟨records, data, read, gives⟩
          refine ⟨records, ?_⟩
          unfold Grounded
          rw [read]
          exact grounded.gives gives

theorem cloned_quiet (value : Value) {failed : BindFailure → Session → Prop} :
    Leads (cloned value) session (fun _ after => Quiet session after) failed :=
  ⟨session.store.clone_extends value, rfl, rfl⟩

theorem freshRef_quiet (value : Value) {failed : BindFailure → Session → Prop} :
    Leads (freshRef value) session (fun _ after => Quiet session after) failed :=
  ⟨session.store.alloc_extends _, rfl, rfl⟩

theorem bindAbsent_traces (grounded : c.Grounded store session) :
    Leads (c.bindAbsent step bound) session
      (fun _ after => c.Traces store bound step session after)
      (fun _ after => Records session after (c.Evaluates bound step session)) := by
  unfold bindAbsent
  rw [Leads.bind_iff]
  refine (absentValue_traces grounded).mono ?_ fun _ _ records => records
  intro value middle traces
  split
  · exact (freshRef_quiet value).mono (fun _ _ quiet => traces.quiet quiet) fun _ _ failed => failed
  · rw [Leads.bind_iff]
    exact (cloned_quiet value).mono (fun _ _ quiet => traces.quiet quiet) fun _ _ failed => failed

theorem bindPresent_quiet (index : Nat) :
    Leads (c.bindPresent step index) session (fun _ after => Quiet session after)
      (fun _ after => after = session) := by
  unfold bindPresent
  simp only [Leads.bind_iff, Leads.get_iff]
  cases (session.store.items c.rest)[index]? with
  | none => exact rfl
  | some value =>
      dsimp only
      split
      · split
        · split
          · exact Quiet.refl session
          · exact rfl
        · exact Quiet.refl session
      · split
        · simp only [Leads.bind_iff]
          refine (target_quiet value).mono ?_ fun _ _ same => same
          rintro shown middle rfl
          exact cloned_quiet shown
        · simp only [Leads.bind_iff]
          exact cloned_quiet value

theorem bindSlurpy_quiet :
    Leads (c.bindSlurpy step) session (fun _ after => Quiet session after)
      (fun _ after => after = session) := by
  unfold bindSlurpy
  simp only [Leads.bind_iff, Leads.get_iff]
  split
  · split
    · exact rfl
    · exact ⟨session.store.alloc_extends _, rfl, rfl⟩
  · split
    · exact Quiet.refl session
    · exact ⟨session.store.alloc_extends _, rfl, rfl⟩

theorem bindScalar_traces (grounded : c.Grounded store session) (index : Option Nat) :
    Leads (c.bindScalar step index bound) session
      (fun _ after => c.Traces store bound step session after)
      (fun _ after => Records session after (c.Evaluates bound step session)) := by
  cases index with
  | none =>
      refine Leads.bind_iff.mpr ((bindAbsent_traces grounded).mono ?_ fun _ _ failed => failed)
      exact fun _ _ traces => traces
  | some index =>
      refine Leads.bind_iff.mpr ((bindPresent_quiet index).mono ?_ ?_)
      · exact fun _ _ quiet => .of_quiet grounded quiet
      · rintro failure middle rfl
        exact .of_same rfl

/-- A step records only the evaluation of its own default, and binds unless it only looks at keys. -/
theorem bindStep_traces (grounded : c.Grounded store session) :
    Leads (c.bindStep bound step) session
      (fun b after => b.isSome = step.binds ∧ c.Traces store bound step session after)
      (fun _ after => Records session after (c.Evaluates bound step session)) := by
  have same : c.Traces store bound step session session := .of_quiet grounded (.refl session)
  unfold Step.binds
  cases kind : step.kind with
  | invocant =>
      simp only [bindStep, kind, Leads.bind_iff, Leads.get_iff]
      cases (session.store.items c.args)[0]? with
      | none => exact .of_same rfl
      | some value => exact ⟨rfl, same⟩
  | positional =>
      simp only [bindStep, kind, Leads.bind_iff, Leads.pure_iff]
      exact (bindScalar_traces grounded _).mono (fun _ _ traces => ⟨rfl, traces⟩) fun _ _ failed => failed
  | named =>
      simp only [bindStep, kind, Leads.bind_iff, Leads.pure_iff]
      exact (bindScalar_traces grounded _).mono (fun _ _ traces => ⟨rfl, traces⟩) fun _ _ failed => failed
  | slurpy =>
      simp only [bindStep, kind, Leads.bind_iff, Leads.pure_iff]
      refine bindSlurpy_quiet.mono (fun _ _ quiet => ⟨rfl, .of_quiet grounded quiet⟩) ?_
      rintro failure middle rfl
      exact .of_same rfl
  | collectNamed =>
      simp only [bindStep, kind]
      exact ⟨rfl, same⟩
  | rejectUnknown =>
      simp only [bindStep, kind]
      exact ⟨rfl, same⟩

/-- The names that steps bind. -/
def bindsNames (steps : List Step) : List Text := (steps.filter (·.binds)).map (·.param.name)

theorem bindsNames_cons (step : Step) (rest : List Step) :
    bindsNames (step :: rest) = (if step.binds then [step.param.name] else []) ++ bindsNames rest := by
  unfold bindsNames
  cases binds : step.binds <;> simp [binds]

/-- An evaluation that happens while steps bind, at the step it belongs to. -/
def EvaluatesIn (c : Call) (store : Store) (bound : Entries Binding) (steps : List Step)
    (session : Session) (name source : Text) (vars : Entries Value) : Prop :=
  ∃ earlier step later before now, steps = earlier ++ step :: later ∧
    (c.bindSteps bound earlier).run.run session = (.ok before, now) ∧
    before.keys = bound.keys ++ bindsNames earlier ∧ c.Grounded store now ∧
    c.Evaluates before step now name source vars

theorem bindSteps_run {steps : List Step} {b : Option Binding} {middle : Session}
    (ran : (c.bindStep bound step).run.run session = (.ok b, middle)) :
    (c.bindSteps bound (step :: steps)).run.run session =
      (c.bindSteps (bound ++ (b.map fun b => (step.param.name, b)).toList) steps).run.run middle := by
  rw [bindSteps]
  simp only [ExceptT.run_bind, StateT.run_bind, ran]
  cases b with
  | none =>
      rw [Option.map_none, Option.toList_none, List.append_nil]
      rfl
  | some b => rfl

theorem EvaluatesIn.later {steps : List Step} {b : Option Binding} {middle : Session}
    {name source : Text} {vars : Entries Value}
    (ran : (c.bindStep bound step).run.run session = (.ok b, middle))
    (made : b.isSome = step.binds)
    (evaluates : c.EvaluatesIn store (bound ++ (b.map fun b => (step.param.name, b)).toList) steps
      middle name source vars) :
    c.EvaluatesIn store bound (step :: steps) session name source vars := by
  obtain ⟨earlier, own, later, before, now, rfl, reached, keys, grounded, evaluates⟩ := evaluates
  refine ⟨step :: earlier, own, later, before, now, rfl, ?_, ?_, grounded, evaluates⟩
  · rw [bindSteps_run ran, reached]
  · rw [keys, bindsNames_cons, ← made]
    cases b <;> simp [Entries.keys]

theorem bindSteps_traces {steps : List Step} (grounded : c.Grounded store session) :
    Leads (c.bindSteps bound steps) session
      (fun _ after => Records session after (c.EvaluatesIn store bound steps session))
      (fun _ after => Records session after (c.EvaluatesIn store bound steps session)) := by
  -- An evaluation is located by the steps before it; those grow by one with each step of the induction.
  induction steps generalizing bound session with
  | nil => exact .of_same rfl
  | cons step rest ih =>
      have here : ∀ name source vars, c.Evaluates bound step session name source vars →
          c.EvaluatesIn store bound (step :: rest) session name source vars := by
        intro name source vars evaluates
        exact ⟨[], step, rest, bound, session, rfl, rfl, by simp [bindsNames], grounded, evaluates⟩
      unfold bindSteps
      refine Leads.bind_iff.mpr ((bindStep_traces grounded).with_run.mono ?_ ?_)
      · rintro b middle ⟨ran, made, records, reached⟩
        have first := records.mono here
        have whole : ∀ after : Session,
            Records middle after (c.EvaluatesIn store
              (bound ++ (b.map fun b => (step.param.name, b)).toList) rest middle) →
            Records session after (c.EvaluatesIn store bound (step :: rest) session) := by
          intro after later
          exact first.trans (later.mono fun _ _ _ evaluates => evaluates.later ran made)
        cases b with
        | none =>
            rw [Option.map_none, Option.toList_none, List.append_nil] at whole
            exact (ih reached).mono (fun _ after => whole after) fun _ after => whole after
        | some b => exact (ih reached).mono (fun _ after => whole after) fun _ after => whole after
      · rintro failure after ⟨_, records⟩
        exact records.mono here

/-- Whatever a call evaluates, it evaluates for one of its steps. -/
theorem bind_traces {name source : Text} {vars : Entries Value}
    (recorded : .evaluated name source vars ∈ (c.bind.run.run { store }).2.events) :
    c.EvaluatesIn store [] c.plan.steps { store } name source vars := by
  have grounded : c.Grounded store { store } := Store.Extends.refl store
  have leads : Leads c.bind { store }
      (fun _ after => Records { store } after (c.EvaluatesIn store [] c.plan.steps { store }))
      (fun _ after => Records { store } after (c.EvaluatesIn store [] c.plan.steps { store })) := by
    unfold Call.bind
    simp only [Leads.bind_iff, Leads.get_iff, Leads.pure_iff]
    exact bindSteps_traces grounded
  rcases ran : c.bind.run.run { store } with ⟨outcome, after⟩
  have records : Records { store } after (c.EvaluatesIn store [] c.plan.steps { store }) := by
    cases outcome with
    | ok bindings => exact leads.of_ok ran
    | error failure => exact leads.of_error ran
  obtain ⟨new, events, each⟩ := records
  rw [ran] at recorded
  refine each name source vars ?_
  rw [events] at recorded
  exact recorded

end Plan.Call

namespace Plan

variable {settings : PlanOptions} {s : Signature} {plan : Plan}

theorem Compiled.at_index {step : Param → Option Expression → Step} {visible : List Text}
    {params : List Param} {steps : List Step} {index : Nat} {own : Step}
    (compiled : Compiled settings s step visible params steps) (found : steps[index]? = some own) :
    ∃ p default?, params[index]? = some p ∧ own = step p default? ∧
      (compileDefault settings s p (visible ++ (params.take index).map (·.name))).outcome =
        .ok default? := by
  induction compiled generalizing index with
  | nil => cases found
  | @cons visible p rest default? steps given others ih =>
      cases index with
      | zero =>
          cases found
          exact ⟨p, default?, rfl, rfl, by simpa using given⟩
      | succ index =>
          obtain ⟨q, default?, listed, same, outcome⟩ := ih (by simpa using found)
          exact ⟨q, default?, by simpa using listed, same, by simpa using outcome⟩

theorem Compiled.names {step : Param → Option Expression → Step} {visible : List Text}
    {params : List Param} {steps : List Step} (shape : ∀ p default?, (step p default?).param = p)
    (compiled : Compiled settings s step visible params steps) :
    steps.map (·.param.name) = params.map (·.name) := by
  induction compiled with
  | nil => rfl
  | cons given others ih => rw [List.map_cons, List.map_cons, shape, ih]

theorem compileDefault_some {p : Param} {visible : List Text} {e : Expression}
    (outcome : (compileDefault settings s p visible).outcome = .ok (some e)) :
    ∃ engine source, settings.engine = some engine ∧ p.defaultSource = some source ∧
      engine.compile (Source.stripSigils source) visible = .ok e := by
  unfold compileDefault at outcome
  split at outcome
  · cases outcome
  · cases outcome
  · next source engine written chosen =>
      dsimp only at outcome
      split at outcome
      · next expression found =>
          cases outcome
          exact ⟨engine, source, chosen, written, found⟩
      · cases outcome

/-- The steps that bind are those of the invocant and of the parameters in order. -/
theorem binders_eq (compiled : (compile s settings).outcome = .ok plan) :
    ∃ steps, plan.steps.filter (·.binds) = (s.invocant.map invocantStep).toList ++ steps ∧
      steps.map (·.param.name) = s.params.map (·.name) ∧
      ∀ index own, steps[index]? = some own → ∃ p default?, s.params[index]? = some p ∧
        own.param = p ∧ own.default? = default? ∧
        (compileDefault settings s p (s.visibleAt settings.scope index)).outcome = .ok default? := by
  obtain ⟨positional, named, positionalCompiled, namedCompiled, rfl⟩ := compile_steps compiled
  have positionalBind : ∀ step ∈ positional, step.binds = true := by
    intro step member
    obtain ⟨p, _, default?, _, rfl⟩ := positionalCompiled.of_mem member
    cases slurpy : p.slurpy <;> simp [Step.binds, positionalStep, slurpy]
  have namedBind : ∀ step ∈ named, step.binds = true := by
    intro step member
    obtain ⟨p, _, default?, _, rfl⟩ := namedCompiled.of_mem member
    rfl
  refine ⟨positional ++ named, ?_, ?_, ?_⟩
  -- Only the two steps around the named ones bind nothing, and they are left out here.
  · have invocant : ((s.invocant.map invocantStep).toList).filter (·.binds) =
        (s.invocant.map invocantStep).toList := by
      cases s.invocant <;> rfl
    have wrapped : (namedSteps s.positional.length named).filter (·.binds) = named := by
      cases named with
      | nil => rfl
      | cons head rest =>
          have kept : (head :: rest).filter (·.binds) = head :: rest := List.filter_eq_self.mpr namedBind
          change (({ kind := .collectNamed, index := _ } : Step) ::
            ((head :: rest) ++ [{ kind := .rejectUnknown }])).filter (·.binds) = head :: rest
          rw [List.filter_cons_of_neg (by simp [Step.binds]), List.filter_append, kept]
          simp [Step.binds]
    simp only [List.filter_append, invocant, wrapped, List.filter_eq_self.mpr positionalBind,
      List.append_assoc]
  · rw [List.map_append, Signature.params, List.map_append,
      positionalCompiled.names fun _ _ => rfl, namedCompiled.names fun _ _ => rfl]
  · intro index own found
    have counted := positionalCompiled.length_eq
    by_cases front : index < positional.length
    · rw [List.getElem?_append_left front] at found
      obtain ⟨p, default?, listed, rfl, outcome⟩ := positionalCompiled.at_index found
      have before : s.params.take index = s.positional.take index :=
        List.take_append_of_le_length (by omega)
      refine ⟨p, default?, ?_, rfl, rfl, ?_⟩
      · rw [Signature.params, List.getElem?_append_left (by omega), listed]
      · rw [Signature.visibleAt, before]
        exact outcome
    · rw [List.getElem?_append_right (by omega)] at found
      obtain ⟨p, default?, listed, rfl, outcome⟩ := namedCompiled.at_index found
      have before : s.params.take index =
          s.positional ++ s.named.take (index - positional.length) := by
        rw [Signature.params, List.take_append, List.take_of_length_le (by omega), counted]
      refine ⟨p, default?, ?_, rfl, rfl, ?_⟩
      · rw [Signature.params, List.getElem?_append_right (by omega), ← counted, listed]
      · rw [Signature.visibleAt, before, List.map_append, ← List.append_assoc]
        exact outcome

/-- A step with a default is that of a parameter, and the steps before it bind the names before it. -/
theorem step_at_index {earlier later : List Step} {own : Step} {e : Expression}
    (compiled : (compile s settings).outcome = .ok plan) (ordered : plan.steps = earlier ++ own :: later)
    (given : own.default? = some e) :
    ∃ index p, s.params[index]? = some p ∧ own.param = p ∧
      (compileDefault settings s p (s.visibleAt settings.scope index)).outcome = .ok (some e) ∧
      Call.bindsNames earlier = s.invocant.toList ++ (s.params.take index).map (·.name) := by
  obtain ⟨steps, binders, names, each⟩ := binders_eq compiled
  have binds : own.binds = true := by
    have member : own ∈ plan.steps := by simp [ordered]
    rcases step_cases compiled member with ⟨name, _, rfl⟩ | ⟨p, _, default?, _, rfl⟩ |
      ⟨p, _, default?, _, rfl⟩ | ⟨_, none⟩ | ⟨_, none⟩
    · rfl
    · cases slurpy : p.slurpy <;> simp [Step.binds, positionalStep, slurpy]
    · rfl
    · rw [none] at given
      cases given
    · rw [none] at given
      cases given
  -- The step stands where as many binding steps come before it as there are names, the invocant included.
  let invocant := (s.invocant.map invocantStep).toList
  have cut : earlier.filter (·.binds) ++ own :: later.filter (·.binds) = invocant ++ steps := by
    rw [← binders, ordered, List.filter_append, List.filter_cons_of_pos binds]
  have invocantNames : invocant.map (·.param.name) = s.invocant.toList := by
    simp only [invocant]
    cases s.invocant <;> rfl
  generalize front : earlier.filter (·.binds) = before at cut
  have found : (invocant ++ steps)[before.length]? = some own := by
    rw [← cut, List.getElem?_append_right (Nat.le_refl _), Nat.sub_self]
    rfl
  have past : invocant.length ≤ before.length := by
    refine Nat.le_of_not_lt fun short => ?_
    rw [List.getElem?_append_left short] at found
    obtain ⟨name, _, rfl⟩ : ∃ name, name ∈ s.invocant ∧ invocantStep name = own := by
      simpa [invocant] using List.mem_of_getElem? found
    cases given
  rw [List.getElem?_append_right past] at found
  obtain ⟨p, default?, listed, param, same, outcome⟩ := each _ own found
  refine ⟨before.length - invocant.length, p, listed, param, ?_, ?_⟩
  · rw [outcome, ← same, given]
  · have whole : before.map (·.param.name) = ((invocant ++ steps).map (·.param.name)).take before.length := by
      rw [← cut, List.map_append, List.take_left' (by simp)]
    have length : invocant.length = s.invocant.toList.length := by rw [← invocantNames, List.length_map]
    rw [Call.bindsNames, front, whole, List.map_append, invocantNames, names, List.take_append,
      List.take_of_length_le (by omega), List.map_take, length]

/-- What the default of the parameter at an index is evaluated with in a call that began with a store.
The steps before the parameter's have bound the names before it and left `now`. -/
structure Sees (settings : PlanOptions) (s : Signature) (c : Call) (store : Store) (index : Nat)
    (p : Param) (source : Text) (vars : Entries Value) : Prop where
  param : s.params[index]? = some p
  request : ∃ engine written e, settings.engine = some engine ∧ p.defaultSource = some written ∧
    engine.compile (Source.stripSigils written) (s.visibleAt settings.scope index) = .ok e ∧
    e.source = source
  visible : ∀ name ∈ vars.keys, name ∈ s.visibleAt settings.scope index
  origin : ∃ earlier step later bound now values given,
    c.plan.steps = earlier ++ step :: later ∧ step.param = p ∧
    (c.bindSteps [] earlier).run.run { store } = (.ok bound, now) ∧
    bound.keys = s.invocant.toList ++ (s.params.take index).map (·.name) ∧
    Bindings.valuesOf now.store bound = .ok (values, given) ∧
    (∀ name ∈ bound.keys, ∃ b between value next, bound.get? name = some b ∧
      now.store.Extends between ∧ b.get between = .ok (value, next) ∧ vars.get? name = some value) ∧
    ∃ read data, store.Extends read ∧ settings.scope.data read c.context = .ok data ∧
      ∀ name, name ∉ bound.keys → vars.get? name = data.get? name

theorem sees_of_evaluates {c : Call} {store : Store} {name source : Text} {vars : Entries Value}
    (compiled : (compile s settings).outcome = .ok plan) (wellFormed : s.WellFormed)
    (own : c.plan = plan)
    (evaluates : c.EvaluatesIn store [] plan.steps { store } name source vars) :
    ∃ index p, p.name = name ∧ Sees settings s c store index p source vars := by
  obtain ⟨earlier, step, later, bound, now, ordered, reached, keys, grounded, evaluates⟩ := evaluates
  obtain ⟨rfl, ⟨e, given, rfl⟩, data, values, after, gives, valued, rfl⟩ := evaluates
  obtain ⟨index, p, listed, rfl, outcome, names⟩ := step_at_index compiled ordered given
  obtain ⟨engine, written, chosen, source, made⟩ := compileDefault_some outcome
  obtain ⟨read, extension, outer⟩ := grounded.gives gives
  obtain ⟨-, -, scope⟩ := compile_fields compiled
  rw [own, scope] at outer
  have boundNames : bound.keys = s.invocant.toList ++ (s.params.take index).map (·.name) := by
    rw [keys, names]
    rfl
  -- Names are distinct, so merging the bound values over the outer ones loses none of them.
  have distinct : bound.keys.Nodup := by
    rw [boundNames, List.map_take]
    exact wellFormed.distinct.sublist ((List.take_sublist _ _).append_left _)
  obtain ⟨sameKeys, each⟩ := Bindings.valuesOf_ok valued
  have merged : ∀ name, (data.merge values).get? name = (values.get? name).or (data.get? name) :=
    fun name => Entries.get?_merge (sameKeys ▸ distinct)
  refine ⟨index, step.param, rfl, listed, ⟨engine, written, e, chosen, source, made, rfl⟩, ?_,
    earlier, step, later, bound, now, values, after, own ▸ ordered, rfl, reached, boundNames, valued, ?_,
    read, data, extension, outer, ?_⟩
  · intro name member
    rw [Signature.visibleAt, List.append_assoc]
    rcases Entries.mem_keys_merge.mp member with given | inner
    · exact List.mem_append_left _ (Scope.data_names outer name given)
    · rw [sameKeys, boundNames] at inner
      exact List.mem_append_right _ inner
  · intro name member
    obtain ⟨⟨_, b⟩, here, rfl⟩ := List.mem_map.mp member
    obtain ⟨between, value, next, grown, got, held⟩ := each _ b here
    refine ⟨b, between, value, next, Entries.get?_of_mem distinct here, grown, got, ?_⟩
    rw [merged, Entries.get?_of_mem (sameKeys ▸ distinct) held]
    rfl
  · intro name absent
    rw [merged, Entries.get?_eq_none_iff.mpr (sameKeys ▸ absent)]
    rfl

/-- Each default is compiled once, against the names of the scope, the invocant and the parameters before
its own, until one is refused. When a default is evaluated, its variables are among those names: the
invocant and the earlier parameters as their bindings give them at that moment, and the scope's for any
other name. -/
theorem defaults_see_visible {accepts : Param → Prop} {options : AssemblyOptions} {a : Assembler}
    (built : Assembler.Built accepts options a) (text : Text)
    (assembled : s = (a.setText text).signature) (settings : PlanOptions) :
    Asks settings s (s.requests settings.scope) (compile s settings) ∧
    ∀ plan, (compile s settings).outcome = .ok plan →
      ∀ (context : Context) (site : Site) (store : Store) (args : View) (name source : Text)
        (vars : Entries Value),
        .evaluated name source vars ∈ (plan.call context site store args).2.events →
        ∃ (c : Call) (index : Nat) (p : Param), c.plan = plan ∧ c.context = context ∧ c.args = args ∧
          plan.call context site store args = c.bind.run.run { store } ∧
          p.name = name ∧ Sees settings s c store index p source vars := by
  refine ⟨compile_asks s settings, ?_⟩
  intro plan compiled context site store args name source vars recorded
  have wellFormed : s.WellFormed := assembled ▸ Signature.wellFormed_of_built built text
  have cases := call_cases context site store args compiled wellFormed
  split at cases
  · rw [cases] at recorded
    cases recorded
  · obtain ⟨c, own, same, _, passed, _, run⟩ := cases
    rw [run] at recorded
    obtain ⟨index, p, named, sees⟩ :=
      sees_of_evaluates compiled wellFormed own (own ▸ Call.bind_traces recorded)
    exact ⟨c, index, p, own, same, passed, run, named, sees⟩

/-- An engine whose defaults are the variables that their sources name. -/
def naming : Engine where
  compile source visible :=
    if visible.contains source then
      .ok { source, eval := fun store vars => .ok ((vars.get? source).getD .null, store) }
    else .error (.message source)

/-- A default that names both an outer variable and the parameter before its own. -/
def shadowedSample : Signature where
  text := "$a, $b = $a"
  positional := [{ name := "a", index := some 0 },
    { name := "b", defaultSource := some "$a", optional := true, index := some 1 }]

def shadowedSettings : PlanOptions where
  engine := some naming
  scope := .static [("a", .plain (.text "outer"))]

def shadowedStore : Store where
  cells := #[.list [.plain (.text "inner")]]

theorem defaults_see_visible_shadowed :
    Signature.parse "$a, $b = $a" {} = .ok shadowedSample ∧
    shadowedSample.requests shadowedSettings.scope =
      [({ name := "b", defaultSource := some "$a", optional := true, index := some 1 },
        { source := "a", visible := ["a", "a"] })] ∧
    Asks shadowedSettings shadowedSample (shadowedSample.requests shadowedSettings.scope)
      (compile shadowedSample shadowedSettings) ∧
    ∃ plan, (compile shadowedSample shadowedSettings).outcome = .ok plan ∧
    ∃ vars, .evaluated "b" "a" vars ∈ (plan.call [] {} shadowedStore ⟨0, 0, 1⟩).2.events ∧
      vars.get? "a" = some (.plain (.text "inner")) ∧
      ∃ (c : Call) (index : Nat) (p : Param), p.name = Text.ofString "b" ∧
        Sees shadowedSettings shadowedSample c shadowedStore index p "a" vars := by
  have parsed : Signature.parse "$a, $b = $a" {} = .ok shadowedSample := by rfl
  obtain ⟨a, text, built, assembled⟩ := Signature.parse_assembled parsed
  obtain ⟨asks, sees⟩ := defaults_see_visible built text assembled shadowedSettings
  obtain ⟨plan, compiled, recorded⟩ :
      ∃ plan, (compile shadowedSample shadowedSettings).outcome = .ok plan ∧
      .evaluated "b" "a" [("a", .plain (.text "inner"))] ∈
        (plan.call [] {} shadowedStore ⟨0, 0, 1⟩).2.events :=
    ⟨_, rfl, List.mem_cons_of_mem _ List.mem_cons_self⟩
  obtain ⟨c, index, p, _, _, _, _, named, seen⟩ :=
    sees plan compiled [] {} shadowedStore ⟨0, 0, 1⟩ "b" "a" _ recorded
  exact ⟨parsed, by decide, asks, plan, compiled, _, recorded, rfl, c, index, p, named, seen⟩

end Plan
end CallPlan
