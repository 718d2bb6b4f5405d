import CallPlan.Proofs.Plan.Visibility
import Mathlib.Data.List.Forall2

/-!
When defaults are evaluated. A call whose arguments break a rule evaluates none and does not read the
scope. Any other call evaluates the defaults that its arguments leave open, each once and in declaration
order, until one of them fails.
-/

namespace CallPlan

open Reading

def Event.isRead : Event → Bool
  | .scopeRead => true
  | .evaluated .. => false

/-- Whether a parameter takes its default. A slurpy positional has the tail of the arguments for its
origin, so it never does. -/
def Param.takesDefault (p : Param) (origin : Origin) : Bool :=
  origin = .missing && p.hasDefault && !p.required

/-- The parameters that take their defaults, in declaration order. -/
def Signature.needed (s : Signature) (args : List Value) : List Param :=
  ((s.origins args).filter fun entry => entry.1.takesDefault entry.2).map (·.1)

namespace Plan

/-- The expression that a plan has for a parameter. -/
def DefaultOf (plan : Plan) (p : Param) (e : Expression) : Prop :=
  ∃ step ∈ plan.steps, step.param = p ∧ step.default? = some e

/-- An event is the evaluation of a parameter's default. -/
def Evaluation (plan : Plan) (p : Param) (event : Event) : Prop :=
  ∃ e vars, plan.DefaultOf p e ∧ event = .evaluated p.name e.source vars

/-- What is recorded when the defaults of these parameters have been evaluated, in this order. The scope
is read before the first, and only then. -/
inductive Traced (plan : Plan) : List Param → List Event → Prop
  | nothing : Traced plan [] []
  | evaluated {params : List Param} {evaluations : List Event} (some_ : params ≠ [])
      (each : List.Forall₂ plan.Evaluation params evaluations) :
      Traced plan params (.scopeRead :: evaluations)

/-- How a call that needs the defaults of these parameters fails, and what it has recorded then. -/
inductive Stops (plan : Plan) (context : Context) (site : Site) (needed : List Param) :
    BindFailure → List Event → Prop
  | scope {p : Param} {later : List Param} {store : Store} {error : Scope.Error}
      (first : needed = p :: later) (read : plan.scope.data store context = .error error) :
      Stops plan context site needed (.refused {
        kind := .defaultFailed, site, param := p.display
        cause := some (.within "scope" error.cause) }) [.scopeRead]
  | evaluation {earlier later : List Param} {p : Param} {e : Expression} {store : Store}
      {vars : Entries Value} {cause : Cause} {events : List Event}
      (cut : needed = earlier ++ p :: later) (own : plan.DefaultOf p e)
      (run : e.eval store vars = .error (.cause cause)) (traced : plan.Traced (earlier ++ [p]) events) :
      Stops plan context site needed (.refused {
        kind := .defaultFailed, site, param := p.display, cause := some cause }) events
  | fault {earlier later : List Param} {fault : Fault} {events : List Event}
      (cut : needed = earlier ++ later) (traced : plan.Traced earlier events) :
      Stops plan context site needed (.fault fault) events
  | faultAfterRead {fault : Fault} (some_ : needed ≠ []) :
      Stops plan context site needed (.fault fault) [.scopeRead]

variable {plan : Plan} {params all later : List Param} {events evaluations : List Event}

/-! ### Records -/

theorem Traced.nil_iff : plan.Traced [] events ↔ events = [] := by
  constructor
  · intro traced
    cases traced with
    | nothing => rfl
    | evaluated some_ => exact (some_ rfl).elim
  · rintro rfl
    exact .nothing

theorem Evaluation.not_read {p : Param} {event : Event} (evaluation : plan.Evaluation p event) :
    event.isRead = false := by
  obtain ⟨e, vars, _, rfl⟩ := evaluation
  rfl

theorem evaluations_not_read (each : List.Forall₂ plan.Evaluation params evaluations) :
    evaluations.countP Event.isRead = 0 := by
  induction each with
  | nil => rfl
  | cons own _ ih => rw [List.countP_cons, ih, own.not_read]; rfl

theorem Traced.reads (traced : plan.Traced params events) :
    events.countP Event.isRead = if params = [] then 0 else 1 := by
  cases traced with
  | nothing => rfl
  | evaluated some_ each =>
      rw [if_neg some_, List.countP_cons, evaluations_not_read each]
      rfl

theorem Stops.condition {context : Context} {site : Site} {e : CallError}
    (stops : plan.Stops context site all (.refused e) events) : .defaultFailed ∈ e.conditions := by
  cases stops with
  | scope => exact List.mem_cons_self
  | evaluation => exact List.mem_cons_self

theorem Stops.kind {context : Context} {site : Site} {e : CallError}
    (stops : plan.Stops context site all (.refused e) events) : e.kind = .defaultFailed := by
  cases stops with
  | scope => rfl
  | evaluation => rfl

/-! ### The steps of a call -/

namespace Call

open Session (Quiet)

variable {c : Call} {step : Step} {bound : Entries Binding} {session after : Session}

/-- So far the defaults of these parameters have been evaluated. -/
structure Done (c : Call) (params : List Param) (session : Session) : Prop where
  traced : c.plan.Traced params session.events
  read : session.scopeData = none ↔ params = []

theorem Done.quiet (done : c.Done params session) (quiet : Quiet session after) :
    c.Done params after where
  traced := quiet.events ▸ done.traced
  read := quiet.scopeData ▸ done.read

theorem Done.start (store : Store) : c.Done [] { store } := ⟨.nothing, by simp⟩

/-- The scope has been read, and then the defaults of these parameters have been evaluated. -/
structure Opened (c : Call) (params : List Param) (session : Session) : Prop where
  read : session.scopeData ≠ none
  recorded : ∃ evaluations, List.Forall₂ c.plan.Evaluation params evaluations ∧
    session.events = .scopeRead :: evaluations

theorem Opened.faults {p : Param} {fault : Fault} (opened : c.Opened params session) :
    c.plan.Stops c.context c.site (params ++ p :: later) (.fault fault) session.events := by
  obtain ⟨evaluations, each, events⟩ := opened.recorded
  rw [events]
  cases params with
  | nil =>
      cases each
      exact .faultAfterRead (by simp)
  | cons first rest => exact .fault rfl (.evaluated (by simp) each)

theorem Opened.traced {p : Param} {e : Expression} (opened : c.Opened params session)
    (own : c.plan.DefaultOf p e) (vars : Entries Value) :
    c.plan.Traced (params ++ [p]) (session.events ++ [.evaluated p.name e.source vars]) := by
  obtain ⟨evaluations, each, events⟩ := opened.recorded
  rw [events, List.cons_append]
  exact .evaluated (by simp) (List.rel_append each (.cons ⟨e, vars, own, rfl⟩ .nil))

theorem scopeData_opens (done : c.Done params session) (later : List Param) :
    Leads (c.scopeData step) session (fun _ after => c.Opened params after)
      (fun failure after =>
        c.plan.Stops c.context c.site (params ++ step.param :: later) failure after.events) := by
  unfold scopeData
  simp only [Leads.bind_iff, Leads.get_iff]
  cases read : session.scopeData with
  | some data =>
      refine ⟨by simp [read], ?_⟩
      have traced := done.traced
      cases recorded : session.events with
      | nil =>
          rw [recorded] at traced
          cases traced
          simpa [read] using done.read
      | cons event evaluations =>
          rw [recorded] at traced
          cases traced with
          | evaluated _ each => exact ⟨evaluations, each, rfl⟩
  | none =>
      obtain rfl : params = [] := done.read.mp read
      have unrecorded := Traced.nil_iff.mp done.traced
      simp only [Leads.bind_iff, Leads.record_iff, Leads.get_iff]
      cases given : c.plan.scope.data session.store c.context with
      | error e =>
          rw [Leads.fail_iff, unrecorded]
          exact .scope rfl given
      | ok data =>
          exact ⟨by simp, [], .nil, by simp [unrecorded]⟩

theorem evalDefault_done {e : Expression} (own : c.plan.DefaultOf step.param e)
    (done : c.Done params session) (later : List Param) :
    Leads (c.evalDefault step e bound) session (fun _ after => c.Done (params ++ [step.param]) after)
      (fun failure after =>
        c.plan.Stops c.context c.site (params ++ step.param :: later) failure after.events) := by
  unfold evalDefault vars
  simp only [Leads.bind_iff, Leads.get_iff, Leads.record_iff]
  refine (scopeData_opens done later).mono ?_ fun _ _ stops => stops
  intro data middle opened
  cases Bindings.valuesOf middle.store bound with
  | error fault => exact opened.faults
  | ok result =>
      obtain ⟨values, store⟩ := result
      simp only [Leads.bind_iff, Leads.setStore_iff, Leads.pure_iff]
      have traced := opened.traced own (data.merge values)
      cases run : e.eval store (data.merge values) with
      | ok result => exact ⟨traced, by simp [opened.read]⟩
      | error failure =>
          cases failure with
          | cause cause => exact .evaluation rfl own run traced
          | fault fault => exact .fault (List.append_cons ..) traced

/-- Whether a step evaluates its default. -/
def needs (c : Call) (step : Step) : Bool :=
  (step.kind = .positional || step.kind = .named) && c.origin step = .missing &&
    step.default?.isSome && !step.param.required

def needed (c : Call) (steps : List Step) : List Param := (steps.filter c.needs).map (·.param)

theorem needed_append (first second : List Step) :
    c.needed (first ++ second) = c.needed first ++ c.needed second := by
  rw [needed, List.filter_append, List.map_append]
  rfl

theorem needed_cons (step : Step) (rest : List Step) :
    c.needed (step :: rest) = c.needed [step] ++ c.needed rest := needed_append [step] rest

theorem needed_singleton (step : Step) :
    c.needed [step] = if c.needs step then [step.param] else [] := by
  cases needs : c.needs step <;> simp [needed, needs]

theorem target_faults (value : Value) :
    Leads (target value) session (fun _ _ => True) (fun failure _ => ∃ fault, failure = .fault fault) := by
  unfold target
  cases value with
  | pointer type place =>
      simp only [Leads.bind_iff, Leads.get_iff]
      cases session.store.load? place with
      | some shown => exact trivial
      | none => exact ⟨_, rfl⟩
  | plain datum => exact ⟨_, rfl⟩
  | list view => exact ⟨_, rfl⟩
  | dict cell => exact ⟨_, rfl⟩

theorem bindPresent_faults (index : Nat) :
    Leads (c.bindPresent step index) session (fun _ _ => True)
      (fun failure _ => ∃ fault, failure = .fault fault) := by
  unfold bindPresent
  simp only [Leads.bind_iff, Leads.get_iff]
  cases (session.store.items c.rest)[index]? with
  | none => exact ⟨_, rfl⟩
  | some value =>
      dsimp only
      split
      · split
        · split
          · exact trivial
          · exact ⟨_, rfl⟩
        · exact trivial
      · split
        · simp only [Leads.bind_iff]
          exact (target_faults value).mono (fun _ _ _ => trivial) fun _ _ faults => faults
        · exact trivial

theorem bindSlurpy_faults :
    Leads (c.bindSlurpy step) session (fun _ _ => True)
      (fun failure _ => ∃ fault, failure = .fault fault) := by
  unfold bindSlurpy
  simp only [Leads.bind_iff, Leads.get_iff]
  split
  · split
    · exact ⟨_, rfl⟩
    · exact trivial
  · split <;> exact trivial

/-- A computation that evaluates nothing, and whose failure is no default's. -/
theorem Done.leads {α : Type} {m : BindM α} (done : c.Done params session)
    (quiet : Leads m session (fun _ after => Quiet session after) (fun _ after => after = session))
    (faults : Leads m session (fun _ _ => True) (fun failure _ => ∃ fault, failure = .fault fault))
    (later : List Param) :
    Leads m session (fun _ after => c.Done params after)
      (fun failure after => c.plan.Stops c.context c.site (params ++ later) failure after.events) := by
  refine (quiet.and faults).mono (fun _ _ same => done.quiet same.1) ?_
  rintro failure after ⟨rfl, fault, rfl⟩
  exact .fault rfl done.traced

theorem absentValue_done (own : ∀ e, step.default? = some e → c.plan.DefaultOf step.param e)
    (done : c.Done params session) (later : List Param) :
    let here := if step.default?.isSome && !step.param.required then [step.param] else []
    Leads (c.absentValue step bound) session (fun _ after => c.Done (params ++ here) after)
      (fun failure after =>
        c.plan.Stops c.context c.site (params ++ here ++ later) failure after.events) := by
  unfold absentValue
  cases given : step.default? with
  | none => simpa using done
  | some e =>
      cases required : step.param.required with
      | true => simpa using done
      | false => simpa using evalDefault_done (own e given) done later

theorem bindAbsent_done (own : ∀ e, step.default? = some e → c.plan.DefaultOf step.param e)
    (done : c.Done params session) (later : List Param) :
    let here := if step.default?.isSome && !step.param.required then [step.param] else []
    Leads (c.bindAbsent step bound) session (fun _ after => c.Done (params ++ here) after)
      (fun failure after =>
        c.plan.Stops c.context c.site (params ++ here ++ later) failure after.events) := by
  unfold bindAbsent
  rw [Leads.bind_iff]
  refine (absentValue_done own done later).mono ?_ fun _ _ stops => stops
  intro value middle evaluated
  split
  · exact (freshRef_quiet value).mono (fun _ _ quiet => evaluated.quiet quiet) fun _ _ stops => stops
  · rw [Leads.bind_iff]
    exact (cloned_quiet value).mono (fun _ _ quiet => evaluated.quiet quiet) fun _ _ stops => stops

theorem bindScalar_done {index : Option Nat} (kind : step.kind = .positional ∨ step.kind = .named)
    (placed : c.origin step = match index with | some index => .argument index | none => .missing)
    (own : ∀ e, step.default? = some e → c.plan.DefaultOf step.param e)
    (done : c.Done params session) (later : List Param) :
    Leads (c.bindScalar step index bound) session
      (fun _ after => c.Done (params ++ c.needed [step]) after)
      (fun failure after =>
        c.plan.Stops c.context c.site (params ++ c.needed [step] ++ later) failure after.events) := by
  rw [needed_singleton]
  cases index with
  | some index =>
      have needs : c.needs step = false := by simp [Call.needs, placed]
      simp only [needs, Bool.false_eq_true, if_false, List.append_nil]
      exact Leads.bind_iff.mpr (done.leads (bindPresent_quiet index) (bindPresent_faults index) later)
  | none =>
      have needs : c.needs step = (step.default?.isSome && !step.param.required) := by
        rcases kind with kind | kind <;> simp [Call.needs, placed, kind]
      rw [needs]
      exact Leads.bind_iff.mpr (bindAbsent_done own done later)

theorem bindStep_done (own : ∀ e, step.default? = some e → c.plan.DefaultOf step.param e)
    (done : c.Done params session) (later : List Param) :
    Leads (c.bindStep bound step) session
      (fun _ after => c.Done (params ++ c.needed [step]) after)
      (fun failure after =>
        c.plan.Stops c.context c.site (params ++ c.needed [step] ++ later) failure after.events) := by
  have idle : step.kind ≠ .positional → step.kind ≠ .named → c.needed [step] = [] := by
    intro notPositional notNamed
    simp [needed_singleton, Call.needs, notPositional, notNamed]
  cases kind : step.kind with
  | invocant =>
      rw [idle (by simp [kind]) (by simp [kind]), List.append_nil]
      simp only [bindStep, kind, Leads.bind_iff, Leads.get_iff]
      cases (session.store.items c.args)[0]? with
      | none => exact .fault rfl done.traced
      | some value => exact done
  | positional =>
      simp only [bindStep, kind, Leads.bind_iff, Leads.pure_iff]
      refine bindScalar_done (.inl kind) ?_ own done later
      simp only [origin, kind]
      split <;> rfl
  | slurpy =>
      rw [idle (by simp [kind]) (by simp [kind]), List.append_nil]
      simp only [bindStep, kind, Leads.bind_iff, Leads.pure_iff]
      exact done.leads bindSlurpy_quiet bindSlurpy_faults later
  | named =>
      simp only [bindStep, kind, Leads.bind_iff, Leads.pure_iff]
      refine bindScalar_done (.inr kind) ?_ own done later
      simp only [origin, kind]
      cases c.named.get? step.param.name <;> rfl
  | collectNamed =>
      rw [idle (by simp [kind]) (by simp [kind]), List.append_nil]
      simp only [bindStep, kind]
      exact done
  | rejectUnknown =>
      rw [idle (by simp [kind]) (by simp [kind]), List.append_nil]
      simp only [bindStep, kind]
      exact done

/-- Steps evaluate the defaults that they need, in order, until one fails. -/
theorem bindSteps_done {steps : List Step}
    (own : ∀ step ∈ steps, ∀ e, step.default? = some e → c.plan.DefaultOf step.param e)
    (done : c.Done params session) :
    Leads (c.bindSteps bound steps) session
      (fun _ after => c.Done (params ++ c.needed steps) after)
      (fun failure after =>
        c.plan.Stops c.context c.site (params ++ c.needed steps) failure after.events) := by
  -- What has been evaluated grows at its end while the steps that are left shrink at their front.
  induction steps generalizing params bound session with
  | nil => simpa [needed, bindSteps] using done
  | cons step rest ih =>
      rw [needed_cons, ← List.append_assoc]
      unfold bindSteps
      refine Leads.bind_iff.mpr ((bindStep_done (own step List.mem_cons_self) done _).mono ?_
        fun _ _ stops => stops)
      intro b middle reached
      have others := fun step member => own step (List.mem_cons_of_mem _ member)
      cases b with
      | none => exact ih others reached
      | some b => exact ih others reached

theorem bind_done (c : Call) (store : Store) :
    Leads c.bind { store } (fun _ after => c.plan.Traced (c.needed c.plan.steps) after.events)
      (fun failure after =>
        c.plan.Stops c.context c.site (c.needed c.plan.steps) failure after.events) := by
  unfold Call.bind
  simp only [Leads.bind_iff, Leads.get_iff, Leads.pure_iff]
  refine (bindSteps_done (fun step member e given => ⟨step, member, rfl, given⟩) (.start store)).mono
    (fun _ _ done => done.traced) fun _ _ stops => stops

end Call

/-! ### What the arguments leave open -/

variable {settings : PlanOptions} {s : Signature} {c : Call} {before : Store}

theorem HasDefault.isSome_eq {p : Param} {default? : Option Expression}
    (given : HasDefault settings s p default?) : default?.isSome = p.hasDefault := by
  obtain ⟨visible, compiled⟩ := given
  unfold Param.hasDefault
  unfold compileDefault at compiled
  split at compiled
  · next written =>
      cases compiled
      rw [written]
      rfl
  · cases compiled
  · next written _ =>
      dsimp only at compiled
      split at compiled
      · cases compiled
        rw [written]
        rfl
      · cases compiled

theorem Compiled.needed {step : Param → Option Expression → Step} {visible : List Text}
    {steps : List Step} (origin : Param → Origin)
    (shape : ∀ p default?, (step p default?).param = p)
    (compiled : Compiled settings s step visible params steps)
    (needs : ∀ p ∈ params, ∀ default?, default?.isSome = p.hasDefault →
      c.needs (step p default?) = p.takesDefault (origin p)) :
    c.needed steps = params.filter fun p => p.takesDefault (origin p) := by
  induction compiled with
  | nil => rfl
  | @cons visible p rest default? steps given _ ih =>
      have own := needs p List.mem_cons_self default? (HasDefault.isSome_eq ⟨visible, given⟩)
      have others := ih fun p member => needs p (List.mem_cons_of_mem _ member)
      rw [Call.needed_cons, Call.needed_singleton, own, others, shape, List.filter_cons]
      split <;> rfl

end Plan

/-! ### Broken rules -/

namespace Reading

/-- Errors that report no failed default. -/
def Plain (rule : Option CallError) : Prop := ∀ e ∈ rule, .defaultFailed ∉ e.conditions

variable {site : Site} {p : Param}

end Reading

namespace Signature

end Signature

namespace Plan

variable {settings : PlanOptions} {s : Signature} {plan : Plan}

end Plan
end CallPlan
