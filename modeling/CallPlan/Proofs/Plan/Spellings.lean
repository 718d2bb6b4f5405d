import CallPlan.Proofs.Compile
import CallPlan.Proofs.Plan.Isolation
import CallPlan.Proofs.Plan.Safety
import CallPlan.Proofs.Plan.Visibility
import CallPlan.Proofs.Signature.Canonical

/-!
The ways of writing a parameter. Its name, the name with its sigil and its display form all find its own
binding, unless the invocant has been given one of the two marked forms as its name: what is bound is
looked for as it is written before any mark is taken off.
-/

namespace CallPlan

theorem Leads.ends {α : Type} (m : BindM α) (session : Session) :
    Leads m session (fun _ _ => True) fun _ _ => True := by
  unfold Leads
  rcases m.run.run session with ⟨outcome, after⟩
  cases outcome <;> trivial

namespace Param

theorem bareName_var (p : Param) : Bindings.bareName p.var = p.name := by
  unfold var
  cases p.sigil <;> rfl

theorem bareName_display (p : Param) : Bindings.bareName p.display = p.name := by
  unfold display var
  cases p.role <;> cases p.refAlias <;> cases p.sigil <;> rfl

/-- The forms of a parameter that have marks in front of its name. -/
def marked (p : Param) : List Text := [p.var, p.display]

theorem bareName_marked {p : Param} {spelling : Text} (marks : spelling ∈ p.marked) :
    Bindings.bareName spelling = p.name := by
  simp only [marked, List.mem_cons, List.not_mem_nil, or_false] at marks
  rcases marks with rfl | rfl
  · exact bareName_var p
  · exact bareName_display p

theorem not_isIdentifier_marked {p : Param} {spelling : Text} (marks : spelling ∈ p.marked) :
    spelling.isIdentifier = false := by
  have none : ∀ mark ∈ [Glyph.char '$', .char '@', .char '%', .char ':', .char '\\'],
      mark.startsIdentifier = false := by decide
  have starts : ∃ mark ∈ [Glyph.char '$', .char '@', .char '%', .char ':', .char '\\'],
      ∃ rest, spelling = mark :: rest := by
    simp only [marked, display, var, List.mem_cons, List.not_mem_nil, or_false] at marks
    rcases marks with rfl | rfl
    · cases p.sigil <;> exact ⟨_, by decide, _, rfl⟩
    · cases p.role <;> cases p.refAlias <;> cases p.sigil <;> exact ⟨_, by decide, _, rfl⟩
  obtain ⟨mark, among, rest, rfl⟩ := starts
  rw [Text.isIdentifier, none mark among, Bool.false_and]

end Param

namespace Plan.Call

variable {c : Call} {step : Step} {bound : Entries Binding} {session : Session}

theorem bindScalar_param (index : Option Nat) :
    Leads (c.bindScalar step index bound) session (fun b _ => b.param = step.param) fun _ _ => True := by
  cases index with
  | none => exact Leads.bind_iff.mpr ((Leads.ends _ session).mono (fun _ _ _ => rfl) fun _ _ _ => trivial)
  | some index =>
      exact Leads.bind_iff.mpr ((Leads.ends _ session).mono (fun _ _ _ => rfl) fun _ _ _ => trivial)

theorem bindSlurpy_param :
    Leads (c.bindSlurpy step) session (fun b _ => b.param = step.param) fun _ _ => True := by
  unfold bindSlurpy
  simp only [Leads.bind_iff, Leads.get_iff]
  split
  · split
    · trivial
    · rfl
  · split <;> rfl

theorem bindStep_param :
    Leads (c.bindStep bound step) session
      (fun b _ => b.map (·.param) = if step.binds then some step.param else none) fun _ _ => True := by
  unfold Step.binds
  cases kind : step.kind with
  | invocant =>
      simp only [bindStep, kind, Leads.bind_iff, Leads.get_iff]
      cases (session.store.items c.args)[0]? with
      | none => trivial
      | some value => rfl
  | positional =>
      simp only [bindStep, kind, Leads.bind_iff, Leads.pure_iff]
      exact (bindScalar_param _).mono (fun b _ same => congrArg some same) fun _ _ _ => trivial
  | named =>
      simp only [bindStep, kind, Leads.bind_iff, Leads.pure_iff]
      exact (bindScalar_param _).mono (fun b _ same => congrArg some same) fun _ _ _ => trivial
  | slurpy =>
      simp only [bindStep, kind, Leads.bind_iff, Leads.pure_iff]
      exact bindSlurpy_param.mono (fun b _ same => congrArg some same) fun _ _ _ => trivial
  | collectNamed =>
      simp only [bindStep, kind]
      rfl
  | rejectUnknown =>
      simp only [bindStep, kind]
      rfl

/-- The parameters that steps bind, by name. -/
def bindsParams (steps : List Step) : Entries Param :=
  (steps.filter (·.binds)).map fun step => (step.param.name, step.param)

theorem bindSteps_params {steps : List Step} :
    Leads (c.bindSteps bound steps) session
      (fun entries _ => entries.mapValues (·.param) = bound.mapValues (·.param) ++ bindsParams steps)
      fun _ _ => True := by
  induction steps generalizing bound session with
  | nil => exact (List.append_nil _).symm
  | cons step rest ih =>
      unfold bindSteps
      refine Leads.bind_iff.mpr (bindStep_param.mono ?_ fun _ _ _ => trivial)
      intro b middle made
      have all : bindsParams (step :: rest) =
          ((b.map fun b => (step.param.name, b.param)).toList) ++ bindsParams rest := by
        unfold bindsParams
        cases binds : step.binds <;> cases b <;> simp_all
      cases b with
      | none =>
          rw [all]
          exact ih
      | some b =>
          refine ih.mono ?_ fun _ _ _ => trivial
          intro entries after same
          rw [same, all]
          simp [Entries.mapValues]

theorem bind_params :
    Leads c.bind session
      (fun b _ => b.entries.mapValues (·.param) = bindsParams c.plan.steps) fun _ _ => True := by
  unfold Call.bind
  simp only [Leads.bind_iff, Leads.get_iff, Leads.pure_iff]
  exact bindSteps_params

end Plan.Call

/-- What is bound to each name of a signature: the invocant, and every parameter. -/
def Signature.binders (s : Signature) : Entries Param :=
  (s.invocant.map fun name => (name, (Plan.invocantStep name).param)).toList ++ s.params.map fun p => (p.name, p)

theorem Signature.keys_binders (s : Signature) :
    s.binders.keys = s.invocant.toList ++ s.params.map (·.name) := by
  unfold binders
  cases s.invocant <;> simp [Entries.keys]

namespace Bindings

variable {b : Bindings} {spelling key : Text} {own : Binding}

/-- Every use of a spelling is a use of one binding. -/
structure Finds (b : Bindings) (spelling key : Text) (own : Binding) : Prop where
  lookup : b.lookup? spelling = some own
  get : ∀ store, b.get? store spelling = (own.get store).map some
  set : ∀ store value, b.set store spelling value = (own.set store value).map fun changed =>
    ({ b with entries := b.entries.put key changed.1 }, changed.2)
  supplied : b.supplied spelling = own.supplied
  mode : b.mode? spelling = some own.mode
  ref : b.ref? spelling = own.ref?

theorem finds_of_resolve? (resolved : b.resolve? spelling = some key)
    (found : b.entries.get? key = some own) : b.Finds spelling key own := by
  have bound : b.lookup? spelling = some own := by simp [lookup?, resolved, found]
  exact {
    lookup := bound
    get _ := get?_of_lookup? bound
    set _ _ := set_eq resolved found
    supplied := by simp [Bindings.supplied, bound]
    mode := by simp [mode?, bound]
    ref := by simp [ref?, bound] }

/-- A spelling that is not bound itself stands for the name without its marks. -/
theorem resolve?_bareName (unbound : spelling ∉ b.entries.keys)
    (found : b.entries.get? (bareName spelling) = some own) :
    b.resolve? spelling = some (bareName spelling) := by
  have absent : b.entries.has spelling = false := by
    rw [← Bool.not_eq_true, Entries.has_iff_mem_keys]
    exact unbound
  have bound : b.entries.has (bareName spelling) = true := Entries.has_iff.mpr ⟨own, found⟩
  simp [resolve?, absent, bound]

end Bindings

namespace Frame

variable {f f' : Frame}

/-- The parameter that each name is bound for. -/
def params (f : Frame) : Entries Param := f.bindings.entries.mapValues (·.param)

theorem mem_of_mem_params {name : Text} {p : Param} (listed : (name, p) ∈ f.params) :
    ∃ own, (name, own) ∈ f.bindings.entries ∧ own.param = p := by
  obtain ⟨⟨key, own⟩, bound, same⟩ := List.mem_map.mp listed
  obtain ⟨rfl, param⟩ := Prod.mk.inj same
  exact ⟨own, bound, param⟩

theorem params_put {key : Text} {b b' : Binding} {store : Store}
    (found : f.bindings.entries.get? key = some b) (same : b'.param = b.param) :
    (f.put key b' store).params = f.params := by
  have held : f.params.get? key = some b.param := by
    rw [params, Entries.get?_mapValues, found, Option.map_some]
  have put := Entries.put_mapValues (·.param) f.bindings.entries key b'
  rw [same] at put
  exact put.symm.trans (Entries.put_of_get? held)

theorem use_params {use : Use} (used : f.use use = .ok f') : f'.params = f.params := by
  cases use with
  | get name =>
      simp only [Frame.use, except_bind_ok] at used
      obtain ⟨given, _, used⟩ := used
      cases given <;> cases used <;> rfl
  | set name value =>
      simp only [Frame.use, except_bind_ok] at used
      obtain ⟨_, _, ⟨outcome, after⟩, acted, used⟩ := used
      cases used
      rcases eq_or_put_of_act_set acted with rfl | ⟨key, b, b', after, _, found, changed, rfl⟩
      · rfl
      · refine params_put found ?_
        obtain ⟨_, changes⟩ := Binding.set_changes changed
        cases changes <;> rfl
  | map =>
      simp only [Frame.use, except_bind_ok] at used
      obtain ⟨_, _, used⟩ := used
      cases used
      rfl
  | arguments =>
      simp only [Frame.use] at used
      split at used
      · cases used
        rfl
      · cases used
  | ref name =>
      cases used
      rfl
  | mode name =>
      cases used
      rfl
  | supplied name =>
      cases used
      rfl
  | names =>
      cases used
      rfl

theorem useAll_params {uses : List Use} (used : f.useAll uses = .ok f') : f'.params = f.params := by
  induction uses generalizing f with
  | nil =>
      cases used
      rfl
  | cons use rest ih =>
      simp only [useAll, except_bind_ok] at used
      obtain ⟨middle, first, later⟩ := used
      exact (ih later).trans (use_params first)

end Frame

namespace Signature

variable {s : Signature} {p : Param} {spelling : Text}

/-- Parameters have identifiers as names, so that no marked form is one of them. -/
theorem Legible.marked_not_mem (legible : s.Legible) (marks : spelling ∈ p.marked) :
    spelling ∉ s.params.map (·.name) := by
  intro named
  obtain ⟨other, declared, rfl⟩ := List.mem_map.mp named
  have identifier := (legible other declared).2.name
  rw [Param.not_isIdentifier_marked marks] at identifier
  cases identifier

end Signature

namespace Frame

variable {f : Frame} {s : Signature} {p : Param} {spelling : Text} {own : Binding}

theorem keys_of_params (params : f.params = s.binders) :
    f.bindings.entries.keys = s.invocant.toList ++ s.params.map (·.name) := by
  rw [← Signature.keys_binders, ← params, Frame.params, Entries.keys_mapValues]

/-- The invocant is found by its own name, however that is spelled. -/
theorem lookup_invocant (params : f.params = s.binders) (wellFormed : s.WellFormed)
    (invocant : s.invocant = some spelling) :
    ∃ held, f.bindings.lookup? spelling = some held ∧ held.param.name = spelling := by
  have first : (spelling, (Plan.invocantStep spelling).param) ∈ f.params := by
    rw [params, Signature.binders, invocant]
    exact List.mem_cons_self
  obtain ⟨held, bound, same⟩ := mem_of_mem_params first
  have distinct : f.bindings.entries.keys.Nodup := keys_of_params params ▸ wellFormed.distinct
  exact ⟨held, Bindings.lookup?_of_get? (Entries.get?_of_mem distinct bound), by rw [same]; rfl⟩

/-- A marked form finds the binding of its parameter, unless the invocant is called so. -/
theorem finds_marked_iff (params : f.params = s.binders) (wellFormed : s.WellFormed)
    (legible : s.Legible) (member : own.param ∈ s.params)
    (found : f.bindings.entries.get? own.param.name = some own) (marks : spelling ∈ own.param.marked) :
    f.bindings.Finds spelling own.param.name own ↔ s.invocant ≠ some spelling := by
  have unnamed := legible.marked_not_mem marks
  have bare := Param.bareName_marked marks
  constructor
  · intro finds invocant
    obtain ⟨held, bound, same⟩ := lookup_invocant params wellFormed invocant
    cases bound.symm.trans finds.lookup
    exact unnamed (same ▸ List.mem_map_of_mem member)
  · intro free
    have unbound : spelling ∉ f.bindings.entries.keys := by
      rw [keys_of_params params, List.mem_append, Option.mem_toList]
      rintro (invocant | named)
      · exact free invocant
      · exact unnamed named
    have resolved := Bindings.resolve?_bareName unbound (bare ▸ found)
    exact Bindings.finds_of_resolve? (bare ▸ resolved) found

end Frame

namespace Plan

variable {settings : PlanOptions} {s : Signature} {plan : Plan}

theorem bindsParams_steps (compiled : (compile s settings).outcome = .ok plan) :
    Call.bindsParams plan.steps = s.binders := by
  obtain ⟨steps, binders, names, each⟩ := binders_eq compiled
  have params : steps.map (·.param) = s.params := by
    refine List.ext_getElem? fun index => ?_
    rw [List.getElem?_map]
    cases listed : steps[index]? with
    | none =>
        have counted : steps.length = s.params.length := by simpa using congrArg List.length names
        exact (List.getElem?_eq_none (counted ▸ List.getElem?_eq_none_iff.mp listed)).symm
    | some own =>
        obtain ⟨p, _, found, rfl, _⟩ := each index own listed
        exact found.symm
  rw [Call.bindsParams, binders, List.map_append, Signature.binders, ← params, List.map_map]
  cases s.invocant <;> rfl

theorem call_params {context : Context} {site : Site} {store : Store} {args : View} {b : Bindings}
    {after : Session} (compiled : (compile s settings).outcome = .ok plan) (wellFormed : s.WellFormed)
    (called : plan.call context site store args = (.ok b, after)) :
    Frame.params ⟨b, args, after.store⟩ = s.binders := by
  have cases := call_cases context site store args compiled wellFormed
  split at cases
  · cases called.symm.trans cases
  · obtain ⟨c, rfl, -, -, -, -, run⟩ := cases
    have params := Call.bind_params.of_ok (run.symm.trans called)
    exact params.trans (bindsParams_steps compiled)

/-- After a call and any uses of its bindings, each parameter of the signature is bound under its own name,
and that name finds its binding. Its two marked forms find the same binding, each unless it is the name of
the invocant. -/
theorem marked_find_iff {files : Files} {settings : List Setting} {text : Text} {plan : Plan}
    {context : Context} {site : Site} {store : Store} {args : View} {bindings : Bindings}
    {after : Session} {uses : List Use} {f : Frame} {p : Param}
    (compiled : Compilation.settle (CallPlan.compile files settings text) = .ok plan)
    (called : plan.call context site store args = (.ok bindings, after))
    (used : Frame.useAll ⟨bindings, args, after.store⟩ uses = .ok f)
    (member : p ∈ plan.signature.params) :
    ∃ own, f.bindings.entries.get? p.name = some own ∧ own.param = p ∧
      f.bindings.Finds p.name p.name own ∧ ∀ spelling ∈ p.marked,
        (f.bindings.Finds spelling p.name own ↔ plan.signature.invocant ≠ some spelling) := by
  obtain ⟨c, s, options, -, parsed, -, made⟩ := compile_ok compiled
  obtain ⟨rfl, -, -⟩ := compile_fields made
  have wellFormed := (Signature.parse_assembled parsed).wellFormed
  have legible := Signature.parse_legible parsed
  have params : f.params = plan.signature.binders :=
    (Frame.useAll_params used).trans (call_params made wellFormed called)
  have listed : (p.name, p) ∈ f.params := by
    rw [params]
    exact List.mem_append_right _ (List.mem_map_of_mem member)
  obtain ⟨own, bound, rfl⟩ := Frame.mem_of_mem_params listed
  have distinct : f.bindings.entries.keys.Nodup := Frame.keys_of_params params ▸ wellFormed.distinct
  have found := Entries.get?_of_mem distinct bound
  exact ⟨own, found, rfl, Bindings.finds_of_resolve? (Bindings.resolve?_of_get? found) found,
    fun _ marks => Frame.finds_marked_iff params wellFormed legible member found marks⟩

/-- An object, a variable to refer to, and a call that passes them. -/
def methodStore : Store where
  cells := #[
    .list [.plain (.text "object"), .plain (.text "a"), .plain (.text "out"), .pointer .any (.variable 1)],
    .variable .null]

/-- The routine reads and sets in all forms. -/
def methodUses : List Use := [.get "$x", .set ":\\$out" (.plain (.text "b")), .get "$out", .set "x" .null]

theorem marked_find_iff_reference :
    ∃ plan, Compilation.settle (CallPlan.compile {} [.invocant "self"] "$x is alias, :\\$out") = .ok plan ∧
    ∃ bindings after, plan.call [] {} methodStore ⟨0, 0, 4⟩ = (.ok bindings, after) ∧
    ∃ f, Frame.useAll ⟨bindings, ⟨0, 0, 4⟩, after.store⟩ methodUses = .ok f ∧
    ∃ p ∈ plan.signature.params, p.display = ":\\$out" ∧
    ∃ own, f.bindings.entries.get? p.name = some own ∧ own.param = p ∧
      f.bindings.Finds p.name p.name own ∧ ∀ spelling ∈ p.marked,
        (f.bindings.Finds spelling p.name own ↔ plan.signature.invocant ≠ some spelling) := by
  obtain ⟨plan, compiled, bindings, after, called, f, used, p, listed, display⟩ :
      ∃ plan, Compilation.settle (CallPlan.compile {} [.invocant "self"] "$x is alias, :\\$out") =
        .ok plan ∧
      ∃ bindings after, plan.call [] {} methodStore ⟨0, 0, 4⟩ = (.ok bindings, after) ∧
      ∃ f, Frame.useAll ⟨bindings, ⟨0, 0, 4⟩, after.store⟩ methodUses = .ok f ∧
      ∃ p : Param, plan.signature.params[1]? = some p ∧ p.display = ":\\$out" :=
    ⟨_, rfl, _, _, rfl, _, rfl, _, rfl, rfl⟩
  have member := List.mem_of_getElem? listed
  exact ⟨plan, compiled, bindings, after, called, f, used, p, member, display,
    marked_find_iff compiled called used member⟩

/-- An invocant may be called `$x`. The form with its sigil then does not find the parameter. -/
theorem invocant_hides_marked :
    ∃ plan, Compilation.settle (CallPlan.compile {} [.invocant "$x"] "$x") = .ok plan ∧
    ∃ p ∈ plan.signature.params, p.name = "x" ∧ p.var = "$x" ∧
    ∃ bindings after first second,
      plan.call [] {} { cells := #[.list [.plain (.text "a"), .plain (.text "b")]] } ⟨0, 0, 2⟩ =
        (.ok bindings, after) ∧
      bindings.get? after.store p.name = .ok (some (.plain (.text "b"), first)) ∧
      bindings.get? after.store p.var = .ok (some (.plain (.text "a"), second)) ∧
      ¬ ∃ own, own.param = p ∧ bindings.Finds p.var p.name own := by
  refine ⟨_, rfl, { name := "x", index := some 0 }, List.mem_singleton.mpr rfl, rfl, rfl, _, _, _, _, rfl,
    rfl, rfl, ?_⟩
  rintro ⟨own, param, finds⟩
  have lookup := finds.lookup
  cases lookup
  cases param

end Plan
end CallPlan
