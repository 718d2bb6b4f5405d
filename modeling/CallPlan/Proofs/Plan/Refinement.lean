import CallPlan.Proofs.Plan.Binding
import CallPlan.Proofs.Plan.Checking
import CallPlan.Proofs.Signature.Assembled

/-!
The compiled plan and the direct reading of its signature agree: on the error of an argument list that
breaks a rule, and on what every parameter is bound to when none is broken.
-/

namespace CallPlan

open Reading

/-- The site that a plan's errors carry: the name of the plan goes before that of the site. -/
def PlanOptions.siteOf (settings : PlanOptions) (site : Site) : Site :=
  if settings.name.isEmpty then site else { site with routine := settings.name }

/-- A list of arguments in valid storage. -/
structure Store.Passes (store : Store) (args : View) : Prop where
  valid : store.Valid
  shown : (store.items args).length = args.length

instance (store : Store) (args : View) : Decidable (store.Passes args) :=
  decidable_of_iff (store.Valid ∧ (store.items args).length = args.length)
    ⟨fun both => ⟨both.1, both.2⟩, fun passes => ⟨passes.valid, passes.shown⟩⟩

namespace Plan

variable {settings : PlanOptions} {s : Signature} {step : Param → Option Expression → Step}
  {visible : List Text} {params : List Param} {steps : List Step} {plan : Plan}

/-- What the default of a parameter was compiled to, if it has one. -/
def HasDefault (settings : PlanOptions) (s : Signature) (p : Param)
    (default? : Option Expression) : Prop :=
  ∃ visible, (compileDefault settings s p visible).outcome = .ok default?

theorem HasDefault.of_engine {p : Param} {e : Expression}
    (given : HasDefault settings s p (some e)) : ∃ engine source visible,
    settings.engine = some engine ∧ engine.compile source visible = .ok e := by
  obtain ⟨visible, compiled⟩ := given
  unfold compileDefault at compiled
  split at compiled
  · simp at compiled
  · simp at compiled
  · next source engine _ chosen =>
      simp only at compiled
      split at compiled
      · next expression found =>
          cases compiled
          exact ⟨engine, _, _, chosen, found⟩
      · simp at compiled

theorem Compiled.of_mem {own : Step} (compiled : Compiled settings s step visible params steps)
    (member : own ∈ steps) :
    ∃ p ∈ params, ∃ default?, HasDefault settings s p default? ∧ own = step p default? := by
  induction compiled with
  | nil => cases member
  | @cons visible p rest default? steps found others ih =>
      rcases List.mem_cons.mp member with same | later
      · exact ⟨p, List.mem_cons_self, default?, ⟨visible, found⟩, same⟩
      · obtain ⟨p, declared, default?, found, same⟩ := ih later
        exact ⟨p, List.mem_cons_of_mem _ declared, default?, found, same⟩

/-- Every step of a plan is the invocant's, a parameter's, or binds nothing. -/
theorem step_cases {own : Step} (compiled : (compile s settings).outcome = .ok plan)
    (member : own ∈ plan.steps) :
    (∃ name, s.invocant = some name ∧ own = invocantStep name) ∨
    (∃ p ∈ s.positional, ∃ default?, HasDefault settings s p default? ∧
      own = positionalStep p default?) ∨
    (∃ p ∈ s.named, ∃ default?, HasDefault settings s p default? ∧ own = namedStep p default?) ∨
    own.kind = .collectNamed ∧ own.default? = none ∨
    own.kind = .rejectUnknown ∧ own.default? = none := by
  obtain ⟨positional, named, _, _, positionalCompiled, namedCompiled, rfl⟩ := compile_parts compiled
  simp only [List.mem_append] at member
  rcases member with (first | middle) | last
  · simp only [Option.toList_map, List.mem_map, Option.mem_toList] at first
    obtain ⟨name, declared, rfl⟩ := first
    exact .inl ⟨name, declared, rfl⟩
  · exact .inr (.inl (positionalCompiled.of_mem middle))
  · cases named with
    | nil => cases last
    | cons head rest =>
        simp only [namedSteps, List.cons_append, List.mem_cons, List.mem_append,
          List.not_mem_nil, or_false] at last
        rcases last with rfl | last | last | rfl
        · exact .inr (.inr (.inr (.inl ⟨rfl, rfl⟩)))
        · exact .inr (.inr (.inl (namedCompiled.of_mem (by simp [last]))))
        · exact .inr (.inr (.inl (namedCompiled.of_mem (by simp [last]))))
        · exact .inr (.inr (.inr (.inr ⟨rfl, rfl⟩)))

theorem default_of_engine {own : Step} {e : Expression}
    (compiled : (compile s settings).outcome = .ok plan) (member : own ∈ plan.steps)
    (given : own.default? = some e) : ∃ engine source visible,
    settings.engine = some engine ∧ engine.compile source visible = .ok e := by
  rcases step_cases compiled member with ⟨name, _, rfl⟩ | ⟨p, _, default?, found, rfl⟩ |
    ⟨p, _, default?, found, rfl⟩ | ⟨_, none⟩ | ⟨_, none⟩
  · cases given
  · cases given
    exact found.of_engine
  · cases given
    exact found.of_engine
  · rw [none] at given
    cases given
  · rw [none] at given
    cases given

theorem steps_tame (compiled : (compile s settings).outcome = .ok plan)
    (allocates : settings.Allocates) : Call.Tame plan.steps := by
  intro own member e given
  obtain ⟨engine, source, visible, chosen, found⟩ := default_of_engine compiled member given
  exact allocates engine chosen source visible e found

theorem checkRef_pointer {sigil : Sigil} {value : Value}
    (accepted : Arguments.checkRef sigil value = .ok ()) :
    ∃ type place, value = .pointer type place := by
  cases value with
  | pointer type place => exact ⟨type, place, rfl⟩
  | plain datum => simp [Arguments.checkRef] at accepted
  | list view => simp [Arguments.checkRef] at accepted
  | dict cell => simp [Arguments.checkRef] at accepted

theorem pointer_of_notReference {site : Site} {p : Param} {value : Value}
    (kept : notReference site p (some value) = none) (reference : p.refAlias = true) :
    ∃ type place, value = .pointer type place := by
  simp only [notReference, reference, if_true, Option.bind_some] at kept
  split at kept
  · next accepted => exact checkRef_pointer accepted
  · cases kept

variable {before : Store} {c : Call} {strict : Bool} {site : Site}

theorem origin_positional {p : Param} {index : Nat} {default? : Option Expression}
    {rest : List Value} (placed : p.index = some index) (counted : rest.length = c.rest.length) :
    c.origin (positionalStep p default?) = Signature.positionalOrigin rest index p := by
  cases slurpy : p.slurpy <;>
    simp [Call.origin, positionalStep, Signature.positionalOrigin, slurpy, placed, counted]

theorem origin_named {p : Param} {default? : Option Expression} {positional : Nat}
    {pairs : List Value}
    (collected : ∀ key, c.named.get? key = (lastPair? pairs key).map (positional + 2 * ·)) :
    c.origin (namedStep p default?) = Signature.namedOrigin positional pairs p := by
  simp only [Call.origin, namedStep, Signature.namedOrigin, collected]
  cases lastPair? pairs p.name <;> rfl

theorem ready_positional (site : Site) {p : Param} {index : Nat} {default? : Option Expression}
    (placed : p.index = some index) (shown : (before.items c.rest).length = c.rest.length)
    (kept : firstOf (positionalRules site (before.items c.rest) index p) = none) :
    c.Ready before (positionalStep p default?) := by
  have atIndex : (positionalStep p default?).index = index := by simp [positionalStep, placed]
  simp only [positionalRules, firstOf_eq_none, List.mem_cons, List.not_mem_nil, or_false,
    forall_eq_or_imp, forall_eq] at kept
  obtain ⟨-, reference, pairs⟩ := kept
  constructor
  case invocant => cases slurpy : p.slurpy <;> simp [positionalStep, slurpy]
  case argument =>
    intro kind other here
    rw [origin_positional placed shown] at here
    unfold Signature.positionalOrigin at here
    split at here
    · cases here
    · next scalar =>
        split at here
        · next within =>
            cases here
            have found := List.getElem?_eq_getElem within
            rw [if_neg scalar, found] at reference
            exact ⟨_, found, pointer_of_notReference reference⟩
        · cases here
  case tail =>
    intro kind hash
    have slurpy : p.slurpy = true := by
      cases slurpy : p.slurpy
      · simp [positionalStep, slurpy] at kind
      · rfl
    have sigil : p.sigil = .hash := hash
    simpa [slurpy, sigil, malformed, atIndex] using pairs

theorem ready_named (site : Site) {p : Param} {default? : Option Expression} {positional : Nat}
    {pairs : List Value} (tail : (before.items c.rest).drop positional = pairs)
    (collected : ∀ key, c.named.get? key = (lastPair? pairs key).map (positional + 2 * ·))
    (kept : firstOf (Reading.namedRules site pairs p) = none) :
    c.Ready before (namedStep p default?) := by
  simp only [Reading.namedRules, firstOf_eq_none, List.mem_cons, List.not_mem_nil, or_false,
    forall_eq_or_imp, forall_eq] at kept
  obtain ⟨-, reference⟩ := kept
  constructor
  case invocant => simp [namedStep]
  case argument =>
    intro kind index here
    rw [origin_named collected] at here
    unfold Signature.namedOrigin at here
    split at here
    · next pair last =>
        cases here
        have found := List.getElem?_eq_getElem (lastPair?_bound last)
        have passed : (before.items c.rest)[positional + 2 * pair + 1]? = pairs[2 * pair + 1]? := by
          rw [← tail, List.getElem?_drop]
          rfl
        simp only [valueOf?, last, Option.bind_some, found] at reference
        exact ⟨_, passed.trans found, pointer_of_notReference reference⟩
    · cases here
  case tail => simp [namedStep]

/-- The call's own bookkeeping is that of the signature. -/
structure Call.Follows (c : Call) (s : Signature) (before : Store) : Prop where
  rest : c.rest = c.args.drop (if s.invocant.isSome then 1 else 0)
  collected : ∀ key, s.hasNamed = true → c.named.get? key =
    (lastPair? (s.pairs (before.items c.args)) key).map (s.positional.length + 2 * ·)

theorem Call.Follows.items_rest (follows : c.Follows s before) :
    before.items c.rest = s.rest (before.items c.args) := by
  rw [follows.rest, Store.items_drop, Signature.rest]
  cases s.invocant <;> simp

theorem Call.Follows.shown (follows : c.Follows s before)
    (passed : (before.items c.args).length = c.args.length) :
    (before.items c.rest).length = c.rest.length := by
  rw [follows.rest, Store.items_drop, List.length_drop, passed]
  rfl

/-- Where no rule is broken, every step is ready to bind. -/
theorem steps_ready (compiled : (compile s settings).outcome = .ok plan)
    (wellFormed : s.WellFormed)
    (follows : c.Follows s before) (passed : (before.items c.args).length = c.args.length)
    (kept : s.firstBroken strict site (before.items c.args) = none) :
    ∀ step ∈ plan.steps, c.Ready before step := by
  simp only [Signature.firstBroken, Signature.rules, firstOf_append, Option.or_eq_none_iff] at kept
  obtain ⟨⟨⟨invocantKept, positionalKept⟩, namedKept⟩, -⟩ := kept
  have rest := follows.items_rest
  intro own member
  -- A step of a parameter is ready because the rules on that very parameter are among those kept.
  rcases step_cases compiled member with ⟨name, declared, rfl⟩ | ⟨p, listed, default?, found, rfl⟩ |
    ⟨p, listed, default?, found, rfl⟩ | ⟨kind, _⟩ | ⟨kind, _⟩
  · constructor
    case invocant =>
      intro _
      cases passed : before.items c.args with
      | nil => simp [Signature.invocantRules, declared, passed] at invocantKept
      | cons value others => exact ⟨value, rfl⟩
    case argument => simp [invocantStep]
    case tail => simp [invocantStep]
  · obtain ⟨index, placed⟩ := List.getElem?_of_mem listed
    apply ready_positional site (wellFormed.placed index p placed) (follows.shown passed)
    rw [firstOf_eq_none] at positionalKept ⊢
    intro rule broken
    refine positionalKept rule (List.mem_flatten.mpr ⟨_, List.mem_mapIdx.mpr ?_, broken⟩)
    obtain ⟨within, same⟩ := List.getElem?_eq_some_iff.mp placed
    exact ⟨index, within, by rw [same, rest]⟩
  · have hasNamed := Signature.hasNamed_of_mem listed
    have tail : (before.items c.rest).drop s.positional.length = s.pairs (before.items c.args) := by
      rw [rest]
      rfl
    apply ready_named site tail (fun key => follows.collected key hasNamed)
    rw [firstOf_eq_none] at namedKept ⊢
    intro rule broken
    apply namedKept rule
    simp only [Signature.namedRules, hasNamed, if_true, List.mem_append, List.mem_cons,
      List.mem_flatMap]
    exact .inl (.inr ⟨p, listed, broken⟩)
  · constructor <;> simp [kind]
  · constructor <;> simp [kind]

theorem Call.MadeAll.compiled {after : Store} {made : Entries Binding}
    (shape : ∀ p default?, (step p default?).param = p ∧ (step p default?).default? = default? ∧
      (step p default?).mode = .ofParam p ∧ ((step p default?).kind = .positional ∨
        (step p default?).kind = .slurpy ∨ (step p default?).kind = .named))
    (compiled : Compiled settings s step visible params steps)
    (all : Call.MadeAll c before after steps made) :
    made.keys = params.map (·.name) ∧ ∀ p ∈ params, ∃ default? b, HasDefault settings s p default? ∧
      (p.name, b) ∈ made ∧
      Bound before after c.rest (.ofParam p) p default? (c.origin (step p default?)) b := by
  induction compiled generalizing made with
  | nil =>
      cases all
      exact ⟨rfl, by simp⟩
  | @cons visible p rest default? steps given others ih =>
      obtain ⟨param, expression, mode, kind⟩ := shape p default?
      cases all with
      | skip own remaining =>
          cases own with
          | nothing wrong => rcases kind with kind | kind | kind <;> simp [kind] at wrong
      | @cons _ _ b made own remaining =>
          obtain ⟨keys, found⟩ := ih remaining
          cases own with
          | invocant wrong => rcases kind with kind | kind | kind <;> simp [kind] at wrong
          | param _ bound =>
              rw [param, expression, mode] at bound
              refine ⟨by simpa [Entries.keys, param] using keys, ?_⟩
              intro q member
              rcases List.mem_cons.mp member with rfl | later
              · exact ⟨default?, b, ⟨visible, given⟩, by rw [param]; exact List.mem_cons_self, bound⟩
              · obtain ⟨default?, b, given, listed, bound⟩ := found q later
                exact ⟨default?, b, given, List.mem_cons_of_mem _ listed, bound⟩

theorem Call.MadeAll.append {after : Store} (left : List Step) {right : List Step}
    {made : Entries Binding} (all : Call.MadeAll c before after (left ++ right) made) :
    ∃ first second, made = first ++ second ∧ Call.MadeAll c before after left first ∧
      Call.MadeAll c before after right second := by
  induction left generalizing made with
  | nil => exact ⟨[], made, rfl, .nil, all⟩
  | cons step rest ih =>
      cases all with
      | skip own others =>
          obtain ⟨first, second, rfl, front, back⟩ := ih others
          exact ⟨first, second, rfl, .skip own front, back⟩
      | cons own others =>
          obtain ⟨first, second, rfl, front, back⟩ := ih others
          exact ⟨_ :: first, second, rfl, .cons own front, back⟩

theorem Call.MadeAll.of_skipped {after : Store} {own : Step} {steps : List Step}
    {made : Entries Binding} (kind : own.kind = .collectNamed ∨ own.kind = .rejectUnknown)
    (all : Call.MadeAll c before after (own :: steps) made) :
    Call.MadeAll c before after steps made := by
  cases all with
  | skip own others => exact others
  | cons made others =>
      cases made with
      | invocant wrong => rcases kind with kind | kind <;> simp [kind] at wrong
      | param wrong _ => rcases kind with kind | kind <;> simp [kind] at wrong

theorem Call.MadeAll.of_namedSteps {after : Store} {count : Nat} {named : List Step}
    {made : Entries Binding} (all : Call.MadeAll c before after (namedSteps count named) made) :
    Call.MadeAll c before after named made := by
  cases named with
  | nil => exact all
  | cons head rest =>
      obtain ⟨first, second, rfl, front, back⟩ :=
        Call.MadeAll.append (head :: rest) (all.of_skipped (.inl rfl))
      cases back.of_skipped (.inr rfl)
      simpa using front

theorem Call.MadeAll.of_invocant {after : Store} {made : Entries Binding}
    (all : Call.MadeAll c before after (s.invocant.map invocantStep).toList made) :
    made.keys = s.invocant.toList ∧ ∀ name, s.invocant = some name → ∃ value,
      (before.items c.args)[0]? = some value ∧
      (name, { param := { name }, supplied := true, content := .own value }) ∈ made := by
  cases declared : s.invocant with
  | none =>
      rw [declared] at all
      cases all
      exact ⟨rfl, by simp⟩
  | some name =>
      rw [declared] at all
      cases all with
      | skip own others =>
          cases own with
          | nothing wrong => simp [invocantStep] at wrong
      | cons own others =>
          cases others
          cases own with
          | param wrong _ => simp [invocantStep] at wrong
          | @invocant value _ passed =>
              refine ⟨rfl, fun other same => ?_⟩
              cases same
              exact ⟨value, passed, List.mem_singleton.mpr rfl⟩

end Plan

namespace Signature

/-- The bindings of a successful call, as the signature alone says them. `before` is the storage at the
time of the call. -/
structure Reads (s : Signature) (settings : PlanOptions) (before after : Store) (args : View)
    (b : Bindings) : Prop where
  /-- Binding assigns to no storage that was there. -/
  kept : before.Extends after
  names : b.names = s.invocant.toList ++ s.params.map (·.name)
  rest : b.args = args.drop (if s.invocant.isSome then 1 else 0)
  invocant : b.invocant = s.invocant.bind fun _ => (before.items args)[0]?
  invocantBound : ∀ name, s.invocant = some name → ∃ value, (before.items args)[0]? = some value ∧
    b.lookup? name = some { param := { name }, supplied := true, content := .own value }
  bound : ∀ p origin, (p, origin) ∈ s.origins (before.items args) → ∃ default? binding,
    Plan.HasDefault settings s p default? ∧ b.lookup? p.name = some binding ∧
    Bound before after b.args (.ofParam p) p default? origin binding

/-- A call that breaks no rule fails only at the default of a parameter that nothing was passed for. -/
def FailsAtDefault (s : Signature) (settings : PlanOptions) (context : Context) (site : Site)
    (args : List Value) (failure : BindFailure) : Prop :=
  ∃ p e, (p, Origin.missing) ∈ s.origins args ∧ p.required = false ∧
    Plan.HasDefault settings s p (some e) ∧
    Plan.Call.DefaultFailure settings.scope context site p e failure

theorem mem_origins {s : Signature} {args : List Value} {p : Param} {origin : Origin} :
    (p, origin) ∈ s.origins args ↔
      (∃ index, s.positional[index]? = some p ∧ origin = positionalOrigin (s.rest args) index p) ∨
      (p ∈ s.named ∧ origin = namedOrigin s.positional.length (s.pairs args) p) := by
  simp only [origins, List.mem_append, List.mem_mapIdx, List.mem_map, Prod.mk.injEq]
  constructor
  · rintro (⟨index, within, rfl, rfl⟩ | ⟨q, listed, rfl, rfl⟩)
    · exact .inl ⟨index, List.getElem?_eq_getElem within, rfl⟩
    · exact .inr ⟨listed, rfl⟩
  · rintro (⟨index, found, rfl⟩ | ⟨listed, rfl⟩)
    · obtain ⟨within, rfl⟩ := List.getElem?_eq_some_iff.mp found
      exact .inl ⟨index, within, rfl, rfl⟩
    · exact .inr ⟨p, listed, rfl, rfl⟩

theorem mem_params_iff {s : Signature} {p : Param} (args : List Value) :
    p ∈ s.params ↔ ∃ origin, (p, origin) ∈ s.origins args := by
  simp only [mem_origins, params, List.mem_append]
  constructor
  · rintro (listed | listed)
    · obtain ⟨index, found⟩ := List.getElem?_of_mem listed
      exact ⟨_, .inl ⟨index, found, rfl⟩⟩
    · exact ⟨_, .inr ⟨listed, rfl⟩⟩
  · rintro ⟨origin, ⟨index, found, _⟩ | ⟨listed, _⟩⟩
    · exact .inl (List.mem_of_getElem? found)
    · exact .inr listed

end Signature

namespace Plan

variable {settings : PlanOptions} {s : Signature} {plan : Plan} {before after : Store} {c : Call}

/-- What the steps of a plan have made is what its signature says. -/
theorem reads_of_made {made : Entries Binding} (compiled : (compile s settings).outcome = .ok plan)
    (wellFormed : s.WellFormed) (follows : c.Follows s before)
    (passed : (before.items c.args).length = c.args.length) (extension : before.Extends after)
    (all : Call.MadeAll c before after plan.steps made) :
    s.Reads settings before after c.args { 
      entries := made, args := c.rest
      invocant := s.invocant.bind fun _ => (before.items c.args)[0]? } := by
  -- The bindings are cut where the steps are: those of the invocant, of positional and of named parameters.
  obtain ⟨positional, named, _, _, positionalCompiled, namedCompiled, rfl⟩ := compile_parts compiled
  obtain ⟨front, namedMade, rfl, frontMade, namedSteps⟩ := all.append _
  obtain ⟨invocantMade, positionalMade, rfl, invocantSteps, positionalSteps⟩ := frontMade.append _
  obtain ⟨invocantKeys, invocantBound⟩ := invocantSteps.of_invocant
  obtain ⟨positionalKeys, positionalBound⟩ := positionalSteps.compiled
    (fun p default? => ⟨rfl, rfl, rfl, by cases slurpy : p.slurpy <;> simp [positionalStep, slurpy]⟩)
    positionalCompiled
  obtain ⟨namedKeys, namedBound⟩ := namedSteps.of_namedSteps.compiled
    (fun p default? => ⟨rfl, rfl, rfl, .inr (.inr rfl)⟩) namedCompiled
  have keys : (invocantMade ++ positionalMade ++ namedMade).keys =
      s.invocant.toList ++ s.params.map (·.name) := by
    simp only [Entries.keys, List.map_append, Signature.params, List.append_assoc] at *
    rw [invocantKeys, positionalKeys, namedKeys]
  have looked : ∀ {name : Text} {b : Binding}, (name, b) ∈ invocantMade ++ positionalMade ++ namedMade →
      Bindings.lookup? { entries := invocantMade ++ positionalMade ++ namedMade, args := c.rest
                         invocant := s.invocant.bind fun _ => (before.items c.args)[0]? } name =
        some b := by
    intro name b member
    exact Bindings.lookup?_of_get? (Entries.get?_of_mem (keys ▸ wellFormed.distinct) member)
  refine ⟨extension, keys, follows.rest, rfl, ?_, ?_⟩
  · intro name declared
    obtain ⟨value, found, member⟩ := invocantBound name declared
    exact ⟨value, found, looked (by simp [member])⟩
  · intro p origin member
    rcases Signature.mem_origins.mp member with ⟨index, found, rfl⟩ | ⟨listed, rfl⟩
    · obtain ⟨default?, b, given, entry, bound⟩ := positionalBound p (List.mem_of_getElem? found)
      rw [origin_positional (wellFormed.placed index p found)
        (follows.items_rest ▸ follows.shown passed)] at bound
      exact ⟨default?, b, given, looked (by simp [entry]), bound⟩
    · obtain ⟨default?, b, given, entry, bound⟩ := namedBound p listed
      rw [origin_named fun key => follows.collected key (Signature.hasNamed_of_mem listed)] at bound
      exact ⟨default?, b, given, looked (by simp [entry]), bound⟩

theorem failsAtDefault_of_step {failure : BindFailure} {step : Step}
    (compiled : (compile s settings).outcome = .ok plan) (wellFormed : s.WellFormed)
    (follows : c.Follows s before) (passed : (before.items c.args).length = c.args.length)
    (own : c.plan = plan) (member : step ∈ plan.steps) (missing : c.origin step = .missing)
    (failed : c.Defaulted step failure) :
    s.FailsAtDefault settings c.context c.site (before.items c.args) failure := by
  obtain ⟨e, given, optional, failed⟩ := failed
  obtain ⟨-, -, scope⟩ := compile_fields compiled
  rw [own, scope] at failed
  rcases step_cases compiled member with ⟨name, _, rfl⟩ | ⟨p, listed, default?, found, rfl⟩ |
    ⟨p, listed, default?, found, rfl⟩ | ⟨_, none⟩ | ⟨_, none⟩
  · cases given
  · cases given
    obtain ⟨index, placed⟩ := List.getElem?_of_mem listed
    rw [origin_positional (wellFormed.placed index p placed)
      (follows.items_rest ▸ follows.shown passed)] at missing
    exact ⟨p, e, Signature.mem_origins.mpr (.inl ⟨index, placed, missing.symm⟩), optional, found,
      failed⟩
  · cases given
    rw [origin_named fun key => follows.collected key (Signature.hasNamed_of_mem listed)] at missing
    exact ⟨p, e, Signature.mem_origins.mpr (.inr ⟨listed, missing.symm⟩), optional, found, failed⟩
  · rw [none] at given
    cases given
  · rw [none] at given
    cases given

/-- What has passed the checks is bound as the signature says, or a default fails. -/
theorem bind_leads (compiled : (compile s settings).outcome = .ok plan)
    (wellFormed : s.WellFormed) (allocates : settings.Allocates)
    (passes : before.Passes c.args) (follows : c.Follows s before) (own : c.plan = plan)
    {strict : Bool} {site : Site}
    (kept : s.firstBroken strict site (before.items c.args) = none) :
    Leads c.bind { store := before }
      (fun bindings after => s.Reads settings before after.store c.args bindings)
      (fun failure _ => s.FailsAtDefault settings c.context c.site (before.items c.args) failure) := by
  obtain ⟨signature, -, -⟩ := compile_fields compiled
  simp only [Call.bind, own, signature, Leads.bind_iff, Leads.get_iff, Leads.pure_iff]
  refine (Call.bindSteps_leads (.refl before) passes.valid passes.shown (follows.shown passes.shown)
    (steps_ready compiled wellFormed follows passes.shown kept) (steps_tame compiled allocates)
    (by simp)).mono ?_ ?_
  · rintro entries after ⟨extension, made, rfl, all⟩
    rw [extension.items_of_shown passes.shown]
    exact reads_of_made compiled wellFormed follows passes.shown extension all
  · rintro failure _ ⟨step, member, missing, failed⟩
    exact failsAtDefault_of_step compiled wellFormed follows passes.shown own member missing failed

theorem follows_of_checked {checked : Checked} {strict : Bool} {site : Site}
    (own : c.rest = c.args.drop (c.args.length - checked.rest.length))
    (named : c.named = checked.named)
    (passed : (before.items c.args).length = c.args.length)
    (kept : s.firstBroken strict site (before.items c.args) = none)
    (rest : checked.rest = s.rest (before.items c.args))
    (collected : ∀ key, s.hasNamed = true → checked.named.get? key =
      (lastPair? (s.pairs (before.items c.args)) key).map (s.positional.length + 2 * ·)) :
    c.Follows s before := by
  refine ⟨?_, by simpa only [named] using collected⟩
  rw [own, rest, Signature.rest]
  cases declared : s.invocant with
  | none => simp [passed]
  | some name =>
      -- An invocant that is declared is passed, so one argument is left out of the rest.
      have present : before.items c.args ≠ [] := by
        intro empty
        simp [Signature.firstBroken, Signature.rules, Signature.invocantRules, declared, empty] at kept
      have positive := List.length_pos_iff.mpr present
      simp only [Option.isSome_some, if_true, List.length_tail]
      congr 1
      omega

/-- A call is refused with the first rule that its arguments break, before anything is bound. If they
break none, what has been checked is bound. -/
theorem call_cases (context : Context) (site : Site) (store : Store) (args : View)
    (compiled : (compile s settings).outcome = .ok plan) (wellFormed : s.WellFormed) :
    match s.firstBroken settings.strictArity (settings.siteOf site) (store.items args) with
    | some error => plan.call context site store args = (.error (.refused error), { store })
    | none => ∃ c : Call, c.plan = plan ∧ c.context = context ∧ c.site = settings.siteOf site ∧
        c.args = args ∧ ((store.items args).length = args.length → c.Follows s store) ∧
        plan.call context site store args = c.bind.run.run { store } := by
  obtain ⟨-, name, -⟩ := compile_fields compiled
  have checked := check_eq (settings.siteOf site) (store.items args) compiled wellFormed.placed
  have called : plan.call context site store args =
      match plan.check (settings.siteOf site) (store.items args) with
      | .error failure => (.error failure, { store })
      | .ok checked => (Call.bind {
          plan, context, site := settings.siteOf site, args, named := checked.named
          rest := args.drop (args.length - checked.rest.length) }).run.run { store } := by
    simp only [call, Plan.bind, ExceptT.run_bind, StateT.run_bind, ExceptT.run_mk, pure_bind,
      bind_assoc, StateT.run_get, name, PlanOptions.siteOf]
    cases plan.check (if settings.name.isEmpty then site else { site with routine := settings.name })
      (store.items args) <;> rfl
  cases kept : s.firstBroken settings.strictArity (settings.siteOf site) (store.items args) with
  | some error =>
      simp only [kept] at checked
      simp only [called, checked]
  | none =>
      simp only [kept] at checked
      obtain ⟨found, passed, rest, collected⟩ := checked
      simp only [called, passed]
      refine ⟨{
        plan, context, site := settings.siteOf site, args, named := found.named
        rest := args.drop (args.length - found.rest.length) }, rfl, rfl, rfl, rfl, ?_, rfl⟩
      intro shown
      exact follows_of_checked rfl rfl shown kept rest collected

theorem call_reads {context : Context} {site : Site} {store : Store} {args : View}
    {bindings : Bindings} {after : Session} (compiled : (compile s settings).outcome = .ok plan)
    (wellFormed : s.WellFormed) (allocates : settings.Allocates) (passes : store.Passes args)
    (called : plan.call context site store args = (.ok bindings, after)) :
    s.Reads settings store after.store args bindings := by
  have cases := call_cases context site store args compiled wellFormed
  split at cases
  · rw [cases] at called
    cases called
  · next kept =>
      obtain ⟨c, own, rfl, same, rfl, follows, run⟩ := cases
      exact (bind_leads compiled wellFormed allocates passes (follows passes.shown) own kept).of_ok
        (run ▸ called)

/-- A plan refuses an argument list with the first rule that it breaks. A list that breaks none is bound
as its signature says, unless a default that is needed fails. -/
theorem call_refines_signature (text : Text) (options : AssemblyOptions)
    (parsed : Signature.parse text options = .ok s)
    (compiled : (compile s settings).outcome = .ok plan) (context : Context) (site : Site)
    (store : Store) (args : View) :
    match s.firstBroken settings.strictArity (settings.siteOf site) (store.items args) with
    | some error => plan.call context site store args = (.error (.refused error), { store })
    | none => store.Passes args → settings.Allocates →
        match plan.call context site store args with
        | (.ok bindings, after) => s.Reads settings store after.store args bindings
        | (.error failure, _) =>
            s.FailsAtDefault settings context (settings.siteOf site) (store.items args) failure := by
  have wellFormed := (Signature.parse_assembled parsed).wellFormed
  have cases := call_cases context site store args compiled wellFormed
  split at cases
  · exact cases
  · next kept =>
      intro passes allocates
      obtain ⟨c, own, rfl, same, rfl, follows, run⟩ := cases
      have leads := bind_leads compiled wellFormed allocates passes (follows passes.shown) own kept
      rw [run, ← same]
      rcases ended : c.bind.run.run { store } with ⟨outcome, after⟩
      cases outcome with
      | ok bindings => exact leads.of_ok ended
      | error failure => exact leads.of_error ended

/-- A receiver, a reference, and an argument by name that defaults to what the reference refers to. -/
def receiverSample : Signature where
  text := "$self: \\$out, :$y = $out"
  invocant := some "self"
  positional := [{ name := "out", refAlias := true, index := some 0 }]
  named := [{ name := "y", role := .named, optional := true, defaultSource := some "$out" }]

/-- Two arguments, of which the second points to a variable. -/
def receiverStore : Store where
  cells := #[.list [.null, .pointer .any (.variable 1)], .variable (.plain (.text "a"))]

theorem call_refines_signature_receiver :
    Signature.parse "$self: \\$out, :$y = $out" {} = .ok receiverSample ∧
    ∃ plan, (compile receiverSample .starlark).outcome = .ok plan ∧
      plan.call [] {} receiverStore ⟨0, 0, 1⟩ = (.error (.refused {
        kind := .missingArgument, site := {}, param := "\\$out" }), { store := receiverStore }) ∧
      ∃ bindings after, plan.call [] {} receiverStore ⟨0, 0, 2⟩ = (.ok bindings, after) ∧
        receiverSample.Reads .starlark receiverStore after.store ⟨0, 0, 2⟩ bindings := by
  have parsed : Signature.parse "$self: \\$out, :$y = $out" {} = .ok receiverSample := by rfl
  -- The second call takes the reference only, and evaluates the default.
  obtain ⟨plan, compiled, bindings, after, called⟩ :
      ∃ plan, (compile receiverSample .starlark).outcome = .ok plan ∧
      ∃ bindings after, plan.call [] {} receiverStore ⟨0, 0, 2⟩ = (.ok bindings, after) := by
    decide +kernel
  refine ⟨parsed, plan, compiled, ?_, bindings, after, called, ?_⟩
  · have refines := call_refines_signature _ {} parsed compiled [] {} receiverStore ⟨0, 0, 1⟩
    have broken : receiverSample.firstBroken (PlanOptions.strictArity .starlark)
        (PlanOptions.siteOf .starlark {}) (receiverStore.items ⟨0, 0, 1⟩) =
        some { kind := .missingArgument, site := {}, param := "\\$out" } := by decide
    rwa [broken] at refines
  · have refines := call_refines_signature _ {} parsed compiled [] {} receiverStore ⟨0, 0, 2⟩
    have kept : receiverSample.firstBroken (PlanOptions.strictArity .starlark)
        (PlanOptions.siteOf .starlark {}) (receiverStore.items ⟨0, 0, 2⟩) = none := by decide
    rw [kept] at refines
    have bound := refines (by decide) PlanOptions.starlark_confined.allocates
    rwa [called] at bound

end Plan
end CallPlan
