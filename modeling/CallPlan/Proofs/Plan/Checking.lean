import CallPlan.Proofs.Plan.Pairs
import CallPlan.Proofs.Plan.Compiled
import CallPlan.Proofs.Data.Except

/-!
The checks of a compiled plan refuse an argument list with the error of the first rule of the signature
that it breaks, and pass every other list.
-/

namespace CallPlan.Plan

open Reading

variable {plan : Plan} {site : Site} {args : List Value} {c c' : Checked} {p : Param}
  {default? : Option Expression} {options : PlanOptions} {s : Signature}

/-- The outcome of a check, given the error of the rule that is broken. -/
def verdict {α : Type} (broken : Option CallError) (result : α) : Check α :=
  match broken with
  | some error => .error (.refused error)
  | none => .ok result

@[simp] theorem verdict_none {α : Type} (result : α) : verdict none result = .ok result := rfl

theorem verdict_then {α β : Type} (broken : Option CallError) (a : α) (b : β) :
    (verdict broken a >>= fun _ => (pure b : Check β)) = verdict broken b := by
  cases broken <;> rfl

theorem checkSteps_cons {c₁ c₂ : Checked} {step : Step} {steps : List Step}
    {first second : Option CallError} (head : plan.checkStep site args c step = verdict first c₁)
    (tail : plan.checkSteps site args c₁ steps = verdict second c₂) :
    plan.checkSteps site args c (step :: steps) = verdict (first.or second) c₂ := by
  rw [checkSteps, head]
  cases first with
  | some error => rfl
  | none => exact tail

theorem checkSteps_append_bind (left right : List Step) :
    plan.checkSteps site args c (left ++ right) =
      plan.checkSteps site args c left >>= fun c => plan.checkSteps site args c right := by
  induction left generalizing c with
  | nil => rfl
  | cons step rest ih =>
      simp only [List.cons_append, checkSteps]
      cases plan.checkStep site args c step with
      | error failure => rfl
      | ok next => exact ih

theorem checkSteps_append {c₁ c₂ : Checked} {left right : List Step}
    {first second : Option CallError} (head : plan.checkSteps site args c left = verdict first c₁)
    (tail : plan.checkSteps site args c₁ right = verdict second c₂) :
    plan.checkSteps site args c (left ++ right) = verdict (first.or second) c₂ := by
  rw [checkSteps_append_bind, head]
  cases first with
  | some error => rfl
  | none => exact tail

theorem checkPresent_eq (value : Value) :
    checkPresent site p value = verdict (notReference site p (some value)) () := by
  unfold checkPresent notReference
  cases p.refAlias with
  | false => rfl
  | true =>
      simp only [if_true, Option.bind_some]
      cases Arguments.checkRef p.sigil value <;> rfl

theorem checkScalar_eq (step : Step) (argument : Option Value) :
    checkScalar site step argument = verdict ((missing site step.param step.required argument).or
      (notReference site step.param argument)) () := by
  cases argument with
  | some value => simp [checkScalar, checkPresent_eq, missing]
  | none =>
      cases required : step.required <;>
        simp [checkScalar, missing, notReference, required, refuse, verdict]

theorem checkStep_positional {index : Nat} (placed : p.index = some index) :
    plan.checkStep site args c (positionalStep p default?) =
      verdict (firstOf (positionalRules site c.rest index p)) c := by
  cases slurpy : p.slurpy with
  | true =>
      simp only [checkStep, positionalStep, slurpy, if_true, placed, Option.getD_some]
      by_cases hash : p.sigil = .hash
      · have read := pairs_eq (c.rest.drop index)
        cases found : pairFault? (c.rest.drop index) with
        | some fault =>
            simp only [found] at read
            simp [hash, read, positionalRules, missing, slurpy, malformed, found, verdict, refuse]
        | none =>
            simp only [found] at read
            obtain ⟨offsets, read, _⟩ := read
            simp [hash, read, positionalRules, missing, slurpy, malformed, found, verdict]
      · simp [hash, positionalRules, missing, slurpy, verdict]
  | false =>
      simp only [checkStep, positionalStep, slurpy, placed, Option.getD_some, Bool.false_eq_true,
        if_false, checkScalar_eq, verdict_then]
      simp [positionalRules, slurpy]

theorem checkStep_named {positional : Nat} {pairs : List Value}
    (tail : c.rest.drop positional = pairs)
    (collected : ∀ key, c.named.get? key = (lastPair? pairs key).map (positional + 2 * ·)) :
    plan.checkStep site args c (namedStep p default?) =
      verdict (firstOf (Reading.namedRules site pairs p)) c := by
  simp only [checkStep, namedStep, collected]
  cases last : lastPair? pairs p.name with
  | none =>
      simp only [Option.map_none, checkScalar_eq, verdict_then]
      simp [Reading.namedRules, valueOf?, last]
  | some pair =>
      have bound := lastPair?_bound last
      have passed : c.rest[positional + 2 * pair + 1]? = pairs[2 * pair + 1]? := by
        rw [← tail, List.getElem?_drop]
        rfl
      have present : pairs[2 * pair + 1]? = some pairs[2 * pair + 1] := List.getElem?_eq_getElem bound
      simp only [Option.map_some, passed, present, checkPresent_eq, verdict_then]
      simp [Reading.namedRules, valueOf?, last, present, missing]

theorem checkSteps_positional {visible : List Text} {params : List Param} {steps : List Step}
    (start : Nat) (compiled : Compiled options s positionalStep visible params steps)
    (placed : ∀ i p, params[i]? = some p → p.index = some (start + i)) :
    plan.checkSteps site args c steps = verdict (firstOf
      (params.mapIdx fun i p => positionalRules site c.rest (start + i) p).flatten) c := by
  induction compiled generalizing start with
  | nil => rfl
  | @cons visible p rest default? steps own others ih =>
      have first := placed 0 p rfl
      have later : ∀ i q, rest[i]? = some q → q.index = some (start + 1 + i) := by
        intro i q found
        have shifted : start + (i + 1) = start + 1 + i := by omega
        rw [← shifted]
        exact placed (i + 1) q found
      have remaining := ih (start + 1) later
      rw [checkSteps_cons (checkStep_positional first) remaining]
      simp only [List.mapIdx_cons, List.flatten_cons, firstOf_append, Nat.add_zero,
        Nat.add_comm 1, Nat.add_assoc]

theorem checkSteps_named {visible : List Text} {params : List Param} {steps : List Step}
    {positional : Nat} {pairs : List Value}
    (compiled : Compiled options s namedStep visible params steps)
    (tail : c.rest.drop positional = pairs)
    (collected : ∀ key, c.named.get? key = (lastPair? pairs key).map (positional + 2 * ·)) :
    plan.checkSteps site args c steps =
      verdict (firstOf (params.flatMap (Reading.namedRules site pairs))) c := by
  induction compiled with
  | nil => rfl
  | cons own others ih =>
      rw [checkSteps_cons (checkStep_named tail collected) ih]
      simp only [List.flatMap_cons, firstOf_append]

theorem checkUnknown_eq (wellFormed : pairFault? (c.rest.drop plan.positionalCount) = none) :
    plan.checkUnknown site c.rest =
      verdict (unknown site plan.namedNames (c.rest.drop plan.positionalCount)) () := by
  simp only [checkUnknown, keysOf_eq wellFormed, unknownKeys_nil, unknown, except_ok_bind]
  rcases ((keys (c.rest.drop plan.positionalCount)).filter (!plan.namedNames.contains ·)).eraseDups with
    _ | ⟨first, _ | ⟨second, rest⟩⟩ <;> rfl

theorem checkArity_eq : plan.checkArity site c.rest =
    verdict (surplus site plan.strictArity plan.signature c.rest) () := by
  unfold checkArity surplus
  rw [apply_ite (verdict · ())]
  rfl

variable (plan site args c) in
theorem checkStep_collectNamed (positional : Nat) :
    match pairFault? (c.rest.drop positional) with
    | some fault => plan.checkStep site args c { kind := .collectNamed, index := positional } =
        refuse site .malformedNamedArguments [] (some fault.message)
    | none => ∃ named : Entries Nat,
        plan.checkStep site args c { kind := .collectNamed, index := positional } =
          .ok { c with named } ∧
        ∀ key, named.get? key =
          (lastPair? (c.rest.drop positional) key).map (positional + 2 * ·) := by
  have read := pairs_eq (c.rest.drop positional)
  cases found : pairFault? (c.rest.drop positional) with
  | some fault =>
      simp only [found] at read
      simp only [checkStep, read]
  | none =>
      simp only [found] at read
      obtain ⟨offsets, read, placed⟩ := read
      refine ⟨offsets.map fun entry => (entry.1, positional + entry.2),
        by simp only [checkStep, read], ?_⟩
      intro key
      have shifted := Entries.get?_map offsets key fun entry => positional + entry.2
      rw [placed] at shifted
      simpa only [Option.map_map, Function.comp_def] using shifted

theorem checkStep_rejectUnknown (own : plan.signature = s)
    (wellFormed : pairFault? (c.rest.drop s.positional.length) = none) :
    plan.checkStep site args c { kind := .rejectUnknown } =
      verdict (unknown site (s.named.map (·.name)) (c.rest.drop s.positional.length)) c := by
  subst own
  simp only [checkStep, checkUnknown_eq wellFormed, verdict_then]
  rfl

variable (site args c) in
/-- The steps on named parameters check what is passed by name, and note where each key is. -/
theorem checkSteps_namedSteps {visible : List Text} {named : List Step}
    (compiled : Compiled options s namedStep visible s.named named) (own : plan.signature = s) :
    match firstOf (s.namedRules site (c.rest.drop s.positional.length)) with
    | some error =>
        plan.checkSteps site args c (namedSteps s.positional.length named) = .error (.refused error)
    | none => ∃ c' : Checked,
        plan.checkSteps site args c (namedSteps s.positional.length named) = .ok c' ∧
        c'.rest = c.rest ∧ ∀ key, s.hasNamed = true → c'.named.get? key =
          (lastPair? (c.rest.drop s.positional.length) key).map (s.positional.length + 2 * ·) := by
  cases declared : s.named with
  | nil =>
      rw [declared] at compiled
      cases compiled
      simp [Signature.namedRules, Signature.hasNamed, declared, namedSteps, checkSteps]
  | cons p params =>
      have nonempty : named ≠ [] := by
        intro empty
        have length := compiled.length_eq
        simp [empty, declared] at length
      -- The named steps stand between one that reads the pairs and one that rejects keys left over.
      have steps : namedSteps s.positional.length named =
          { kind := .collectNamed, index := s.positional.length } :: (named ++ [{ kind := .rejectUnknown }]) := by
        cases named with
        | nil => exact (nonempty rfl).elim
        | cons first rest => rfl
      have hasNamed : s.hasNamed = true := by simp [Signature.hasNamed, declared]
      have collect := checkStep_collectNamed plan site args c s.positional.length
      cases found : pairFault? (c.rest.drop s.positional.length) with
      | some fault =>
          simp only [found] at collect
          simp [Signature.namedRules, hasNamed, malformed, found, steps, checkSteps, collect, refuse]
      | none =>
          simp only [found] at collect
          obtain ⟨offsets, collected, placed⟩ := collect
          have bound : plan.checkSteps site args { c with named := offsets } named = verdict _ _ :=
            checkSteps_named compiled rfl placed
          have rejected : plan.checkStep site args { c with named := offsets }
              { kind := .rejectUnknown } = verdict _ _ := checkStep_rejectUnknown own found
          have finished : plan.checkSteps site args { c with named := offsets } [] =
              verdict none { c with named := offsets } := rfl
          have whole := checkSteps_cons (collected.trans (verdict_none _).symm)
            (checkSteps_append bound (checkSteps_cons rejected finished))
          rw [steps, whole]
          simp only [Signature.namedRules, hasNamed, malformed, found, if_true, Option.map_none,
            firstOf_cons, firstOf_append, List.cons_append, Option.none_or, firstOf_nil]
          cases (firstOf (s.named.flatMap (Reading.namedRules site (c.rest.drop s.positional.length)))).or
            ((unknown site (s.named.map (·.name)) (c.rest.drop s.positional.length)).or none) with
          | some error => rfl
          | none => exact ⟨_, rfl, rfl, fun key _ => placed key⟩

variable (plan site args s) in
theorem checkSteps_invocant :
    plan.checkSteps site args { rest := args } (s.invocant.map invocantStep).toList =
      verdict (firstOf (s.invocantRules site args)) { rest := s.rest args } := by
  cases declared : s.invocant with
  | none => simp [Signature.invocantRules, Signature.rest, declared, checkSteps, verdict]
  | some name =>
      cases args <;>
        simp [Signature.invocantRules, Signature.rest, declared, checkSteps, checkStep, invocantStep,
          verdict, refuse, Param.var, Sigil.char]

variable (site args) in
/-- A compiled plan refuses an argument list with the first rule of its signature that the list breaks.
If there is none, it finds the arguments after the invocant and the last place of each key. -/
theorem check_eq (compiled : (compile s options).outcome = .ok plan)
    (placed : ∀ (i : Nat) (p : Param), s.positional[i]? = some p → p.index = some i) :
    match s.firstBroken options.strictArity site args with
    | some error => plan.check site args = .error (.refused error)
    | none => ∃ c, plan.check site args = .ok c ∧ c.rest = s.rest args ∧
        ∀ key, s.hasNamed = true → c.named.get? key =
          (lastPair? (s.pairs args) key).map (s.positional.length + 2 * ·) := by
  obtain ⟨positional, named, _, _, positionalCompiled, namedCompiled, parts⟩ := compile_parts compiled
  have own : plan.signature = s := by rw [parts]
  have strict : plan.strictArity = options.strictArity := by rw [parts]
  have steps : plan.steps = (s.invocant.map invocantStep).toList ++ positional ++
      namedSteps s.positional.length named := by rw [parts]
  clear parts
  -- The rules fall into those that stop before the named steps, those of the named steps, and the arity.
  have front := checkSteps_append (checkSteps_invocant plan site args s)
    (checkSteps_positional 0 positionalCompiled (by simpa using placed))
  have back := checkSteps_namedSteps site args { rest := s.rest args } namedCompiled own
  simp only [Nat.zero_add] at front
  simp only [check, steps, checkSteps_append_bind _ (namedSteps _ _), front]
  simp only [Signature.firstBroken, Signature.rules, firstOf_append, firstOf_cons, firstOf_nil,
    Option.or_none, Option.or_assoc]
  rw [← Option.or_assoc]
  cases broken : (firstOf (s.invocantRules site args)).or (firstOf
      (s.positional.mapIdx fun i p => positionalRules site (s.rest args) i p).flatten) with
  | some error => rfl
  | none =>
      simp only [Option.none_or]
      change match (firstOf (s.namedRules site ((s.rest args).drop s.positional.length))).or _ with
        | some error => _
        | none => _
      cases later : firstOf (s.namedRules site ((s.rest args).drop s.positional.length)) with
      | some error =>
          simp only [later] at back
          simp [verdict, back]
      | none =>
          simp only [later] at back
          obtain ⟨c, checked, rest, collected⟩ := back
          simp only [verdict, except_ok_bind, checked, checkArity_eq, own, strict, rest,
            Option.none_or]
          cases surplus site options.strictArity s (s.rest args) with
          | some error => rfl
          | none => exact ⟨c, rfl, rest, collected⟩

end CallPlan.Plan
