import CallPlan.Proofs.Signature.Acceptance
import CallPlan.Signature.Enter

/-!
Parameters entered one after the other, some of them refused. An assembler that is changed in place does
what one does that is replaced on success: every rule is checked before the first field is set, so a refused
parameter leaves nothing behind, and what an assembler holds is what the accepted parameters make.
-/

namespace CallPlan

/-- What holds of a signature however its parameters came to be there. -/
structure Signature.Consistent (s : Signature) : Prop extends WellFormed s where
  unplaced : ∀ p ∈ s.named, p.index = none
  byPosition : ∀ p ∈ s.positional, p.role = .positional
  byName : ∀ p ∈ s.named, p.role = .named
  oneSlurpy : s.slurpyCount ≤ 1
  unmixed : s.hasNamed = true → ∀ p ∈ s.positional, p.optional = false ∧ p.slurpy = false

namespace Signature

open Param (Admissible binding)

variable {invocant : Option Text} {strict : Bool} {params : List Param}

theorem mapIdx_index {β : Type} {f : Param → β} (steady : ∀ p index, f { p with index } = f p)
    (params : List Param) :
    (params.mapIdx fun index p => { p with index := some index }).map f = params.map f := by
  apply List.ext_getElem?
  intro i
  have bare : (f ∘ fun p : Param => { p with index := some i }) = f := funext fun p => steady p (some i)
  simp only [List.getElem?_map, List.getElem?_mapIdx, Option.map_map, bare]

/-- The parameters of a signature are those it was made of, in another order and at their indexes. -/
theorem ofParams_perm {β : Type} {f : Param → β} (steady : ∀ p index, f { p with index } = f p) :
    ((ofParams invocant params).params.map f).Perm ((binding params).map f) := by
  have halves := List.filter_append_perm (fun p : Param => decide (p.role = .positional)) (binding params)
  have others : (binding params).filter (fun p => decide (p.role = .named)) =
      (binding params).filter fun p => !decide (p.role = .positional) := by
    refine List.filter_congr fun p _ => ?_
    cases p.role <;> rfl
  have bare : (f ∘ fun p : Param => { p with index := none }) = f := funext fun p => steady p none
  simp only [Signature.params, ofParams, List.map_append, mapIdx_index steady, List.map_map, bare, others]
  simpa only [List.map_append] using halves.map f

theorem ofParams_consistent (admissible : Admissible invocant strict (binding params)) :
    (ofParams invocant params).Consistent where
  placed i p found := by
    simp only [ofParams, List.getElem?_mapIdx, Option.map_eq_some_iff] at found
    obtain ⟨q, -, rfl⟩ := found
    rfl
  distinct := by
    have names : ((ofParams invocant params).params.map (·.name)).Perm _ := ofParams_perm fun _ _ => rfl
    exact ((names.append_left invocant.toList).nodup_iff).mpr admissible.distinct
  unplaced p member := by
    obtain ⟨q, -, rfl⟩ := List.mem_map.mp member
    rfl
  byPosition p member := by
    obtain ⟨i, inside, rfl⟩ := List.mem_mapIdx.mp member
    exact of_decide_eq_true (List.mem_filter.mp (List.getElem_mem inside)).2
  byName p member := by
    obtain ⟨q, listed, rfl⟩ := List.mem_map.mp member
    exact of_decide_eq_true (List.mem_filter.mp listed).2
  oneSlurpy := by
    have flags : ((ofParams invocant params).params.map (·.slurpy)).Perm _ := ofParams_perm fun _ _ => rfl
    have same := flags.countP_eq id
    simp only [List.countP_map, Function.id_comp] at same
    exact same.trans_le admissible.oneSlurpy
  unmixed := by
    intro named p member
    have some : ∃ q ∈ binding params, q.role = .named := by
      simpa [hasNamed, ofParams, List.filter_eq_nil_iff] using named
    obtain ⟨i, inside, rfl⟩ := List.mem_mapIdx.mp member
    obtain ⟨listed, positional⟩ := List.mem_filter.mp (List.getElem_mem inside)
    obtain ⟨required, bounded⟩ := admissible.unmixed some _ listed (of_decide_eq_true positional)
    exact ⟨required, bounded⟩

end Signature

namespace Assembler

open Param (Admissible binding)

variable {a a' : Assembler} {options : AssemblyOptions} {params : List Param} {p : Param}
  {accepts : Param → Prop}

theorem consistent_of_addAll (added : (new options).addAll params = .ok a) : a.signature.Consistent := by
  obtain ⟨admissible, made⟩ := (Signature.addAll_new_iff options).mp ⟨a, added, rfl⟩
  rw [← made]
  exact Signature.ofParams_consistent admissible

theorem Built.exists_addAll (built : Built accepts options a) :
    ∃ params, (Assembler.new options).addAll params = .ok a := by
  induction built with
  | new => exact ⟨[], rfl⟩
  | @add a a' p built accepted added ih =>
      obtain ⟨params, earlier⟩ := ih
      refine ⟨params ++ [p], ?_⟩
      simp [addAll_append, earlier, addAll, added]

theorem Built.consistent (built : Built accepts options a) : a.signature.Consistent :=
  have ⟨_, added⟩ := built.exists_addAll
  consistent_of_addAll added

theorem run_get (a : Assembler) : (get : Assembly Assembler).run.run a = (.ok a, a) := rfl

theorem run_modify (change : Assembler → Assembler) (a : Assembler) :
    (modify change : Assembly Unit).run.run a = (.ok (), change a) := rfl

theorem run_refuseAfter (conflict : Text → Conflict) (earlier : Option Text) (a : Assembler) :
    (refuseAfter conflict earlier).run.run a = match earlier with
      | some other => (.error (conflict other), a)
      | none => (.ok (), a) := by
  cases earlier <;> rfl

theorem run_refuseIf (broken : Bool) (conflict : Conflict) (a : Assembler) :
    (refuseIf broken conflict).run.run a =
      (if broken then .error conflict else .ok (), a) := by
  cases broken <;> rfl

theorem run_enterCommon (p : Param) (a : Assembler) :
    (enterCommon p).run.run a = (a.checkCommon p, a) := by
  simp only [enterCommon, checkCommon, run_bind, run_get, run_refuseAfter, run_refuseIf]
  cases seen : a.seen.lookup p.name with
  | some other => rfl
  | none =>
      cases broken : a.strictRequired && p.required && p.hasDefault with
      | true => simp only [broken, if_true]
      | false =>
          cases p.slurpy <;> cases slurpy : a.slurpy <;>
            simp only [broken, slurpy, Bool.false_eq_true, if_false, if_true]

theorem run_enterNamed (role : p.role = .named) (a : Assembler) :
    (enterNamed p).run.run a = match a.checkOrder p with
      | .ok () => (.ok (), { a with
          signature.named := a.signature.named ++ [{ p with index := none }]
          named := a.named <|> some p.display })
      | .error conflict => (.error conflict, a) := by
  obtain ⟨strict, signature, seen, slurpy, slurpyPositional, optional, named⟩ := a
  simp only [enterNamed, checkOrder, role, run_bind, run_get, run_refuseAfter, run_modify]
  cases optional <;> cases slurpyPositional <;> rfl

theorem run_enterPositional (role : p.role = .positional) (a : Assembler) :
    (enterPositional p).run.run a = match a.checkOrder p with
      | .ok () => (.ok (), { a with
          signature.positional :=
            a.signature.positional ++ [{ p with index := some a.signature.positional.length }]
          optional := if p.optional then a.optional <|> some p.display else a.optional
          slurpyPositional := if p.slurpy then some p.display else a.slurpyPositional })
      | .error conflict => (.error conflict, a) := by
  obtain ⟨strict, signature, seen, slurpy, slurpyPositional, optional, named⟩ := a
  simp only [enterPositional, checkOrder, role, run_bind, run_get, run_refuseAfter, run_modify]
  cases named with
  | some other => rfl
  | none => cases p.optional <;> cases p.slurpy <;> rfl

theorem run_enter (p : Param) (a : Assembler) :
    (enter p).run.run a = match a.add p with
      | .ok next => (.ok (), next)
      | .error conflict => (.error conflict, a) := by
  -- Nothing is set before the last check, so each way out with a conflict returns the assembler it was
  -- given; without one, setting the fields in turn comes to the same as replacing them at once.
  unfold enter add
  cases p.passthrough with
  | true => rfl
  | false =>
      simp only [Bool.false_eq_true, if_false, run_bind, run_enterCommon]
      cases a.checkCommon p with
      | error conflict => rfl
      | ok _ =>
          cases role : p.role with
          | named =>
              simp only [except_ok_bind, run_bind, run_enterNamed role, run_modify, record, role]
              cases a.checkOrder p with
              | error conflict => rfl
              | ok _ => cases p.slurpy <;> rfl
          | positional =>
              simp only [except_ok_bind, run_bind, run_enterPositional role, run_modify, record, role]
              cases a.checkOrder p with
              | error conflict => rfl
              | ok _ => cases p.slurpy <;> rfl

theorem enterAll_cons (a : Assembler) (p : Param) (rest : List Param) :
    a.enterAll (p :: rest) = match a.add p with
      | .ok next => (.ok () :: (next.enterAll rest).1, (next.enterAll rest).2)
      | .error conflict => (.error conflict :: (a.enterAll rest).1, (a.enterAll rest).2) := by
  simp only [enterAll, run_enter]
  cases a.add p <;> rfl

/-- The parameters that were not refused. -/
def accepted : List Param → List (Except Conflict Unit) → List Param
  | p :: params, .ok () :: outcomes => p :: accepted params outcomes
  | _ :: params, .error _ :: outcomes => accepted params outcomes
  | _, _ => []

theorem addAll_accepted (a : Assembler) (params : List Param) :
    a.addAll (accepted params (a.enterAll params).1) = .ok (a.enterAll params).2 := by
  induction params generalizing a with
  | nil => rfl
  | cons p rest ih =>
      rw [enterAll_cons]
      cases added : a.add p with
      | error conflict => exact ih a
      | ok next =>
          simp only [accepted, addAll, added, except_ok_bind]
          exact ih next

theorem enterAll_of_addAll (added : a.addAll params = .ok a') :
    a.enterAll params = (params.map fun _ => .ok (), a') := by
  induction params generalizing a with
  | nil =>
      cases added
      rfl
  | cons p rest ih =>
      simp only [addAll, except_bind_ok] at added
      obtain ⟨next, first, remaining⟩ := added
      simp only [enterAll_cons, first, ih remaining, List.map_cons]

/-- Whatever is entered, in whatever order, the signature is consistent at the end, and it is the one that
the accepted parameters make when they are all that is entered. A refused parameter changes neither the
signature nor what is entered later. -/
theorem enterAll_keeps_accepted (options : AssemblyOptions) (params : List Param) :
    let run := (new options).enterAll params
    let kept := accepted params run.1
    run.2.signature.Consistent ∧ run.2.signature.invocant = options.invocant ∧
      (new options).enterAll kept = (kept.map fun _ => .ok (), run.2) ∧
      run.2.signature = Signature.ofParams options.invocant kept ∧
      ∀ p conflict after, (enter p).run.run run.2 = (.error conflict, after) →
        after.signature = run.2.signature ∧ ∀ later, after.enterAll later = run.2.enterAll later := by
  have added := addAll_accepted (new options) params
  obtain ⟨-, made⟩ := (Signature.addAll_new_iff options).mp ⟨_, added, rfl⟩
  refine ⟨consistent_of_addAll added, ?_, enterAll_of_addAll added, made.symm, ?_⟩
  · rw [← made]
    rfl
  · intro p conflict after refused
    rw [run_enter] at refused
    split at refused
    · cases refused
    · cases refused
      exact ⟨rfl, fun _ => rfl⟩

theorem enterAll_keeps_accepted_mixed :
    let a := ((new { invocant := some "self" }).enterAll
      [{ name := "a", optional := true, required := true, index := some 7 }, { name := "self" },
        { name := "b", role := .named }, { name := "a", slurpy := true }]).2
    a.signature = Signature.ofParams (some "self")
        [{ name := "a", optional := true, required := true, index := some 7 }] ∧
      ∀ later, ((enter { name := "c", role := .named }).run.run a).2.enterAll later = a.enterAll later := by
  have kept := enterAll_keeps_accepted { invocant := some "self" }
    [{ name := "a", optional := true, required := true, index := some 7 }, { name := "self" },
      { name := "b", role := .named }, { name := "a", slurpy := true }]
  exact ⟨kept.2.2.2.1, (kept.2.2.2.2 { name := "c", role := .named } (.namedAfterOptional "$a") _ rfl).2⟩

end Assembler

namespace Signature

variable {options : AssemblyOptions} {s : Signature}

/-- The signatures there can be: read from a text, assembled from any parameters, or read from a document. -/
inductive Obtainable : Signature → Prop
  | parsed {text : Text} {options : AssemblyOptions} {s : Signature}
      (read : parse text options = .ok s) : Obtainable s
  | entered (options : AssemblyOptions) (params : List Param) (text : Text) :
      Obtainable { ((Assembler.new options).enterAll params).2.signature with text }
  | decoded {bytes : List UInt8} {s : Signature} (read : decode bytes = .ok s) : Obtainable s

theorem Consistent.of_text (consistent : s.Consistent) (text : Text) : { s with text }.Consistent :=
  ⟨⟨consistent.placed, consistent.distinct⟩, consistent.unplaced, consistent.byPosition,
    consistent.byName, consistent.oneSlurpy, consistent.unmixed⟩

theorem Assembled.consistent (assembled : s.Assembled options) : s.Consistent := by
  obtain ⟨a, text, built, rfl⟩ := assembled
  exact built.consistent.of_text text.trim

theorem Obtainable.consistent (obtained : s.Obtainable) : s.Consistent := by
  cases obtained with
  | parsed read => exact (parse_assembled read).consistent
  | entered options params text =>
      exact (Assembler.consistent_of_addAll (Assembler.addAll_accepted _ params)).of_text text
  | decoded read =>
      obtain ⟨d, assembled⟩ := decode_assembled read
      exact assembled.consistent

end Signature
end CallPlan
