import CallPlan.Proofs.Plan.Refinement
import CallPlan.Proofs.Signature.Entering

/-!
Which arguments a parameter takes. A positional parameter takes the argument at its index, a slurpy one all
from its index on, and a named one a key and the value behind it. No two take the same argument, unless a
positional parameter stands behind a slurpy one: nothing refuses that, and both take what is passed at the
later index.
-/

namespace CallPlan

/-- The arguments that a parameter takes, given how many there are. One that is taken by name comes with its
key. -/
def Origin.positions (role : Role) (count : Nat) : Origin → List Nat
  | .argument index => match role with
      | .positional => [index]
      | .named => [index - 1, index]
  | .tail index => List.range' index (count - index)
  | .missing => []

namespace Signature

open Reading

/-- The arguments behind the invocant that are taken for a parameter. -/
def taken (s : Signature) (args : List Value) (source : Param × Origin) : List Nat :=
  source.2.positions source.1.role (s.rest args).length

/-- No argument is taken for two parameters. -/
def Apart (s : Signature) (args : List Value) : Prop :=
  (s.origins args).Pairwise fun one other => (s.taken args one).Disjoint (s.taken args other)

/-- An argument is passed for a positional parameter behind a slurpy one. -/
def Overtaken (s : Signature) (args : List Value) : Prop :=
  ∃ i j p, i < j ∧ j < s.positional.length ∧ j < (s.rest args).length ∧
    s.positional[i]? = some p ∧ p.slurpy = true

variable {s : Signature} {args : List Value} {p q : Param} {index position : Nat}

theorem taken_positional (placed : p.role = .positional) :
    position ∈ s.taken args (p, positionalOrigin (s.rest args) index p) ↔
      index ≤ position ∧ position < (s.rest args).length ∧ (p.slurpy = false → position = index) := by
  unfold taken positionalOrigin
  cases p.slurpy with
  | true =>
      simp only [if_true, Origin.positions, List.mem_range'_1, Bool.true_eq_false, false_implies, and_true]
      omega
  | false =>
      simp only [Bool.false_eq_true, if_false, true_implies]
      split
      · simp only [Origin.positions, placed, List.mem_singleton]
        omega
      · simp only [Origin.positions, List.not_mem_nil, false_iff]
        omega

/-- A named parameter takes the last pair with its name, which is behind the positional arguments. -/
theorem taken_named (keyed : p.role = .named)
    (member : position ∈ s.taken args (p, namedOrigin s.positional.length (s.pairs args) p)) :
    ∃ pair, keyAt? (s.pairs args) pair = some p.name ∧ position < (s.rest args).length ∧
      (position = s.positional.length + 2 * pair ∨ position = s.positional.length + 2 * pair + 1) := by
  unfold taken namedOrigin at member
  cases last : lastPair? (s.pairs args) p.name with
  | none => simp [last, Origin.positions] at member
  | some pair =>
      have within := lastPair?_bound last
      simp only [pairs, List.length_drop] at within
      simp only [last, Origin.positions, keyed, List.mem_cons, List.not_mem_nil, or_false] at member
      exact ⟨pair, lastPair?_key last, by omega, by omega⟩

theorem taken_lt (consistent : s.Consistent) {source : Param × Origin} (listed : source ∈ s.origins args)
    (member : position ∈ s.taken args source) : position < (s.rest args).length := by
  obtain ⟨p, origin⟩ := source
  rcases mem_origins.mp listed with ⟨index, found, rfl⟩ | ⟨declared, rfl⟩
  · have placed := consistent.byPosition p (List.mem_of_getElem? found)
    exact ((taken_positional placed).mp member).2.1
  · obtain ⟨_, _, within, _⟩ := taken_named (consistent.byName p declared) member
    exact within

/-- Whether arguments are taken twice is decided by the positional parameters alone. -/
theorem apart_iff (consistent : s.Consistent) : s.Apart args ↔ ¬ s.Overtaken args := by
  have role : ∀ {i : Nat} (inside : i < s.positional.length), s.positional[i].role = .positional :=
    fun inside => consistent.byPosition _ (List.getElem_mem inside)
  unfold Apart origins
  rw [List.pairwise_append]
  simp only [List.pairwise_iff_getElem, List.length_mapIdx, List.length_map, List.getElem_mapIdx,
    List.getElem_map]
  constructor
  · rintro ⟨positional, -, -⟩ ⟨i, j, p, order, inside, passed, found, slurpy⟩
    obtain ⟨before, rfl⟩ := List.getElem?_eq_some_iff.mp found
    have first : j ∈ s.taken args (_, positionalOrigin (s.rest args) i _) :=
      (taken_positional (role before)).mpr ⟨Nat.le_of_lt order, passed, by simp [slurpy]⟩
    have second : j ∈ s.taken args (_, positionalOrigin (s.rest args) j _) :=
      (taken_positional (role inside)).mpr ⟨Nat.le_refl j, passed, fun _ => rfl⟩
    exact positional i j before inside order first second
  · intro plain
    -- Two positional parameters can only meet behind a slurpy one. Two named ones have pairs of different
    -- keys, and all pairs are behind the positional parameters, of which none is slurpy then.
    refine ⟨?_, ?_, ?_⟩
    · intro i j before inside order position first second
      obtain ⟨-, -, own⟩ := (taken_positional (role before)).mp first
      obtain ⟨lower, within, -⟩ := (taken_positional (role inside)).mp second
      cases slurpy : s.positional[i].slurpy with
      | true =>
          exact plain ⟨i, j, _, order, inside, by omega, List.getElem?_eq_getElem before, slurpy⟩
      | false =>
          have here := own slurpy
          omega
    · have names : (s.named.map (·.name)).Nodup := by
        have whole := consistent.distinct
        rw [Signature.params, List.map_append, ← List.append_assoc] at whole
        exact (List.nodup_append.mp whole).2.1
      intro i j before inside order position first second
      obtain ⟨pair, key, -, here⟩ := taken_named (consistent.byName _ (List.getElem_mem before)) first
      obtain ⟨other, otherKey, -, there⟩ :=
        taken_named (consistent.byName _ (List.getElem_mem inside)) second
      have same : pair = other := by omega
      rw [same, otherKey] at key
      exact List.pairwise_iff_getElem.mp names i j (by simpa using before) (by simpa using inside) order
        (by simpa using (Option.some.inj key).symm)
    · intro one positional other named position first second
      obtain ⟨i, before, rfl⟩ := List.mem_mapIdx.mp positional
      obtain ⟨q, listed, rfl⟩ := List.mem_map.mp named
      obtain ⟨-, -, own⟩ := (taken_positional (role before)).mp first
      obtain ⟨pair, -, -, behind⟩ := taken_named (consistent.byName q listed) second
      have single := (consistent.unmixed (hasNamed_of_mem listed) _ (List.getElem_mem before)).2
      have here := own single
      omega

end Signature

namespace Plan

variable {settings : PlanOptions} {s : Signature} {plan : Plan}

/-- A call binds each parameter from the arguments that are taken for it, and takes none twice, unless an
argument is passed for a positional parameter behind a slurpy one. -/
theorem sources_apart_iff {context : Context} {site : Site} {store : Store} {args : View}
    {bindings : Bindings} {after : Session} (obtained : s.Obtainable)
    (compiled : (compile s settings).outcome = .ok plan) (allocates : settings.Allocates)
    (passes : store.Passes args)
    (called : plan.call context site store args = (.ok bindings, after)) :
    s.Reads settings store after.store args bindings ∧
    (∀ source ∈ s.origins (store.items args), ∀ position ∈ s.taken (store.items args) source,
      position < (s.rest (store.items args)).length) ∧
    (s.Apart (store.items args) ↔ ¬ s.Overtaken (store.items args)) :=
  have consistent := obtained.consistent
  ⟨call_reads compiled consistent.toWellFormed allocates passes called,
    fun _ listed _ => Signature.taken_lt consistent listed, Signature.apart_iff consistent⟩

def keyedSample : Signature where
  text := "$a, :$b, :$c, :$d = $b"
  positional := [{ name := "a", index := some 0 }]
  named := [
    { name := "b", role := .named, optional := true }, { name := "c", role := .named, optional := true },
    { name := "d", role := .named, optional := true, defaultSource := some "$b" }]

def keyedStore : Store where
  cells := #[.list [.null, .plain (.text "c"), .null, .plain (.text "b"), .null, .plain (.text "c"), .null]]

theorem sources_apart_iff_keyed :
    ∃ plan, (compile keyedSample .starlark).outcome = .ok plan ∧
    ∃ bindings after, plan.call [] {} keyedStore ⟨0, 0, 7⟩ = (.ok bindings, after) ∧
    keyedSample.Apart (keyedStore.items ⟨0, 0, 7⟩) := by
  have parsed : Signature.parse "$a, :$b, :$c, :$d = $b" {} = .ok keyedSample := by rfl
  -- No pair is named `d`, so its default is evaluated.
  obtain ⟨plan, compiled, bindings, after, called⟩ :
      ∃ plan, (compile keyedSample .starlark).outcome = .ok plan ∧
      ∃ bindings after, plan.call [] {} keyedStore ⟨0, 0, 7⟩ = (.ok bindings, after) := by
    decide +kernel
  have apart := (sources_apart_iff (.parsed parsed) compiled PlanOptions.starlark_confined.allocates
    (by decide) called).2.2
  refine ⟨plan, compiled, bindings, after, called, apart.mpr ?_⟩
  rintro ⟨i, j, p, order, inside, -⟩
  have one : j < 1 := inside
  omega

def overtakenSample : Signature where
  text := "@rest, $x"
  positional := [
    { name := "rest", sigil := .array, slurpy := true, index := some 0 }, { name := "x", index := some 1 }]

def overtakenStore : Store where
  cells := #[.list [.plain (.int .int 1), .plain (.int .int 2)]]

/-- The second argument is both in the list and bound to `x`. -/
theorem sources_overlap :
    Signature.parse "@rest, $x" {} = .ok overtakenSample ∧
    ∃ plan, (compile overtakenSample {}).outcome = .ok plan ∧
    ∃ bindings after, plan.call [] {} overtakenStore ⟨0, 0, 2⟩ = (.ok bindings, after) ∧
    ¬ overtakenSample.Apart (overtakenStore.items ⟨0, 0, 2⟩) ∧
    ∃ values last, bindings.values after.store = .ok (values, last) ∧
      values.map (fun entry => (entry.1, last.read entry.2)) =
        ([("rest", .anyList [.int .int 1, .int .int 2]), ("x", .int .int 2)] : Entries Datum) := by
  have parsed : Signature.parse "@rest, $x" {} = .ok overtakenSample := by rfl
  refine ⟨parsed, _, rfl, _, _, rfl, ?_, _, _, rfl, rfl⟩
  rw [Signature.apart_iff (Signature.Obtainable.parsed parsed).consistent, not_not]
  exact ⟨0, 1, _, by decide, by decide, by decide, rfl, rfl⟩

end Plan
end CallPlan
