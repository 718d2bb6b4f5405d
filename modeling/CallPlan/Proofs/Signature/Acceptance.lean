import CallPlan.Proofs.Signature.Assembled
import CallPlan.Proofs.Signature.Clause
import CallPlan.Proofs.Signature.Scanning

/-!
Which texts are signatures. An assembler checks each parameter against flags that the parameters before
it have set. Read as a whole, the parameters it takes are those that satisfy five rules, and what it makes
of them is the positional ones at their indexes and then the named ones.
-/

namespace CallPlan

/-- The rules on the parameters of a signature, read as a whole list. -/
structure Param.Admissible (invocant : Option Text) (strict : Bool) (params : List Param) : Prop where
  distinct : (invocant.toList ++ params.map (·.name)).Nodup
  oneSlurpy : params.countP (·.slurpy) ≤ 1
  ordered : params.Pairwise fun earlier later => ¬ (earlier.role = .named ∧ later.role = .positional)
  unmixed : (∃ p ∈ params, p.role = .named) →
    ∀ p ∈ params, p.role = .positional → p.optional = false ∧ p.slurpy = false
  lenient : strict = true → ∀ p ∈ params, ¬ (p.required = true ∧ p.hasDefault = true)

/-- The parameters that bind something. -/
def Param.binding (params : List Param) : List Param := params.filter fun p => !p.passthrough

/-- The signature that parameters make, in the order they are given. -/
def Signature.ofParams (invocant : Option Text) (params : List Param) : Signature where
  invocant := invocant
  positional := ((Param.binding params).filter fun p => p.role = .positional).mapIdx fun index p =>
    { p with index := some index }
  named := ((Param.binding params).filter fun p => p.role = .named).map fun p =>
    { p with index := none }
  passthrough := params.any (·.passthrough)

namespace Param

variable {invocant : Option Text} {strict : Bool} {params others : List Param} {p : Param}

@[simp] theorem binding_append : binding (params ++ others) = binding params ++ binding others :=
  List.filter_append ..

@[simp] theorem binding_nil : binding [] = [] := rfl

theorem binding_raw (raw : p.passthrough = true) : binding [p] = [] := by simp [binding, raw]

theorem binding_bound (binds : p.passthrough = false) : binding [p] = [p] := by simp [binding, binds]

theorem Admissible.front (admissible : Admissible invocant strict (params ++ others)) :
    Admissible invocant strict params where
  distinct := by
    have whole := admissible.distinct
    rw [List.map_append, ← List.append_assoc] at whole
    exact (List.nodup_append.mp whole).1
  oneSlurpy := by
    have whole := admissible.oneSlurpy
    rw [List.countP_append] at whole
    omega
  ordered := (List.pairwise_append.mp admissible.ordered).1
  unmixed := by
    rintro ⟨p, member, named⟩ q listed
    exact admissible.unmixed ⟨p, List.mem_append_left _ member, named⟩ q
      (List.mem_append_left _ listed)
  lenient := fun strict p member => admissible.lenient strict p (List.mem_append_left _ member)

theorem admissible_nil : Admissible invocant strict [] where
  distinct := by cases invocant <;> simp
  oneSlurpy := by simp
  ordered := .nil
  unmixed := by simp
  lenient := by simp

end Param

namespace Assembler

open Param (Admissible binding)

variable {a a' : Assembler} {options : AssemblyOptions} {params others : List Param} {p : Param}

/-- What the flags of an assembler say about the parameters it has taken. -/
structure Remembers (options : AssemblyOptions) (a : Assembler) (params : List Param) : Prop where
  strict : a.strictRequired = options.strictRequired
  seen : ∀ name, a.seen.lookup name = none ↔
    name ∉ options.invocant.toList ++ (binding params).map (·.name)
  slurpy : a.slurpy = none ↔ ∀ p ∈ binding params, p.slurpy = false
  slurpyPositional : a.slurpyPositional = none ↔
    ∀ p ∈ binding params, p.role = .positional → p.slurpy = false
  optional : a.optional = none ↔ ∀ p ∈ binding params, p.role = .positional → p.optional = false
  named : a.named = none ↔ ∀ p ∈ binding params, p.role = .positional
  signature : a.signature = Signature.ofParams options.invocant params

theorem new_remembers (options : AssemblyOptions) : Remembers options (new options) [] where
  strict := rfl
  seen name := by
    refine Entries.get?_eq_none_iff.trans ?_
    cases declared : options.invocant <;> simp [new, declared, Entries.keys]
  slurpy := by simp [new]
  slurpyPositional := by simp [new]
  optional := by simp [new]
  named := by simp [new]
  signature := by simp [new, Signature.ofParams]

theorem Remembers.pass (remembers : Remembers options a params) (raw : p.passthrough = true) :
    Remembers options { a with signature := { a.signature with passthrough := true } }
      (params ++ [p]) := by
  have same : binding (params ++ [p]) = binding params := by
    rw [Param.binding_append, Param.binding_raw raw, List.append_nil]
  refine ⟨remembers.strict, ?_, ?_, ?_, ?_, ?_, ?_⟩
  · simpa only [same] using remembers.seen
  · simpa only [same] using remembers.slurpy
  · simpa only [same] using remembers.slurpyPositional
  · simpa only [same] using remembers.optional
  · simpa only [same] using remembers.named
  · simp [remembers.signature, Signature.ofParams, same, raw]

theorem Remembers.record (remembers : Remembers options a params) (binds : p.passthrough = false) :
    Remembers options (a.record p) (params ++ [p]) := by
  have more : binding (params ++ [p]) = binding params ++ [p] := by
    rw [Param.binding_append, Param.binding_bound binds]
  refine ⟨?_, fun name => ?_, ?_, ?_, ?_, ?_, ?_⟩
  · rw [← remembers.strict]
    cases role : p.role <;> simp [Assembler.record, role]
  · have earlier := remembers.seen name
    rw [record_seen, more]
    by_cases same : name = p.name
    · simp [same]
    · simp only [List.lookup_cons, beq_eq_false_iff_ne.mpr same, earlier]
      simp [same]
  · cases role : p.role <;> cases slurpy : p.slurpy <;>
      simp [Assembler.record, role, slurpy, more, remembers.slurpy, or_imp, forall_and]
  · cases role : p.role <;> cases slurpy : p.slurpy <;>
      simp [Assembler.record, role, slurpy, more, remembers.slurpyPositional, or_imp, forall_and]
  · cases role : p.role <;> cases optional : p.optional <;>
      simp [Assembler.record, role, optional, more, remembers.optional, or_imp, forall_and]
  · cases role : p.role <;>
      simp [Assembler.record, role, more, remembers.named, or_imp, forall_and]
  · cases role : p.role <;>
      simp [Assembler.record, role, more, remembers.signature, Signature.ofParams, binds]

/-- One more parameter is admissible exactly when the flags admit it. -/
theorem Remembers.admits_iff (remembers : Remembers options a params)
    (admissible : Admissible options.invocant options.strictRequired (binding params)) :
    a.Admits p ↔ Admissible options.invocant options.strictRequired (binding params ++ [p]) := by
  -- Each rule on the longer list is the rule on the shorter one, and what the flags say about the last.
  constructor
  · intro admits
    have unseen := (remembers.seen p.name).mp admits.unseen
    refine ⟨?_, ?_, ?_, ?_, ?_⟩
    · rw [List.map_append, ← List.append_assoc, List.nodup_append]
      refine ⟨admissible.distinct, by simp, ?_⟩
      rintro name member other last rfl
      exact unseen (by simpa [List.mem_singleton.mp last] using member)
    · rw [List.countP_append]
      cases slurpy : p.slurpy with
      | false => simpa [slurpy] using admissible.oneSlurpy
      | true =>
          have none := remembers.slurpy.mp (admits.slurpy slurpy)
          have zero : (binding params).countP (·.slurpy) = 0 := by simpa using none
          simp [zero, slurpy]
    · refine List.pairwise_append.mpr ⟨admissible.ordered, by simp, ?_⟩
      rintro earlier member later last ⟨named, positional⟩
      rw [List.mem_singleton.mp last] at positional
      have unnamed := remembers.named.mp (admits.positional positional) earlier member
      rw [named] at unnamed
      cases unnamed
    · rintro ⟨q, member, named⟩ r listed positional
      -- A positional parameter that comes last would follow a named one.
      have before : r ∈ binding params := by
        rcases List.mem_append.mp listed with before | last
        · exact before
        · rw [List.mem_singleton.mp last] at positional
          have unnamed := remembers.named.mp (admits.positional positional)
          rcases List.mem_append.mp member with earlier | last
          · simp [unnamed q earlier] at named
          · rw [List.mem_singleton.mp last, positional] at named
            cases named
      rcases List.mem_append.mp member with earlier | last
      · exact admissible.unmixed ⟨q, earlier, named⟩ r before positional
      · rw [List.mem_singleton.mp last] at named
        obtain ⟨optional, slurpy⟩ := admits.named named
        exact ⟨remembers.optional.mp optional r before positional,
          remembers.slurpyPositional.mp slurpy r before positional⟩
    · intro strict q member
      rcases List.mem_append.mp member with earlier | last
      · exact admissible.lenient strict q earlier
      · rw [List.mem_singleton.mp last]
        have lenient := admits.lenient
        simpa [remembers.strict, strict] using lenient
  · intro whole
    obtain ⟨distinct, oneSlurpy, ordered, unmixed, lenient⟩ := whole
    refine ⟨(remembers.seen p.name).mpr ?_, ?_, ?_, ?_, ?_⟩
    · intro member
      rw [List.map_append, ← List.append_assoc, List.nodup_append] at distinct
      exact distinct.2.2 p.name member p.name (by simp) rfl
    · cases strict : options.strictRequired with
      | false => simp [remembers.strict, strict]
      | true => simpa [remembers.strict, strict] using lenient strict p (by simp)
    · intro slurpy
      rw [List.countP_append] at oneSlurpy
      have zero : (binding params).countP (·.slurpy) = 0 := by
        have one : [p].countP (·.slurpy) = 1 := by simp [slurpy]
        omega
      exact remembers.slurpy.mpr (by simpa using zero)
    · intro named
      have plain := unmixed ⟨p, by simp, named⟩
      exact ⟨remembers.optional.mpr fun q member positional =>
          (plain q (List.mem_append_left _ member) positional).1,
        remembers.slurpyPositional.mpr fun q member positional =>
          (plain q (List.mem_append_left _ member) positional).2⟩
    · intro positional
      refine remembers.named.mpr fun q member => ?_
      have apart := (List.pairwise_append.mp ordered).2.2 q member p (by simp)
      cases role : q.role with
      | positional => rfl
      | named => exact (apart ⟨role, positional⟩).elim

theorem Remembers.addAll (remembers : Remembers options a params)
    (admissible : Admissible options.invocant options.strictRequired (binding params))
    (added : a.addAll others = .ok a') :
    Admissible options.invocant options.strictRequired (binding (params ++ others)) ∧
      Remembers options a' (params ++ others) := by
  induction others generalizing a params with
  | nil =>
      cases added
      simpa using ⟨admissible, remembers⟩
  | cons p rest ih =>
      simp only [Assembler.addAll, except_bind_ok] at added
      obtain ⟨next, first, remaining⟩ := added
      rw [List.append_cons]
      cases raw : p.passthrough with
      | true =>
          rw [add_passthrough raw] at first
          cases first
          refine ih (remembers.pass raw) ?_ remaining
          rwa [Param.binding_append, Param.binding_raw raw, List.append_nil]
      | false =>
          obtain ⟨admits, rfl⟩ := (add_ok_iff raw).mp first
          refine ih (remembers.record raw) ?_ remaining
          rw [Param.binding_append, Param.binding_bound raw]
          exact (remembers.admits_iff admissible).mp admits

theorem Remembers.addAll_exists (remembers : Remembers options a params)
    (whole : Admissible options.invocant options.strictRequired (binding (params ++ others))) :
    ∃ a', a.addAll others = .ok a' := by
  induction others generalizing a params with
  | nil => exact ⟨a, rfl⟩
  | cons p rest ih =>
      rw [List.append_cons] at whole
      simp only [Assembler.addAll, except_bind_ok]
      cases raw : p.passthrough with
      | true =>
          obtain ⟨last, remaining⟩ := ih (remembers.pass raw) whole
          exact ⟨last, _, add_passthrough raw, remaining⟩
      | false =>
          obtain ⟨last, remaining⟩ := ih (remembers.record raw) whole
          rw [Param.binding_append, Param.binding_append, Param.binding_bound raw] at whole
          have admits := (remembers.admits_iff whole.front.front).mpr whole.front
          exact ⟨last, _, (add_ok_iff raw).mpr ⟨admits, rfl⟩, remaining⟩

end Assembler

namespace Signature

open Assembler (Remembers)
open Param (Admissible binding)

variable {a a' : Assembler} {options : AssemblyOptions} {clauses : List Text} {params : List Param}

theorem addClauses_ok_iff : addClauses a clauses = .ok a' ↔
    ∃ params, List.Forall₂ (fun clause p => Clause.parse clause = .ok p) clauses params ∧
      a.addAll params = .ok a' := by
  induction clauses generalizing a with
  | nil =>
      constructor
      · intro added
        cases added
        exact ⟨[], .nil, rfl⟩
      · rintro ⟨_, read, added⟩
        cases read
        cases added
        rfl
  | cons clause rest ih =>
      simp only [addClauses, addClause, except_bind_ok, except_mapError_ok, ih]
      constructor
      · rintro ⟨next, ⟨p, read, added⟩, params, others, remaining⟩
        refine ⟨p :: params, .cons read others, ?_⟩
        simpa only [Assembler.addAll, added, except_ok_bind] using remaining
      · rintro ⟨_, read, added⟩
        cases read with
        | @cons _ p _ params read others =>
            simp only [Assembler.addAll, except_bind_ok] at added
            obtain ⟨next, first, remaining⟩ := added
            exact ⟨next, ⟨p, read, first⟩, params, others, remaining⟩

theorem readList_ok_iff {list : Text} : readList options list = .ok a ↔
    ∃ clauses params, Split.split list = .ok clauses ∧
      List.Forall₂ (fun clause p => Clause.parse clause = .ok p) clauses params ∧
      (Assembler.new options).addAll params = .ok a := by
  simp only [readList, except_bind_ok, except_mapError_ok, addClauses_ok_iff]
  constructor
  · rintro ⟨clauses, cut, params, read, added⟩
    exact ⟨clauses, params, cut, read, added⟩
  · rintro ⟨clauses, params, cut, read, added⟩
    exact ⟨clauses, cut, params, read, added⟩

/-- A new assembler takes exactly the admissible lists, and makes their signature of them. -/
theorem addAll_new_iff (options : AssemblyOptions) {s : Signature} :
    (∃ a, (Assembler.new options).addAll params = .ok a ∧ a.signature = s) ↔
      Admissible options.invocant options.strictRequired (binding params) ∧
        ofParams options.invocant params = s := by
  have fresh := Assembler.new_remembers options
  constructor
  · rintro ⟨a, added, rfl⟩
    obtain ⟨admissible, remembers⟩ := fresh.addAll Param.admissible_nil added
    exact ⟨admissible, remembers.signature.symm⟩
  · rintro ⟨admissible, rfl⟩
    obtain ⟨a, added⟩ := fresh.addAll_exists admissible
    exact ⟨a, added, (fresh.addAll Param.admissible_nil added).2.signature⟩

theorem any_passthrough (trimmed : ∀ clause ∈ clauses, clause.trim = clause)
    (read : List.Forall₂ (fun clause p => Clause.parse clause = .ok p) clauses params) :
    params.any (·.passthrough) = decide (Param.passthroughName ∈ clauses) := by
  induction read with
  | nil => rfl
  | @cons clause p clauses params first rest ih =>
      have here := Clause.passthrough_iff (trimmed clause List.mem_cons_self) first
      have later := ih fun clause member => trimmed clause (List.mem_cons_of_mem _ member)
      rw [List.any_cons, later, Bool.eq_iff_iff, Bool.or_eq_true, decide_eq_true_iff,
        decide_eq_true_iff, List.mem_cons, here]
      exact or_congr eq_comm Iff.rfl

theorem parse_ok_iff {text : Text} {s : Signature} : parse text options = .ok s ↔
    ∃ a, readList { options with invocant := invocantOf text options } (Invocant.split text).2 = .ok a ∧
      (a.setText text).signature = s := by
  unfold parse
  dsimp only
  split
  · next a read => simp only [invocantOf, read, Except.ok.injEq, exists_eq_left']
  · next e read => simp only [invocantOf, read, reduceCtorEq, false_and, exists_false]

/-- The texts that are signatures are those whose clauses read as an admissible list of parameters, and
the signature holds these parameters, the raw argument list apart. Every error carries the text. -/
theorem parse_accepts_admissible (text : Text) (options : AssemblyOptions) :
    (∀ s, parse text options = .ok s ↔ ∃ clauses params,
      Split.split (Invocant.split text).2 = .ok clauses ∧
      List.Forall₂ (fun clause p => Clause.parse clause = .ok p) clauses params ∧
      Admissible (invocantOf text options) options.strictRequired (binding params) ∧
      s = { ofParams (invocantOf text options) params with
        text := text.trim, passthrough := decide (Param.passthroughName ∈ clauses) }) ∧
    ∀ e, parse text options = .error e → e.text = text := by
  constructor
  · intro s
    rw [parse_ok_iff]
    simp only [readList_ok_iff]
    constructor
    · rintro ⟨a, ⟨clauses, params, cut, read, added⟩, rfl⟩
      obtain ⟨admissible, made⟩ := (addAll_new_iff _).mp ⟨a, added, rfl⟩
      refine ⟨clauses, params, cut, read, admissible, ?_⟩
      rw [← any_passthrough (Split.split_trimmed cut) read, Assembler.setText, ← made]
      rfl
    · rintro ⟨clauses, params, cut, read, admissible, rfl⟩
      obtain ⟨a, added, made⟩ :=
        (addAll_new_iff { options with invocant := invocantOf text options }).mpr ⟨admissible, rfl⟩
      refine ⟨a, ⟨clauses, params, cut, read, added⟩, ?_⟩
      rw [← any_passthrough (Split.split_trimmed cut) read, Assembler.setText, made]
      rfl
  · intro e failed
    unfold parse at failed
    dsimp only at failed
    split at failed
    · cases failed
    · cases failed
      rfl

theorem parse_accepts_admissible_twice :
    ∃ e, parse "$a, :$b, :$a" {} = .error e ∧ e.text = "$a, :$b, :$a" := by
  have refused : (parse "$a, :$b, :$a" {}).isOk = false := by decide
  cases outcome : parse "$a, :$b, :$a" {} with
  | ok s => simp [outcome, Except.isOk, Except.toBool] at refused
  | error e => exact ⟨e, rfl, (parse_accepts_admissible _ _).2 e outcome⟩

end Signature
end CallPlan
