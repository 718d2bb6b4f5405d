import CallPlan.Proofs.Data.Entries
import CallPlan.Proofs.Data.Except
import CallPlan.Signature.Assembler

/-!
What holds of every signature that is put together one parameter at a time: positional parameters are
at their indexes, no name occurs twice, and the parameters can be added again, in order, to a new
assembler with the same outcome.
-/

namespace CallPlan.Assembler

variable {a a' b : Assembler} {p : Param} {accepts : Param → Prop} {options : AssemblyOptions}

/-- No rule speaks against a parameter. -/
structure Admits (a : Assembler) (p : Param) : Prop where
  unseen : a.seen.lookup p.name = none
  lenient : (a.strictRequired && p.required && p.hasDefault) = false
  slurpy : p.slurpy = true → a.slurpy = none
  named : p.role = .named → a.optional = none ∧ a.slurpyPositional = none
  positional : p.role = .positional → a.named = none

theorem checkCommon_ok : a.checkCommon p = .ok () ↔ a.seen.lookup p.name = none ∧
    (a.strictRequired && p.required && p.hasDefault) = false ∧
    (p.slurpy = true → a.slurpy = none) := by
  unfold checkCommon
  cases a.seen.lookup p.name with
  | some other => simp
  | none =>
      cases a.strictRequired && p.required && p.hasDefault with
      | true => simp
      | false => cases p.slurpy <;> cases a.slurpy <;> simp

theorem checkOrder_ok : a.checkOrder p = .ok () ↔
    (p.role = .named → a.optional = none ∧ a.slurpyPositional = none) ∧
    (p.role = .positional → a.named = none) := by
  unfold checkOrder
  cases p.role with
  | named => cases a.optional <;> cases a.slurpyPositional <;> simp
  | positional => cases a.named <;> simp

theorem add_ok_iff (binds : p.passthrough = false) :
    a.add p = .ok a' ↔ a.Admits p ∧ a.record p = a' := by
  simp only [add, binds, Bool.false_eq_true, if_false, except_bind_ok, except_pure, Except.ok.injEq]
  constructor
  · rintro ⟨_, common, _, order, recorded⟩
    obtain ⟨unseen, lenient, slurpy⟩ := checkCommon_ok.mp common
    obtain ⟨named, positional⟩ := checkOrder_ok.mp order
    exact ⟨⟨unseen, lenient, slurpy, named, positional⟩, recorded⟩
  · rintro ⟨admitted, recorded⟩
    exact ⟨(), checkCommon_ok.mpr ⟨admitted.unseen, admitted.lenient, admitted.slurpy⟩, (),
      checkOrder_ok.mpr ⟨admitted.named, admitted.positional⟩, recorded⟩

theorem add_passthrough (raw : p.passthrough = true) :
    a.add p = .ok { a with signature := { a.signature with passthrough := true } } := by
  simp [add, raw]

/-- The assemblers that additions lead to, where every parameter added is an accepted one. -/
inductive Built (accepts : Param → Prop) (options : AssemblyOptions) : Assembler → Prop
  | new : Built accepts options (.new options)
  | add {a a' : Assembler} {p : Param} (built : Built accepts options a)
      (accepted : accepts p) (added : a.add p = .ok a') : Built accepts options a'

/-- What is true of the signature and the record of names at any time. -/
structure Sound (a : Assembler) : Prop where
  placed : ∀ (i : Nat) (p : Param), a.signature.positional[i]? = some p → p.index = some i
  first : a.named = none → a.signature.named = []
  seen : Entries.keys a.seen =
    (a.signature.invocant.toList ++ a.signature.params.map (·.name)).reverse
  distinct : (a.signature.invocant.toList ++ a.signature.params.map (·.name)).Nodup

theorem new_sound (options : AssemblyOptions) : (new options).Sound where
  placed := by simp [new]
  first := by simp [new]
  seen := by
    cases declared : options.invocant <;> simp [new, declared, Signature.params, Entries.keys]
  distinct := by
    cases declared : options.invocant <;> simp [new, declared, Signature.params]

theorem record_params (sound : a.Sound) (admitted : a.Admits p) :
    ∃ index, (a.record p).signature.params = a.signature.params ++ [{ p with index }] := by
  cases role : p.role with
  | named => exact ⟨none, by simp [record, role, Signature.params]⟩
  | positional =>
      have none := sound.first (admitted.positional role)
      exact ⟨some a.signature.positional.length, by simp [record, role, Signature.params, none]⟩

theorem record_invocant : (a.record p).signature.invocant = a.signature.invocant := by
  unfold record
  cases p.role <;> rfl

theorem record_seen : (a.record p).seen = (p.name, p.display) :: a.seen := by
  unfold record
  cases p.role <;> rfl

theorem record_sound (sound : a.Sound) (admitted : a.Admits p) : (a.record p).Sound := by
  obtain ⟨index, appended⟩ := record_params sound admitted
  have fresh : p.name ∉ a.signature.invocant.toList ++ a.signature.params.map (·.name) := by
    have absent := Entries.get?_eq_none_iff.mp admitted.unseen
    rwa [sound.seen, List.mem_reverse] at absent
  have names : (a.record p).signature.invocant.toList ++ (a.record p).signature.params.map (·.name) =
      (a.signature.invocant.toList ++ a.signature.params.map (·.name)) ++ [p.name] := by
    rw [appended, record_invocant]
    simp
  -- The new name is fresh and the new index is the number of positional parameters so far.
  constructor
  case placed =>
    intro i q found
    cases role : p.role with
    | named => exact sound.placed i q (by simpa [record, role] using found)
    | positional =>
        simp only [record, role, List.getElem?_append] at found
        split at found
        · exact sound.placed i q found
        · rename_i beyond
          have last := (List.getElem?_eq_some_iff.mp found).1
          have here : i = a.signature.positional.length := by simp at last; omega
          subst here
          simp at found
          rw [← found]
  case first =>
    cases role : p.role with
    | named => cases a.named <;> simp [record, role]
    | positional => intro _; simpa [record, role] using sound.first (admitted.positional role)
  case seen =>
    rw [names, record_seen, List.reverse_append]
    simpa [Entries.keys] using sound.seen
  case distinct =>
    rw [names, List.nodup_append]
    refine ⟨sound.distinct, by simp, ?_⟩
    rintro name member other last rfl
    exact fresh (List.mem_singleton.mp last ▸ member)

theorem add_sound (sound : a.Sound) (added : a.add p = .ok a') : a'.Sound := by
  cases raw : p.passthrough with
  | true =>
      rw [add_passthrough raw] at added
      cases added
      exact ⟨sound.placed, sound.first, sound.seen, sound.distinct⟩
  | false =>
      obtain ⟨admitted, rfl⟩ := (add_ok_iff raw).mp added
      exact record_sound sound admitted

theorem Built.sound (built : Built accepts options a) : a.Sound := by
  induction built with
  | new => exact new_sound options
  | add built accepted added ih => exact add_sound ih added

theorem Built.invocant_eq (built : Built accepts options a) :
    a.signature.invocant = options.invocant := by
  induction built with
  | new => rfl
  | @add a a' p built accepted added ih =>
      cases raw : p.passthrough with
      | true =>
          rw [add_passthrough raw] at added
          cases added
          exact ih
      | false =>
          obtain ⟨_, rfl⟩ := (add_ok_iff raw).mp added
          exact record_invocant.trans ih

theorem Built.params_accepted (built : Built accepts options a)
    (stable : ∀ (p : Param) (index : Option Nat), accepts p → accepts { p with index }) :
    ∀ p ∈ a.signature.params, p.passthrough = false ∧ accepts p := by
  induction built with
  | new => simp [Assembler.new, Signature.params]
  | @add a a' p built accepted added ih =>
      cases raw : p.passthrough with
      | true =>
          rw [add_passthrough raw] at added
          cases added
          exact ih
      | false =>
          obtain ⟨admitted, rfl⟩ := (add_ok_iff raw).mp added
          obtain ⟨index, appended⟩ := record_params built.sound admitted
          intro q member
          rw [appended] at member
          rcases List.mem_append.mp member with earlier | last
          · exact ih q earlier
          · rw [List.mem_singleton.mp last]
            exact ⟨raw, stable p index accepted⟩

/-- Two assemblers that treat parameters alike, except that the second is lenient. -/
structure Agrees (a b : Assembler) : Prop where
  lenient : b.strictRequired = false
  invocant : b.signature.invocant = a.signature.invocant
  positional : b.signature.positional = a.signature.positional
  named : b.signature.named = a.signature.named
  seen : b.seen = a.seen
  slurpy : b.slurpy = a.slurpy
  slurpyPositional : b.slurpyPositional = a.slurpyPositional
  optional : b.optional = a.optional
  namedFlag : b.named = a.named

theorem Agrees.admits (agrees : Agrees a b) (admitted : a.Admits p) (index : Option Nat) :
    b.Admits { p with index } where
  unseen := by rw [agrees.seen]; exact admitted.unseen
  lenient := by simp [agrees.lenient]
  slurpy := by rw [agrees.slurpy]; exact admitted.slurpy
  named := by rw [agrees.optional, agrees.slurpyPositional]; exact admitted.named
  positional := by rw [agrees.namedFlag]; exact admitted.positional

theorem Agrees.record (agrees : Agrees a b) (index : Option Nat) :
    Agrees (a.record p) (b.record { p with index }) := by
  obtain ⟨lenient, invocant, positional, named, seen, slurpy, slurpyPositional, optional, namedFlag⟩ :=
    agrees
  cases role : p.role <;>
    constructor <;>
    simp [Assembler.record, Param.display, Param.var, role, lenient, invocant, positional, named, seen,
      slurpy, slurpyPositional, optional, namedFlag]

/-- Adds parameters in order. -/
def addAll (a : Assembler) : List Param → Except Conflict Assembler
  | [] => .ok a
  | p :: rest => do addAll (← a.add p) rest

theorem addAll_append (a : Assembler) (params others : List Param) :
    a.addAll (params ++ others) = a.addAll params >>= fun a => a.addAll others := by
  induction params generalizing a with
  | nil => rfl
  | cons p rest ih =>
      simp only [List.cons_append, addAll]
      cases a.add p with
      | error conflict => rfl
      | ok next => exact ih next

theorem record_kept : (a.record p).signature.passthrough = a.signature.passthrough ∧
    (a.record p).signature.text = a.signature.text := by
  unfold record
  cases p.role <;> exact ⟨rfl, rfl⟩

/-- The parameters of a signature, in order and without their indexes, can be added again. -/
theorem Built.replay (built : Built accepts options a) (agrees : Agrees (.new options) b) :
    ∃ b', b.addAll (a.signature.params.map fun p => { p with index := none }) = .ok b' ∧
      Agrees a b' ∧ b'.signature.passthrough = b.signature.passthrough ∧
      b'.signature.text = b.signature.text := by
  -- The two assemblers agree on all that decides whether a parameter is taken, at every prefix.
  induction built with
  | new => exact ⟨b, rfl, agrees, rfl, rfl⟩
  | @add a a' p built accepted added ih =>
      obtain ⟨b', replayed, agrees, passthrough, text⟩ := ih
      cases raw : p.passthrough with
      | true =>
          rw [add_passthrough raw] at added
          cases added
          exact ⟨b', replayed, ⟨agrees.lenient, agrees.invocant, agrees.positional, agrees.named,
            agrees.seen, agrees.slurpy, agrees.slurpyPositional, agrees.optional, agrees.namedFlag⟩,
            passthrough, text⟩
      | false =>
          obtain ⟨admitted, rfl⟩ := (add_ok_iff raw).mp added
          obtain ⟨index, appended⟩ := record_params built.sound admitted
          have again : b'.add { p with index := none } = .ok (b'.record { p with index := none }) :=
            (add_ok_iff (p := { p with index := none }) raw).mpr ⟨agrees.admits admitted none, rfl⟩
          refine ⟨b'.record { p with index := none }, ?_, agrees.record none,
            record_kept.1.trans passthrough, record_kept.2.trans text⟩
          rw [appended, List.map_append, addAll_append, replayed]
          simp [addAll, again]

end CallPlan.Assembler
