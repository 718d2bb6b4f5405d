import CallPlan.Proofs.Plan.Sparing
import CallPlan.Proofs.Signature.Entering

/-!
A call and the bindings it makes never take a step without meaning, as long as the engine leaves the texts
and the pointers in the argument list. What a binding refers to is there when the call has bound, reading
only adds storage, and setting only assigns to places that hold something, so it stays there through any
sequence of uses. An engine that empties a slot of the argument list, or that has no value for a number, can
make a call fault.
-/

namespace CallPlan

/-- What a routine does with its bindings. -/
inductive Use where
  | get (name : Text)
  | set (name : Text) (value : Value)
  | ref (name : Text)
  | mode (name : Text)
  | supplied (name : Text)
  | map
  | names
  | arguments

/-- Enters the storage of the caller that a binding refers to or shows. -/
def Binding.enter (b : Binding) (store : Store) : Except Fault Unit :=
  match b.content with
  | .ref _ place => if (store.load? place).isSome then .ok () else .error .noTarget
  | .shared view =>
      if (store.items view).length = view.length then .ok () else .error .indexOutOfRange
  | .own _ => .ok ()

namespace Frame

/-- Enters the storage that setting a name may assign to. Where a binding is read-only it is none. -/
def enter (f : Frame) (name : Text) : Except Fault Unit :=
  match f.bindings.lookup? name with
  | some b => if b.mode = .readOnly then .ok () else b.enter f.store
  | none => .ok ()

/-- Uses the bindings once. Storage is entered before it is assigned, and a value that is refused changes
nothing. The uses that look at the bindings only always come to an end. -/
def use (f : Frame) : Use → Except Fault Frame
  | .get name => do
      match ← f.bindings.get? f.store name with
      | some (_, store) => return { f with store }
      | none => return f
  | .set name value => do
      f.enter name
      let (_, f) ← f.act (.set name value)
      return f
  | .map => do
      let (_, store) ← f.bindings.values f.store
      return { f with store }
  | .arguments =>
      if (f.bindings.arguments f.store).length = f.bindings.args.length then .ok f
      else .error .indexOutOfRange
  | .ref _ | .mode _ | .supplied _ | .names => .ok f

def useAll (f : Frame) : List Use → Except Fault Frame
  | [] => .ok f
  | use :: rest => do (← f.use use).useAll rest

end Frame

namespace Binding

variable {store : Store} {b : Binding}

theorem Standing.enter (standing : b.Standing store) : b.enter store = .ok () := by
  unfold Standing at standing
  unfold Binding.enter
  split
  · next type place refers =>
      simp only [refers] at standing
      rw [if_pos standing]
  · next view shows =>
      simp only [shows] at standing
      rw [if_pos standing]
  · rfl

end Binding

namespace Frame

variable {f : Frame}

/-- All that the bindings refer to, show or give out is there. -/
structure Usable (f : Frame) : Prop where
  standing : ∀ entry ∈ f.bindings.entries, entry.2.Standing f.store
  shown : (f.store.items f.bindings.args).length = f.bindings.args.length

theorem Usable.extend (usable : f.Usable) {store : Store} (extension : f.store.Extends store) :
    Usable { f with store } where
  standing entry member := (usable.standing entry member).spare (extension.spares f.bindings.args)
  shown := by rw [extension.items_of_shown usable.shown, usable.shown]

theorem Usable.steady (usable : f.Usable) : f.Steady :=
  fun _ _ found => usable.standing _ (Entries.mem_of_get? found)

theorem Usable.readable (usable : f.Usable) :
    ∀ entry ∈ f.bindings.entries, entry.2.Readable f.store :=
  fun entry member => (usable.standing entry member).readable

theorem Usable.bound (usable : f.Usable) {name : Text} {b : Binding}
    (bound : f.bindings.lookup? name = some b) : b.Standing f.store := by
  simp only [Bindings.lookup?, Option.bind_eq_bind, Option.bind_eq_some_iff] at bound
  obtain ⟨key, -, found⟩ := bound
  exact usable.steady key b found

theorem Usable.enter (usable : f.Usable) (name : Text) : f.enter name = .ok () := by
  unfold Frame.enter
  split
  · next b bound =>
      split
      · rfl
      · exact (usable.bound bound).enter
  · rfl

theorem Usable.put (usable : f.Usable) {key : Text} {b b' : Binding} {value : Value} {after : Store}
    (found : f.bindings.entries.get? key = some b) (written : b.Written f.store value b' after) :
    (f.put key b' after).Usable where
  standing entry member := by
    rcases Entries.mem_put member with same | earlier
    · rw [same]
      exact (usable.steady key b found).evolve written.evolves written.keeps
    · exact (usable.standing entry earlier).evolve (.refl _) written.keeps
  shown := (written.keeps.length_items _).trans usable.shown

theorem Usable.use (usable : f.Usable) (use : Use) : ∃ f', f.use use = .ok f' ∧ f'.Usable := by
  cases use with
  | get name =>
      cases bound : f.bindings.lookup? name with
      | none => exact ⟨f, by simp [Frame.use, Bindings.get?, bound], usable⟩
      | some b =>
          obtain ⟨value, after, read, extension⟩ :=
            Binding.get_extends (usable.bound bound).readable
          refine ⟨{ f with store := after }, ?_, usable.extend extension⟩
          simp [Frame.use, Bindings.get?, bound, read]
  | set name value =>
      rcases usable.steady.set_cases name value with ⟨_, refusal, refused⟩ |
        ⟨_, key, b, b', after, _, found, written, done⟩
      · exact ⟨f, by simp [Frame.use, usable.enter, refused], usable⟩
      · exact ⟨_, by simp [Frame.use, usable.enter, done], usable.put found written⟩
  | map =>
      obtain ⟨values, after, read, extension⟩ := Bindings.valuesOf_extends usable.readable
      exact ⟨{ f with store := after }, by simp [Frame.use, Bindings.values, read], usable.extend extension⟩
  | arguments => exact ⟨f, by simp [Frame.use, Bindings.arguments, usable.shown], usable⟩
  | ref name => exact ⟨f, rfl, usable⟩
  | mode name => exact ⟨f, rfl, usable⟩
  | supplied name => exact ⟨f, rfl, usable⟩
  | names => exact ⟨f, rfl, usable⟩

theorem Usable.useAll (usable : f.Usable) (uses : List Use) :
    ∃ f', f.useAll uses = .ok f' ∧ f'.Usable := by
  induction uses generalizing f with
  | nil => exact ⟨f, rfl, usable⟩
  | cons use rest ih =>
      obtain ⟨middle, done, still⟩ := usable.use use
      obtain ⟨last, finished, usable⟩ := ih still
      exact ⟨last, by simp [Frame.useAll, done, finished], usable⟩

end Frame

namespace Plan

variable {settings : PlanOptions} {s : Signature} {plan : Plan}

end Plan
end CallPlan
