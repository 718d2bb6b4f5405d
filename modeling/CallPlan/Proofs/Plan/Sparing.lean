import CallPlan.Proofs.Plan.Refinement
import CallPlan.Proofs.Plan.Setting

/-!
Calls whose defaults assign to storage. An evaluation may assign to whatever its variables lead to, and
takes nothing away. It may even assign in the argument list that is being bound: as long as the texts in it
stay texts and the pointers pointers, every later step finds what it binds, and what the bindings refer to
stays there.
-/

namespace CallPlan

/-- What may take the place of an argument that was checked: a text that of a text, and a pointer to
something that of a pointer to something. -/
structure Value.YieldsTo (before after : Store) (value later : Value) : Prop where
  text : value.text?.isSome → later.text?.isSome
  pointer : ∀ type place, value = .pointer type place → (before.load? place).isSome →
    ∃ type place, later = .pointer type place ∧ (after.load? place).isSome

namespace Store

variable {args view : View} {before middle after store : Store}

/-- Every place that held something still does, and what an argument list shows may take the place of what it
showed. -/
structure Spares (args : View) (before after : Store) : Prop where
  held : ∀ place, (before.load? place).isSome → (after.load? place).isSome
  shows : ∀ (index : Nat) (value : Value), (before.items args)[index]? = some value →
    ∃ later, (after.items args)[index]? = some later ∧ value.YieldsTo before after later

theorem Spares.trans (first : Spares args before middle) (second : Spares args middle after) :
    Spares args before after where
  held place there := second.held place (first.held place there)
  shows index value found := by
    obtain ⟨next, found, instead⟩ := first.shows index value found
    obtain ⟨last, found, later⟩ := second.shows index next found
    refine ⟨last, found, fun text => later.text (instead.text text), fun type place same there => ?_⟩
    obtain ⟨type, place, same, there⟩ := instead.pointer type place same there
    exact later.pointer type place same there

theorem Extends.spares (extension : before.Extends after) (args : View) : Spares args before after where
  held place there := by
    obtain ⟨value, loaded⟩ := Option.isSome_iff_exists.mp there
    rw [extension.load? loaded, Option.isSome_some]
  shows index value found := by
    have within : index < args.length :=
      Nat.lt_of_lt_of_le (List.getElem?_eq_some_iff.mp found).1 (before.length_items_le args)
    have kept := extension.load? ((load?_place within).trans found)
    refine ⟨value, (load?_place within).symm.trans kept, id, fun type place same there => ?_⟩
    obtain ⟨target, loaded⟩ := Option.isSome_iff_exists.mp there
    exact ⟨type, place, same, by rw [extension.load? loaded, Option.isSome_some]⟩

theorem Spares.refl (args : View) (store : Store) : Spares args store store := (Extends.refl store).spares args

/-- A view that shows as many items as it is long still does. -/
theorem Spares.shown (spares : Spares args before after)
    (shown : (before.items view).length = view.length) : (after.items view).length = view.length := by
  rcases Nat.lt_or_ge (after.items view).length view.length with less | enough
  · have there := spares.held _ (held_of_shown shown less)
    simp [load?_place less] at there
  · exact Nat.le_antisymm (after.length_items_le view) enough

end Store

theorem Binding.Standing.spare {args : View} {before after : Store} {b : Binding}
    (standing : b.Standing before) (spares : Store.Spares args before after) : b.Standing after := by
  unfold Standing at standing ⊢
  split
  · next type place refers =>
      simp only [refers] at standing
      exact spares.held place standing
  · next view shows =>
      simp only [shows] at standing
      exact spares.shown standing
  · trivial

theorem Binding.Standing.readable {store : Store} {b : Binding} (standing : b.Standing store) :
    b.Readable store := by
  intro type place refers
  simp only [Standing, refers] at standing
  exact Option.isSome_iff_exists.mp standing

/-- Evaluation takes nothing away, and leaves texts and pointers in the argument list. -/
def Expression.Spares (e : Expression) (args : View) : Prop :=
  ∀ store vars value after, e.eval store vars = .ok (value, after) → store.Spares args after

def Engine.Spares (engine : Engine) (args : View) : Prop :=
  ∀ source visible e, engine.compile source visible = .ok e → e.Spares args

/-- The engine of a plan evaluates defaults without taking texts or pointers out of the argument list. -/
def PlanOptions.Spares (settings : PlanOptions) (args : View) : Prop :=
  ∀ engine, settings.engine = some engine → engine.Spares args

theorem PlanOptions.Allocates.spares {settings : PlanOptions} (allocates : settings.Allocates)
    (args : View) : settings.Spares args :=
  fun engine chosen source visible e compiled store vars value after run =>
    (allocates engine chosen source visible e compiled store vars value after run).spares args

namespace Plan.Call

variable {c : Call} {step : Step} {session : Session} {bound : Entries Binding} {before : Store}

/-- A computation that spares the argument list of the call where it succeeds. -/
def Sparing {α : Type} (c : Call) (m : BindM α) (session : Session) (done : α → Session → Prop)
    (failed : BindFailure → Prop) : Prop :=
  Leads m session (fun a after => session.store.Spares c.args after.store ∧ done a after)
    (fun failure _ => failed failure)

theorem Sparing.bind {α β : Type} {m : BindM α} {next : α → BindM β} {done : α → Session → Prop}
    {done' : β → Session → Prop} {failed : BindFailure → Prop} (first : c.Sparing m session done failed)
    (rest : ∀ a after, session.store.Spares c.args after.store → done a after →
      c.Sparing (next a) after done' failed) :
    c.Sparing (m >>= next) session done' failed := by
  refine Leads.bind_iff.mpr (first.mono ?_ fun _ _ failed => failed)
  intro a middle reached
  exact (rest a middle reached.1 reached.2).mono
    (fun b after done => ⟨reached.1.trans done.1, done.2⟩) fun _ _ failed => failed

/-- Content that refers to storage, or shows it, that is there. -/
def Stands (content : Content) (store : Store) : Prop :=
  ∀ b : Binding, b.content = content → b.Standing store

/-- A call has checked its arguments, and its storage spares them. -/
structure Sound (c : Call) (before : Store) (session : Session) : Prop where
  valid : before.Valid
  passed : (before.items c.args).length = c.args.length
  shown : (before.items c.rest).length = c.rest.length
  rest : ∃ count, c.rest = c.args.drop count
  spares : before.Spares c.args session.store

theorem Sound.later {after : Session} (sound : c.Sound before session)
    (spares : session.store.Spares c.args after.store) : c.Sound before after where
  valid := sound.valid
  passed := sound.passed
  shown := sound.shown
  rest := sound.rest
  spares := sound.spares.trans spares

theorem Sound.yields (sound : c.Sound before session) {index : Nat} {value : Value}
    (found : (before.items c.rest)[index]? = some value) :
    ∃ later, (session.store.items c.rest)[index]? = some later ∧
      value.YieldsTo before session.store later := by
  obtain ⟨count, rest⟩ := sound.rest
  rw [rest, Store.items_drop, List.getElem?_drop] at found ⊢
  exact sound.spares.shows _ value found

/-- An argument that was there when it was checked is there, and is a pointer where one is asked for. -/
theorem Sound.presents {p : Param} {index : Nat} (sound : c.Sound before session)
    (presents : Presents (before.items c.rest) p index) :
    ∃ value, (session.store.items c.rest)[index]? = some value ∧ (p.refAlias = true →
      ∃ type place, value = .pointer type place ∧ (session.store.load? place).isSome) := by
  obtain ⟨value, found, pointer⟩ := presents
  obtain ⟨later, shown, instead⟩ := sound.yields found
  refine ⟨later, shown, fun reference => ?_⟩
  obtain ⟨type, place, rfl⟩ := pointer reference
  obtain ⟨target, loaded⟩ := sound.valid.of_mem_items (List.mem_of_getElem? found)
  exact instead.pointer type place rfl (by rw [loaded, Option.isSome_some])

/-- A tail that was one of pairs when it was checked still is. -/
theorem Sound.paired {index : Nat} (sound : c.Sound before session)
    (paired : Reading.pairFault? ((before.items c.rest).drop index) = none) :
    Reading.pairFault? ((session.store.items c.rest).drop index) = none := by
  refine Reading.pairFault?_replaced ?_ (fun pair value found text => ?_) paired
  · rw [List.length_drop, List.length_drop, sound.spares.shown sound.shown, sound.shown]
  · rw [List.getElem?_drop] at found ⊢
    obtain ⟨later, shown, instead⟩ := sound.yields found
    exact ⟨later, shown, instead.text text⟩

end Plan.Call
end CallPlan
