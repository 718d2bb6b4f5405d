import CallPlan.Plan.Action
import CallPlan.Proofs.Data.Save
import CallPlan.Proofs.Plan.Binding

/-!
Setting a name of a call. It assigns to the storage of the name's own binding and to no other, or is
refused and changes nothing.
-/

namespace CallPlan

namespace Binding

variable {store after : Store} {b b' : Binding} {value : Value}

/-- The storage of the caller that a binding refers to or shows. -/
def places (b : Binding) : List Place :=
  match b.content with
  | .ref _ place => [place]
  | .shared view => view.places
  | .own _ => []

/-- Whatever a binding refers to or shows is there. -/
def Standing (store : Store) (b : Binding) : Prop :=
  match b.content with
  | .ref _ place => (store.load? place).isSome
  | .shared view => (store.items view).length = view.length
  | .own _ => True

/-- A binding after it has been set: the same parameter, and the same storage unless it is its own. -/
structure Evolves (b b' : Binding) : Prop where
  param : b'.param = b.param
  mode : b'.mode = b.mode
  supplied : b'.supplied = b.supplied
  content : b'.content = b.content ∨ ∃ old new, b.content = .own old ∧ b'.content = .own new

theorem Evolves.refl (b : Binding) : b.Evolves b := ⟨rfl, rfl, rfl, .inl rfl⟩

theorem Evolves.trans {b'' : Binding} (first : b.Evolves b') (second : b'.Evolves b'') :
    b.Evolves b'' := by
  refine ⟨second.param.trans first.param, second.mode.trans first.mode,
    second.supplied.trans first.supplied, ?_⟩
  rcases first.content with same | ⟨old, new, owned, set⟩
  · rw [← same]
    exact second.content
  · rcases second.content with same | ⟨_, newest, _, again⟩
    · exact .inr ⟨old, new, owned, same.trans set⟩
    · exact .inr ⟨old, newest, owned, again⟩

theorem Standing.evolve (standing : b.Standing store) (evolves : b.Evolves b')
    (keeps : store.Keeps after) : b'.Standing after := by
  rcases evolves.content with same | ⟨old, new, -, set⟩
  · unfold Standing at standing ⊢
    rw [same]
    split
    · next type place content =>
        rw [keeps.held]
        simpa only [content] using standing
    · next view content =>
        rw [keeps.length_items]
        simpa only [content] using standing
    · trivial
  · simp [Standing, set]

/-- What a binding cannot be set to: anything if it is read-only, nothing or a value of another type
where it refers to something typed, and all but a list of the same length where it shows arguments. -/
inductive Refuses (store : Store) (b : Binding) (value : Value) : Prop
  | readOnly (mode : b.mode = .readOnly)
  | notNullable {type : HostType} {place : Place} (refers : b.content = .ref type place)
      (nothing : value.isNull = true) (strict : type.isNullable = false)
  | wrongType {type : HostType} {place : Place} (refers : b.content = .ref type place)
      (something : value.isNull = false) (typed : type ≠ .any) (different : value.type? ≠ some type)
  | wrongLength {view : View} (shows : b.content = .shared view)
      (different : ∀ items, items? store value = some items → items.length ≠ view.length)

theorem refuses_own {old : Value} (owned : b.content = .own old) :
    b.Refuses store value ↔ b.mode = .readOnly := by
  constructor
  · rintro (mode | ⟨refers, _, _⟩ | ⟨refers, _, _, _⟩ | ⟨shows, _⟩)
    · exact mode
    · simp [owned] at refers
    · simp [owned] at refers
    · simp [owned] at shows
  · exact .readOnly

theorem refuses_ref {type : HostType} {place : Place} (refers : b.content = .ref type place)
    (writable : b.mode ≠ .readOnly) :
    b.Refuses store value ↔ if value.isNull then type.isNullable = false
      else type ≠ .any ∧ value.type? ≠ some type := by
  constructor
  · rintro (mode | ⟨same, nothing, strict⟩ | ⟨same, something, typed, different⟩ | ⟨shows, _⟩)
    · exact (writable mode).elim
    · cases refers.symm.trans same
      simpa [nothing] using strict
    · cases refers.symm.trans same
      simpa [something] using ⟨typed, different⟩
    · simp [refers] at shows
  · intro refused
    cases null : value.isNull with
    | true => exact .notNullable refers null (by simpa [null] using refused)
    | false =>
        simp only [null, Bool.false_eq_true, if_false] at refused
        exact .wrongType refers null refused.1 refused.2

theorem refuses_shared {view : View} (shows : b.content = .shared view) (writable : b.mode ≠ .readOnly) :
    b.Refuses store value ↔
      ∀ items, items? store value = some items → items.length ≠ view.length := by
  constructor
  · rintro (mode | ⟨refers, _, _⟩ | ⟨refers, _, _, _⟩ | ⟨same, different⟩)
    · exact (writable mode).elim
    · simp [shows] at refers
    · simp [shows] at refers
    · cases shows.symm.trans same
      exact different
  · exact .wrongLength shows

/-- What a binding gives once it has been set to a value. -/
def Receives (b : Binding) (store : Store) (value : Value) (after : Store) (given : Value) : Prop :=
  match b.content with
  | .own _ => given = value
  | .ref type _ => given = if value.isNull then nothingOf type else value
  | .shared view => given = .list view ∧ items? store value = some (after.items view)

/-- Setting a binding writes to its own storage and nowhere else. -/
structure Written (b : Binding) (store : Store) (value : Value) (b' : Binding) (after : Store) :
    Prop where
  evolves : b.Evolves b'
  keeps : store.Keeps after
  frame : ∀ place, place ∉ b.places → after.load? place = store.load? place
  gives : ∃ given, b'.get after = .ok (given, after) ∧ b.Receives store value after given

theorem written_ref {type : HostType} {place : Place} {saved : Value} (standing : b.Standing store)
    (writable : b.mode ≠ .readOnly) (refers : b.content = .ref type place)
    (same : saved = if value.isNull then nothingOf type else value) :
    b.Written store value b (store.save place saved) := by
  have held : (store.load? place).isSome := by simpa [Standing, refers] using standing
  refine ⟨.refl b, Store.save_keeps held saved, ?_, saved, ?_, ?_⟩
  · intro other elsewhere
    rw [Store.load?_save held, if_neg]
    simpa [places, refers] using elsewhere
  · have loaded : (store.save place saved).load? place = some saved := by
      simp [Store.load?_save held]
    simp [get_ref refers loaded, give, writable]
  · simpa [Receives, refers] using same

theorem written_shared {view : View} {items : List Value} (standing : b.Standing store)
    (shows : b.content = .shared view) (given : items? store value = some items)
    (same : items.length = view.length) : b.Written store value b (store.saveAll view 0 items) := by
  have shown : (store.items view).length = view.length := by simpa [Standing, shows] using standing
  have held := Store.held_all shown (Nat.le_of_eq same)
  refine ⟨.refl b, Store.saveAll_keeps held, ?_, .list view, ?_, ?_⟩
  · intro other elsewhere
    apply Store.load?_saveAll_other held
    rintro k bound rfl
    apply elsewhere
    simp only [places, shows, Nat.zero_add]
    exact View.mem_places.mpr ⟨k, same ▸ bound, rfl⟩
  · exact get_shared shows _
  · simp [Receives, shows, Store.items_saveAll shown same, given]

/-- Setting a binding fails exactly when it refuses the value, and else writes it. -/
theorem set_spec (standing : b.Standing store) (value : Value) :
    match b.set store value with
    | .error _ => b.Refuses store value
    | .ok (b', after) => ¬ b.Refuses store value ∧ b.Written store value b' after := by
  unfold set
  by_cases readOnly : b.mode = .readOnly
  · simp only [readOnly, if_true]
    exact .readOnly readOnly
  · simp only [readOnly, if_false]
    cases content : b.content with
    | own old =>
        simp only [refuses_own content]
        refine ⟨readOnly, ⟨rfl, rfl, rfl, .inr ⟨old, value, content, rfl⟩⟩, .refl store,
          fun _ _ => rfl, value, ?_, ?_⟩
        · rw [get_own rfl, give, if_neg readOnly]
        · simp [Receives, content]
    | ref type place =>
        simp only [refuses_ref content readOnly]
        cases null : value.isNull with
        | true =>
            cases nullable : type.isNullable with
            | true =>
                simp only [if_true]
                exact ⟨by simp, written_ref standing readOnly content (by simp [null])⟩
            | false => simp
        | false =>
            by_cases fits : value.fits type = true
            · simp only [fits, if_true, Bool.false_eq_true, if_false]
              refine ⟨?_, written_ref standing readOnly content (by simp [null])⟩
              rintro ⟨typed, different⟩
              exact (Value.fits_iff.mp fits).elim typed different
            · have different : type ≠ .any ∧ value.type? ≠ some type :=
                not_or.mp (mt Value.fits_iff.mpr fits)
              simpa [fits] using different
    | shared view =>
        simp only [refuses_shared content readOnly]
        cases given : items? store value with
        | none => simp
        | some items =>
            by_cases same : items.length = view.length
            · simp only [same, if_true]
              refine ⟨fun refused => refused items rfl same, ?_⟩
              exact written_shared standing content given same
            · simp [same]

theorem give_of_keeps (keeps : store.Keeps after) (mode : Mode) (value : Value) :
    (give mode after value).1 = (give mode store value).1 := by
  unfold give
  split
  · cases value with
    | list view =>
        simp [Store.clone, Store.newList, Store.alloc, keeps.size, keeps.length_items]
    | dict cell => simp [Store.clone, Store.newDict, Store.alloc, keeps.size]
    | plain datum => rfl
    | pointer type place => rfl
  · rfl

theorem Written.get_apart {c : Binding} (written : b.Written store value b' after)
    (standing : c.Standing store) (apart : ∀ place ∈ c.places, place ∉ b.places) :
    ∃ given first second, c.get store = .ok (given, first) ∧ c.get after = .ok (given, second) := by
  cases content : c.content with
  | own kept =>
      refine ⟨(give c.mode store kept).1, _, (give c.mode after kept).2, get_own content store, ?_⟩
      rw [get_own content after, ← give_of_keeps written.keeps]
  | shared view => exact ⟨_, _, _, get_shared content store, get_shared content after⟩
  | ref type place =>
      simp only [Standing, content] at standing
      obtain ⟨kept, loaded⟩ := Option.isSome_iff_exists.mp standing
      have still : after.load? place = some kept := by
        rw [written.frame place (apart place (by simp [places, content])), loaded]
      refine ⟨(give c.mode store kept).1, _, (give c.mode after kept).2, get_ref content loaded, ?_⟩
      rw [get_ref content still, ← give_of_keeps written.keeps]

end Binding

namespace Bindings

variable {b b' : Bindings} {store : Store} {name key : Text} {value : Value}

theorem resolve?_of_keys (same : b'.entries.keys = b.entries.keys) (name : Text) :
    b'.resolve? name = b.resolve? name := by
  have has : ∀ key, b'.entries.has key = b.entries.has key := by
    intro key
    rw [Bool.eq_iff_iff, Entries.has_iff_mem_keys, Entries.has_iff_mem_keys, same]
  simp only [resolve?, has]

theorem has_of_resolve? (resolved : b.resolve? name = some key) : b.entries.has key = true := by
  unfold resolve? at resolved
  split at resolved
  · next bound =>
      cases resolved
      exact bound
  · split at resolved
    · next bound =>
        cases resolved
        exact bound
    · cases resolved

theorem get?_of_resolve? (resolved : b.resolve? name = some key) :
    ∃ binding, b.entries.get? key = some binding :=
  Entries.has_iff.mp (has_of_resolve? resolved)

theorem get?_of_lookup? {binding : Binding} (bound : b.lookup? name = some binding) :
    b.get? store name = (binding.get store).map some := by
  simp only [get?, bound]
  rfl

theorem set_eq {binding : Binding} (resolved : b.resolve? name = some key)
    (found : b.entries.get? key = some binding) :
    b.set store name value = (binding.set store value).map fun changed =>
      ({ b with entries := b.entries.put key changed.1 }, changed.2) := by
  simp only [set, resolved, found]
  cases binding.set store value <;> rfl

theorem set_ok {after : Store}
    (done : b.set store name value = .ok (b', after)) :
    ∃ key binding binding', b.entries.get? key = some binding ∧
      binding.set store value = .ok (binding', after) ∧
      b' = { b with entries := b.entries.put key binding' } := by
  unfold set at done
  split at done
  · cases done
  · next key resolved =>
      split at done
      · cases done
      · next binding found =>
          simp only [except_bind_ok] at done
          obtain ⟨⟨binding', later⟩, changed, made⟩ := done
          cases made
          exact ⟨key, binding, binding', found, changed, rfl⟩

theorem get?_ok {after : Store}
    (got : b.get? store name = .ok (some (value, after))) :
    ∃ key binding, b.entries.get? key = some binding ∧ binding.get store = .ok (value, after) := by
  unfold get? at got
  split at got
  · next binding bound =>
      simp only [except_bind_ok] at got
      obtain ⟨given, read, made⟩ := got
      cases made
      simp only [lookup?, Option.bind_eq_bind, Option.bind_eq_some_iff] at bound
      obtain ⟨key, _, found⟩ := bound
      exact ⟨key, binding, found, read⟩
  · cases got

end Bindings

namespace Frame

variable {start f f' : Frame} {name : Text} {value : Value}

/-- Why a name cannot be set to a value. -/
inductive Refuses (f : Frame) (name : Text) (value : Value) : Prop
  | unknown (unbound : f.bindings.lookup? name = none)
  | binding {b : Binding} (bound : f.bindings.lookup? name = some b) (refuses : b.Refuses f.store value)

/-- A name was set: its binding gives the value, all other names keep theirs, and no storage but the
binding's own was assigned. A binding that shares none of it gives what it gave. -/
structure Assigned (f : Frame) (name : Text) (value : Value) (key : Text) (b : Binding) (f' : Frame) :
    Prop where
  gives : ∃ given, f'.bindings.get? f'.store name = .ok (some (given, f'.store)) ∧
    b.Receives f.store value f'.store given
  names : f'.bindings.names = f.bindings.names
  args : f'.bindings.args = f.bindings.args
  others : ∀ other, other ≠ key → f'.bindings.entries.get? other = f.bindings.entries.get? other
  places : ∀ place, place ∉ b.places → f'.store.load? place = f.store.load? place
  lists : ∀ view : View, (∀ place ∈ view.places, place ∉ b.places) →
    f'.store.items view = f.store.items view
  maps : ∀ cell, f'.store.entries cell = f.store.entries cell
  apart : ∀ other c, other ≠ key → f.bindings.entries.get? other = some c →
    (∀ place ∈ c.places, place ∉ b.places) → ∃ given first second,
      c.get f.store = .ok (given, first) ∧ c.get f'.store = .ok (given, second)

/-- Setting a name is refused and changes nothing, or sets the one binding it stands for. -/
def Sets (f : Frame) (name : Text) (value : Value) : Prop :=
  match f.act (.set name value) with
  | .ok (.error _, f') => f.Refuses name value ∧ f' = f
  | .ok (.ok _, f') => ¬ f.Refuses name value ∧ ∃ key b, f.bindings.resolve? name = some key ∧
      f.bindings.entries.get? key = some b ∧ f.Assigned name value key b f'
  | .error _ => False

/-- All that the bindings refer to or show is there. -/
def Steady (f : Frame) : Prop :=
  ∀ key b, f.bindings.entries.get? key = some b → b.Standing f.store

theorem lookup?_eq {key : Text} {b : Binding} (resolved : f.bindings.resolve? name = some key)
    (found : f.bindings.entries.get? key = some b) : f.bindings.lookup? name = some b := by
  simp [Bindings.lookup?, resolved, found]

theorem refuses_iff {key : Text} {b : Binding} (resolved : f.bindings.resolve? name = some key)
    (found : f.bindings.entries.get? key = some b) :
    f.Refuses name value ↔ b.Refuses f.store value := by
  have bound := lookup?_eq resolved found
  constructor
  · rintro (unbound | ⟨other, refuses⟩)
    · rw [bound] at unbound
      cases unbound
    · rw [bound] at other
      cases other
      exact refuses
  · exact .binding bound

/-- A frame with another binding for a name and other storage. -/
def put (f : Frame) (key : Text) (b : Binding) (store : Store) : Frame :=
  { f with bindings := { f.bindings with entries := f.bindings.entries.put key b }, store }

theorem keys_put {key : Text} {b b' : Binding} {after : Store}
    (found : f.bindings.entries.get? key = some b) :
    (f.put key b' after).bindings.entries.keys = f.bindings.entries.keys :=
  Entries.keys_put_of_has (Entries.has_iff.mpr ⟨b, found⟩)

theorem assigned_of_written {key : Text} {b b' : Binding} {after : Store} (steady : f.Steady)
    (resolved : f.bindings.resolve? name = some key) (found : f.bindings.entries.get? key = some b)
    (written : b.Written f.store value b' after) :
    f.Assigned name value key b (f.put key b' after) where
  gives := by
    obtain ⟨given, got, receives⟩ := written.gives
    have still : (f.put key b' after).bindings.resolve? name = some key :=
      (Bindings.resolve?_of_keys (keys_put found) name).trans resolved
    have bound := lookup?_eq still (Entries.get?_put_self ..)
    refine ⟨given, ?_, receives⟩
    rw [Bindings.get?_of_lookup? bound]
    exact congrArg (Except.map some) got
  names := keys_put found
  args := rfl
  others other different := by simp [put, Entries.get?_put, different.symm]
  places := written.frame
  lists view apart := Store.items_congr fun place shown => written.frame place (apart place shown)
  maps := written.keeps.entries
  apart other c _ bound apart := written.get_apart (steady other c bound) apart

theorem act_set (f : Frame) (name : Text) (value : Value) :
    (f.bindings.resolve? name = none ∧
      f.act (.set name value) = .ok (.error (.unknown name), f)) ∨
    ∃ key b, f.bindings.resolve? name = some key ∧ f.bindings.entries.get? key = some b ∧
      f.act (.set name value) = match b.set f.store value with
        | .error refusal => .ok (.error refusal, f)
        | .ok (b', after) => .ok (.ok true, f.put key b' after) := by
  cases resolved : f.bindings.resolve? name with
  | none => exact .inl ⟨rfl, by simp [act, Bindings.set, resolved]⟩
  | some key =>
      obtain ⟨b, found⟩ := Bindings.get?_of_resolve? resolved
      refine .inr ⟨key, b, rfl, found, ?_⟩
      rw [act, Bindings.set_eq resolved found]
      cases b.set f.store value <;> rfl

theorem eq_or_put_of_act_set {outcome : Except SetRefusal Bool}
    (done : f.act (.set name value) = .ok (outcome, f')) :
    f' = f ∨ ∃ key b b' after, f.bindings.resolve? name = some key ∧
      f.bindings.entries.get? key = some b ∧ b.set f.store value = .ok (b', after) ∧
      f' = f.put key b' after := by
  rcases f.act_set name value with ⟨_, refused⟩ | ⟨key, b, resolved, found, acts⟩
  · cases refused.symm.trans done
    exact .inl rfl
  · rw [acts] at done
    cases changed : b.set f.store value with
    | error refusal =>
        rw [changed] at done
        cases done
        exact .inl rfl
    | ok result =>
        rw [changed] at done
        cases done
        exact .inr ⟨key, b, result.1, result.2, resolved, found, changed, rfl⟩

theorem Steady.set_cases (steady : f.Steady) (name : Text) (value : Value) :
    (f.Refuses name value ∧ ∃ refusal, f.act (.set name value) = .ok (.error refusal, f)) ∨
    (¬ f.Refuses name value ∧ ∃ key b b' after, f.bindings.resolve? name = some key ∧
      f.bindings.entries.get? key = some b ∧ b.Written f.store value b' after ∧
      f.act (.set name value) = .ok (.ok true, f.put key b' after)) := by
  rcases f.act_set name value with ⟨unknown, refused⟩ | ⟨key, b, resolved, found, acts⟩
  · exact .inl ⟨.unknown (by simp [Bindings.lookup?, unknown]), _, refused⟩
  · have spec := b.set_spec (steady key b found) value
    rw [refuses_iff resolved found, acts]
    cases changed : b.set f.store value with
    | error refusal =>
        simp only [changed] at spec
        exact .inl ⟨spec, refusal, rfl⟩
    | ok result =>
        simp only [changed] at spec
        exact .inr ⟨spec.1, key, b, result.1, result.2, resolved, found, spec.2, rfl⟩

theorem Steady.sets (steady : f.Steady) (name : Text) (value : Value) : f.Sets name value := by
  unfold Sets
  rcases steady.set_cases name value with ⟨refuses, refusal, refused⟩ |
    ⟨accepts, key, b, b', after, resolved, found, written, done⟩
  · rw [refused]
    exact ⟨refuses, rfl⟩
  · rw [done]
    exact ⟨accepts, key, b, resolved, found, assigned_of_written steady resolved found written⟩

end Frame
end CallPlan
