import CallPlan.Command.Prepared
import CallPlan.Proofs.Compile
import CallPlan.Proofs.Data.Passing
import CallPlan.Proofs.Plan.Lending
import CallPlan.Proofs.Plan.Refinement
import CallPlan.Proofs.Plan.Renaming
import CallPlan.Proofs.Plan.Setting

/-!
A plan in use. Calls leave storage behind, and assign none of what was there. A plan that has been called
therefore binds arguments as it did when it was compiled: the same lines, or the same failure.
-/

namespace CallPlan

namespace Prepared

variable {ρ : Nat → Nat} {store other after : Store} {fresh used : Prepared} {args : List Datum}

/-- The lines of bindings do not show the numbers of cells. -/
theorem lines_rename (renames : store.Renames ρ other) (b : Bindings) (steps : List Step) :
    Alike (fun result result' => result'.1 = result.1 ∧ result.2.Renames ρ result'.2)
      (lines b store steps) (lines (b.rename ρ) other steps) := by
  induction steps generalizing store other with
  | nil => exact .ok ⟨rfl, renames⟩
  | cons step rest ih =>
      simp only [lines]
      split
      · exact ih renames
      · refine (b.get?_rename renames step.param.name).bind fun given given' results => ?_
        refine (ih results.store).bind fun later later' others => .ok ⟨?_, others.2⟩
        simp only [others.1, results.value, results.store.read, b.supplied_rename]

theorem lines_extends {b : Bindings} {steps : List Step} {texts : List Text}
    (taken : lines b store steps = .ok (texts, after)) : store.Extends after := by
  induction steps generalizing store texts with
  | nil =>
      cases taken
      exact .refl _
  | cons step rest ih =>
      simp only [lines] at taken
      split at taken
      · exact ih taken
      · simp only [except_bind_ok] at taken
        obtain ⟨given, got, ⟨later, last⟩, others, made⟩ := taken
        cases made
        refine Store.Extends.trans ?_ (ih others)
        cases given with
        | none => exact .refl _
        | some result =>
            obtain ⟨_, binding, _, read⟩ := Bindings.get?_ok got
            exact Binding.extends_of_get read

theorem write_pass (store : Store) (args : List Datum) :
    store.write (.anyList args) = (.list (pass store args).1, (pass store args).2) :=
  store.write_list .any args

theorem pass_renames (renames : store.Renames ρ other) (args : List Datum) :
    (pass other args).1 = (pass store args).1.rename ρ ∧
      (pass store args).2.Renames ρ (pass other args).2 := by
  have written := renames.write (.anyList args)
  rw [write_pass, write_pass] at written
  exact ⟨(Value.list.inj written.value).1, written.store⟩

theorem pass_grows (store : Store) (args : List Datum) :
    Store.Grows (fun _ => False) store (pass store args).2 ∧
      store.cells.size ≤ (pass store args).1.cell ∧
      (pass store args).1.cell < (pass store args).2.cells.size := by
  have grown := Store.write_grows (fun _ => False) store (.anyList args)
  rw [write_pass] at grown
  rcases grown.2 _ rfl with known | added
  · exact known.elim
  · exact ⟨grown.1, added⟩

/-- A plan over storage that is all there, whose defaults are functions of their variables. -/
structure Sound (p : Prepared) : Prop where
  closed : p.store.Closed fun cell => cell < p.store.cells.size
  scope : ∃ data, p.plan.scope = .static data ∧
    ∀ entry ∈ data, entry.2.Within fun cell => cell < p.store.cells.size
  defaults : ∀ step ∈ p.plan.steps, ∀ e, step.default? = some e → e.Functional

/-- The plan as it was compiled, after some calls. -/
structure Used (fresh used : Prepared) : Prop where
  plan : used.plan = fresh.plan
  kept : fresh.store.Extends used.store

theorem Used.refl (p : Prepared) : p.Used p := ⟨rfl, .refl _⟩

theorem Used.trans {last : Prepared} (first : fresh.Used used) (second : used.Used last) :
    fresh.Used last :=
  ⟨second.plan.trans first.plan, first.kept.trans second.kept⟩

theorem Sound.tame (sound : fresh.Sound) (inUse : fresh.Used used) : Plan.Call.Tame used.plan.steps := by
  intro step member e given
  rw [inUse.plan] at member
  exact (sound.defaults step member e given).allocates

theorem report_used {result : Except BindFailure Bindings × Session}
    (kept : used.store.Extends result.2.store) : used.Used (used.report result).2 := by
  obtain ⟨outcome, session⟩ := result
  cases outcome with
  | error failure => exact ⟨rfl, kept⟩
  | ok bindings =>
      simp only [report]
      cases taken : lines bindings session.store used.plan.steps with
      | error fault => exact ⟨rfl, kept⟩
      | ok shown => exact ⟨rfl, kept.trans (lines_extends taken)⟩

/-- A call on arguments that a user typed assigns nothing that was there. -/
theorem bind_used (tame : Plan.Call.Tame used.plan.steps) (args : List Datum) :
    used.Used (used.bind args).2 := by
  obtain ⟨grown, late, there⟩ := pass_grows used.store args
  have named : ∀ cell, Store.Given (fun _ => False) used.store (pass used.store args).2 cell →
      (pass used.store args).2.Clear 0 cell := by
    rintro cell (known | added)
    · exact known.elim
    · exact ⟨Nat.zero_le _, added.2, fun _ _ _ _ _ _ => Nat.zero_le _⟩
  have passed : ∀ value ∈ (pass used.store args).2.listCell (pass used.store args).1.cell,
      ∀ cell, value.cell? = some cell → (pass used.store args).2.Clear 0 cell := by
    intro value member cell leads
    obtain ⟨content, found, held⟩ := Store.mem_listCell member
    exact named cell (grown.new _ content late found value held cell leads)
  simp only [bind]
  generalize called : used.plan.call [] { routine := used.plan.name } (pass used.store args).2
    (pass used.store args).1 = result
  have added := (Plan.call_adds tame (named _ (.inr ⟨late, there⟩)) passed called).1
  exact report_used (grown.kept.trans added)

/-- What a call shows does not depend on the calls before it. -/
theorem bind_eq (sound : fresh.Sound) (inUse : fresh.Used used) (args : List Datum) :
    (used.bind args).1 = (fresh.bind args).1 := by
  obtain ⟨data, static, outer⟩ := sound.scope
  have renames := Store.extends_renames sound.closed inUse.kept
  have fixed : data.mapValues (Value.rename (Store.moveUp fresh.store.cells.size
      (used.store.cells.size - fresh.store.cells.size))) = data := by
    refine (List.map_congr_left fun entry member => ?_).trans (List.map_id data)
    rw [Value.rename_of_fixed fun cell named => Store.moveUp_early (outer entry member cell named)]
    rfl
  obtain ⟨moved, passed⟩ := pass_renames renames args
  have equivariant := fun step member e given => (sound.defaults step member e given).equivariant
  obtain ⟨alike, later⟩ := Plan.call_renames static fixed equivariant passed []
    { routine := fresh.plan.name } (pass fresh.store args).1
  rw [← moved] at alike later
  simp only [bind, inUse.plan]
  generalize fresh.plan.call [] { routine := fresh.plan.name } (pass fresh.store args).2
    (pass fresh.store args).1 = first at alike later ⊢
  generalize fresh.plan.call [] { routine := fresh.plan.name } (pass used.store args).2
    (pass used.store args).1 = second at alike later ⊢
  obtain ⟨outcome, after⟩ := first
  obtain ⟨outcome', after'⟩ := second
  cases alike with
  | error failure => rfl
  | @ok bindings _ same =>
      subst same
      have texts := lines_rename later bindings fresh.plan.steps
      simp only [report, inUse.plan]
      generalize lines bindings after.store fresh.plan.steps = left at texts ⊢
      generalize lines (bindings.rename _) after'.store fresh.plan.steps = right at texts ⊢
      cases texts with
      | error fault => rfl
      | ok results => exact congrArg Except.ok results.1

end Prepared

namespace Flags

variable {flags : Flags} {files : Files} {settings : List Setting} {store : Store} {text : Text}
  {p : Prepared}

/-- A setting that chooses neither a compiler nor a scope. -/
inductive Plain : Setting → Prop
  | strictRequired (strict : Bool) : Plain (.strictRequired strict)
  | strictArity (strict : Bool) : Plain (.strictArity strict)
  | invocant (name : Text) : Plain (.invocant name)
  | name (name : Text) : Plain (.name name)
  | wasmLoader (loader : Option Loader) : Plain (.wasmLoader loader)

theorem Plain.keeps {setting : Setting} (plain : Plain setting) {c c' : Config}
    (applied : c.apply setting = .ok c') : (c'.compiler, c'.scope) = (c.compiler, c.scope) := by
  cases plain with
  | invocant name =>
      simp only [Config.apply] at applied
      split at applied
      · cases applied
      · cases applied
        rfl
  | strictRequired strict => cases applied; rfl
  | strictArity strict => cases applied; rfl
  | name name => cases applied; rfl
  | wasmLoader loader => cases applied; rfl

theorem choices_plain (flags : Flags) : ∀ setting ∈ flags.choices, Plain setting := by
  intro setting member
  simp only [choices, List.mem_append, List.mem_cons, List.not_mem_nil, or_false] at member
  rcases member with ((rfl | rfl) | named) | named
  · exact .strictRequired _
  · exact .strictArity _
  · split at named
    · cases named
    · exact List.mem_singleton.mp named ▸ .invocant _
  · split at named
    · cases named
    · exact List.mem_singleton.mp named ▸ .name _

theorem modules_plain (made : flags.modules files = .ok settings) :
    ∀ setting ∈ settings, Plain setting := by
  intro setting member
  unfold modules at made
  split at made
  · cases made
    cases member
  · simp only [except_bind_ok] at made
    obtain ⟨loader, _, done⟩ := made
    cases done
    exact List.mem_singleton.mp member ▸ .wasmLoader _

/-- The variables are the scope of the settings, and no compiler is given. -/
theorem settings_ok (made : flags.settings files = .ok (settings, store)) :
    ∃ definitions, store = (Store.writeEntries {} definitions).2 ∧
      ∀ c, configure settings = .ok c → c.compiler = none ∧
        c.scope = some (.static (Store.writeEntries {} definitions).1) := by
  simp only [Flags.settings, except_bind_ok] at made
  obtain ⟨dialect, _, definitions, _, modules, loaded, done⟩ := made
  cases done
  refine ⟨definitions, rfl, fun c configured => ?_⟩
  rw [configure, except_mapError_ok] at configured
  obtain ⟨chosen, applied, rfl⟩ := Config.build_ok configured
  rw [List.append_assoc, Config.applyAll_append, except_bind_ok] at applied
  obtain ⟨start, first, later⟩ := applied
  have kept := Config.applyAll_keeps (fun c => (c.compiler, c.scope)) (fun setting member c c' applied =>
    ((List.mem_append.mp member).elim (choices_plain flags setting)
      (modules_plain loaded setting)).keeps applied) later
  -- The first three settings: the engine is one that exists, or they are refused.
  simp only [Config.applyAll, Config.apply, except_ok_bind] at first
  split at first
  · cases first
  · cases first
    obtain ⟨compiler, scope⟩ := Prod.mk.inj kept
    refine ⟨compiler, ?_⟩
    simp only [Config.withDefaults, scope]
    rfl

/-- A plan that is prepared is over the storage of its variables alone. -/
theorem prepare_sound (prepared : flags.prepare files text = .ok p) : p.Sound := by
  simp only [prepare, except_bind_ok] at prepared
  obtain ⟨⟨settings, store⟩, made, plan, compiled, done⟩ := prepared
  cases done
  obtain ⟨definitions, rfl, chosen⟩ := settings_ok made
  obtain ⟨c, s, options, configured, _, gives, planned⟩ := compile_ok compiled
  obtain ⟨named, scope⟩ := chosen c configured
  obtain ⟨-, -, kept⟩ := Plan.compile_fields planned
  obtain ⟨grown, within⟩ := Store.writeEntries_grows (fun _ => False) {} definitions
  have early : ∀ cell, Store.Given (fun _ => False) {} (Store.writeEntries {} definitions).2 cell →
      cell < (Store.writeEntries {} definitions).2.cells.size := by
    rintro cell (known | added)
    · exact known.elim
    · exact added.2
  refine ⟨?_, ⟨_, ?_, fun entry member => (within entry member).mono early⟩, ?_⟩
  · intro cell content there found value held
    exact (grown.new cell content (Nat.zero_le _) found value held).mono early
  · rw [kept, gives.scope, scope]
    rfl
  · intro step member e given
    obtain ⟨engine, source, visible, selected, made⟩ := Plan.default_of_engine planned member given
    exact (gives.ofData named selected).functional source visible e made

end Flags
end CallPlan
