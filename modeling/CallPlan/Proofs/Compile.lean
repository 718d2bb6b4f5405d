import CallPlan.Compile
import CallPlan.Proofs.Plan.Refinement

/-!
Settings one after another, and what a successful compilation consists of: settings that hold together, a
signature that is read under them, and a plan compiled from it with what the settings give. A plan with the
engine of a dialect binds as its text says.
-/

namespace CallPlan

namespace Config

variable {c c' : Config} {settings : List Setting}

theorem applyAll_append (c : Config) (first rest : List Setting) :
    c.applyAll (first ++ rest) = c.applyAll first >>= fun middle => middle.applyAll rest := by
  induction first generalizing c with
  | nil => rfl
  | cons setting first ih =>
      simp only [List.cons_append, applyAll]
      cases c.apply setting with
      | error cause => rfl
      | ok next => exact ih next

/-- What each setting leaves alone, all of them do. -/
theorem applyAll_keeps {α : Type} (part : Config → α)
    (each : ∀ setting ∈ settings, ∀ c c' : Config, c.apply setting = .ok c' → part c' = part c)
    (applied : c.applyAll settings = .ok c') : part c' = part c := by
  induction settings generalizing c with
  | nil =>
      cases applied
      rfl
  | cons setting rest ih =>
      simp only [applyAll, except_bind_ok] at applied
      obtain ⟨middle, first, later⟩ := applied
      rw [ih (fun other member => each other (List.mem_cons_of_mem _ member)) later]
      exact each setting List.mem_cons_self c middle first

theorem build_ok (built : build settings = .ok c) :
    ∃ chosen, initial.applyAll settings = .ok chosen ∧ c = chosen.withDefaults := by
  simp only [build, except_bind_ok] at built
  obtain ⟨chosen, applied, _, _, made⟩ := built
  exact ⟨chosen, applied, (Except.ok.inj made).symm⟩

end Config

/-- What the settings give the plan of a signature. An engine is chosen only where one is needed. -/
structure Config.Gives (c : Config) (files : Files) (options : PlanOptions) : Prop where
  engine : ∀ engine, options.engine = some engine → c.selectEngine files = .ok engine
  scope : options.scope = c.scope.getD (.static [])

variable {files : Files} {settings : List Setting} {text : Text} {plan : Plan}

theorem Config.compile_ok {c : Config} {compilation : Compilation Plan}
    (compiled : c.compile files text = .ok compilation) :
    ∃ s options, Signature.parse text c.assemblyOptions = .ok s ∧ c.Gives files options ∧
      compilation = Plan.compile s options := by
  simp only [Config.compile, Config.parse, except_bind_ok, except_mapError_ok] at compiled
  obtain ⟨s, parsed, made⟩ := compiled
  split at made
  · cases selected : c.selectEngine files with
    | error failure =>
        rw [selected] at made
        cases made
    | ok engine =>
        rw [selected] at made
        refine ⟨s, _, parsed, ⟨?_, rfl⟩, (Except.ok.inj made).symm⟩
        rintro _ ⟨⟩
        exact selected
  · refine ⟨s, _, parsed, ⟨?_, rfl⟩, (Except.ok.inj made).symm⟩
    rintro _ ⟨⟩

theorem compile_ok (compiled : Compilation.settle (compile files settings text) = .ok plan) :
    ∃ c s options, configure settings = .ok c ∧ Signature.parse text c.assemblyOptions = .ok s ∧
      c.Gives files options ∧ (Plan.compile s options).outcome = .ok plan := by
  cases begun : compile files settings text with
  | error failure =>
      rw [begun] at compiled
      cases compiled
  | ok compilation =>
      rw [begun, Compilation.settle, except_mapError_ok] at compiled
      simp only [compile, except_bind_ok] at begun
      obtain ⟨c, configured, begun⟩ := begun
      obtain ⟨s, options, parsed, gives, rfl⟩ := Config.compile_ok begun
      exact ⟨c, s, options, configured, parsed, gives, compiled⟩

/-- The engine is one of the dialects where the settings hold no other. -/
theorem Config.selectEngine_ok {c : Config} {engine : Engine} (chosen : c.selectEngine files = .ok engine) :
    c.compiler = some engine ∨ c.compiler = none ∧ ∃ dialect, c.dialectEngine files dialect = .ok engine := by
  unfold selectEngine at chosen
  cases given : c.compiler with
  | some own =>
      rw [given] at chosen
      cases chosen
      exact .inl rfl
  | none =>
      simp only [given] at chosen
      cases found : Dialect.ofName? c.engine with
      | none =>
          simp only [found] at chosen
          cases chosen
      | some dialect =>
          simp only [found, except_mapError_ok] at chosen
          exact .inr ⟨rfl, dialect, chosen⟩

/-- Settings without an engine of their own give a plan one that sees plain data only. -/
theorem Config.Gives.ofData {c : Config} {options : PlanOptions} (gives : c.Gives files options)
    (dialect : c.compiler = none) {engine : Engine} (given : options.engine = some engine) :
    engine.OfData := by
  rcases Config.selectEngine_ok (gives.engine engine given) with own | ⟨-, _, chosen⟩
  · cases dialect.symm.trans own
  · exact Config.dialectEngine_ofData chosen

theorem Config.Gives.confined {c : Config} {options : PlanOptions} (gives : c.Gives files options)
    (dialect : c.compiler = none) : options.Confined :=
  fun _ given => (gives.ofData dialect given).confined

/-- A plan with the engine of a dialect binds what its text declares, from the arguments or from defaults. -/
theorem compile_reads {context : Context} {site : Site} {store : Store} {args : View}
    {bindings : Bindings} {after : Session}
    (compiled : Compilation.settle (compile files settings text) = .ok plan)
    (dialect : ∀ c, configure settings = .ok c → c.compiler = none) (passes : store.Passes args)
    (called : plan.call context site store args = (.ok bindings, after)) :
    ∃ c s options, configure settings = .ok c ∧ Signature.parse text c.assemblyOptions = .ok s ∧
      c.Gives files options ∧ s.Reads options store after.store args bindings := by
  obtain ⟨c, s, options, configured, parsed, gives, made⟩ := compile_ok compiled
  have allocates := (gives.confined (dialect c configured)).allocates
  have wellFormed := (Signature.parse_assembled parsed).wellFormed
  exact ⟨c, s, options, configured, parsed, gives,
    Plan.call_reads made wellFormed allocates passes called⟩

end CallPlan
