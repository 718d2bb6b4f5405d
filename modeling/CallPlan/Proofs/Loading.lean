import CallPlan.Proofs.Compile
import CallPlan.Proofs.Signature.Margins
import CallPlan.Proofs.Text.Utf8

/-!
Compiling what a source holds is compiling its content, and a text given as a source is compiled as it is
without the blanks around it. That is what the text compiles to by itself, unless an invocant in it stands
behind blanks that are not ASCII.
-/

namespace CallPlan

variable {files : Files} {settings later : List Setting} {loader : Loader} {text : Text} {plan : Plan}

namespace Compilation

variable {α β : Type} {m : Except Failure β} {next : β → Except Failure (Compilation α)} {a : α}

theorem settle_bind : settle (m >>= next) = .ok a ↔ ∃ b, m = .ok b ∧ settle (next b) = .ok a := by
  cases m with
  | error failure => simp [settle]
  | ok b => simp

end Compilation

namespace Config

variable {c : Config}

/-- A source that is given is kept by all settings that give no other. -/
theorem apply_loader {setting : Setting} (keeps : ∀ other, setting ≠ .loader (some other)) :
    { c with loader }.apply setting = (c.apply setting).map fun c => { c with loader } := by
  cases setting with
  | loader other =>
      cases other with
      | none => rfl
      | some other => exact (keeps other rfl).elim
  | invocant name =>
      simp only [apply]
      split <;> rfl
  | engine name =>
      simp only [apply]
      split <;> rfl
  | _ => rfl

theorem applyAll_loader (last : ∀ other, .loader (some other) ∉ later) :
    { c with loader }.applyAll later = (c.applyAll later).map fun c => { c with loader } := by
  induction later generalizing c with
  | nil => rfl
  | cons setting rest ih =>
      have keeps : ∀ other, setting ≠ .loader (some other) := by
        rintro other rfl
        exact last other List.mem_cons_self
      rw [applyAll, applyAll, apply_loader keeps]
      cases c.apply setting with
      | error cause => rfl
      | ok next => exact ih fun other member => last other (List.mem_cons_of_mem _ member)

theorem applyAll_insert_loader (last : ∀ other, .loader (some other) ∉ later) :
    c.applyAll (settings ++ .loader (some loader) :: later) =
      (c.applyAll (settings ++ later)).map fun c => { c with loader := some loader } := by
  rw [applyAll_append, applyAll_append]
  cases c.applyAll settings with
  | error cause => rfl
  | ok middle => exact applyAll_loader last

/-- A source among the settings changes nothing else. The last one given counts. -/
theorem build_loader (last : ∀ other, .loader (some other) ∉ later) :
    build (settings ++ .loader (some loader) :: later) =
      (build (settings ++ later)).map fun c => { c with loader := some loader } := by
  unfold build
  rw [applyAll_insert_loader last]
  cases initial.applyAll (settings ++ later) with
  | error cause => rfl
  | ok chosen =>
      change (chosen.withDefaults.validate >>= fun _ =>
          Except.ok { chosen with loader := some loader }.withDefaults) =
        (chosen.withDefaults.validate >>= fun _ => Except.ok chosen.withDefaults).map fun c =>
          { c with loader := some loader }
      cases chosen.withDefaults.validate <;> rfl

end Config

/-- What a source holds is compiled like any text. -/
theorem compileLoaded_eq {content : List UInt8} (last : ∀ other, .loader (some other) ∉ later)
    (read : loader.read files = .ok content) :
    compileLoaded files (settings ++ .loader (some loader) :: later) =
      compile files (settings ++ later) (Text.ofBytes content) := by
  unfold compileLoaded compile configure
  rw [Config.build_loader last]
  cases Config.build (settings ++ later) with
  | error cause => rfl
  | ok c =>
      change (Except.mapError Failure.other (loader.read files) >>= fun content =>
        c.compile files (Text.ofBytes content)) = c.compile files (Text.ofBytes content)
      rw [read]
      rfl

theorem Loader.ofText_eq (shown : text.isBlank = false) : ofText text = .ok (.text text.trim) := by
  have nonempty : text.trim ≠ [] := fun none => by
    rw [Text.isBlank_of_trim none] at shown
    cases shown
  simp [ofText, nonempty]

/-- A text compiles as it does without the blanks around it, so long as its invocant is in sight. -/
theorem compile_trim_iff : Compilation.settle (compile files settings text) = .ok plan ↔
    Compilation.settle (compile files settings text.trim) = .ok plan ∧ Invocant.InSight text := by
  have trimmed : ∀ options s, Signature.parse text options = .ok s ↔
      Signature.parse text.trim options = .ok s ∧ Invocant.InSight text := fun _ _ => Signature.parse_trim_iff
  simp only [compile, Config.compile, Config.parse, Compilation.settle_bind, except_mapError_ok,
    trimmed]
  constructor
  · rintro ⟨c, configured, s, ⟨parsed, sight⟩, made⟩
    exact ⟨⟨c, configured, s, parsed, made⟩, sight⟩
  · rintro ⟨⟨c, configured, s, parsed, made⟩, sight⟩
    exact ⟨c, configured, s, ⟨parsed, sight⟩, made⟩

/-- A text reads as it does without the blanks around it, and a source of the text compiles to what the
text does, if the text has no invocant or has only ASCII blanks in front of it. Otherwise the trimmed text
may have a meaning, but the text has none. -/
theorem loaded_like_text {bytes : List UInt8} (read : Text.ofBytes bytes = text) :
    (∀ options s, Signature.parse text options = .ok s ↔
      Signature.parse text.trim options = .ok s ∧ Invocant.InSight text) ∧
    (text.isBlank = false → ∃ loader, Loader.ofText text = .ok loader ∧
      ∀ files settings later plan, (∀ other, .loader (some other) ∉ later) →
        (Compilation.settle (compile files (settings ++ later) text) = .ok plan ↔
          Compilation.settle (compileLoaded files (settings ++ .loader (some loader) :: later)) =
              .ok plan ∧
            Invocant.InSight text)) := by
  refine ⟨fun options s => Signature.parse_trim_iff, fun shown => ?_⟩
  refine ⟨_, Loader.ofText_eq shown, fun files settings later plan last => ?_⟩
  have readable : text.trim.Readable := by
    obtain ⟨after, whole, -⟩ := text.trim_margins
    have all : text.Readable := read ▸ Text.readable_ofBytes bytes
    rw [whole] at all
    exact all.front.back
  rw [compile_trim_iff, compileLoaded_eq last rfl, readable]

/-- An invocant behind a tab and a space, and other blanks at the end. -/
def indented : Text := "\t $self: $x, @rest\u00a0\n"

theorem loaded_like_text_indented :
    Text.ofBytes indented.toBytes = indented ∧ indented.isBlank = false ∧
    ∃ loader plan, Loader.ofText indented = .ok loader ∧
      Compilation.settle (compile {} [] indented) = .ok plan ∧
      Compilation.settle (compileLoaded {} [.loader (some loader)]) = .ok plan := by
  have read : Text.ofBytes indented.toBytes = indented := Text.ofBytes_toBytes (by decide)
  have shown : indented.isBlank = false := by decide
  obtain ⟨plan, compiled⟩ : ∃ plan, Compilation.settle (compile {} [] indented) = .ok plan := ⟨_, rfl⟩
  obtain ⟨-, through⟩ := loaded_like_text read
  obtain ⟨loader, given, same⟩ := through shown
  have loaded := (same {} [] [] plan (by simp)).mp compiled
  exact ⟨read, shown, loader, plan, given, compiled, loaded.1⟩

/-- An invocant behind a blank that is not ASCII. -/
def offset : Text := "\u00a0$self: $x"

theorem loaded_unlike_text :
    (∃ s, Signature.parse offset.trim {} = .ok s) ∧ (∀ s, Signature.parse offset {} ≠ .ok s) ∧
    ∃ loader plan, Loader.ofText offset = .ok loader ∧
      Compilation.settle (compileLoaded {} [.loader (some loader)]) = .ok plan ∧
      ∀ plan, Compilation.settle (compile {} [] offset) ≠ .ok plan := by
  have refused : ∀ s, Signature.parse offset {} ≠ .ok s := by
    have none : (Signature.parse offset {}).toOption = none := by decide +kernel
    intro s parsed
    rw [parsed] at none
    cases none
  refine ⟨⟨_, rfl⟩, refused, .text offset.trim, ?_⟩
  have loaded : compileLoaded {} ([] ++ [.loader (some (.text offset.trim))]) = compile {} [] offset.trim := by
    rw [compileLoaded_eq (by simp) rfl, Text.ofBytes_toBytes (by decide)]
    rfl
  obtain ⟨plan, compiled⟩ : ∃ plan, Compilation.settle (compile {} [] offset.trim) = .ok plan := ⟨_, rfl⟩
  refine ⟨plan, rfl, ?_, ?_⟩
  · exact (congrArg Compilation.settle loaded).trans compiled
  · intro plan compiled
    obtain ⟨c, s, -, configured, parsed, -⟩ := compile_ok compiled
    have settled : configure [] = .ok Config.initial.withDefaults := rfl
    cases settled.symm.trans configured
    exact refused s parsed

end CallPlan
