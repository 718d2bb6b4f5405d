/-!
Computations that may fail, taken apart into what succeeded. Whether one succeeds is found by running it.
-/

namespace CallPlan

variable {ε δ α β : Type}

instance decidableOk {P : α → Prop} [DecidablePred P] :
    (result : Except ε α) → Decidable (∃ a, result = .ok a ∧ P a)
  | .error _ => .isFalse fun ⟨_, same, _⟩ => nomatch same
  | .ok a => decidable_of_iff (P a)
      ⟨fun holds => ⟨a, rfl, holds⟩, fun ⟨_, same, holds⟩ => Except.ok.inj same ▸ holds⟩

instance decidableRun : (run : Except ε α × β) → Decidable (∃ a b, run = (.ok a, b))
  | (.error _, _) => .isFalse fun ⟨_, _, same⟩ => nomatch same
  | (.ok a, b) => .isTrue ⟨a, b, rfl⟩

instance decidableRunWith {P : α → β → Prop} [∀ a b, Decidable (P a b)] :
    (run : Except ε α × β) → Decidable (∃ a b, run = (.ok a, b) ∧ P a b)
  | (.error _, _) => .isFalse fun ⟨_, _, same, _⟩ => nomatch same
  | (.ok a, b) => decidable_of_iff (P a b)
      ⟨fun holds => ⟨a, b, rfl, holds⟩, fun ⟨_, _, same, holds⟩ => by cases same; exact holds⟩

@[simp] theorem except_ok_bind (a : α) (next : α → Except ε β) : (Except.ok a >>= next) = next a := rfl

@[simp] theorem except_error_bind (e : ε) (next : α → Except ε β) :
    (Except.error e >>= next) = .error e := rfl

@[simp] theorem except_pure (a : α) : (pure a : Except ε α) = .ok a := rfl

theorem except_bind_ok {x : Except ε α} {next : α → Except ε β} {b : β} :
    (x >>= next) = .ok b ↔ ∃ a, x = .ok a ∧ next a = .ok b := by
  cases x with
  | error e => simp
  | ok a => simp

theorem except_mapError_ok {x : Except ε α} {f : ε → δ} {a : α} :
    x.mapError f = .ok a ↔ x = .ok a := by
  cases x with
  | error e => exact ⟨nofun, nofun⟩
  | ok b => exact ⟨fun same => congrArg _ (Except.ok.inj same), fun same => congrArg _ (Except.ok.inj same)⟩

/-- A computation that changes a state and may fail continues from the state it has reached. -/
theorem run_bind {σ : Type} (first : ExceptT ε (StateM σ) α) (next : α → ExceptT ε (StateM σ) β)
    (state : σ) : (first >>= next).run.run state = match first.run.run state with
      | (.ok a, after) => (next a).run.run after
      | (.error e, after) => (.error e, after) := by
  simp only [ExceptT.run_bind, StateT.run_bind]
  rcases first.run.run state with ⟨outcome, after⟩
  cases outcome <;> rfl

end CallPlan
