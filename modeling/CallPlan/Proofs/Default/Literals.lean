import CallPlan.Proofs.Default.Sigils

/-!
The literals that a scan of a text recognises: the stretches that it reads with a literal open. The scan that
takes out sigils copies each of them, and what it recognises is said by the quotes and backslashes alone.
-/

namespace CallPlan

/-- A stretch of a text that a scan takes for a literal, where `inside` says after how many glyphs the scan
has one open. It starts outside, is inside up to its last glyph, and ends outside again or with the text. -/
structure Stretch (inside : Nat → Prop) (length start stop : Nat) : Prop where
  nonempty : start < stop
  within : stop ≤ length
  outside : ¬ inside start
  opens : inside (start + 1)
  open_ : ∀ k, start < k → k < stop → inside k
  ends : ¬ inside stop ∨ stop = length

namespace Stretch

variable {inside inside' : Nat → Prop} {length length' offset start stop : Nat}

instance [DecidablePred inside] : Decidable (Stretch inside length start stop) :=
  decidable_of_iff
    (start < stop ∧ stop ≤ length ∧ ¬ inside start ∧ inside (start + 1) ∧
      (∀ k < stop, start < k → inside k) ∧ (¬ inside stop ∨ stop = length))
    ⟨fun ⟨nonempty, within, outside, opens, open_, ends⟩ =>
        ⟨nonempty, within, outside, opens, fun k after before => open_ k before after, ends⟩,
      fun ⟨nonempty, within, outside, opens, open_, ends⟩ =>
        ⟨nonempty, within, outside, opens, fun k before after => open_ k after before, ends⟩⟩

/-- A scan of a part of a text that starts and ends outside recognises what a scan of the text does there. -/
theorem shift (same : ∀ k ≤ length, inside' (offset + k) ↔ inside k) (fits : offset + length ≤ length')
    (closed : ¬ inside length) (stretch : Stretch inside length start stop) :
    Stretch inside' length' (offset + start) (offset + stop) := by
  obtain ⟨nonempty, within, outside, opens, open_, ends⟩ := stretch
  refine ⟨by omega, by omega, ?_, ?_, fun k after before => ?_, ?_⟩
  · rwa [same start (by omega)]
  · rwa [Nat.add_assoc, same _ (by omega)]
  · obtain ⟨k, rfl⟩ := Nat.exists_eq_add_of_le (show offset ≤ k by omega)
    rw [same k (by omega)]
    exact open_ k (by omega) (by omega)
  · rw [same stop within]
    rcases ends with closes | rfl
    · exact .inl closes
    · exact .inl closed

theorem unshift (same : ∀ k ≤ length, inside' (offset + k) ↔ inside k) (fits : offset + length ≤ length')
    (begins : ¬ inside 0) (closed : ¬ inside length) (stretch : Stretch inside' length' start stop)
    (before : start < offset + length) (after : offset < stop) :
    ∃ i j, start = offset + i ∧ stop = offset + j ∧ Stretch inside length i j := by
  obtain ⟨nonempty, within, outside, opens, open_, ends⟩ := stretch
  have first : ¬ inside' offset := by simpa using (same 0 (Nat.zero_le _)).not.mpr begins
  have last : ¬ inside' (offset + length) := (same length (Nat.le_refl _)).not.mpr closed
  -- A stretch that reached over an end would have a literal open there.
  have low : offset ≤ start := Nat.not_lt.mp fun early => first (open_ offset early after)
  have high : stop ≤ offset + length := Nat.not_lt.mp fun late => last (open_ _ before late)
  obtain ⟨i, rfl⟩ := Nat.exists_eq_add_of_le low
  obtain ⟨j, rfl⟩ := Nat.exists_eq_add_of_le (show offset ≤ stop by omega)
  refine ⟨i, j, rfl, rfl, by omega, by omega, ?_, ?_, fun k after before => ?_, ?_⟩
  · rwa [← same i (by omega)]
  · rwa [← same _ (by omega), ← Nat.add_assoc]
  · rw [← same k (by omega)]
    exact open_ _ (by omega) (by omega)
  · rw [← same j (by omega)]
    exact ends.imp_right fun final => by omega

end Stretch

namespace Source

variable {s : State} {g : Glyph} {source rest t : Text} {start stop : Nat}

/-- What the scan writes for a glyph, and the state it goes on in. -/
def State.read (s : State) (g : Glyph) (rest : Text) : Text × State :=
  match s.literal with
  | some l => ([g], { s with literal := l.next g })
  | none =>
      if isQuote g then ([g], { literal := some { quote := g }, previous := some g })
      else if isSigil s.previous g rest then ([], s)
      else ([shown g], { s with previous := if g.isBlank then s.previous else some g })

/-- The state after a number of glyphs. -/
def State.after (s : State) : Text → Nat → State
  | g :: rest, k + 1 => (s.read g rest).2.after rest k
  | _, _ => s

theorem stripFrom_read (s : State) (g : Glyph) (rest : Text) :
    stripFrom s (g :: rest) = (s.read g rest).1 ++ stripFrom (s.read g rest).2 rest := by
  rw [stripFrom, State.read]
  cases s.literal with
  | some l => rfl
  | none =>
      dsimp only
      split
      · rfl
      · split <;> rfl

theorem State.read_literal (s : State) (g : Glyph) (rest : Text) :
    (s.read g rest).2.literal = literalStep s.literal g := by
  unfold State.read
  cases literal : s.literal with
  | some l => rfl
  | none =>
      simp only [literalStep]
      split
      · rfl
      · split <;> simp [literal]

/-- The scan writes something for the glyphs it has read, and goes on with the others. -/
theorem stripFrom_after (s : State) (source : Text) (k : Nat) :
    ∃ front, stripFrom s source = front ++ stripFrom (s.after source k) (source.drop k) := by
  induction source generalizing s k with
  | nil => exact ⟨[], by simp [State.after]⟩
  | cons g rest ih =>
      cases k with
      | zero => exact ⟨[], rfl⟩
      | succ k =>
          obtain ⟨front, later⟩ := ih (s.read g rest).2 k
          refine ⟨(s.read g rest).1 ++ front, ?_⟩
          rw [stripFrom_read, later, List.append_assoc]
          rfl

theorem State.after_literal (s : State) (source : Text) (k : Nat) :
    (s.after source k).literal = (source.take k).foldl literalStep s.literal := by
  induction source generalizing s k with
  | nil => simp [State.after]
  | cons g rest ih =>
      cases k with
      | zero => rfl
      | succ k => rw [State.after, ih, State.read_literal, List.take_succ_cons, List.foldl_cons]

/-- A literal is open after a number of glyphs of a source. -/
def InLiteral (source : Text) (k : Nat) : Prop := (State.after {} source k).literal.isSome = true

instance : DecidablePred (InLiteral source) := fun k =>
  inferInstanceAs (Decidable ((State.after {} source k).literal.isSome = true))

theorem inLiteral_iff {k : Nat} : InLiteral source k ↔ (openLiteral (source.take k)).isSome = true := by
  rw [InLiteral, State.after_literal, openLiteral]

/-- A stretch of a source that is left alone as a literal. -/
def IsLiteral (source : Text) (start stop : Nat) : Prop :=
  Stretch (InLiteral source) source.length start stop

instance : Decidable (IsLiteral source start stop) :=
  inferInstanceAs (Decidable (Stretch (InLiteral source) source.length start stop))

theorem take_succ_of_lt {k : Nat} (within : k < source.length) :
    source.take (k + 1) = source.take k ++ [source[k]] :=
  List.take_succ_eq_append_getElem within

/-- A literal starts with a quote, which stays open up to its end. -/
theorem IsLiteral.opened (literal : IsLiteral source start stop) : ∃ quote ∈ quotes,
    ∀ k, start < k → k < stop → ∃ l, openLiteral (source.take k) = some l ∧ l.quote = quote ∧
      Opens (source.take start) l (source.take k) := by
  obtain ⟨nonempty, within, outside, opens, open_, -⟩ := literal
  have first : start < source.length := Nat.lt_of_lt_of_le nonempty within
  have closed : openLiteral (source.take start) = none := by
    simpa [inLiteral_iff] using outside
  rw [inLiteral_iff, take_succ_of_lt first, openLiteral_append, closed, literalStep] at opens
  have quote : isQuote source[start] = true := by
    by_contra bare
    rw [if_neg bare] at opens
    cases opens
  refine ⟨source[start], isQuote_iff.mp quote, fun k after before => ?_⟩
  -- The induction is on how far the literal has been read.
  induction k, after using Nat.le_induction with
  | base =>
      rw [take_succ_of_lt first, openLiteral_append, closed, literalStep, if_pos quote]
      exact ⟨_, rfl, rfl, [], rfl, .nil⟩
  | succ k after ih =>
      obtain ⟨l, read, same, opened⟩ := ih (by omega)
      have inside := open_ (k + 1) (by omega) before
      have here : k < source.length := by omega
      rw [inLiteral_iff, take_succ_of_lt here, openLiteral_append, read, literalStep] at inside
      obtain ⟨next, kept⟩ := Option.isSome_iff_exists.mp inside
      have step := opened.step source[k]
      rw [kept] at step
      refine ⟨next, ?_, step.1.trans same, take_succ_of_lt here ▸ step.2⟩
      rw [take_succ_of_lt here, openLiteral_append, read, literalStep, kept]

/-- A literal that ends before the source does, or just there, has its quote at both ends. -/
theorem IsLiteral.quoted (literal : IsLiteral source start stop) (closes : ¬ InLiteral source stop) :
    ∃ quote ∈ quotes, ∃ body, Body quote body ∧
      (source.drop start).take (stop - start) = quote :: body ++ [quote] := by
  obtain ⟨quote, known, inside⟩ := literal.opened
  obtain ⟨nonempty, within, -, opens, -, -⟩ := literal
  have wide : start + 1 < stop := by
    refine Nat.lt_of_le_of_ne nonempty fun same => closes ?_
    rwa [same] at opens
  obtain ⟨last, rfl⟩ := Nat.exists_eq_add_of_lt (show start < stop from nonempty)
  obtain ⟨l, read, same, opened⟩ := inside (start + last) (by omega) (by omega)
  have here : start + last < source.length := within
  have step := opened.step source[start + last]
  rw [inLiteral_iff, take_succ_of_lt here, openLiteral_append, read, literalStep] at closes
  have closed : l.next source[start + last] = none := by simpa using closes
  rw [closed, same, ← take_succ_of_lt here] at step
  obtain ⟨body, inner, whole⟩ := step
  refine ⟨quote, known, body, inner, ?_⟩
  have cut : source.take (start + last + 1) = source.take start ++ (source.drop start).take (last + 1) := by
    rw [Nat.add_assoc, List.take_add]
  rw [cut, List.append_assoc, List.cons_append] at whole
  rw [show start + last + 1 - start = last + 1 by omega]
  exact List.append_cancel_left whole

/-- A literal with both its quotes is in the source without sigils as it was. -/
theorem IsLiteral.copied (literal : IsLiteral source start stop) (closes : ¬ InLiteral source stop) :
    ∃ quote ∈ quotes, ∃ body, Body quote body ∧
      (source.drop start).take (stop - start) = quote :: body ++ [quote] ∧
      ∃ front back, stripSigils source = front ++ (quote :: body ++ [quote]) ++ back := by
  obtain ⟨quote, known, body, inner, written⟩ := literal.quoted closes
  refine ⟨quote, known, body, inner, written, ?_⟩
  have outside : (State.after {} source start).literal = none := by
    simpa [InLiteral] using literal.outside
  obtain ⟨front, read⟩ := stripFrom_after {} source start
  have parts : source.drop start = (quote :: body ++ [quote]) ++ source.drop stop := by
    have joined := List.take_append_drop (stop - start) (source.drop start)
    rw [written, List.drop_drop, Nat.add_sub_cancel' (Nat.le_of_lt literal.nonempty)] at joined
    exact joined.symm
  have quoted : Quoted (source.drop stop) (quote :: body ++ [quote]) := .closed known inner
  obtain ⟨next, copied⟩ := quoted.stripFrom outside
  refine ⟨front, stripFrom next (source.drop stop), ?_⟩
  rw [stripSigils, read, parts, copied, ← List.append_assoc]

end Source
end CallPlan
