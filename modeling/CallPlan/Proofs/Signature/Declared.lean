import CallPlan.Proofs.Signature.Margins

/-!
Which texts declare an invocant: the declarations, and no others. What declares none does not come to
declare one by the blanks around it, and a list of parameters never does when it is rendered.
-/

namespace CallPlan

namespace Invocant

variable {text name rest before after : Text}

theorem split_eq_some_iff : split text = (some name, rest) ↔ prefixed? text = some (name, rest) := by
  unfold split
  split
  · next found => simp [found]
  · next none => simp [none]

theorem split_of_none (none : prefixed? text = .none) : split text = (.none, text) := by
  rw [split, none]

theorem prefixed?_padded (ahead : ∀ g ∈ before, g.isAsciiBlank = true)
    (behind : ∀ g ∈ after, g.isAsciiBlank = true) (none : prefixed? text = .none) :
    prefixed? (before ++ text ++ after) = .none := by
  rw [prefixed?_append_blank fun g member => isAsciiBlank_blank (behind g member),
    prefixed?_ascii_append ahead, none]
  rfl

theorem inSight_of_firm (starts : text.StartsFirm) : InSight text := by
  intro _ g member
  cases text with
  | nil => cases member
  | cons first rest =>
      rw [List.takeWhile_cons_of_neg (by simp [starts first rfl])] at member
      cases member

/-- A text without a prefix has none when it is trimmed, unless its margin hides it. -/
theorem InSight.prefixed?_trim (sight : InSight text) (none : prefixed? text = .none) :
    prefixed? text.trim = .none := by
  obtain ⟨after, whole, behind⟩ := text.trim_margins
  cases found : prefixed? text.trim with
  | none => rfl
  | some declared =>
      have seen := prefixed?_ascii_append (sight (by rw [found]; rfl)) (text.trim ++ after)
      rw [← List.append_assoc, ← whole, none, prefixed?_append_blank behind, found] at seen
      cases seen

end Invocant

namespace Signature

variable {text before after : Text} {options : AssemblyOptions} {s : Signature}

theorem parse_padded (ahead : ∀ g ∈ before, g.isAsciiBlank = true)
    (behind : ∀ g ∈ after, g.isAsciiBlank = true) (parsed : parse text options = .ok s)
    (none : Invocant.prefixed? text = .none) : parse (before ++ text ++ after) options = .ok s := by
  have trimmed : (before ++ text ++ after).trim = text.trim := by
    rw [Text.trim_append_blank _ fun g member => Invocant.isAsciiBlank_blank (behind g member),
      Text.trim_blank_append fun g member => Invocant.isAsciiBlank_blank (ahead g member)]
  obtain ⟨parsed, sight⟩ := parse_trim_iff.mp parsed
  refine parse_trim_iff.mpr ⟨trimmed.symm ▸ parsed, fun seen => ?_⟩
  rw [trimmed, sight.prefixed?_trim none] at seen
  cases seen

theorem render_firm (p : Param) : p.render.StartsFirm ∧ p.render ≠ [] := by
  cases binds : p.passthrough with
  | true =>
      rw [Param.render, if_pos binds]
      exact ⟨passthroughName_cuttable.starts, passthroughName_cuttable.nonempty⟩
  | false => exact ⟨Param.render_starts binds, Param.render_ne_nil binds⟩

theorem clauses_starts (s : Signature) : (Text.join ", " s.clauses).StartsFirm := by
  have each : ∀ clause ∈ s.clauses, clause.StartsFirm ∧ clause ≠ [] := by
    intro clause member
    rcases List.mem_append.mp member with raw | rendered
    · split at raw
      · rw [List.mem_singleton.mp raw]
        exact ⟨passthroughName_cuttable.starts, passthroughName_cuttable.nonempty⟩
      · cases raw
    · obtain ⟨p, -, rfl⟩ := List.mem_map.mp rendered
      exact render_firm p
  cases listed : s.clauses with
  | nil => rintro g ⟨⟩
  | cons first rest =>
      obtain ⟨starts, nonempty⟩ := each first (listed ▸ List.mem_cons_self)
      rw [Text.join_cons]
      exact starts.append nonempty _

/-- Trimming a rendered list takes nothing off its first clause. -/
theorem prefixed?_list (undeclared : s.invocant = none)
    (names : ∀ p ∈ s.params, p.name.isIdentifier = true) : Invocant.prefixed? s.render = none := by
  have rendered : s.render = (Text.join ", " s.clauses).trim := by
    simp only [render, undeclared, clauses]
  rw [rendered]
  exact (Invocant.inSight_of_firm s.clauses_starts).prefixed?_trim (prefixed?_clauses names)

end Signature

namespace Invocant

/-- What splitting a text gives: the invocant that it declares, or the text as it is. -/
structure Splits (text : Text) : Prop where
  declared : ∀ name rest, split text = (some name, rest) ↔
    ∃ d : Declaration, d.text = text ∧ d.name = name ∧ d.rest = rest
  unique : ∀ d e : Declaration, d.text = text → e.text = text → d = e
  undeclared : (∀ d : Declaration, d.text ≠ text) → split text = (none, text)
  /-- A text that is read as a list of parameters stays one between ASCII blanks. -/
  padded : ∀ options s, Signature.parse text options = .ok s → (∀ d : Declaration, d.text ≠ text) →
    ∀ before after : Text, (∀ g ∈ before, g.isAsciiBlank = true) →
      (∀ g ∈ after, g.isAsciiBlank = true) →
      split (before ++ text ++ after) = (none, before ++ text ++ after) ∧
        Signature.parse (before ++ text ++ after) options = .ok s
  rendered : ∀ options s, Signature.parse text options = .ok s → s.invocant = none →
    split s.render = (none, s.render)

/-- A text is split exactly where it declares an invocant, which it does in one way at most. A text that
declares none reads the same between ASCII blanks, and a rendered list of parameters declares none. -/
theorem split_takes_declarations :
    (∀ text, Splits text) ∧
    ∀ s : Signature, s.invocant = none → (∀ p ∈ s.params, p.name.isIdentifier = true) →
      split s.render = (none, s.render) := by
  have listed : ∀ s : Signature, s.invocant = none → (∀ p ∈ s.params, p.name.isIdentifier = true) →
      split s.render = (none, s.render) := fun s undeclared names =>
    split_of_none (Signature.prefixed?_list undeclared names)
  refine ⟨fun text => ?_, listed⟩
  constructor
  case declared =>
    intro name rest
    rw [split_eq_some_iff, prefixed?_eq_some_iff]
  case unique => exact fun d e first second => Declaration.text_injective (first.trans second.symm)
  case undeclared => exact fun none => split_of_none (prefixed?_eq_none_iff.mpr none)
  case padded =>
    intro options s parsed none before after ahead behind
    have none := prefixed?_eq_none_iff.mpr none
    exact ⟨split_of_none (prefixed?_padded ahead behind none),
      Signature.parse_padded ahead behind parsed none⟩
  case rendered =>
    exact fun options s parsed undeclared =>
      listed s undeclared (Signature.parse_legible parsed).names

/-- Colons of a named parameter and of a default. -/
def colonSample : Signature where
  text := "$a, :$b = '::'"
  positional := [{ name := "a", index := some 0 }]
  named := [{ name := "b", role := .named, optional := true, defaultSource := some "'::'" }]

theorem split_takes_declarations_colons :
    (∃! d : Declaration, d.text = "\t$größe² \n:") ∧
      Signature.parse "$a, :$b = '::'" {} = .ok colonSample ∧
      split "\t$a, :$b = '::'\n" = (none, Text.ofString "\t$a, :$b = '::'\n") ∧
      Signature.parse "\t$a, :$b = '::'\n" {} = .ok colonSample ∧
      split colonSample.render = (none, colonSample.render) ∧
      split (Signature.render { named := [{ name := "y", role := .named }] }) = (none, Text.ofString ":$y") := by
  have declared : split "\t$größe² \n:" = (some (Text.ofString "größe²"), []) := by decide +kernel
  have parsed : Signature.parse "$a, :$b = '::'" {} = .ok colonSample := by decide
  have none : ∀ d : Declaration, d.text ≠ "$a, :$b = '::'" :=
    prefixed?_eq_none_iff.mp (by decide +kernel)
  obtain ⟨splits, listed⟩ := split_takes_declarations
  obtain ⟨d, written, -⟩ := ((splits "\t$größe² \n:").declared _ _).mp declared
  have plain := splits "$a, :$b = '::'"
  obtain ⟨alone, same⟩ := plain.padded {} colonSample parsed none [.char '\t'] [.char '\n'] (by decide)
    (by decide)
  exact ⟨⟨d, written, fun e also => (splits _).unique e d also written⟩, parsed, alone, same,
    plain.rendered {} colonSample parsed rfl,
    listed { named := [{ name := "y", role := .named }] } rfl (by decide)⟩

end Invocant
end CallPlan
