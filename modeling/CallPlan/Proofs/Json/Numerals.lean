import CallPlan.Proofs.Json.Grammar
import Mathlib.Data.List.TakeWhile

/-!
Numbers are read as the grammar has them, and as far as they go: a number is given back whole when what
follows it cannot be a part of it. The value of a literal is that of its parts.
-/

namespace CallPlan

namespace Text

variable {run rest : Text}

def DigitsEnd (rest : Text) : Prop := ∀ g ∈ rest.head?, g.isAsciiDigit = false

theorem takeDigits_append (decimal : ∀ g ∈ run, g.isAsciiDigit = true) (ends : DigitsEnd rest) :
    takeDigits (run ++ rest) = (run, rest) := by
  have stop : rest.takeWhile Glyph.isAsciiDigit = [] ∧ rest.dropWhile Glyph.isAsciiDigit = rest := by
    cases rest with
    | nil => exact ⟨rfl, rfl⟩
    | cons g rest => simp [ends g rfl]
  rw [takeDigits, List.takeWhile_append_of_pos decimal, List.dropWhile_append_of_pos decimal, stop.1,
    stop.2, List.append_nil]

theorem takeDigits_eq (t : Text) : (takeDigits t).1 ++ (takeDigits t).2 = t ∧
    ∀ g ∈ (takeDigits t).1, g.isAsciiDigit = true :=
  ⟨List.takeWhile_append_dropWhile, fun _ member => List.mem_takeWhile_imp member⟩

end Text

namespace Json

open Text (DigitsEnd)

variable {n : Numeral} {t rest literal : Text}

/-- What cannot go on with a number. -/
def Apart (rest : Text) : Prop :=
  DigitsEnd rest ∧ ∀ g ∈ rest.head?, g ≠ .char '.' ∧ g ≠ .char 'e' ∧ g ≠ .char 'E'

/-! ## Reading a numeral -/

theorem digit_ne {g : Glyph} (digit : g.isAsciiDigit = true) {c : Char} (other : c.isDigit = false) :
    g ≠ .char c := by
  rintro rfl
  simp [Glyph.isAsciiDigit, Glyph.digit?, other] at digit

theorem minus_append (n : Numeral) (rest : Text) :
    minus (n.sign ++ (n.whole ++ rest)) = (n.sign, n.whole ++ rest) := by
  unfold Numeral.sign
  cases n.negative with
  | true => rfl
  | false =>
      obtain ⟨first, others, whole⟩ := List.exists_cons_of_ne_nil n.nonempty
      have other : first ≠ .char '-' := digit_ne (n.decimal first (by simp [whole])) (by decide)
      simp [whole, minus, other]

theorem whole?_append (n : Numeral) (ends : DigitsEnd rest) :
    whole? (n.whole ++ rest) = some (n.whole, rest) := by
  obtain ⟨first, others, whole⟩ := List.exists_cons_of_ne_nil n.nonempty
  by_cases zero : first = .char '0'
  · have lone : n.whole = [.char '0'] := n.lead (by rw [whole, zero]; rfl)
    rw [lone]
    rfl
  · have taken := Text.takeDigits_append n.decimal ends
    rw [whole, List.cons_append] at taken ⊢
    unfold whole?
    split
    · next equal => cases equal; exact absurd rfl zero
    · rw [taken]

theorem fraction?_append (n : Numeral) (ends : DigitsEnd rest)
    (unpointed : ∀ g ∈ rest.head?, g ≠ .char '.') :
    fraction? (n.point ++ rest) = some (n.point, rest) := by
  unfold Numeral.point
  cases digits : n.fraction with
  | nil =>
      cases rest with
      | nil => rfl
      | cons g rest => simp [fraction?, unpointed g rfl]
  | cons first others =>
      have taken := Text.takeDigits_append n.broken ends
      rw [digits, List.cons_append] at taken
      simp [fraction?, taken]

theorem signed_append (e : Exponent) (rest : Text) :
    signed (e.sign ++ (e.digits ++ rest)) = (e.sign, e.digits ++ rest) := by
  obtain ⟨first, others, digits⟩ := List.exists_cons_of_ne_nil e.nonempty
  have digit := e.decimal first (by simp [digits])
  have plus : first ≠ .char '+' := digit_ne digit (by decide)
  have minus : first ≠ .char '-' := digit_ne digit (by decide)
  rcases e.signed with none | some | some
  · simp [none, digits, signed, plus, minus]
  · simp [some, signed]
  · simp [some, signed]

theorem exponent?_append (n : Numeral) (apart : Apart rest) :
    exponent? (n.power ++ rest) = some (n.power, rest) := by
  unfold Numeral.power
  cases n.exponent with
  | none =>
      cases rest with
      | nil => rfl
      | cons g rest =>
          obtain ⟨-, small, capital⟩ := apart.2 g rfl
          simp [exponent?, small, capital]
  | some e =>
      obtain ⟨first, others, digits⟩ := List.exists_cons_of_ne_nil e.nonempty
      have taken := Text.takeDigits_append e.decimal apart.1
      have signed := signed_append e rest
      rw [digits, List.cons_append] at taken signed
      simp [Exponent.literal, exponent?, e.marked, digits, taken, signed]

theorem power_head (n : Numeral) (apart : Apart rest) :
    ∀ g ∈ (n.power ++ rest).head?, g.isAsciiDigit = false ∧ g ≠ .char '.' := by
  unfold Numeral.power
  intro g head
  cases exponent : n.exponent with
  | none =>
      rw [exponent] at head
      exact ⟨apart.1 g head, (apart.2 g head).1⟩
  | some e =>
      rw [exponent] at head
      have mark : e.mark = g := Option.some.inj head
      rcases e.marked with small | capital
      · rw [← mark, small]
        decide
      · rw [← mark, capital]
        decide

theorem point_head (n : Numeral) (apart : Apart rest) : DigitsEnd (n.point ++ (n.power ++ rest)) := by
  unfold Numeral.point
  split
  · exact fun g head => (power_head n apart g head).1
  · rintro g ⟨rfl⟩
    decide

/-- A numeral is read whole when what follows it is not a part of it. -/
theorem number?_append (n : Numeral) (apart : Apart rest) :
    number? (n.literal ++ rest) = some (n.literal, rest) := by
  have power := power_head n apart
  simp only [number?, Numeral.literal, List.append_assoc, minus_append,
    whole?_append n (point_head n apart),
    fraction?_append n (fun g head => (power g head).1) fun g head => (power g head).2,
    exponent?_append n apart, Option.bind_eq_bind, Option.bind_some, pure]

/-! ## What was read is a numeral -/

theorem minus_eq (t : Text) : ∃ negative : Bool, (minus t).1 = (if negative then [.char '-'] else []) ∧
    t = (minus t).1 ++ (minus t).2 := by
  unfold minus
  split
  · exact ⟨true, rfl, rfl⟩
  · exact ⟨false, rfl, rfl⟩

theorem whole?_eq {whole : Text} (read : whole? t = some (whole, rest)) :
    t = whole ++ rest ∧ whole ≠ [] ∧ (∀ g ∈ whole, g.isAsciiDigit = true) ∧
      (whole.head? = some (.char '0') → whole = [.char '0']) := by
  unfold whole? at read
  split at read
  · cases read
    exact ⟨rfl, by simp, by decide, fun _ => rfl⟩
  · next other =>
    obtain ⟨joined, decimal⟩ := Text.takeDigits_eq t
    split at read
    · cases read
    · next nonempty taken =>
      cases read
      rw [taken] at joined decimal
      refine ⟨joined.symm, nonempty, decimal, fun zero => ?_⟩
      obtain ⟨others, rfl⟩ := List.head?_eq_some_iff.mp zero
      exact absurd joined.symm (other _)

theorem fraction?_eq {point : Text} (read : fraction? t = some (point, rest)) :
    ∃ fraction : Text, point = (if fraction = [] then [] else .char '.' :: fraction) ∧
      (∀ g ∈ fraction, g.isAsciiDigit = true) ∧ t = point ++ rest := by
  unfold fraction? at read
  split at read
  · next after =>
    obtain ⟨joined, decimal⟩ := Text.takeDigits_eq after
    split at read
    · cases read
    · next digits tail nonempty taken =>
      cases read
      rw [taken] at joined decimal
      exact ⟨digits, by rw [if_neg nonempty], decimal, by rw [← joined, List.cons_append]⟩
  · cases read
    exact ⟨[], rfl, by simp, rfl⟩

theorem signed_eq (t : Text) : t = (signed t).1 ++ (signed t).2 ∧
    ((signed t).1 = [] ∨ (signed t).1 = [.char '+'] ∨ (signed t).1 = [.char '-']) := by
  unfold signed
  split <;> simp

theorem exponent?_eq {power : Text} (read : exponent? t = some (power, rest)) :
    ∃ e : Option Exponent, power = (e.map Exponent.literal).getD [] ∧ t = power ++ rest := by
  unfold exponent? at read
  split at read
  · next g after =>
    split at read
    · next marked =>
      obtain ⟨split, sign⟩ := signed_eq after
      obtain ⟨joined, decimal⟩ := Text.takeDigits_eq (signed after).2
      generalize signed after = parts at *
      obtain ⟨mark, numeral⟩ := parts
      dsimp only at *
      split at read
      · cases read
      · next digits tail nonempty taken =>
        cases read
        rw [taken] at joined decimal
        let e : Exponent := ⟨g, mark, digits, by simpa using marked, sign, nonempty, decimal⟩
        exact ⟨some e, rfl, by rw [split, ← joined]; simp⟩
    · cases read
      exact ⟨none, rfl, rfl⟩
  · cases read
    exact ⟨none, rfl, rfl⟩

theorem number?_eq (read : number? t = some (literal, rest)) :
    ∃ n : Numeral, literal = n.literal ∧ t = literal ++ rest := by
  simp only [number?, Option.bind_eq_bind, Option.bind_eq_some_iff, Prod.exists, pure] at read
  obtain ⟨whole, afterWhole, wholeRead, point, afterPoint, pointRead, power, after, powerRead, same⟩ := read
  cases same
  obtain ⟨negative, sign, start⟩ := minus_eq t
  obtain ⟨wholeSplit, nonempty, decimal, lead⟩ := whole?_eq wholeRead
  obtain ⟨fraction, rfl, broken, pointSplit⟩ := fraction?_eq pointRead
  obtain ⟨exponent, rfl, powerSplit⟩ := exponent?_eq powerRead
  refine ⟨⟨negative, whole, fraction, exponent, nonempty, decimal, lead, broken⟩, ?_, ?_⟩
  · rw [sign]
    rfl
  · calc t = (minus t).1 ++ (minus t).2 := start
      _ = _ := by rw [wholeSplit, pointSplit, powerSplit]; simp only [List.append_assoc]

/-! ## The value of a literal -/

theorem apart_nil : Apart [] := ⟨nofun, nofun⟩

theorem minus_literal (n : Numeral) : minus n.literal = (n.sign, n.whole ++ (n.point ++ n.power)) := by
  rw [Numeral.literal, List.append_assoc, List.append_assoc]
  exact minus_append n _

theorem sign_isEmpty (n : Numeral) : n.sign.isEmpty = !n.negative := by
  unfold Numeral.sign
  cases n.negative <;> rfl

theorem integerLiteral?_integer (whole : n.IsInteger) :
    Datum.integerLiteral? n.literal = some n.integer := by
  have point : n.point = [] := if_pos whole.1
  have power : n.power = [] := by rw [Numeral.power, whole.2]; rfl
  have digits : n.whole.all Glyph.isAsciiDigit = true := List.all_eq_true.mpr n.decimal
  simp only [Datum.integerLiteral?, minus_literal, point, power, List.append_nil, digits, Bool.and_true,
    sign_isEmpty, Numeral.integer]
  cases n.negative <;> simp [n.nonempty]

theorem integerLiteral?_other (broken : ¬ n.IsInteger) : Datum.integerLiteral? n.literal = none := by
  have mixed : (n.whole ++ (n.point ++ n.power)).all Glyph.isAsciiDigit = false := by
    by_cases fraction : n.fraction = []
    · cases exponent : n.exponent with
      | none => exact absurd ⟨fraction, exponent⟩ broken
      | some e =>
          have mark : e.mark.isAsciiDigit = false := by
            rcases e.marked with small | capital
            · rw [small]; decide
            · rw [capital]; decide
          simp [Numeral.power, exponent, Exponent.literal, mark]
    · have point : Glyph.isAsciiDigit (.char '.') = false := by decide
      simp [Numeral.point, fraction, point]
  simp only [Datum.integerLiteral?, minus_literal, mixed, Bool.and_false, Bool.false_eq_true, if_false]

theorem decimalOf_parts (n : Numeral) :
    Datum.decimalOf n.negative (n.whole ++ (n.point ++ n.power)) = n.decimalValue := by
  have wholeEnd : DigitsEnd (n.point ++ n.power) := by simpa using point_head n apart_nil
  have fractionEnd : DigitsEnd n.power := by
    simpa [DigitsEnd] using fun g head => (power_head n apart_nil g head).1
  have fractionRead := Text.takeDigits_append n.broken fractionEnd
  rw [Datum.decimalOf, Text.takeDigits_append n.decimal wholeEnd, Numeral.decimalValue, Numeral.point]
  cases exponent : n.exponent with
  | none =>
      have power : n.power = [] := by rw [Numeral.power, exponent]; rfl
      rw [power] at fractionRead ⊢
      cases fraction : n.fraction with
      | nil => simp
      | cons first others =>
          rw [fraction, List.append_nil] at fractionRead
          simp [fractionRead]
  | some e =>
      have power : n.power = e.mark :: (e.sign ++ e.digits) := by rw [Numeral.power, exponent]; rfl
      have signRead := signed_append e []
      rw [List.append_nil] at signRead
      rw [power] at fractionRead ⊢
      cases fraction : n.fraction with
      | nil =>
          have mark : e.mark ≠ .char '.' := by
            rcases e.marked with small | capital
            · rw [small]; decide
            · rw [capital]; decide
          simp [Exponent.value, mark, signRead]
      | cons first others =>
          rw [fraction, List.cons_append] at fractionRead
          simp [fractionRead, Exponent.value, signRead]

theorem fits_iff : n.Fits ↔ n.IsInteger ∧ Datum.int64Range n.integer = true := by
  simp only [Numeral.Fits, Datum.int64Range, Bool.and_eq_true, decide_eq_true_eq]

theorem ofLiteral_fits (fits : n.Fits) : Datum.ofLiteral n.literal = .int64 n.integer := by
  obtain ⟨whole, held⟩ := fits_iff.mp fits
  simp only [Datum.ofLiteral, integerLiteral?_integer whole, if_pos held]

theorem ofLiteral_beyond (beyond : ¬ n.Fits) : Datum.ofLiteral n.literal =
    (n.decimalValue.toDouble?.map (.float .double)).getD (.text n.literal) := by
  have sign : (!n.sign.isEmpty) = n.negative := by rw [sign_isEmpty, Bool.not_not]
  have outside : n.IsInteger → ¬ Datum.int64Range n.integer = true :=
    fun whole held => beyond (fits_iff.mpr ⟨whole, held⟩)
  by_cases whole : n.IsInteger
  · simp only [Datum.ofLiteral, minus_literal, sign, decimalOf_parts, integerLiteral?_integer whole,
      if_neg (outside whole)]
    cases n.decimalValue.toDouble? <;> rfl
  · simp only [Datum.ofLiteral, minus_literal, sign, decimalOf_parts, integerLiteral?_other whole]
    cases n.decimalValue.toDouble? <;> rfl

/-- A literal is read as the number that its parts write. -/
theorem ofLiteral_means (n : Numeral) : Means (.number n.literal) (Datum.ofLiteral n.literal) := by
  by_cases fits : n.Fits
  · rw [ofLiteral_fits fits]
    exact .integer fits
  · rw [ofLiteral_beyond fits]
    cases value : n.decimalValue.toDouble? with
    | some bits => exact .double fits value
    | none => exact .literal fits value

end Json
end CallPlan
