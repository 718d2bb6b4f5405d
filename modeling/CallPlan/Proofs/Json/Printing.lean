import CallPlan.Proofs.Json.Grammar
import CallPlan.Proofs.Text.Utf8
import Mathlib.Data.List.Basic

/-!
Compact documents. What a document is rendered as is a text of the grammar that writes the document, where
its strings have no stray bytes in them and its numbers are numerals.
-/

namespace CallPlan.Json

/-- A document whose parts are as the grammar has them. -/
inductive Sound : Json → Prop where
  | null : Sound .null
  | bool (b : Bool) : Sound (.bool b)
  | number (n : Numeral) : Sound (.number n.literal)
  | text {t : Text} (unicode : t.isUnicode = true) : Sound (.text t)
  | list {items : List Json} (each : ∀ item ∈ items, Sound item) : Sound (.list items)
  | object {members : List (Text × Json)} (keys : ∀ member ∈ members, member.1.isUnicode = true)
      (each : ∀ member ∈ members, Sound member.2) : Sound (.object members)

variable {style : Style} {t : Text} {items : List Json} {members : List (Text × Json)}

/-! ## Strings -/

theorem hexDigit_digit {value : Nat} (small : value < 16) : HexDigit (Text.hexDigit value) value := by
  have all : ∀ value < 16, "0123456789abcdef".toList[value]? = some (Text.hexDigit value) := by decide
  exact .inl (all value small)

theorem unicodeEscape_inside {n : Nat} {pieces : List Piece} (small : n < 0x10000)
    (rest : Inside t pieces) : Inside (unicodeEscape n ++ t) (.unit n :: pieces) := by
  have digit (m : Nat) : HexDigit (Text.hexDigit (m % 16)) (m % 16) :=
    hexDigit_digit (Nat.mod_lt _ (by decide))
  have value : (((n / 16 / 16 / 16 % 16) * 16 + n / 16 / 16 % 16) * 16 + n / 16 % 16) * 16 + n % 16 = n := by
    omega
  have written := Inside.unit (digit (n / 16 / 16 / 16)) (digit (n / 16 / 16)) (digit (n / 16)) (digit n) rest
  rwa [value] at written

/-- A text that stands for one character between quotes. -/
def Stands (body : Text) (c : Char) : Prop := ∃ piece,
  (∀ t pieces, Inside t pieces → Inside (body ++ t) (piece :: pieces)) ∧
    ∀ pieces t, Joined pieces t → Joined (piece :: pieces) (.char c :: t)

theorem stands_escape {name c : Char} (listed : (name, c) ∈ escapes) :
    Stands [.char '\\', .char name] c :=
  ⟨.glyph (.char c), fun _ _ => .escape listed, fun _ _ => .glyph⟩

theorem stands_unit {c : Char} (small : c.toNat < 0x10000) : Stands (unicodeEscape c.toNat) c :=
  ⟨.unit c.toNat, fun _ _ => unicodeEscape_inside small, fun _ _ => .single⟩

theorem stands_plain {c : Char} (graphic : 0x20 ≤ c.toNat) (unquoted : c ≠ '"') (bare : c ≠ '\\') :
    Stands [.char c] c :=
  ⟨.glyph (.char c), fun _ _ => .plain graphic (by simpa using unquoted) (by simpa using bare),
    fun _ _ => .glyph⟩

theorem escaped_stands (style : Style) (c : Char) : Stands (escaped style (.char c)) c := by
  unfold escaped
  dsimp only
  split
  · next marked =>
    have marked : c = '"' ∨ c = '\\' := by simpa using marked
    rcases marked with rfl | rfl <;> exact stands_escape (by decide)
  next unmarked =>
  iterate 5
    split
    · next named =>
      subst named
      exact stands_escape (by decide)
  split
  · exact stands_unit (by omega)
  next graphic =>
  split
  · next separator =>
    have separator : c = '\u2028' ∨ c = '\u2029' := by simpa using separator
    rcases separator with rfl | rfl <;> exact stands_unit (by decide)
  split
  · next shown =>
    have shown : style.escapeHtml = true ∧ ((c = '<' ∨ c = '>') ∨ c = '&') := by simpa using shown
    rcases shown.2 with (rfl | rfl) | rfl <;> exact stands_unit (by decide)
  have unmarked : c ≠ '"' ∧ c ≠ '\\' := by simpa using unmarked
  exact stands_plain (by omega) unmarked.1 unmarked.2

theorem escaped_inside (style : Style) (unicode : t.isUnicode = true) :
    ∃ pieces, Inside (t.flatMap (escaped style)) pieces ∧ Joined pieces t := by
  have chars := Text.isUnicode_iff.mp unicode
  clear unicode
  induction t with
  | nil => exact ⟨[], .nil, .nil⟩
  | cons g rest ih =>
      obtain ⟨⟨c, rfl⟩, others⟩ := List.forall_mem_cons.mp chars
      obtain ⟨pieces, inside, joined⟩ := ih others
      obtain ⟨piece, inner, joins⟩ := escaped_stands style c
      exact ⟨piece :: pieces, inner _ _ inside, joins _ _ joined⟩

/-! ## Numbers -/

theorem ofNat_digits (n : Nat) : Text.ofNat n = (Nat.toDigits 10 n).map .char := by
  rw [Text.ofNat, Text.ofString, Nat.repr, String.toList_ofList]

theorem ofNat_ne_nil (n : Nat) : Text.ofNat n ≠ [] := by
  simp [ofNat_digits]

theorem ofNat_decimal (n : Nat) : ∀ g ∈ Text.ofNat n, g.isAsciiDigit = true := by
  rw [ofNat_digits]
  intro g member
  obtain ⟨c, listed, rfl⟩ := List.mem_map.mp member
  simp [Glyph.isAsciiDigit, Glyph.digit?, Nat.isDigit_of_mem_toDigits (by decide) (by decide) listed]

theorem digitsValue_ofNat (n : Nat) : (Text.ofNat n).digitsValue = n := by
  have digits : ∀ c ∈ Nat.toDigits 10 n, c.isDigit = true := fun c =>
    Nat.isDigit_of_mem_toDigits (by decide) (by decide)
  have value := Nat.ofDigitChars_toDigits (b := 10) (n := n) (by decide) (by decide)
  rw [ofNat_digits, Text.digitsValue, List.foldl_map]
  refine Eq.trans ?_ value
  refine List.foldl_ext _ _ _ fun sofar c listed => ?_
  simp [Glyph.digit?, digits c listed, Nat.mul_comm]

/-- Only zero is written with a zero in front. -/
theorem toDigits_lead {n : Nat} (zero : (Nat.toDigits 10 n).head? = some '0') : n = 0 := by
  induction n using Nat.strongRecOn with
  | ind n ih =>
      by_cases small : n < 10
      · rw [Nat.toDigits_of_lt_base small] at zero
        exact Nat.digitChar_eq_zero.mp (Option.some.inj zero)
      · rw [Nat.toDigits_of_base_le (by decide) (by omega),
          List.head?_append_of_ne_nil _ Nat.toDigits_ne_nil] at zero
        have front := ih (n / 10) (by omega) zero
        omega

/-- The numeral of an integer. -/
def Numeral.ofInt (n : Int) : Numeral where
  negative := n < 0
  whole := Text.ofNat n.natAbs
  fraction := []
  exponent := none
  nonempty := ofNat_ne_nil _
  decimal := ofNat_decimal _
  lead := by
    intro zero
    have digit : (Nat.toDigits 10 n.natAbs).head? = some '0' := by
      rw [ofNat_digits, List.head?_map, Option.map_eq_some_iff] at zero
      obtain ⟨c, first, same⟩ := zero
      cases same
      exact first
    rw [toDigits_lead digit]
    decide
  broken := by simp

theorem Numeral.literal_ofInt (n : Int) : (Numeral.ofInt n).literal = Text.ofInt n := by
  cases n with
  | ofNat n => simp [literal, sign, point, power, ofInt, Text.ofInt, Text.ofNat, Int.repr]
  | negSucc n => simp [literal, sign, point, power, ofInt, Text.ofInt, Text.ofNat, Text.ofString, Int.repr]

theorem Numeral.integer_ofInt (n : Int) : (Numeral.ofInt n).integer = n := by
  simp only [integer, ofInt, digitsValue_ofNat, decide_eq_true_eq]
  split <;> omega

/-! ## Lists and objects -/

theorem items_written (nonempty : items ≠ []) (each : ∀ item ∈ items, Written (item.render style) item) :
    Items (renderItems style items) items := by
  induction items with
  | nil => exact (nonempty rfl).elim
  | cons item rest ih =>
      obtain ⟨first, others⟩ := List.forall_mem_cons.mp each
      cases rest with
      | nil => exact .last first.padded
      | cons next rest => exact .more first.padded (ih (by simp) others)

theorem member_written {key : Text} {v : Json} (unicode : key.isUnicode = true)
    (written : Written (v.render style) v) :
    Member (renderText style key ++ .char ':' :: v.render style) (key, v) := by
  obtain ⟨pieces, inside, joined⟩ := escaped_inside style unicode
  have keyed := Member.keyed blank_nil inside joined blank_nil written.padded
  simpa [renderText] using keyed

theorem members_written (nonempty : members ≠ []) (keys : ∀ member ∈ members, member.1.isUnicode = true)
    (each : ∀ member ∈ members, Written (member.2.render style) member.2) :
    Members (renderMembers style members) members := by
  induction members with
  | nil => exact (nonempty rfl).elim
  | cons member rest ih =>
      obtain ⟨key, keys⟩ := List.forall_mem_cons.mp keys
      obtain ⟨first, others⟩ := List.forall_mem_cons.mp each
      cases rest with
      | nil => exact .last (member_written key first)
      | cons next rest => exact .more (member_written key first) (ih (by simp) keys others)

/-- A sound document is rendered as a text that writes it. -/
theorem Sound.written {v : Json} (style : Style) (sound : v.Sound) : Written (v.render style) v := by
  induction sound with
  | null => exact .null
  | bool b => cases b with
    | true => exact .yes
    | false => exact .no
  | number n => exact .number n
  | text unicode =>
      obtain ⟨pieces, inside, joined⟩ := escaped_inside style unicode
      exact .text inside joined
  | @list items each ih =>
      cases items with
      | nil => exact .emptyList blank_nil
      | cons item rest => exact .list (items_written (by simp) ih)
  | @object members keys each ih =>
      cases members with
      | nil => exact .emptyObject blank_nil
      | cons member rest => exact .object (members_written (by simp) keys ih)

/-! ## Unicode -/

theorem hexPadded_unicode (places n : Nat) : (Text.hexPadded places n).isUnicode = true := by
  induction places generalizing n with
  | zero => rfl
  | succ places ih => exact Text.isUnicode_append.mpr ⟨ih (n / 16), rfl⟩

theorem unicodeEscape_unicode (n : Nat) : (unicodeEscape n).isUnicode = true :=
  Text.isUnicode_append.mpr ⟨by decide, hexPadded_unicode 4 n⟩

theorem escaped_unicode (style : Style) (g : Glyph) : (escaped style g).isUnicode = true := by
  cases g with
  | stray byte => exact unicodeEscape_unicode _
  | char c =>
      unfold escaped
      dsimp only
      repeat' split
      all_goals first
        | exact unicodeEscape_unicode _
        | rfl

/-- What is put between brackets or quotes. -/
theorem bracketed_unicode {opening closing : Char} (inner : t.isUnicode = true) :
    Text.isUnicode (.char opening :: t ++ [.char closing]) = true :=
  Text.isUnicode_append (s := .char opening :: t).mpr ⟨inner, rfl⟩

theorem renderText_unicode (style : Style) (t : Text) : (renderText style t).isUnicode = true := by
  refine bracketed_unicode (Text.isUnicode_iff.mpr fun g member => ?_)
  obtain ⟨source, -, inside⟩ := List.mem_flatMap.mp member
  exact Text.isUnicode_iff.mp (escaped_unicode style source) g inside

theorem decimal_unicode (decimal : ∀ g ∈ t, g.isAsciiDigit = true) : t.isUnicode = true := by
  refine Text.isUnicode_iff.mpr fun g member => ?_
  have digit := decimal g member
  cases g with
  | char c => exact ⟨c, rfl⟩
  | stray byte => cases digit

theorem Exponent.unicode (e : Exponent) : e.literal.isUnicode = true := by
  have mark : Text.isUnicode [e.mark] = true := by rcases e.marked with same | same <;> rw [same] <;> rfl
  have sign : e.sign.isUnicode = true := by rcases e.signed with same | same | same <;> rw [same] <;> rfl
  have digits := decimal_unicode e.decimal
  exact Text.isUnicode_append.mpr ⟨Text.isUnicode_append (s := [e.mark]).mpr ⟨mark, sign⟩, digits⟩

theorem Numeral.unicode (n : Numeral) : n.literal.isUnicode = true := by
  have sign : n.sign.isUnicode = true := by
    unfold Numeral.sign
    cases n.negative <;> rfl
  have point : n.point.isUnicode = true := by
    unfold Numeral.point
    split
    · rfl
    · exact Text.isUnicode_append (s := [.char '.']).mpr ⟨rfl, decimal_unicode n.broken⟩
  have power : n.power.isUnicode = true := by
    unfold Numeral.power
    cases n.exponent with
    | none => rfl
    | some e => exact e.unicode
  simp only [literal, Text.isUnicode_append]
  exact ⟨⟨⟨sign, decimal_unicode n.decimal⟩, point⟩, power⟩

theorem renderItems_unicode (each : ∀ item ∈ items, (item.render style).isUnicode = true) :
    (renderItems style items).isUnicode = true := by
  induction items with
  | nil => rfl
  | cons item rest ih =>
      obtain ⟨first, others⟩ := List.forall_mem_cons.mp each
      cases rest with
      | nil => exact first
      | cons next rest => exact Text.isUnicode_append.mpr ⟨first, ih others⟩

theorem renderMembers_unicode (each : ∀ member ∈ members, (member.2.render style).isUnicode = true) :
    (renderMembers style members).isUnicode = true := by
  induction members with
  | nil => rfl
  | cons member rest ih =>
      obtain ⟨first, others⟩ := List.forall_mem_cons.mp each
      have keyed : Text.isUnicode (renderText style member.1 ++ .char ':' :: member.2.render style) = true :=
        Text.isUnicode_append.mpr ⟨renderText_unicode style member.1, first⟩
      cases rest with
      | nil => exact keyed
      | cons next rest => exact Text.isUnicode_append.mpr ⟨keyed, ih others⟩

/-- No stray byte is rendered. -/
theorem Sound.unicode {v : Json} (style : Style) (sound : v.Sound) : (v.render style).isUnicode = true := by
  induction sound with
  | null => rfl
  | bool b => cases b <;> rfl
  | number n => exact n.unicode
  | text unicode => exact renderText_unicode style _
  | list _ ih => exact bracketed_unicode (renderItems_unicode ih)
  | object _ _ ih => exact bracketed_unicode (renderMembers_unicode ih)

end CallPlan.Json
