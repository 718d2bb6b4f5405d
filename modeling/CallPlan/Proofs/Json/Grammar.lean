import CallPlan.Json.Value

/-!
The grammar of JSON, said without a reader: the text of a document is put together from the texts of its
parts. Beside it stands what a document means as a host value. A text that has stray bytes in a string
still writes a document, in which they are replacement characters, and so does half of a surrogate pair.
-/

namespace CallPlan.Json

/-! ## Strings -/

/-- The escapes of one character, by the name behind the backslash. -/
def escapes : List (Char × Char) :=
  [('"', '"'), ('\\', '\\'), ('/', '/'), ('b', '\x08'), ('f', '\x0c'), ('n', '\n'), ('r', '\r'),
    ('t', '\t')]

def HexDigit (c : Char) (value : Nat) : Prop :=
  "0123456789abcdef".toList[value]? = some c ∨ "0123456789ABCDEF".toList[value]? = some c

/-- What stands between the quotes of a string, and its pieces. -/
inductive Inside : Text → List Piece → Prop where
  | nil : Inside [] []
  | plain {g : Glyph} {t : Text} {pieces : List Piece} (graphic : 0x20 ≤ g.scalar.toNat)
      (unquoted : g ≠ .char '"') (bare : g ≠ .char '\\') (rest : Inside t pieces) :
      Inside (g :: t) (.glyph (.char g.scalar) :: pieces)
  | escape {name c : Char} {t : Text} {pieces : List Piece} (listed : (name, c) ∈ escapes)
      (rest : Inside t pieces) :
      Inside (.char '\\' :: .char name :: t) (.glyph (.char c) :: pieces)
  | unit {a b c d : Char} {i j k l : Nat} {t : Text} {pieces : List Piece} (first : HexDigit a i)
      (second : HexDigit b j) (third : HexDigit c k) (fourth : HexDigit d l) (rest : Inside t pieces) :
      Inside (.char '\\' :: .char 'u' :: .char a :: .char b :: .char c :: .char d :: t)
        (.unit (((i * 16 + j) * 16 + k) * 16 + l) :: pieces)

/-- Two code units that are one character. -/
def PairUp (n : Nat) : List Piece → Prop
  | .unit low :: _ => isHighSurrogate n = true ∧ isLowSurrogate low = true
  | _ => False

/-- The text of pieces, by the code units that its characters take. -/
inductive Joined : List Piece → Text → Prop where
  | nil : Joined [] []
  | glyph {g : Glyph} {pieces : List Piece} {t : Text} (rest : Joined pieces t) :
      Joined (.glyph g :: pieces) (g :: t)
  | single {c : Char} {pieces : List Piece} {t : Text} (rest : Joined pieces t) :
      Joined (.unit c.toNat :: pieces) (.char c :: t)
  | pair {c : Char} {pieces : List Piece} {t : Text} (astral : 0x10000 ≤ c.toNat)
      (rest : Joined pieces t) :
      Joined (.unit (0xD800 + (c.toNat - 0x10000) / 0x400) ::
        .unit (0xDC00 + (c.toNat - 0x10000) % 0x400) :: pieces) (.char c :: t)
  | half {n : Nat} {pieces : List Piece} {t : Text} (low : 0xD800 ≤ n) (high : n < 0xE000)
      (alone : ¬ PairUp n pieces) (rest : Joined pieces t) :
      Joined (.unit n :: pieces) (.char '\uFFFD' :: t)

/-! ## Numbers -/

structure Exponent where
  mark : Glyph
  sign : Text
  digits : Text
  marked : mark = .char 'e' ∨ mark = .char 'E'
  signed : sign = [] ∨ sign = [.char '+'] ∨ sign = [.char '-']
  nonempty : digits ≠ []
  decimal : ∀ g ∈ digits, g.isAsciiDigit = true

namespace Exponent

def literal (e : Exponent) : Text := e.mark :: e.sign ++ e.digits

def value (e : Exponent) : Int :=
  if e.sign = [.char '-'] then -Text.digitsValue e.digits else Text.digitsValue e.digits

end Exponent

/-- The parts of a number. There is a point only where digits follow it. -/
structure Numeral where
  negative : Bool
  whole : Text
  fraction : Text
  exponent : Option Exponent
  nonempty : whole ≠ []
  decimal : ∀ g ∈ whole, g.isAsciiDigit = true
  lead : whole.head? = some (.char '0') → whole = [.char '0']
  broken : ∀ g ∈ fraction, g.isAsciiDigit = true

namespace Numeral

def sign (n : Numeral) : Text := if n.negative then [.char '-'] else []

def point (n : Numeral) : Text := if n.fraction = [] then [] else .char '.' :: n.fraction

def power (n : Numeral) : Text := (n.exponent.map Exponent.literal).getD []

def literal (n : Numeral) : Text := n.sign ++ n.whole ++ n.point ++ n.power

/-- A numeral with neither point nor exponent. -/
def IsInteger (n : Numeral) : Prop := n.fraction = [] ∧ n.exponent = none

def integer (n : Numeral) : Int :=
  if n.negative then -Text.digitsValue n.whole else Text.digitsValue n.whole

/-- A numeral that a signed integer of sixty-four bits holds. -/
def Fits (n : Numeral) : Prop :=
  n.IsInteger ∧ -0x8000000000000000 ≤ n.integer ∧ n.integer < 0x8000000000000000

def decimalValue (n : Numeral) : Decimal where
  negative := n.negative
  significand := Text.digitsValue (n.whole ++ n.fraction)
  exponent := ((n.exponent.map Exponent.value).getD 0) - n.fraction.length

end Numeral

/-! ## Documents -/

def Blank (t : Text) : Prop := ∀ g ∈ t, isSpace g = true

mutual

/-- A text without blanks around it that writes a document. -/
inductive Written : Text → Json → Prop where
  | null : Written "null" .null
  | yes : Written "true" (.bool true)
  | no : Written "false" (.bool false)
  | number (n : Numeral) : Written n.literal (.number n.literal)
  | text {t s : Text} {pieces : List Piece} (inside : Inside t pieces) (joined : Joined pieces s) :
      Written (.char '"' :: t ++ [.char '"']) (.text s)
  | emptyList {t : Text} (blank : Blank t) : Written (.char '[' :: t ++ [.char ']']) (.list [])
  | list {t : Text} {items : List Json} (written : Items t items) :
      Written (.char '[' :: t ++ [.char ']']) (.list items)
  | emptyObject {t : Text} (blank : Blank t) :
      Written (.char '\x7b' :: t ++ [.char '\x7d']) (.object [])
  | object {t : Text} {members : List (Text × Json)} (written : Members t members) :
      Written (.char '\x7b' :: t ++ [.char '\x7d']) (.object members)

/-- A text that writes a document, with blanks around it. -/
inductive Padded : Text → Json → Prop where
  | around {before t after : Text} {value : Json} (front : Blank before) (written : Written t value)
      (back : Blank after) : Padded (before ++ t ++ after) value

/-- Documents with commas between them. -/
inductive Items : Text → List Json → Prop where
  | last {t : Text} {item : Json} (padded : Padded t item) : Items t [item]
  | more {t rest : Text} {item : Json} {items : List Json} (padded : Padded t item)
      (others : Items rest items) : Items (t ++ .char ',' :: rest) (item :: items)

/-- A document behind its key. -/
inductive Member : Text → Text × Json → Prop where
  | keyed {before body after t key : Text} {pieces : List Piece} {value : Json}
      (front : Blank before) (inside : Inside body pieces) (joined : Joined pieces key)
      (back : Blank after) (padded : Padded t value) :
      Member (before ++ .char '"' :: body ++ .char '"' :: after ++ .char ':' :: t) (key, value)

/-- Documents behind their keys, with commas between them. -/
inductive Members : Text → List (Text × Json) → Prop where
  | last {t : Text} {member : Text × Json} (written : Member t member) : Members t [member]
  | more {t rest : Text} {member : Text × Json} {members : List (Text × Json)}
      (written : Member t member) (others : Members rest members) :
      Members (t ++ .char ',' :: rest) (member :: members)

end

theorem blank_nil : Blank [] := by simp [Blank]

theorem Written.padded {t : Text} {v : Json} (written : Written t v) : Padded t v := by
  have around := Padded.around blank_nil written blank_nil
  rwa [List.nil_append, List.append_nil] at around

mutual

/-- How deep lists and objects are nested in a document. -/
def height : Json → Nat
  | .list items => heightItems items + 1
  | .object members => heightMembers members + 1
  | _ => 0

def heightItems : List Json → Nat
  | [] => 0
  | item :: rest => max item.height (heightItems rest)

def heightMembers : List (Text × Json) → Nat
  | [] => 0
  | (_, value) :: rest => max value.height (heightMembers rest)

end

/-! ## Meaning -/

/-- The host values of a document. A map has no order, and of equal keys the last one counts. -/
inductive Means : Json → Datum → Prop where
  | null : Means .null .null
  | bool (b : Bool) : Means (.bool b) (.bool b)
  | integer {n : Numeral} (fits : n.Fits) : Means (.number n.literal) (.int64 n.integer)
  | double {n : Numeral} {bits : UInt64} (beyond : ¬ n.Fits)
      (held : n.decimalValue.toDouble? = some bits) :
      Means (.number n.literal) (.float .double bits)
  | literal {n : Numeral} (beyond : ¬ n.Fits) (refused : n.decimalValue.toDouble? = none) :
      Means (.number n.literal) (.text n.literal)
  | text (t : Text) : Means (.text t) (.text t)
  | list {items : List Json} {values : List Datum} (length : items.length = values.length)
      (each : ∀ entry ∈ items.zip values, Means entry.1 entry.2) :
      Means (.list items) (.anyList values)
  | object {members : List (Text × Json)} {entries : Entries Datum} (distinct : entries.keys.Nodup)
      (keys : ∀ key, entries.has key = true ↔ key ∈ members.map (·.1))
      (each : ∀ key value datum, members.reverse.lookup key = some value →
        entries.get? key = some datum → Means value datum) :
      Means (.object members) (.anyDict entries)

end CallPlan.Json
