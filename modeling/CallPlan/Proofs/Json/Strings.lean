import CallPlan.Proofs.Json.Grammar
import CallPlan.Proofs.Text.Utf8

/-!
Strings are read as the grammar has them, up to the first quote that no backslash takes along. The text
of the pieces is the one whose characters take these code units.
-/

namespace CallPlan.Json

variable {g : Glyph} {t body rest s : Text} {pieces : List Piece} {c : Char} {n value : Nat}

/-! ## Escapes -/

theorem HexDigit.small (digit : HexDigit c value) : value < 16 := by
  rcases digit with lower | upper
  · exact (List.getElem?_eq_some_iff.mp lower).1
  · exact (List.getElem?_eq_some_iff.mp upper).1

theorem hexDigit?_char (digit : HexDigit c value) : hexDigit? (.char c) = some value := by
  have small := digit.small
  have all : ∀ value < 16, hexDigit? (.char ("0123456789abcdef".toList.getD value '?')) = some value ∧
      hexDigit? (.char ("0123456789ABCDEF".toList.getD value '?')) = some value := by decide
  rcases digit with lower | upper
  · have named : "0123456789abcdef".toList.getD value '?' = c := by
      rw [List.getD_eq_getElem?_getD, lower, Option.getD_some]
    rw [← named]
    exact (all value small).1
  · have named : "0123456789ABCDEF".toList.getD value '?' = c := by
      rw [List.getD_eq_getElem?_getD, upper, Option.getD_some]
    rw [← named]
    exact (all value small).2

theorem hexDigit?_ascii (read : hexDigit? (.char c) = some value) : c.toNat < 128 := by
  simp only [hexDigit?] at read
  split at read
  · next digit =>
    simp only [Char.isDigit, Bool.and_eq_true, decide_eq_true_eq, UInt32.le_iff_toNat_le] at digit
    change 48 ≤ c.toNat ∧ c.toNat ≤ 57 at digit
    omega
  · split at read
    · next lower =>
      simp only [Bool.and_eq_true, decide_eq_true_eq, Char.le_def, UInt32.le_iff_toNat_le] at lower
      change 97 ≤ c.toNat ∧ c.toNat ≤ 102 at lower
      omega
    · split at read
      · next upper =>
        simp only [Bool.and_eq_true, decide_eq_true_eq, Char.le_def, UInt32.le_iff_toNat_le] at upper
        change 65 ≤ c.toNat ∧ c.toNat ≤ 70 at upper
        omega
      · cases read

theorem hexDigit?_eq (read : hexDigit? g = some value) : ∃ c, g = .char c ∧ HexDigit c value := by
  cases g with
  | stray byte => cases read
  | char c =>
      have all : ∀ n < 128, ∀ value ∈ hexDigit? (.char (Char.ofNat n)),
          "0123456789abcdef".toList[value]? = some (Char.ofNat n) ∨
            "0123456789ABCDEF".toList[value]? = some (Char.ofNat n) := by decide
      have known := all c.toNat (hexDigit?_ascii read)
      rw [Char.ofNat_toNat] at known
      exact ⟨c, rfl, known value read⟩

theorem unit?_chars {a b c d : Char} {i j k l : Nat} (first : HexDigit a i) (second : HexDigit b j)
    (third : HexDigit c k) (fourth : HexDigit d l) :
    unit? (.char a) (.char b) (.char c) (.char d) = some (((i * 16 + j) * 16 + k) * 16 + l) := by
  simp [unit?, hexDigit?_char first, hexDigit?_char second, hexDigit?_char third,
    hexDigit?_char fourth]

theorem shortEscape?_name {name : Char} (listed : (name, c) ∈ escapes) :
    shortEscape? (.char name) = some c := by
  have all : ∀ escape ∈ escapes, shortEscape? (.char escape.1) = some escape.2 := by decide
  exact all _ listed

theorem shortEscape?_eq (read : shortEscape? g = some c) :
    ∃ name, g = .char name ∧ (name, c) ∈ escapes := by
  unfold shortEscape? at read
  split at read <;> cases read <;> exact ⟨_, rfl, by decide⟩

/-! ## Pieces -/

theorem pieces?_append (inside : Inside body pieces) (rest : Text) :
    pieces? (body ++ .char '"' :: rest) = some (pieces, rest) := by
  induction inside with
  | nil => simp [pieces?]
  | @plain g t pieces graphic unquoted bare _ ih =>
      simp [pieces?, bare, Nat.not_lt.mpr graphic, ih]
  | @escape name c t pieces listed _ ih =>
      have named : name ≠ 'u' := by
        have all : ∀ escape ∈ escapes, escape.1 ≠ 'u' := by decide
        exact all _ listed
      simp [pieces?, named, shortEscape?_name listed, ih]
  | unit first second third fourth _ ih =>
      simp [pieces?, unit?_chars first second third fourth, ih]

theorem unit?_eq {a b c d : Glyph} (read : unit? a b c d = some n) :
    ∃ w x y z i j k l, a = .char w ∧ b = .char x ∧ c = .char y ∧ d = .char z ∧ HexDigit w i ∧
      HexDigit x j ∧ HexDigit y k ∧ HexDigit z l ∧ n = ((i * 16 + j) * 16 + k) * 16 + l := by
  simp only [unit?, Option.bind_eq_bind, Option.bind_eq_some_iff, pure, Option.some.injEq] at read
  obtain ⟨i, first, j, second, k, third, l, fourth, rfl⟩ := read
  obtain ⟨w, rfl, digit₁⟩ := hexDigit?_eq first
  obtain ⟨x, rfl, digit₂⟩ := hexDigit?_eq second
  obtain ⟨y, rfl, digit₃⟩ := hexDigit?_eq third
  obtain ⟨z, rfl, digit₄⟩ := hexDigit?_eq fourth
  exact ⟨w, x, y, z, i, j, k, l, rfl, rfl, rfl, rfl, digit₁, digit₂, digit₃, digit₄, rfl⟩

theorem pieces?_eq (read : pieces? t = some (pieces, rest)) :
    ∃ body, t = body ++ .char '"' :: rest ∧ Inside body pieces := by
  induction t using pieces?.induct generalizing pieces with
  | case1 => cases read
  | case2 after =>
      cases read
      exact ⟨[], rfl, .nil⟩
  | case3 a b c d after ih =>
      simp only [pieces?, Option.bind_eq_bind, Option.bind_eq_some_iff, Prod.exists, pure] at read
      obtain ⟨n, unit, others, _, later, same⟩ := read
      cases same
      obtain ⟨w, x, y, z, i, j, k, l, rfl, rfl, rfl, rfl, first, second, third, fourth, rfl⟩ :=
        unit?_eq unit
      obtain ⟨body, rfl, inside⟩ := ih later
      exact ⟨_, rfl, .unit first second third fourth inside⟩
  | case4 g after other ih =>
      rw [pieces?] at read
      · simp only [Option.bind_eq_bind, Option.bind_eq_some_iff, Prod.exists, pure] at read
        obtain ⟨c, escape, others, _, later, same⟩ := read
        cases same
        obtain ⟨name, rfl, listed⟩ := shortEscape?_eq escape
        obtain ⟨body, rfl, inside⟩ := ih later
        exact ⟨_, rfl, .escape listed inside⟩
      · exact other
  | case5 g after unquoted long short refused =>
      rw [pieces?, if_pos refused] at read
      · cases read
      · exact unquoted
      · exact long
      · exact short
  | case6 g after unquoted long short graphic ih =>
      rw [pieces?, if_neg graphic] at read
      · simp only [Option.bind_eq_bind, Option.bind_eq_some_iff, Prod.exists, pure] at read
        obtain ⟨others, _, later, same⟩ := read
        cases same
        simp only [Bool.or_eq_true, decide_eq_true_eq, not_or] at graphic
        obtain ⟨body, rfl, inside⟩ := ih later
        exact ⟨_, rfl, .plain (Nat.le_of_not_lt graphic.1) unquoted graphic.2 inside⟩
      · exact unquoted
      · exact long
      · exact short

/-! ## The text of pieces -/

theorem Inside.units (inside : Inside body pieces) : ∀ n, .unit n ∈ pieces → n < 0x10000 := by
  induction inside with
  | nil => nofun
  | plain _ _ _ _ ih => simpa using ih
  | escape _ _ ih => simpa using ih
  | unit first second third fourth _ ih =>
      have := first.small
      have := second.small
      have := third.small
      have := fourth.small
      simp only [List.mem_cons, Piece.unit.injEq, forall_eq_or_imp]
      exact ⟨by omega, ih⟩

theorem joinPieces_unit (alone : ¬ PairUp n pieces) :
    joinPieces (.unit n :: pieces) = .char (unitChar n) :: joinPieces pieces := by
  match pieces with
  | [] => simp [joinPieces]
  | .glyph g :: pieces => simp [joinPieces]
  | .unit low :: pieces =>
      have apart : (isHighSurrogate n && isLowSurrogate low) = false := by
        simpa [PairUp] using alone
      simp [joinPieces, apart]

theorem unitChar_toNat (c : Char) : unitChar c.toNat = c := by
  have scalar := Text.code_bounds c
  rw [unitChar, if_neg, Char.ofNat_toNat]
  simp only [isHighSurrogate, isLowSurrogate, Bool.or_eq_true, Bool.and_eq_true, decide_eq_true_eq]
  omega

theorem Joined.joinPieces_eq (joined : Joined pieces s) : joinPieces pieces = s := by
  induction joined with
  | nil => rfl
  | glyph _ ih => rw [joinPieces, ih]
  | @single c pieces t _ ih =>
      have scalar := Text.code_bounds c
      have alone : ¬ PairUp c.toNat pieces := by
        unfold PairUp
        split
        · simp only [isHighSurrogate, isLowSurrogate, Bool.and_eq_true, decide_eq_true_eq]
          omega
        · exact id
      rw [joinPieces_unit alone, unitChar_toNat, ih]
  | @pair c pieces t astral _ ih =>
      have scalar := Text.code_bounds c
      have paired : (isHighSurrogate (0xD800 + (c.toNat - 0x10000) / 0x400) &&
          isLowSurrogate (0xDC00 + (c.toNat - 0x10000) % 0x400)) = true := by
        simp only [isHighSurrogate, isLowSurrogate, Bool.and_eq_true, decide_eq_true_eq]
        omega
      have value : 0x10000 + (0xD800 + (c.toNat - 0x10000) / 0x400 - 0xD800) * 0x400 +
          (0xDC00 + (c.toNat - 0x10000) % 0x400 - 0xDC00) = c.toNat := by omega
      rw [joinPieces, if_pos paired, value, Char.ofNat_toNat, ih]
  | @half n pieces t low high alone _ ih =>
      rw [joinPieces_unit alone, ih, unitChar, if_pos]
      simp only [isHighSurrogate, isLowSurrogate, Bool.or_eq_true, Bool.and_eq_true,
        decide_eq_true_eq]
      omega

/-- A code unit on its own is a character, or half of one. -/
theorem Joined.unit (joined : Joined pieces s) (small : n < 0x10000) (alone : ¬ PairUp n pieces) :
    Joined (.unit n :: pieces) (.char (unitChar n) :: s) := by
  by_cases half : 0xD800 ≤ n ∧ n < 0xE000
  · have shown : unitChar n = '\uFFFD' := by
      rw [unitChar, if_pos]
      simp only [isHighSurrogate, isLowSurrogate, Bool.or_eq_true, Bool.and_eq_true,
        decide_eq_true_eq]
      omega
    rw [shown]
    exact .half half.1 half.2 alone joined
  · have code : (Char.ofNat n).toNat = n := Text.toNat_ofNat_of_scalar (by omega)
    have single := Joined.single (c := Char.ofNat n) joined
    rwa [code, ← unitChar_toNat (Char.ofNat n), code] at single

theorem joined_joinPieces (units : ∀ n, .unit n ∈ pieces → n < 0x10000) :
    Joined pieces (joinPieces pieces) := by
  induction pieces using joinPieces.induct with
  | case1 => exact .nil
  | case2 g pieces ih => exact .glyph (ih fun n member => units n (.tail _ member))
  | case3 high low pieces paired ih =>
      have rest := ih fun n member => units n (.tail _ (.tail _ member))
      have range := paired
      simp only [isHighSurrogate, isLowSurrogate, Bool.and_eq_true, decide_eq_true_eq] at range
      obtain ⟨c, code⟩ : ∃ c : Char,
          c.toNat = 0x10000 + (high - 0xD800) * 0x400 + (low - 0xDC00) :=
        ⟨_, Text.toNat_ofNat_of_scalar (by omega)⟩
      have first : 0xD800 + (c.toNat - 0x10000) / 0x400 = high := by omega
      have second : 0xDC00 + (c.toNat - 0x10000) % 0x400 = low := by omega
      have pair : Joined _ (.char c :: joinPieces pieces) := .pair (by omega) rest
      rw [first, second] at pair
      rwa [joinPieces, if_pos paired, ← code, Char.ofNat_toNat]
  | case4 high low pieces apart ih =>
      have alone : ¬ PairUp high (.unit low :: pieces) := by simpa [PairUp] using apart
      rw [joinPieces_unit alone]
      exact (ih fun n member => units n (.tail _ member)).unit (units high (.head _)) alone
  | case5 n pieces other ih =>
      have alone : ¬ PairUp n pieces := by
        unfold PairUp
        split
        · next low later => exact absurd rfl (other low later)
        · exact id
      rw [joinPieces_unit alone]
      exact (ih fun n member => units n (.tail _ member)).unit (units n (.head _)) alone

theorem string?_append (inside : Inside body pieces) (joined : Joined pieces s) (rest : Text) :
    string? (body ++ .char '"' :: rest) = some (s, rest) := by
  simp [string?, pieces?_append inside rest, joined.joinPieces_eq]

theorem string?_eq (read : string? t = some (s, rest)) :
    ∃ body pieces, t = body ++ .char '"' :: rest ∧ Inside body pieces ∧ Joined pieces s := by
  simp only [string?, Option.bind_eq_bind, Option.bind_eq_some_iff, Prod.exists, pure] at read
  obtain ⟨pieces, after, found, same⟩ := read
  cases same
  obtain ⟨body, rfl, inside⟩ := pieces?_eq found
  exact ⟨body, pieces, rfl, inside, joined_joinPieces inside.units⟩

end CallPlan.Json
