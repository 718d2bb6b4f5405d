import CallPlan.Text.Glyph

/-!
The bytes of a well-formed text are read back as that text, so that texts can be told apart by their
bytes.
-/

namespace CallPlan.Text

theorem isTail_iff {b : UInt8} : isTail b = true ↔ 0x80 ≤ b.toNat ∧ b.toNat ≤ 0xBF := by
  simp [isTail, UInt8.le_iff_toNat_le]

theorem isTail_of_low (n : Nat) : isTail (0x80 + n % 0x40).toUInt8 = true := by
  rw [isTail_iff]
  simp only [Nat.toUInt8, UInt8.toNat_ofNat']
  omega

theorem tail_toNat (n : Nat) : (0x80 + n % 0x40).toUInt8.toNat = 0x80 + n % 0x40 := by
  simp only [Nat.toUInt8, UInt8.toNat_ofNat']
  omega

theorem lead_toNat {n : Nat} (small : n < 0x100) : n.toUInt8.toNat = n := by
  simp only [Nat.toUInt8, UInt8.toNat_ofNat']
  omega

/-- The code of a character is none of a surrogate, and is within the last plane. -/
theorem code_bounds (c : Char) : c.toNat < 0xD800 ∨ 0xDFFF < c.toNat ∧ c.toNat < 0x110000 :=
  c.valid

theorem scalar?_of_one {c : Char} (rest : List UInt8) (short : c.toNat < 0x80) :
    scalar? c.toNat.toUInt8 rest = some (c, 0) := by
  have lead : c.toNat.toUInt8.toNat = c.toNat := lead_toNat (by omega)
  simp only [scalar?, lead, short, if_true, Char.ofNat_toNat]

theorem scalar?_of_two {c : Char} (rest : List UInt8) (long : 0x80 ≤ c.toNat)
    (short : c.toNat < 0x800) :
    scalar? (0xC0 + c.toNat / 0x40).toUInt8 ((0x80 + c.toNat % 0x40).toUInt8 :: rest) =
      some (c, 1) := by
  have lead : (0xC0 + c.toNat / 0x40).toUInt8.toNat = 0xC0 + c.toNat / 0x40 := lead_toNat (by omega)
  have code : (0xC0 + c.toNat / 0x40 - 0xC0) * 0x40 + (0x80 + c.toNat % 0x40 - 0x80) = c.toNat := by
    omega
  have notOne : ¬ 0xC0 + c.toNat / 0x40 < 0x80 := by omega
  have two : 0xC2 ≤ 0xC0 + c.toNat / 0x40 ∧ 0xC0 + c.toNat / 0x40 ≤ 0xDF := by omega
  simp only [scalar?, lead, tail_toNat, isTail_of_low, code, notOne, if_false, Bool.not_true,
    Bool.false_eq_true, Bool.and_eq_true, decide_eq_true_eq, two, and_self, if_true,
    Char.ofNat_toNat]

theorem scalar?_of_three {c : Char} (rest : List UInt8) (long : 0x800 ≤ c.toNat)
    (short : c.toNat < 0x10000) :
    scalar? (0xE0 + c.toNat / 0x1000).toUInt8 ((0x80 + c.toNat / 0x40 % 0x40).toUInt8 ::
      (0x80 + c.toNat % 0x40).toUInt8 :: rest) = some (c, 2) := by
  have lead : (0xE0 + c.toNat / 0x1000).toUInt8.toNat = 0xE0 + c.toNat / 0x1000 :=
    lead_toNat (by omega)
  have code : (0xE0 + c.toNat / 0x1000 - 0xE0) * 0x1000 +
      (0x80 + c.toNat / 0x40 % 0x40 - 0x80) * 0x40 + (0x80 + c.toNat % 0x40 - 0x80) = c.toNat := by
    omega
  have notOne : ¬ 0xE0 + c.toNat / 0x1000 < 0x80 := by omega
  have notTwo : ¬ (0xC2 ≤ 0xE0 + c.toNat / 0x1000 ∧ 0xE0 + c.toNat / 0x1000 ≤ 0xDF) := by omega
  have three : 0xE0 ≤ 0xE0 + c.toNat / 0x1000 ∧ 0xE0 + c.toNat / 0x1000 ≤ 0xEF := by omega
  have scalar : ¬ (c.toNat < 0x800 ∨ 0xD800 ≤ c.toNat ∧ c.toNat ≤ 0xDFFF) := by
    have bounds := code_bounds c
    omega
  simp only [scalar?, lead, tail_toNat, isTail_of_low, code, notOne, if_false, Bool.not_true,
    Bool.false_eq_true, Bool.and_eq_true, decide_eq_true_eq, notTwo, three, and_self, if_true,
    Bool.or_eq_true, scalar, Char.ofNat_toNat]

theorem scalar?_of_four {c : Char} (rest : List UInt8) (long : 0x10000 ≤ c.toNat) :
    scalar? (0xF0 + c.toNat / 0x40000).toUInt8 ((0x80 + c.toNat / 0x1000 % 0x40).toUInt8 ::
      (0x80 + c.toNat / 0x40 % 0x40).toUInt8 :: (0x80 + c.toNat % 0x40).toUInt8 :: rest) =
      some (c, 3) := by
  have bounds := code_bounds c
  have lead : (0xF0 + c.toNat / 0x40000).toUInt8.toNat = 0xF0 + c.toNat / 0x40000 :=
    lead_toNat (by omega)
  have code : (0xF0 + c.toNat / 0x40000 - 0xF0) * 0x40000 +
      (0x80 + c.toNat / 0x1000 % 0x40 - 0x80) * 0x1000 +
      (0x80 + c.toNat / 0x40 % 0x40 - 0x80) * 0x40 + (0x80 + c.toNat % 0x40 - 0x80) = c.toNat := by
    omega
  have notOne : ¬ 0xF0 + c.toNat / 0x40000 < 0x80 := by omega
  have notTwo : ¬ (0xC2 ≤ 0xF0 + c.toNat / 0x40000 ∧ 0xF0 + c.toNat / 0x40000 ≤ 0xDF) := by omega
  have notThree : ¬ (0xE0 ≤ 0xF0 + c.toNat / 0x40000 ∧ 0xF0 + c.toNat / 0x40000 ≤ 0xEF) := by omega
  have four : ¬ (0xF0 + c.toNat / 0x40000 < 0xF0 ∨ 0xF4 < 0xF0 + c.toNat / 0x40000) := by omega
  have scalar : ¬ (c.toNat < 0x10000 ∨ 0x10FFFF < c.toNat) := by omega
  simp only [scalar?, lead, tail_toNat, isTail_of_low, code, notOne, if_false, Bool.not_true,
    Bool.false_eq_true, Bool.and_eq_true, decide_eq_true_eq, notTwo, notThree, false_or,
    four, Bool.or_eq_true, scalar, Char.ofNat_toNat]

theorem ofBytes_char (c : Char) (rest : List UInt8) :
    ofBytes ((Glyph.char c).toBytes ++ rest) = .char c :: ofBytes rest := by
  simp only [Glyph.toBytes]
  split
  · next short =>
      rw [List.singleton_append, ofBytes]
      simp only [scalar?_of_one rest short, List.drop_zero]
  · next long =>
      split
      · next short =>
          simp only [List.cons_append, List.nil_append]
          rw [ofBytes]
          simp only [scalar?_of_two rest (by omega) short, List.drop_succ_cons, List.drop_zero]
      · next long =>
          split
          · next short =>
              simp only [List.cons_append, List.nil_append]
              rw [ofBytes]
              simp only [scalar?_of_three rest (by omega) short, List.drop_succ_cons, List.drop_zero]
          · next long =>
              simp only [List.cons_append, List.nil_append]
              rw [ofBytes]
              simp only [scalar?_of_four rest (show 0x10000 ≤ c.toNat by omega), List.drop_succ_cons, List.drop_zero]

/-- A well-formed text is read back from its bytes. -/
theorem ofBytes_toBytes {t : Text} (unicode : t.isUnicode = true) : ofBytes t.toBytes = t := by
  induction t with
  | nil => rw [toBytes, List.flatMap_nil, ofBytes]
  | cons g rest ih =>
      simp only [isUnicode, List.all_cons, Bool.and_eq_true] at unicode
      cases g with
      | stray byte => simp at unicode
      | char c =>
          have bytes : toBytes (.char c :: rest) = (Glyph.char c).toBytes ++ toBytes rest :=
            List.flatMap_cons
          rw [bytes, ofBytes_char, ih unicode.2]

theorem toBytes_injective {s t : Text} (first : s.isUnicode = true) (second : t.isUnicode = true)
    (same : s.toBytes = t.toBytes) : s = t := by
  rw [← ofBytes_toBytes first, same, ofBytes_toBytes second]

/-! ### Bytes below 0x80 -/

theorem scalar?_ascii {b : UInt8} (ascii : b.toNat < 0x80) (rest : List UInt8) :
    scalar? b rest = some (Char.ofNat b.toNat, 0) := by
  simp only [scalar?, ascii, if_true]

theorem ofBytes_ascii {b : UInt8} (ascii : b.toNat < 0x80) (rest : List UInt8) :
    ofBytes (b :: rest) = .char (Char.ofNat b.toNat) :: ofBytes rest := by
  rw [ofBytes]
  simp only [scalar?_ascii ascii, List.drop_zero]

theorem toNat_ofNat_of_scalar {n : Nat} (scalar : n < 0xD800 ∨ 0xDFFF < n ∧ n < 0x110000) :
    (Char.ofNat n).toNat = n := by
  rw [Char.ofNat, dif_pos scalar]
  rfl

/-- The bytes that a character is read from, by how many there are. -/
inductive Reads : UInt8 → List UInt8 → Char → Nat → Prop
  | one {a : UInt8} {rest : List UInt8} {c : Char} (ascii : a.toNat < 0x80) (code : c.toNat = a.toNat) :
      Reads a rest c 0
  | two {a b : UInt8} {rest : List UInt8} {c : Char} (lead : 0xC2 ≤ a.toNat ∧ a.toNat ≤ 0xDF)
      (second : 0x80 ≤ b.toNat ∧ b.toNat ≤ 0xBF)
      (code : c.toNat = (a.toNat - 0xC0) * 0x40 + (b.toNat - 0x80)) : Reads a (b :: rest) c 1
  | three {a b b' : UInt8} {rest : List UInt8} {c : Char} (lead : 0xE0 ≤ a.toNat ∧ a.toNat ≤ 0xEF)
      (second : 0x80 ≤ b.toNat ∧ b.toNat ≤ 0xBF) (third : 0x80 ≤ b'.toNat ∧ b'.toNat ≤ 0xBF)
      (code : c.toNat = (a.toNat - 0xE0) * 0x1000 + (b.toNat - 0x80) * 0x40 + (b'.toNat - 0x80))
      (long : 0x800 ≤ c.toNat) : Reads a (b :: b' :: rest) c 2
  | four {a b b' b'' : UInt8} {rest : List UInt8} {c : Char} (lead : 0xF0 ≤ a.toNat ∧ a.toNat ≤ 0xF4)
      (second : 0x80 ≤ b.toNat ∧ b.toNat ≤ 0xBF) (third : 0x80 ≤ b'.toNat ∧ b'.toNat ≤ 0xBF)
      (fourth : 0x80 ≤ b''.toNat ∧ b''.toNat ≤ 0xBF)
      (code : c.toNat = (a.toNat - 0xF0) * 0x40000 + (b.toNat - 0x80) * 0x1000 +
        (b'.toNat - 0x80) * 0x40 + (b''.toNat - 0x80))
      (long : 0x10000 ≤ c.toNat) : Reads a (b :: b' :: b'' :: rest) c 3

theorem scalar?_reads {first : UInt8} {rest : List UInt8} {c : Char} {tail : Nat}
    (read : scalar? first rest = some (c, tail)) : Reads first rest c tail := by
  have tails : ∀ {b : UInt8}, ¬ (!isTail b) = true → 0x80 ≤ b.toNat ∧ b.toNat ≤ 0xBF := by
    intro b taken
    exact isTail_iff.mp (by simpa using taken)
  by_cases ascii : first.toNat < 0x80
  · rw [scalar?_ascii ascii] at read
    cases read
    exact .one ascii (toNat_ofNat_of_scalar (by omega))
  simp only [scalar?, ascii, if_false] at read
  split at read
  case h_2 => exact absurd read (by simp)
  next b rest =>
  split at read
  · exact absurd read (by simp)
  next second =>
  have range := tails second
  split at read
  · next two =>
      simp only [Option.some.injEq, Prod.mk.injEq] at read
      obtain ⟨rfl, rfl⟩ := read
      simp only [Bool.and_eq_true, decide_eq_true_eq] at two
      exact .two two range (toNat_ofNat_of_scalar (by omega))
  split at read
  case h_2 => exact absurd read (by simp)
  next c' rest =>
  split at read
  · exact absurd read (by simp)
  next third =>
  have range' := tails third
  split at read
  · next three =>
      split at read
      · exact absurd read (by simp)
      next scalar =>
      simp only [Option.some.injEq, Prod.mk.injEq] at read
      obtain ⟨rfl, rfl⟩ := read
      simp only [Bool.and_eq_true, Bool.or_eq_true, decide_eq_true_eq] at three scalar
      have code := toNat_ofNat_of_scalar (n := (first.toNat - 0xE0) * 0x1000 + (b.toNat - 0x80) * 0x40 +
        (c'.toNat - 0x80)) (by omega)
      exact .three three range range' code (by omega)
  split at read
  case h_2 => exact absurd read (by simp)
  next d rest =>
  split at read
  · exact absurd read (by simp)
  next fourth =>
  split at read
  · exact absurd read (by simp)
  next scalar =>
  simp only [Option.some.injEq, Prod.mk.injEq] at read
  obtain ⟨rfl, rfl⟩ := read
  simp only [Bool.or_eq_true, decide_eq_true_eq, not_or] at fourth scalar
  have range'' := tails fourth.1.1
  have code := toNat_ofNat_of_scalar (n := (first.toNat - 0xF0) * 0x40000 + (b.toNat - 0x80) * 0x1000 +
    (c'.toNat - 0x80) * 0x40 + (d.toNat - 0x80)) (by omega)
  exact .four ⟨by omega, by omega⟩ range range' range'' code (by omega)

/-- A character that takes more than one byte is past ASCII, and so is each of its bytes. -/
theorem scalar?_wide {first : UInt8} {rest : List UInt8} {c : Char} {tail : Nat}
    (wide : 0x80 ≤ first.toNat) (read : scalar? first rest = some (c, tail)) :
    0x80 ≤ c.toNat ∧ tail ≤ rest.length ∧ ∀ b ∈ rest.take tail, 0x80 ≤ b.toNat := by
  cases scalar?_reads read with
  | one ascii => omega
  | two lead second => exact ⟨by omega, by simp, by simp [second.1]⟩
  | three lead second third => exact ⟨by omega, by simp, by simp [second.1, third.1]⟩
  | four lead second third fourth =>
      exact ⟨by omega, by simp, by simp [second.1, third.1, fourth.1]⟩

theorem not_isTail_of_ascii {b : UInt8} (ascii : b.toNat < 0x80) : isTail b = false := by
  rw [Bool.eq_false_iff]
  intro tail
  have low := (isTail_iff.mp tail).1
  omega

/-- Whether a byte starts a character is decided before the next byte that is no tail. -/
theorem scalar?_append {b : UInt8} (ends : isTail b = false) (first : UInt8) (rest more : List UInt8) :
    scalar? first (rest ++ b :: more) = scalar? first rest := by
  match rest with
  | [] => simp [scalar?, ends]
  | [x] => simp [scalar?, ends]
  | [x, y] => simp [scalar?, ends]
  | x :: y :: z :: rest => rfl

theorem tail_le_of_scalar? {first : UInt8} {rest : List UInt8} {c : Char} {tail : Nat}
    (read : scalar? first rest = some (c, tail)) : tail ≤ rest.length := by
  cases scalar?_reads read <;> simp

theorem ofBytes_append_ascii (bytes : List UInt8) {b : UInt8} (ascii : b.toNat < 0x80)
    (more : List UInt8) : ofBytes (bytes ++ b :: more) = ofBytes bytes ++ ofBytes (b :: more) := by
  have ends := not_isTail_of_ascii ascii
  induction bytes using ofBytes.induct with
  | case1 => rw [List.nil_append, ofBytes.eq_1, List.nil_append]
  | case2 first rest c tail read ih =>
      rw [List.cons_append, ofBytes, scalar?_append ends, read]
      dsimp only
      rw [List.drop_append_of_le_length (tail_le_of_scalar? read), ih, ofBytes.eq_2 first rest, read]
      rfl
  | case3 first rest read ih =>
      rw [List.cons_append, ofBytes, scalar?_append ends, read]
      dsimp only
      rw [ih, ofBytes.eq_2 first rest, read]
      rfl

/-! ### Reading and writing -/

theorem toUInt8_eq {n : Nat} {b : UInt8} (same : n = b.toNat) : n.toUInt8 = b := by
  subst n
  exact UInt8.ofNat_toNat

/-- A character is written with the bytes it was read from. -/
theorem scalar?_toBytes {first : UInt8} {rest : List UInt8} {c : Char} {tail : Nat}
    (read : scalar? first rest = some (c, tail)) :
    (Glyph.char c).toBytes = first :: rest.take tail := by
  unfold Glyph.toBytes
  cases scalar?_reads read with
  | one ascii code =>
      simp only [ascii, code, if_true, List.take_zero]
      rw [toUInt8_eq rfl]
  | @two b _ _ lead second code =>
      have short : ¬ c.toNat < 0x80 := by omega
      have two : c.toNat < 0x800 := by omega
      simp only [short, two, if_false, if_true, List.take_succ_cons, List.take_zero]
      have whole : first.toNat = 0xC0 + c.toNat / 0x40 ∧ b.toNat = 0x80 + c.toNat % 0x40 := by omega
      rw [toUInt8_eq whole.1.symm, toUInt8_eq whole.2.symm]
  | @three b b' _ _ lead second third code long =>
      have short : ¬ c.toNat < 0x80 := by omega
      have two : ¬ c.toNat < 0x800 := by omega
      have three : c.toNat < 0x10000 := by omega
      simp only [short, two, three, if_false, if_true, List.take_succ_cons, List.take_zero]
      have whole : first.toNat = 0xE0 + c.toNat / 0x1000 ∧ b.toNat = 0x80 + c.toNat / 0x40 % 0x40 ∧
          b'.toNat = 0x80 + c.toNat % 0x40 := by omega
      rw [toUInt8_eq whole.1.symm, toUInt8_eq whole.2.1.symm, toUInt8_eq whole.2.2.symm]
  | @four b b' b'' _ _ lead second third fourth code long =>
      have short : ¬ c.toNat < 0x80 := by omega
      have two : ¬ c.toNat < 0x800 := by omega
      have three : ¬ c.toNat < 0x10000 := by omega
      simp only [short, two, three, if_false, List.take_succ_cons, List.take_zero]
      have whole : first.toNat = 0xF0 + c.toNat / 0x40000 ∧
          b.toNat = 0x80 + c.toNat / 0x1000 % 0x40 ∧ b'.toNat = 0x80 + c.toNat / 0x40 % 0x40 ∧
          b''.toNat = 0x80 + c.toNat % 0x40 := by omega
      rw [toUInt8_eq whole.1.symm, toUInt8_eq whole.2.1.symm, toUInt8_eq whole.2.2.1.symm,
        toUInt8_eq whole.2.2.2.symm]

/-- What is read of bytes is written as the bytes. -/
theorem toBytes_ofBytes (bytes : List UInt8) : (ofBytes bytes).toBytes = bytes := by
  induction bytes using ofBytes.induct with
  | case1 => rw [ofBytes.eq_1]; rfl
  | case2 first rest c tail read ih =>
      rw [ofBytes.eq_2, read]
      dsimp only
      rw [toBytes, List.flatMap_cons, scalar?_toBytes read]
      change first :: (rest.take tail ++ (ofBytes (rest.drop tail)).toBytes) = _
      rw [ih, List.take_append_drop]
  | case3 first rest read ih =>
      rw [ofBytes.eq_2, read]
      exact congrArg (first :: ·) ih

/-- Whether a byte starts a character does not change when more bytes follow. -/
theorem scalar?_none_of_append {first : UInt8} {rest more : List UInt8}
    (unread : scalar? first (rest ++ more) = none) : scalar? first rest = none := by
  cases read : scalar? first rest with
  | none => rfl
  | some scalar =>
      obtain ⟨c, tail⟩ := scalar
      have whole := ofBytes_char c (rest.drop tail ++ more)
      rw [scalar?_toBytes read, List.cons_append, ← List.append_assoc, List.take_append_drop,
        ofBytes.eq_2, unread] at whole
      cases whole

/-- A text that is read back from its bytes. -/
def Readable (t : Text) : Prop := ofBytes t.toBytes = t

theorem readable_ofBytes (bytes : List UInt8) : Readable (ofBytes bytes) :=
  congrArg ofBytes (toBytes_ofBytes bytes)

/-- Texts that are read from the same bytes are the same. -/
theorem Readable.eq {s t : Text} (first : Readable s) (second : Readable t)
    (same : s.toBytes = t.toBytes) : s = t :=
  first.symm.trans ((congrArg ofBytes same).trans second)

theorem readable_cons {g : Glyph} {rest : Text} : Readable (g :: rest) ↔
    Readable rest ∧ ∀ byte, g = .stray byte → scalar? byte rest.toBytes = none := by
  have bytes : toBytes (g :: rest) = g.toBytes ++ rest.toBytes := List.flatMap_cons
  unfold Readable
  rw [bytes]
  cases g with
  | char c => simp [ofBytes_char]
  | stray byte =>
      rw [Glyph.toBytes, List.singleton_append, ofBytes.eq_2]
      cases read : scalar? byte rest.toBytes with
      | none => simp [read]
      | some scalar => simp [read]

theorem toBytes_append (s t : Text) : Text.toBytes (s ++ t) = s.toBytes ++ t.toBytes :=
  List.flatMap_append

theorem Readable.front {t u : Text} (readable : Readable (t ++ u)) : Readable t := by
  induction t with
  | nil => exact ofBytes.eq_1
  | cons g rest ih =>
      rw [List.cons_append, readable_cons] at readable
      refine readable_cons.mpr ⟨ih readable.1, fun byte same => ?_⟩
      have unread := readable.2 byte same
      rw [toBytes_append] at unread
      exact scalar?_none_of_append unread

theorem Readable.back {t u : Text} (readable : Readable (t ++ u)) : Readable u := by
  induction t with
  | nil => exact readable
  | cons g rest ih => exact ih (readable_cons.mp readable).1

theorem Readable.within {before t after : Text} (readable : Readable (before ++ t ++ after)) :
    Readable t :=
  readable.front.back

theorem isUnicode_iff {t : Text} : t.isUnicode = true ↔ ∀ g ∈ t, ∃ c, g = .char c := by
  refine List.all_eq_true.trans (forall₂_congr fun g _ => ?_)
  cases g <;> simp

theorem isUnicode_append {s t : Text} :
    Text.isUnicode (s ++ t) = true ↔ s.isUnicode = true ∧ t.isUnicode = true := by
  simp only [isUnicode, List.all_append, Bool.and_eq_true]

/-- The first byte of a character is no tail. -/
theorem lead_not_tail (c : Char) : ∃ b more, (Glyph.char c).toBytes = b :: more ∧ isTail b = false := by
  have bounds := code_bounds c
  have ends {n : Nat} (small : n < 0x100) (lead : n < 0x80 ∨ 0xBF < n) : isTail n.toUInt8 = false := by
    rw [Bool.eq_false_iff, Ne, isTail_iff, lead_toNat small]
    omega
  unfold Glyph.toBytes
  dsimp only
  split
  · exact ⟨_, _, rfl, ends (by omega) (by omega)⟩
  split
  · exact ⟨_, _, rfl, ends (by omega) (by omega)⟩
  split <;> exact ⟨_, _, rfl, ends (by omega) (by omega)⟩

/-- A character in between keeps the bytes on both sides apart. -/
theorem Readable.append {s t : Text} {c : Char} (first : Readable s) (second : Readable (.char c :: t)) :
    Readable (s ++ .char c :: t) := by
  obtain ⟨b, more, bytes, ends⟩ := lead_not_tail c
  induction s with
  | nil => exact second
  | cons g rest ih =>
      rw [readable_cons] at first
      refine readable_cons.mpr ⟨ih first.1, fun byte same => ?_⟩
      have later : toBytes (.char c :: t) = b :: (more ++ t.toBytes) := congrArg (· ++ t.toBytes) bytes
      have joined := toBytes_append rest (.char c :: t)
      rw [later] at joined
      exact joined ▸ (scalar?_append ends _ _ _).trans (first.2 byte same)

theorem Readable.prepend {s t : Text} (unicode : s.isUnicode = true) (readable : Readable t) :
    Readable (s ++ t) := by
  induction s with
  | nil => exact readable
  | cons g rest ih =>
      have chars := isUnicode_iff.mp unicode
      obtain ⟨c, rfl⟩ := chars g List.mem_cons_self
      have later : isUnicode rest = true :=
        isUnicode_iff.mpr fun g member => chars g (List.mem_cons_of_mem _ member)
      exact readable_cons.mpr ⟨ih later, fun byte same => nomatch same⟩

end CallPlan.Text
