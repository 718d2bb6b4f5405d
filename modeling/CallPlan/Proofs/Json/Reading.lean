import CallPlan.Proofs.Json.Numerals
import CallPlan.Proofs.Json.Strings
import Mathlib.Data.List.DropRight

/-!
The reader and the grammar agree. What the reader takes from the front of a text writes the document that
it gives, and a text that writes a document is read as that document, unless it is nested too deep. The
fuel of the reader counts steps; as many steps as there are characters are enough for a document.
-/

namespace CallPlan.Json

variable {g : Glyph} {t before after rest key : Text} {v item : Json} {items : List Json}
  {member : Text × Json} {members : List (Text × Json)} {depth fuel : Nat}

/-! ## Blanks -/

theorem skipSpace_blank (blank : Blank before) (t : Text) : skipSpace (before ++ t) = skipSpace t :=
  List.dropWhile_append_of_pos blank

theorem skipSpace_shown (shown : isSpace g = false) (t : Text) : skipSpace (g :: t) = g :: t := by
  simp [skipSpace, shown]

theorem skipSpace_eq (t : Text) : ∃ before, Blank before ∧ t = before ++ skipSpace t :=
  ⟨t.takeWhile isSpace, fun _ member => List.mem_takeWhile_imp member,
    List.takeWhile_append_dropWhile.symm⟩

theorem skipSpace_skipSpace (t : Text) : skipSpace (skipSpace t) = skipSpace t :=
  List.dropWhile_idempotent isSpace t

theorem Blank.skipSpace (blank : Blank t) : skipSpace t = [] := by
  rw [← List.append_nil t, skipSpace_blank blank]
  rfl

theorem blank_of_skipSpace (none : (skipSpace t).isEmpty = true) : Blank t := by
  obtain ⟨before, blank, whole⟩ := skipSpace_eq t
  rw [List.isEmpty_iff.mp none, List.append_nil] at whole
  rwa [whole]

theorem skipSpace_token (back : Blank after) (shown : isSpace g = false) (t : Text) :
    skipSpace (after ++ g :: t) = g :: t := by
  rw [skipSpace_blank back, skipSpace_shown shown]

theorem value?_skipSpace (depth fuel : Nat) (t : Text) :
    value? depth fuel (skipSpace t) = value? depth fuel t := by
  cases fuel with
  | zero => rfl
  | succ fuel => rw [value?, value?, skipSpace_skipSpace]

theorem items?_skipSpace (depth fuel : Nat) (t : Text) :
    items? depth fuel (skipSpace t) = items? depth fuel t := by
  cases fuel with
  | zero => rfl
  | succ fuel => rw [items?, items?, value?_skipSpace]

theorem members?_skipSpace (depth fuel : Nat) (t : Text) :
    members? depth fuel (skipSpace t) = members? depth fuel t := by
  cases fuel with
  | zero => rfl
  | succ fuel => rw [members?, members?, skipSpace_skipSpace]

theorem value?_blank (blank : Blank before) (t : Text) :
    value? depth fuel (before ++ t) = value? depth fuel t := by
  rw [← value?_skipSpace, skipSpace_blank blank, value?_skipSpace]

/-! ## What a number cannot go on with -/

theorem isSpace_iff : isSpace g = true ↔ g ∈ [.char ' ', .char '\t', .char '\n', .char '\r'] := by
  simp [isSpace, or_assoc]

theorem apart_cons (apart : g.isAsciiDigit = false ∧ g ≠ .char '.' ∧ g ≠ .char 'e' ∧ g ≠ .char 'E')
    (rest : Text) : Apart (g :: rest) := by
  constructor
  · rintro _ ⟨rfl⟩
    exact apart.1
  · rintro _ ⟨rfl⟩
    exact apart.2

theorem apart_token (listed : g ∈ [.char ',', .char ']', .char '\x7d']) (rest : Text) :
    Apart (g :: rest) := by
  have all : ∀ g ∈ [Glyph.char ',', .char ']', .char '\x7d'],
      g.isAsciiDigit = false ∧ g ≠ .char '.' ∧ g ≠ .char 'e' ∧ g ≠ .char 'E' := by decide
  exact apart_cons (all g listed) rest

theorem apart_blank (blank : Blank before) (apart : Apart rest) : Apart (before ++ rest) := by
  cases before with
  | nil => exact apart
  | cons g before =>
      have all : ∀ g ∈ [Glyph.char ' ', .char '\t', .char '\n', .char '\r'],
          g.isAsciiDigit = false ∧ g ≠ .char '.' ∧ g ≠ .char 'e' ∧ g ≠ .char 'E' := by decide
      exact apart_cons (all g (isSpace_iff.mp (blank g (.head _)))) _

/-! ## Documents are read -/

/-- The text is read as the document, unless that is nested too deep. -/
def Reads (t : Text) (v : Json) : Prop :=
  ∀ depth fuel rest, depth ≤ maxDepth → t.length ≤ fuel → Apart rest →
    value? depth fuel (t ++ rest) = if depth + v.height ≤ maxDepth then some (v, rest) else none

/-- The text is read as the document, but for the blanks behind it. -/
def ReadsPadded (t : Text) (v : Json) : Prop :=
  ∀ depth fuel rest, depth ≤ maxDepth → t.length ≤ fuel → Apart rest → ∃ after, Blank after ∧
    value? depth fuel (t ++ rest) =
      if depth + v.height ≤ maxDepth then some (v, after ++ rest) else none

def ReadsItems (t : Text) (items : List Json) : Prop :=
  ∀ depth fuel rest, depth ≤ maxDepth → t.length < fuel →
    items? depth fuel (t ++ .char ']' :: rest) =
      if depth + heightItems items ≤ maxDepth then some (items, rest) else none

def ReadsMembers (t : Text) (members : List (Text × Json)) : Prop :=
  ∀ depth fuel rest, depth ≤ maxDepth → t.length < fuel →
    members? depth fuel (t ++ .char '\x7d' :: rest) =
      if depth + heightMembers members ≤ maxDepth then some (members, rest) else none

/-- A member is read in front of what goes on with the object, and in front of its end. -/
def ReadsMember (t : Text) (member : Text × Json) : Prop :=
  ∀ depth fuel rest, depth ≤ maxDepth → t.length ≤ fuel →
    members? depth (fuel + 1) (t ++ .char ',' :: rest) = (if depth + member.2.height ≤ maxDepth then
      (members? depth fuel rest).map fun (members, rest) => (member :: members, rest) else none) ∧
    members? depth (fuel + 1) (t ++ .char '\x7d' :: rest) =
      if depth + member.2.height ≤ maxDepth then some ([member], rest) else none

/-- A document without parts is read wherever it stands. -/
theorem reads_flat (named : t ≠ []) (flat : v.height = 0)
    (read : ∀ depth fuel rest, Apart rest → value? depth (fuel + 1) (t ++ rest) = some (v, rest)) :
    Reads t v := by
  intro depth fuel rest shallow enough apart
  obtain ⟨fuel, rfl⟩ : ∃ less, fuel = less + 1 :=
    Nat.exists_eq_add_one_of_ne_zero (by have := List.length_pos_iff.mpr named; omega)
  rw [read depth fuel rest apart, flat, if_pos (by omega)]

theorem reads_null : Reads "null" .null :=
  reads_flat (by decide) rfl fun depth fuel rest _ => by
    simp [value?, skipSpace, isSpace, Text.ofString, word?]

theorem reads_yes : Reads "true" (.bool true) :=
  reads_flat (by decide) rfl fun depth fuel rest _ => by
    simp [value?, skipSpace, isSpace, Text.ofString, word?]

theorem reads_no : Reads "false" (.bool false) :=
  reads_flat (by decide) rfl fun depth fuel rest _ => by
    simp [value?, skipSpace, isSpace, Text.ofString, word?]

theorem reads_text {s : Text} {pieces : List Piece} (inside : Inside t pieces) (joined : Joined pieces s) :
    Reads (.char '"' :: t ++ [.char '"']) (.text s) :=
  reads_flat (by simp) rfl fun depth fuel rest _ => by
    have read := string?_append inside joined rest
    simp [value?, skipSpace, isSpace, read]

theorem literal_head (n : Numeral) : ∃ g rest, n.literal = g :: rest ∧
    (g = .char '-' ∨ g.isAsciiDigit = true) := by
  unfold Numeral.literal Numeral.sign
  cases n.negative with
  | true => exact ⟨_, _, rfl, .inl rfl⟩
  | false =>
      obtain ⟨first, others, whole⟩ := List.exists_cons_of_ne_nil n.nonempty
      exact ⟨first, _, by rw [whole]; rfl, .inr (n.decimal first (by simp [whole]))⟩

theorem numeral_start (start : g = .char '-' ∨ g.isAsciiDigit = true) {c : Char} (sign : c ≠ '-')
    (digit : c.isDigit = false) : g ≠ .char c := by
  rcases start with rfl | known
  · exact fun same => sign (Glyph.char.inj same).symm
  · exact digit_ne known digit

theorem numeral_start_shown (start : g = .char '-' ∨ g.isAsciiDigit = true) : isSpace g = false := by
  have other {c : Char} := numeral_start start (c := c)
  simp only [isSpace, Bool.or_eq_false_iff, decide_eq_false_iff_not]
  exact ⟨⟨⟨other (by decide) (by decide), other (by decide) (by decide)⟩,
    other (by decide) (by decide)⟩, other (by decide) (by decide)⟩

theorem value?_number (start : g = .char '-' ∨ g.isAsciiDigit = true) (depth fuel : Nat) (t : Text) :
    value? depth (fuel + 1) (g :: t) =
      (number? (g :: t)).map fun (literal, rest) => (.number literal, rest) := by
  rw [value?, skipSpace_shown (numeral_start_shown start)]
  split
  all_goals first
    | rfl
    | next equal =>
      exact absurd (List.cons.inj equal).1 (numeral_start start (by decide) (by decide))

theorem reads_number (n : Numeral) : Reads n.literal (.number n.literal) := by
  obtain ⟨g, tail, literal, start⟩ := literal_head n
  refine reads_flat (by simp [literal]) rfl fun depth fuel rest apart => ?_
  have read := number?_append n apart
  rw [literal, List.cons_append] at read ⊢
  rw [value?_number start, read]
  rfl

/-! ### Lists and objects -/

/-- A document starts with something to see, which is not the end of a list. -/
theorem Written.head (written : Written t v) : ∃ g tail, t = g :: tail ∧ isSpace g = false ∧ g ≠ .char ']' := by
  cases written with
  | number n =>
      obtain ⟨g, tail, literal, start⟩ := literal_head n
      exact ⟨g, tail, literal, numeral_start_shown start, numeral_start start (by decide) (by decide)⟩
  | null => exact ⟨_, _, rfl, by decide, by decide⟩
  | yes => exact ⟨_, _, rfl, by decide, by decide⟩
  | no => exact ⟨_, _, rfl, by decide, by decide⟩
  | _ => exact ⟨_, _, rfl, by decide, by decide⟩

theorem Padded.head (padded : Padded t v) (rest : Text) :
    ∃ g tail, skipSpace (t ++ rest) = g :: tail ∧ g ≠ .char ']' := by
  cases padded with
  | around front written back =>
      obtain ⟨g, tail, rfl, shown, other⟩ := written.head
      rw [List.append_assoc, List.append_assoc, skipSpace_blank front, List.cons_append,
        skipSpace_shown shown]
      exact ⟨g, _, rfl, other⟩

theorem Items.head (written : Items t items) (rest : Text) :
    ∃ g tail, skipSpace (t ++ rest) = g :: tail ∧ g ≠ .char ']' := by
  cases written with
  | last padded => exact padded.head rest
  | more padded others =>
      rw [List.append_assoc]
      exact padded.head _

theorem Members.head (written : Members t members) (rest : Text) :
    ∃ tail, skipSpace (t ++ rest) = .char '"' :: tail := by
  have first {t : Text} {member : Text × Json} (written : Member t member) (rest : Text) :
      ∃ tail, skipSpace (t ++ rest) = .char '"' :: tail := by
    cases written with
    | keyed front inside joined back padded =>
        simp only [List.append_assoc]
        rw [skipSpace_blank front]
        exact ⟨_, rfl⟩
  cases written with
  | last written => exact first written rest
  | more written others =>
      rw [List.append_assoc]
      exact first written _

theorem Reads.padded (reads : Reads t v) (front : Blank before) (back : Blank after) :
    ReadsPadded (before ++ t ++ after) v := by
  intro depth fuel rest shallow enough apart
  simp only [List.length_append] at enough
  refine ⟨after, back, ?_⟩
  rw [List.append_assoc, List.append_assoc, value?_blank front]
  exact reads depth fuel _ shallow (by omega) (apart_blank back apart)

theorem ReadsPadded.last (reads : ReadsPadded t v) : ReadsItems t [v] := by
  intro depth fuel rest shallow enough
  obtain ⟨fuel, rfl⟩ : ∃ less, fuel = less + 1 := Nat.exists_eq_add_one_of_ne_zero (by omega)
  obtain ⟨after, back, read⟩ := reads depth fuel (.char ']' :: rest) shallow (by omega)
    (apart_token (by decide) rest)
  have skip : skipSpace (after ++ .char ']' :: rest) = .char ']' :: rest :=
    skipSpace_token back (by decide) rest
  rw [items?, read, heightItems, heightItems, Nat.max_zero]
  split
  · simp [skip]
  · rfl

theorem ReadsPadded.more (reads : ReadsPadded t v) (others : ReadsItems rest items) :
    ReadsItems (t ++ .char ',' :: rest) (v :: items) := by
  intro depth fuel tail shallow enough
  simp only [List.length_append, List.length_cons] at enough
  obtain ⟨fuel, rfl⟩ : ∃ less, fuel = less + 1 := Nat.exists_eq_add_one_of_ne_zero (by omega)
  obtain ⟨after, back, read⟩ := reads depth fuel (.char ',' :: (rest ++ .char ']' :: tail)) shallow
    (by omega) (apart_token (by decide) _)
  have skip : skipSpace (after ++ .char ',' :: (rest ++ .char ']' :: tail)) =
      .char ',' :: (rest ++ .char ']' :: tail) := skipSpace_token back (by decide) _
  have later := others depth fuel tail shallow (by omega)
  rw [List.append_assoc, List.cons_append, items?, read, heightItems]
  -- A list is too deep as soon as one item is: the reader stops at the first of them.
  by_cases fits : depth + v.height ≤ maxDepth
  · have both : depth + max v.height (heightItems items) ≤ maxDepth ↔
        depth + heightItems items ≤ maxDepth := by omega
    simp only [fits, if_true, both, Option.bind_eq_bind, Option.bind_some, skip, later]
    split <;> rfl
  · have deep : ¬ depth + max v.height (heightItems items) ≤ maxDepth := by omega
    simp [fits, deep]

theorem value?_emptyList (closed : skipSpace t = .char ']' :: rest) (depth fuel : Nat) :
    value? depth (fuel + 1) (.char '[' :: t) =
      if maxDepth ≤ depth then none else some (.list [], rest) := by
  rw [value?, skipSpace_shown (by decide)]
  simp only [closed]

theorem value?_list (start : skipSpace t = g :: rest) (other : g ≠ .char ']') (depth fuel : Nat) :
    value? depth (fuel + 1) (.char '[' :: t) = if maxDepth ≤ depth then none else
      (items? (depth + 1) fuel t).map fun (items, rest) => (.list items, rest) := by
  rw [value?, skipSpace_shown (by decide), ← items?_skipSpace _ _ t]
  simp only [start]
  split
  · rfl
  · split
    · next equal => exact absurd (List.cons.inj equal).1 other
    · rfl

theorem value?_emptyObject (closed : skipSpace t = .char '\x7d' :: rest) (depth fuel : Nat) :
    value? depth (fuel + 1) (.char '\x7b' :: t) =
      if maxDepth ≤ depth then none else some (.object [], rest) := by
  rw [value?, skipSpace_shown (by decide)]
  simp only [closed]

theorem value?_object (start : skipSpace t = .char '"' :: rest) (depth fuel : Nat) :
    value? depth (fuel + 1) (.char '\x7b' :: t) = if maxDepth ≤ depth then none else
      (members? (depth + 1) fuel t).map fun (members, rest) => (.object members, rest) := by
  rw [value?, skipSpace_shown (by decide), ← members?_skipSpace _ _ t]
  simp only [start]
  split
  · rfl
  · split
    · next equal => exact absurd (List.cons.inj equal).1 (by decide)
    · rfl

/-- What stands between brackets is read one level deeper, if there may be one more. -/
theorem reads_nested {opening closing : Glyph} {inner : Nat}
    {outcome : Nat → Nat → Text → Option (Json × Text)} (nested : v.height = inner + 1)
    (bracketed : ∀ depth fuel rest, value? depth (fuel + 1) (opening :: (t ++ closing :: rest)) =
      if maxDepth ≤ depth then none else outcome depth fuel rest)
    (within : ∀ depth fuel rest, depth + 1 ≤ maxDepth → t.length < fuel →
      outcome depth fuel rest = if depth + 1 + inner ≤ maxDepth then some (v, rest) else none) :
    Reads (opening :: t ++ [closing]) v := by
  intro depth fuel rest shallow enough apart
  simp only [List.length_append, List.length_cons] at enough
  obtain ⟨fuel, rfl⟩ : ∃ less, fuel = less + 1 := Nat.exists_eq_add_one_of_ne_zero (by omega)
  rw [List.cons_append, List.cons_append, List.append_assoc, List.singleton_append, bracketed, nested]
  by_cases deep : maxDepth ≤ depth
  · rw [if_pos deep, if_neg (by omega)]
  · rw [if_neg deep, within depth fuel rest (by omega) (by omega), Nat.add_assoc, Nat.add_comm 1]

theorem reads_emptyList (blank : Blank t) : Reads (.char '[' :: t ++ [.char ']']) (.list []) :=
  reads_nested rfl
    (fun depth fuel rest => value?_emptyList (skipSpace_token blank (by decide) rest) depth fuel)
    fun _ _ _ shallow _ => (if_pos shallow).symm

theorem reads_emptyObject (blank : Blank t) :
    Reads (.char '\x7b' :: t ++ [.char '\x7d']) (.object []) :=
  reads_nested rfl
    (fun depth fuel rest => value?_emptyObject (skipSpace_token blank (by decide) rest) depth fuel)
    fun _ _ _ shallow _ => (if_pos shallow).symm

theorem ReadsItems.list (reads : ReadsItems t items) (written : Items t items) :
    Reads (.char '[' :: t ++ [.char ']']) (.list items) := by
  have bracketed (depth fuel : Nat) (rest : Text) :
      value? depth (fuel + 1) (.char '[' :: (t ++ .char ']' :: rest)) = if maxDepth ≤ depth then none
        else (items? (depth + 1) fuel (t ++ .char ']' :: rest)).map fun (items, rest) =>
          (.list items, rest) := by
    obtain ⟨g, tail, start, other⟩ := written.head (.char ']' :: rest)
    exact value?_list start other depth fuel
  refine reads_nested (by rw [height]) bracketed fun depth fuel rest shallow enough => ?_
  rw [reads (depth + 1) fuel rest shallow enough]
  split <;> rfl

theorem ReadsMembers.object (reads : ReadsMembers t members) (written : Members t members) :
    Reads (.char '\x7b' :: t ++ [.char '\x7d']) (.object members) := by
  have bracketed (depth fuel : Nat) (rest : Text) :
      value? depth (fuel + 1) (.char '\x7b' :: (t ++ .char '\x7d' :: rest)) =
        if maxDepth ≤ depth then none
        else (members? (depth + 1) fuel (t ++ .char '\x7d' :: rest)).map fun (members, rest) =>
          (.object members, rest) := by
    obtain ⟨tail, start⟩ := written.head (.char '\x7d' :: rest)
    exact value?_object start depth fuel
  refine reads_nested (by rw [height]) bracketed fun depth fuel rest shallow enough => ?_
  rw [reads (depth + 1) fuel rest shallow enough]
  split <;> rfl

section Keyed

variable {body : Text} {pieces : List Piece}

/-- A member's key is read, then its document. -/
theorem members?_unread (front : Blank before) (inside : Inside body pieces)
    (joined : Joined pieces key) (back : Blank after) (read : value? depth fuel t = none) :
    members? depth (fuel + 1) (before ++ .char '"' :: body ++ .char '"' :: after ++ .char ':' :: t) =
      none := by
  have skip : skipSpace (after ++ .char ':' :: t) = .char ':' :: t :=
    skipSpace_token back (by decide) t
  simp only [List.append_assoc, List.cons_append]
  rw [members?, skipSpace_blank front, skipSpace_shown (by decide)]
  simp only [string?_append inside joined, Option.bind_eq_bind, Option.bind_some, skip, read,
    Option.bind_none]

/-- Behind a member the object goes on, or it ends. -/
theorem members?_keyed (front : Blank before) (inside : Inside body pieces)
    (joined : Joined pieces key) (back : Blank after) (read : value? depth fuel t = some (v, rest))
    {tail : Text} (next : skipSpace rest = g :: tail) :
    members? depth (fuel + 1) (before ++ .char '"' :: body ++ .char '"' :: after ++ .char ':' :: t) =
      if g = .char ',' then
        (members? depth fuel tail).map fun (members, rest) => ((key, v) :: members, rest)
      else if g = .char '\x7d' then some ([(key, v)], tail)
      else none := by
  have skip : skipSpace (after ++ .char ':' :: t) = .char ':' :: t :=
    skipSpace_token back (by decide) t
  simp only [List.append_assoc, List.cons_append]
  rw [members?, skipSpace_blank front, skipSpace_shown (by decide)]
  simp only [string?_append inside joined, Option.bind_eq_bind, Option.bind_some, skip, read, next]
  split
  · next equal =>
    cases equal
    cases members? depth fuel tail <;> rfl
  · next equal =>
    cases equal
    rfl
  · next other ended =>
    rw [if_neg fun comma => other tail (by rw [comma]), if_neg fun bracket => ended tail (by rw [bracket])]

theorem ReadsPadded.keyed (reads : ReadsPadded t v) (front : Blank before) (inside : Inside body pieces)
    (joined : Joined pieces key) (back : Blank after) :
    ReadsMember (before ++ .char '"' :: body ++ .char '"' :: after ++ .char ':' :: t) (key, v) := by
  intro depth fuel rest shallow enough
  simp only [List.length_append, List.length_cons] at enough
  -- The comma and the bracket are read alike up to the last step, so both come from one fact.
  have found {g : Glyph} (listed : g ∈ [.char ',', .char ']', .char '\x7d'])
      (shown : isSpace g = false) (tail : Text) :
      members? depth (fuel + 1)
          (before ++ .char '"' :: body ++ .char '"' :: after ++ .char ':' :: t ++ g :: tail) =
        if depth + v.height ≤ maxDepth then
          if g = .char ',' then
            (members? depth fuel tail).map fun (members, rest) => ((key, v) :: members, rest)
          else if g = .char '\x7d' then some ([(key, v)], tail)
          else none
        else none := by
    obtain ⟨gap, blank, read⟩ := reads depth fuel (g :: tail) shallow (by omega)
      (apart_token listed tail)
    rw [List.append_assoc, List.cons_append]
    split at read
    · next fits =>
      rw [if_pos fits]
      exact members?_keyed front inside joined back read (skipSpace_token blank shown tail)
    · next deep =>
      rw [if_neg deep]
      exact members?_unread front inside joined back read
  exact ⟨found (.head _) (by decide) rest, found (.tail _ (.tail _ (.head _))) (by decide) rest⟩

end Keyed

theorem ReadsMember.last (reads : ReadsMember t member) : ReadsMembers t [member] := by
  intro depth fuel rest shallow enough
  obtain ⟨fuel, rfl⟩ : ∃ less, fuel = less + 1 := Nat.exists_eq_add_one_of_ne_zero (by omega)
  rw [(reads depth fuel rest shallow (by omega)).2, heightMembers, heightMembers, Nat.max_zero]

theorem ReadsMember.more (reads : ReadsMember t member) (others : ReadsMembers rest members) :
    ReadsMembers (t ++ .char ',' :: rest) (member :: members) := by
  intro depth fuel tail shallow enough
  simp only [List.length_append, List.length_cons] at enough
  obtain ⟨fuel, rfl⟩ : ∃ less, fuel = less + 1 := Nat.exists_eq_add_one_of_ne_zero (by omega)
  have first := (reads depth fuel (rest ++ .char '\x7d' :: tail) shallow (by omega)).1
  rw [List.append_assoc, List.cons_append, first, others depth fuel tail shallow (by omega),
    heightMembers]
  by_cases fits : depth + member.2.height ≤ maxDepth
  · have both : depth + max member.2.height (heightMembers members) ≤ maxDepth ↔
        depth + heightMembers members ≤ maxDepth := by omega
    simp only [fits, if_true, both]
    split <;> rfl
  · rw [if_neg fits, if_neg (by omega)]

mutual

/-- A document is read by as many steps as its text is long. -/
theorem Written.reads : ∀ {t : Text} {v : Json}, Written t v → Reads t v
  | _, _, .null => reads_null
  | _, _, .yes => reads_yes
  | _, _, .no => reads_no
  | _, _, .number n => reads_number n
  | _, _, .text inside joined => reads_text inside joined
  | _, _, .emptyList blank => reads_emptyList blank
  | _, _, .list written => written.reads.list written
  | _, _, .emptyObject blank => reads_emptyObject blank
  | _, _, .object written => written.reads.object written

theorem Padded.reads : ∀ {t : Text} {v : Json}, Padded t v → ReadsPadded t v
  | _, _, .around front written back => written.reads.padded front back

theorem Items.reads : ∀ {t : Text} {items : List Json}, Items t items → ReadsItems t items
  | _, _, .last padded => padded.reads.last
  | _, _, .more padded others => padded.reads.more others.reads

theorem Member.reads : ∀ {t : Text} {member : Text × Json}, Member t member → ReadsMember t member
  | _, _, .keyed front inside joined back padded => padded.reads.keyed front inside joined back

theorem Members.reads : ∀ {t : Text} {members : List (Text × Json)}, Members t members →
    ReadsMembers t members
  | _, _, .last written => written.reads.last
  | _, _, .more written others => written.reads.more others.reads

end

/-! ## What was read is a document -/

/-- The reader takes a document from the front of a text, with the blanks in front of it. -/
def Takes (t : Text) (v : Json) (rest : Text) : Prop :=
  ∃ before body, t = before ++ body ++ rest ∧ Blank before ∧ Written body v

def TakesItems (t : Text) (items : List Json) (rest : Text) : Prop :=
  ∃ body, t = body ++ .char ']' :: rest ∧ Items body items

def TakesMembers (t : Text) (members : List (Text × Json)) (rest : Text) : Prop :=
  ∃ body, t = body ++ .char '\x7d' :: rest ∧ Members body members

theorem Written.takes {body : Text} (written : Written body v) (start : skipSpace t = body ++ rest) :
    Takes t v rest := by
  obtain ⟨before, front, whole⟩ := skipSpace_eq t
  exact ⟨before, body, by rw [List.append_assoc, ← start, ← whole], front, written⟩

theorem Takes.padded (takes : Takes t v rest) {tail : Text} (next : skipSpace rest = g :: tail) :
    ∃ body, t = body ++ g :: tail ∧ Padded body v := by
  obtain ⟨before, body, rfl, front, written⟩ := takes
  obtain ⟨after, back, whole⟩ := skipSpace_eq rest
  exact ⟨before ++ body ++ after, by rw [List.append_assoc _ after, ← next, ← whole],
    .around front written back⟩

theorem word?_eq {word : Text} (read : word? word v t = some (item, rest)) :
    item = v ∧ t = word ++ rest := by
  unfold word? at read
  split at read
  · next listed =>
    cases read
    obtain ⟨tail, rfl⟩ := List.isPrefixOf_iff_prefix.mp listed
    simp
  · cases read

theorem value?_takes
    (itemsTake : ∀ depth t items rest, items? depth fuel t = some (items, rest) → TakesItems t items rest)
    (membersTake : ∀ depth t members rest, members? depth fuel t = some (members, rest) →
      TakesMembers t members rest) (read : value? depth (fuel + 1) t = some (v, rest)) :
    Takes t v rest := by
  rw [value?] at read
  split at read
  · next tail start =>
    obtain ⟨⟨s, after⟩, string, same⟩ := Option.map_eq_some_iff.mp read
    cases same
    obtain ⟨body, pieces, rfl, inside, joined⟩ := string?_eq string
    exact (Written.text inside joined).takes (by rw [start]; simp)
  · next tail start =>
    split at read
    · cases read
    · split at read
      · next after closed =>
        cases read
        obtain ⟨blanks, blank, whole⟩ := skipSpace_eq tail
        exact (Written.emptyList blank).takes (by rw [start, whole, closed]; simp)
      · next open' =>
        obtain ⟨⟨items, after⟩, found, same⟩ := Option.map_eq_some_iff.mp read
        cases same
        rw [items?_skipSpace] at found
        obtain ⟨body, rfl, written⟩ := itemsTake _ _ _ _ found
        exact (Written.list written).takes (by rw [start]; simp)
  · next tail start =>
    split at read
    · cases read
    · split at read
      · next after closed =>
        cases read
        obtain ⟨blanks, blank, whole⟩ := skipSpace_eq tail
        exact (Written.emptyObject blank).takes (by rw [start, whole, closed]; simp)
      · next open' =>
        obtain ⟨⟨members, after⟩, found, same⟩ := Option.map_eq_some_iff.mp read
        cases same
        rw [members?_skipSpace] at found
        obtain ⟨body, rfl, written⟩ := membersTake _ _ _ _ found
        exact (Written.object written).takes (by rw [start]; simp)
  · next tail start =>
    obtain ⟨rfl, rfl⟩ := word?_eq read
    exact Written.null.takes (by rw [start]; rfl)
  · next tail start =>
    obtain ⟨rfl, rfl⟩ := word?_eq read
    exact Written.yes.takes (by rw [start]; rfl)
  · next tail start =>
    obtain ⟨rfl, rfl⟩ := word?_eq read
    exact Written.no.takes (by rw [start]; rfl)
  · obtain ⟨⟨literal, after⟩, number, same⟩ := Option.map_eq_some_iff.mp read
    cases same
    obtain ⟨n, rfl, whole⟩ := number?_eq number
    exact (Written.number n).takes whole

theorem items?_takes
    (valueTakes : ∀ depth t v rest, value? depth fuel t = some (v, rest) → Takes t v rest)
    (itemsTake : ∀ depth t items rest, items? depth fuel t = some (items, rest) → TakesItems t items rest)
    (read : items? depth (fuel + 1) t = some (items, rest)) : TakesItems t items rest := by
  simp only [items?, Option.bind_eq_bind, Option.bind_eq_some_iff, Prod.exists] at read
  obtain ⟨item, after, first, read⟩ := read
  have takes := valueTakes _ _ _ _ first
  split at read
  · next tail next =>
    simp only [Option.bind_eq_some_iff, Prod.exists, pure] at read
    obtain ⟨others, last, later, same⟩ := read
    cases same
    obtain ⟨body, rfl, padded⟩ := takes.padded next
    obtain ⟨more, rfl, written⟩ := itemsTake _ _ _ _ later
    exact ⟨_, by simp, .more padded written⟩
  · next tail next =>
    cases read
    obtain ⟨body, rfl, padded⟩ := takes.padded next
    exact ⟨body, rfl, .last padded⟩
  · cases read

theorem members?_takes
    (valueTakes : ∀ depth t v rest, value? depth fuel t = some (v, rest) → Takes t v rest)
    (membersTake : ∀ depth t members rest, members? depth fuel t = some (members, rest) →
      TakesMembers t members rest)
    (read : members? depth (fuel + 1) t = some (members, rest)) : TakesMembers t members rest := by
  rw [members?] at read
  split at read
  · next tail start =>
    obtain ⟨before, front, whole⟩ := skipSpace_eq t
    simp only [Option.bind_eq_bind, Option.bind_eq_some_iff, Prod.exists] at read
    obtain ⟨key, afterKey, string, read⟩ := read
    obtain ⟨body, pieces, rfl, inside, joined⟩ := string?_eq string
    split at read
    · next afterColon colon =>
      obtain ⟨gap, back, spaced⟩ := skipSpace_eq afterKey
      have text : t = before ++ .char '"' :: body ++ .char '"' :: gap ++ .char ':' :: afterColon := by
        rw [whole, start, spaced, colon]
        simp
      have keyed {inner : Text} {value : Json} (padded : Padded inner value) :=
        Member.keyed front inside joined back padded
      simp only [Option.bind_eq_some_iff, Prod.exists] at read
      obtain ⟨value, afterValue, first, read⟩ := read
      have takes := valueTakes _ _ _ _ first
      split at read
      · next tail next =>
        simp only [Option.bind_eq_some_iff, Prod.exists, pure] at read
        obtain ⟨others, last, later, same⟩ := read
        cases same
        obtain ⟨inner, rfl, padded⟩ := takes.padded next
        obtain ⟨more, rfl, written⟩ := membersTake _ _ _ _ later
        exact ⟨_, by rw [text]; simp, .more (keyed padded) written⟩
      · next tail next =>
        cases read
        obtain ⟨inner, rfl, padded⟩ := takes.padded next
        exact ⟨_, by rw [text]; simp, .last (keyed padded)⟩
      · cases read
    · cases read
  · cases read

/-- What is read from the front of a text writes the document that is given. -/
theorem reader_takes (fuel : Nat) :
    (∀ depth t v rest, value? depth fuel t = some (v, rest) → Takes t v rest) ∧
    (∀ depth t items rest, items? depth fuel t = some (items, rest) → TakesItems t items rest) ∧
    ∀ depth t members rest, members? depth fuel t = some (members, rest) →
      TakesMembers t members rest := by
  induction fuel with
  | zero => exact ⟨nofun, nofun, nofun⟩
  | succ fuel ih =>
      obtain ⟨value, items, members⟩ := ih
      exact ⟨fun _ _ _ _ => value?_takes items members, fun _ _ _ _ => items?_takes value items,
        fun _ _ _ _ => members?_takes value members⟩

/-! ## Reading a text -/

/-- A text that is JSON: one document with blanks around it, nested as deep as documents may be. -/
structure Document (t : Text) (v : Json) : Prop where
  padded : Padded t v
  shallow : v.height ≤ maxDepth

theorem read?_append (padded : Padded t v) (apart : Apart rest) : ∃ after, Blank after ∧
    read? (t ++ rest) = if v.height ≤ maxDepth then some (v, after ++ rest) else none := by
  have read := padded.reads 0 (2 * (t ++ rest).length + 2) rest (Nat.zero_le _)
    (by rw [List.length_append]; omega) apart
  rwa [Nat.zero_add] at read

/-- What is read in front of something that is no part of it is a document. -/
theorem document_of_read? {body : Text} (padded : Padded body v) (apart : Apart rest)
    (read : read? (body ++ rest) = some (item, after)) : Document body v := by
  obtain ⟨_, -, other⟩ := read?_append padded apart
  rw [read] at other
  split at other
  · next shallow => exact ⟨padded, shallow⟩
  · cases other

theorem Document.read? (document : Document t v) (apart : Apart rest) :
    ∃ after, Blank after ∧ read? (t ++ rest) = some (v, after ++ rest) := by
  obtain ⟨after, back, read⟩ := read?_append document.padded apart
  rw [if_pos document.shallow] at read
  exact ⟨after, back, read⟩

/-- A text is read as a whole exactly if it is JSON, and so it is one document at most. -/
theorem parse?_iff : parse? t = some v ↔ Document t v := by
  simp only [parse?, Option.bind_eq_bind, Option.bind_eq_some_iff, Prod.exists]
  constructor
  · rintro ⟨item, rest, read, ends⟩
    split at ends
    · next empty =>
      cases ends
      obtain ⟨before, body, rfl, front, written⟩ := (reader_takes _).1 _ _ _ _ read
      -- The reader got to the end, so the document is not too deep for it either.
      rw [← List.append_nil (before ++ body ++ rest)] at read
      exact document_of_read? (.around front written (blank_of_skipSpace empty)) apart_nil read
    · cases ends
  · intro document
    obtain ⟨after, back, read⟩ := document.read? apart_nil
    rw [List.append_nil, List.append_nil] at read
    exact ⟨v, after, read, by rw [back.skipSpace]; rfl⟩

end CallPlan.Json
