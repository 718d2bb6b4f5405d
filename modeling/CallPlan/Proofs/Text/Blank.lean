import CallPlan.Text.Blank
import CallPlan.Text.Identifier
import Mathlib.Data.List.DropRight
import Mathlib.Data.List.Flatten

/-!
Trimming leaves nothing to trim. A text that starts and ends with something to see is trimmed, and
identifiers have no blanks in them.
-/

namespace CallPlan.Text

theorem trimStart_trimStart (t : Text) : trimStart (trimStart t) = trimStart t :=
  List.dropWhile_idempotent Glyph.isBlank t

theorem trimEnd_trimEnd (t : Text) : trimEnd (trimEnd t) = trimEnd t :=
  List.rdropWhile_idempotent Glyph.isBlank t

theorem trimStart_trim (t : Text) : trimStart (trim t) = trim t := by
  cases trimmed : trim t with
  | nil => rfl
  | cons g rest =>
      obtain ⟨dropped, whole⟩ : trim t <+: trimStart t := List.rdropWhile_prefix _ _
      rw [trimmed, List.cons_append] at whole
      have shown : g.isBlank = false := by
        have settled := trimStart_trimStart t
        rw [← whole] at settled
        simpa [trimStart] using settled
      simp [trimStart, shown]

theorem trim_trim (t : Text) : trim (trim t) = trim t := by
  rw [trim, trimStart_trim]
  exact trimEnd_trimEnd _

theorem trim_sublist (t : Text) : List.Sublist t.trim t :=
  (List.rdropWhile_prefix Glyph.isBlank t.trimStart).sublist.trans (List.dropWhile_sublist _)

theorem flatten_map_trim (parts : List Text) :
    List.Sublist (parts.map trim).flatten parts.flatten := by
  have each : List.Sublist (parts.flatMap trim) (parts.flatMap id) :=
    .flatMap_right parts fun part _ => trim_sublist part
  simpa only [List.flatMap_def, List.map_id] using each

theorem trim_blank_append {blanks : Text} (blank : ∀ g ∈ blanks, g.isBlank = true) (t : Text) :
    trim (blanks ++ t) = trim t := by
  rw [trim, trimStart, List.dropWhile_append_of_pos blank]
  rfl

theorem trimEnd_append_blanks (t : Text) : trimEnd t ++ (t.reverse.takeWhile Glyph.isBlank).reverse = t := by
  rw [trimEnd, ← List.reverse_append, List.takeWhile_append_dropWhile, List.reverse_reverse]

/-- Every text is its trimmed self between blanks. -/
theorem trim_margins (t : Text) : ∃ after, t = t.takeWhile Glyph.isBlank ++ trim t ++ after ∧
    ∀ g ∈ after, g.isBlank = true := by
  refine ⟨(t.trimStart.reverse.takeWhile Glyph.isBlank).reverse, ?_, fun g member =>
    List.mem_takeWhile_imp (List.mem_reverse.mp member)⟩
  rw [List.append_assoc, trim, trimEnd_append_blanks]
  exact List.takeWhile_append_dropWhile.symm

theorem isBlank_of_trim {t : Text} (none : trim t = []) : t.isBlank = true := by
  obtain ⟨after, whole, behind⟩ := t.trim_margins
  rw [none, List.append_nil] at whole
  refine List.all_eq_true.mpr fun g member => ?_
  rw [whole] at member
  exact (List.mem_append.mp member).elim List.mem_takeWhile_imp (behind g)

theorem trim_of_blank {blanks : Text} (blank : ∀ g ∈ blanks, g.isBlank = true) : trim blanks = [] := by
  have same := trim_blank_append blank []
  rwa [List.append_nil] at same

theorem trimEnd_append_blank {blanks : Text} (t : Text) (blank : ∀ g ∈ blanks, g.isBlank = true) :
    trimEnd (t ++ blanks) = trimEnd t := by
  have blank : ∀ g ∈ blanks.reverse, g.isBlank = true := fun g member =>
    blank g (List.mem_reverse.mp member)
  rw [trimEnd, List.reverse_append, List.dropWhile_append_of_pos blank]
  rfl

theorem trim_append_blank {blanks : Text} (t : Text) (blank : ∀ g ∈ blanks, g.isBlank = true) :
    trim (t ++ blanks) = trim t := by
  unfold trim
  induction t with
  | nil =>
      have none : trimStart ([] ++ blanks) = [] := List.dropWhile_eq_nil_iff.mpr (by simpa using blank)
      rw [none]
      rfl
  | cons g rest ih =>
      rw [List.cons_append]
      cases first : g.isBlank with
      | true => simpa [trimStart, first] using ih
      | false =>
          have kept : ∀ u : Text, trimStart (g :: u) = g :: u := fun u => by simp [trimStart, first]
          rw [kept, kept, ← List.cons_append, trimEnd_append_blank _ blank]

/-! ### Firm texts -/

variable {s t : Text}

def StartsFirm (t : Text) : Prop := ∀ g ∈ t.head?, g.isBlank = false

def EndsFirm (t : Text) : Prop := ∀ g ∈ t.getLast?, g.isBlank = false

theorem StartsFirm.append (firm : StartsFirm s) (nonempty : s ≠ []) (t : Text) :
    StartsFirm (s ++ t) := by
  intro g first
  rw [List.head?_append_of_ne_nil s nonempty] at first
  exact firm g first

theorem EndsFirm.append (s : Text) (firm : EndsFirm t) (nonempty : t ≠ []) : EndsFirm (s ++ t) := by
  intro g last
  rw [List.getLast?_append_of_ne_nil s nonempty] at last
  exact firm g last

theorem EndsFirm.append_firm (first : EndsFirm s) (second : EndsFirm t) : EndsFirm (s ++ t) := by
  by_cases nonempty : t = []
  · rwa [nonempty, List.append_nil]
  · exact second.append s nonempty

theorem endsFirm_flatMap {f : Text → Text} {parts : List Text} (all : ∀ t ∈ parts, EndsFirm (f t)) :
    EndsFirm (parts.flatMap f) := by
  induction parts with
  | nil => intro g last; cases last
  | cons part rest ih =>
      have later := ih fun t member => all t (List.mem_cons_of_mem _ member)
      exact (all part List.mem_cons_self).append_firm later

theorem trimStart_of_firm (starts : StartsFirm t) : trimStart t = t := by
  cases t with
  | nil => rfl
  | cons g rest => simp [trimStart, starts g rfl]

theorem trim_of_firm (starts : StartsFirm t) (ends : EndsFirm t) : trim t = t := by
  cases t with
  | nil => rfl
  | cons g rest =>
      have start := trimStart_of_firm starts
      obtain ⟨before, last, same⟩ := (List.eq_nil_or_concat' (g :: rest)).resolve_left (by simp)
      rw [same] at ends
      rw [trim, start, same]
      simp [trimEnd, ends last (by simp)]

theorem trimEnd_append (ends : EndsFirm s) (nonempty : s ≠ []) (t : Text) :
    trimEnd (s ++ t) = s ++ trimEnd t := by
  obtain ⟨before, last, rfl⟩ := (List.eq_nil_or_concat' s).resolve_left nonempty
  have shown : last.isBlank = false := ends last (by simp)
  unfold trimEnd
  rw [List.reverse_append, List.dropWhile_append]
  split
  · next none =>
      rw [List.isEmpty_iff.mp none]
      simp [shown]
  · simp

theorem head_of_trim {g : Glyph} (rest : Text) (trimmed : trim (g :: rest) = g :: rest) :
    g.isBlank = false := by
  have settled := trimStart_trim (g :: rest)
  rw [trimmed] at settled
  cases blank : g.isBlank with
  | false => rfl
  | true =>
      have shorter : trimStart (g :: rest) = trimStart rest := by simp [trimStart, blank]
      have length := congrArg List.length (shorter.symm.trans settled)
      have bound : (trimStart rest).length ≤ rest.length := List.length_dropWhile_le _ _
      simp only [List.length_cons] at length
      omega

theorem last_of_trim {g : Glyph} (before : Text) (trimmed : trim (before ++ [g]) = before ++ [g]) :
    g.isBlank = false := by
  cases blank : g.isBlank with
  | false => rfl
  | true =>
      have shorter : trimEnd (before ++ [g]) = trimEnd before := by simp [trimEnd, blank]
      have short : (trimEnd before).length ≤ before.length := by
        simpa [trimEnd] using List.length_dropWhile_le Glyph.isBlank before.reverse
      have settled : trimEnd (before ++ [g]) = before ++ [g] := by
        rw [← trimmed]
        exact trimEnd_trimEnd _
      have length := congrArg List.length (shorter.symm.trans settled)
      simp only [List.length_append, List.length_singleton] at length
      omega

theorem endsFirm_of_trim (trimmed : trim t = t) : EndsFirm t := by
  intro g last
  obtain ⟨before, rfl⟩ := List.getLast?_eq_some_iff.mp last
  exact last_of_trim before trimmed

/-! ### Identifiers -/

/-- The intervals of the blank characters. -/
def blankRanges : List (Nat × Nat) :=
  [(0x09, 0x0D), (0x20, 0x20), (0x85, 0x85), (0xA0, 0xA0), (0x1680, 0x1680), (0x2000, 0x200A),
    (0x2028, 0x2029), (0x202F, 0x202F), (0x205F, 0x205F), (0x3000, 0x3000)]

theorem mem_blankRanges {c : Char} (blank : isBlankChar c = true) :
    ∃ range ∈ blankRanges, range.1 ≤ c.toNat ∧ c.toNat ≤ range.2 := by
  simp only [isBlankChar, Bool.or_eq_true, Bool.and_eq_true, decide_eq_true_eq] at blank
  simp only [blankRanges, List.mem_cons, List.not_mem_nil, or_false, exists_eq_or_imp, exists_eq_left]
  omega

/-- Intervals that no blank character is in. -/
def firm (ranges : List (Nat × Nat)) : Bool :=
  ranges.all fun range => blankRanges.all fun blank =>
    Nat.blt range.2 blank.1 || Nat.blt blank.2 range.1

theorem not_blank_of_firm {ranges : List (Nat × Nat)} {c : Char} (apart : firm ranges = true)
    (inside : (ranges.any fun (low, high) => low ≤ c.toNat && c.toNat ≤ high) = true) :
    isBlankChar c = false := by
  cases blank : isBlankChar c with
  | false => rfl
  | true =>
      obtain ⟨⟨low, high⟩, listed, within⟩ := List.any_eq_true.mp inside
      obtain ⟨range, member, lower, upper⟩ := mem_blankRanges blank
      have beside := List.all_eq_true.mp (List.all_eq_true.mp apart _ listed) _ member
      simp only [Bool.or_eq_true, Nat.blt_eq, Bool.and_eq_true, decide_eq_true_eq] at beside within
      omega

theorem letterRanges_firm : firm letterRanges = true := by decide +kernel

theorem digitRanges_firm : firm digitRanges = true := by decide

theorem not_blank_of_ascii {c low high : Char} (inside : (low ≤ c && c ≤ high) = true)
    (graphic : 0x20 < low.toNat) (ascii : c.toNat < 128) : isBlankChar c = false := by
  simp only [Bool.and_eq_true, decide_eq_true_eq, Char.le_def, UInt32.le_iff_toNat_le] at inside
  change low.toNat ≤ c.toNat ∧ c.toNat ≤ high.toNat at inside
  simp only [isBlankChar, Bool.or_eq_false_iff, Bool.and_eq_false_iff, decide_eq_false_iff_not]
  omega

theorem not_blank_of_isLetter {c : Char} (letter : isLetter c = true) : isBlankChar c = false := by
  unfold isLetter at letter
  split at letter
  · next ascii =>
      rcases Bool.or_eq_true_iff.mp letter with small | capital
      · exact not_blank_of_ascii small (by decide) ascii
      · exact not_blank_of_ascii capital (by decide) ascii
  · exact not_blank_of_firm letterRanges_firm letter

theorem not_blank_of_isDigit {c : Char} (digit : isDigit c = true) : isBlankChar c = false := by
  unfold isDigit at digit
  split at digit
  · next ascii => exact not_blank_of_ascii digit (by decide) ascii
  · exact not_blank_of_firm digitRanges_firm digit

theorem numberRanges_firm : firm numberRanges = true := by decide

theorem not_blank_of_isNumber {c : Char} (number : isNumber c = true) : isBlankChar c = false := by
  unfold isNumber at number
  split at number
  · next ascii => exact not_blank_of_ascii number (by decide) ascii
  · exact not_blank_of_firm numberRanges_firm number

theorem isBlank_of_continuesIdentifier {g : Glyph} (continues : g.continuesIdentifier = true) :
    g.isBlank = false := by
  cases g with
  | stray byte => rfl
  | char c =>
      simp only [Glyph.continuesIdentifier, Glyph.startsIdentifier, Bool.or_eq_true, decide_eq_true_eq,
        Glyph.char.injEq] at continues
      rcases continues with (rfl | letter) | digit
      · decide
      · exact not_blank_of_isLetter letter
      · exact not_blank_of_isDigit digit

theorem continues_of_isIdentifier (identifier : t.isIdentifier = true) :
    ∀ g ∈ t, g.continuesIdentifier = true := by
  cases t with
  | nil => cases identifier
  | cons first rest =>
      simp only [isIdentifier, Bool.and_eq_true, List.all_eq_true] at identifier
      intro g member
      rcases List.mem_cons.mp member with rfl | later
      · simp [Glyph.continuesIdentifier, identifier.1]
      · exact identifier.2 g later

theorem endsFirm_of_isIdentifier (identifier : t.isIdentifier = true) : EndsFirm t := fun g last =>
  isBlank_of_continuesIdentifier (continues_of_isIdentifier identifier g (List.mem_of_getLast? last))

theorem ne_nil_of_isIdentifier (identifier : t.isIdentifier = true) : t ≠ [] := by
  rintro rfl
  cases identifier

theorem isUnicode_of_isIdentifier {t : Text} (identifier : t.isIdentifier = true) :
    t.isUnicode = true := by
  refine List.all_eq_true.mpr fun g member => ?_
  have continues := continues_of_isIdentifier identifier g member
  cases g with
  | char c => rfl
  | stray byte => cases continues

end CallPlan.Text
