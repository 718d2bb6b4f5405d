import CallPlan.Proofs.Signature.Margins

/-!
A list of clauses cut again. Its clauses are pieces of the text they were cut out of, but for blanks, and
each of them opens and closes what it quotes and groups; so a clause alone is cut as it was in its place,
and so are clauses that are put together again.
-/

namespace CallPlan

namespace Text

variable {separator t : Text} {parts : List Text}

theorem infix_join (member : t ∈ parts) : t <:+: join separator parts := by
  cases parts with
  | nil => cases member
  | cons first rest =>
      rw [join_cons]
      rcases List.mem_cons.mp member with rfl | later
      · exact (List.prefix_append _ _).isInfix
      · have piece : separator ++ t <:+: rest.flatMap (separator ++ ·) :=
          List.infix_of_mem_flatten (List.mem_map_of_mem later)
        exact ((List.suffix_append _ _).isInfix.trans piece).trans (List.suffix_append _ _).isInfix

theorem Readable.of_infix {u : Text} (readable : Readable u) (piece : t <:+: u) : Readable t := by
  obtain ⟨before, after, rfl⟩ := piece
  exact readable.within

theorem trim_infix (t : Text) : t.trim <:+: t := by
  obtain ⟨after, whole, -⟩ := t.trim_margins
  exact ⟨_, after, whole.symm⟩

theorem isUnicode_of_isBlank (blank : t.isBlank = true) : t.isUnicode = true := by
  refine isUnicode_iff.mpr fun g member => ?_
  have shown := List.all_eq_true.mp blank g member
  cases g with
  | char c => exact ⟨c, rfl⟩
  | stray byte => cases shown

/-- A separator of characters keeps the bytes of what it separates apart. -/
theorem readable_join (unicode : separator.isUnicode = true) (nonempty : separator ≠ [])
    (readable : ∀ t ∈ parts, Readable t) : Readable (join separator parts) := by
  obtain ⟨mark, separator, rfl⟩ := List.exists_cons_of_ne_nil nonempty
  obtain ⟨c, rfl⟩ := isUnicode_iff.mp unicode mark List.mem_cons_self
  induction parts with
  | nil => exact ofBytes.eq_1
  | cons first rest ih =>
      obtain ⟨here, later⟩ := List.forall_mem_cons.mp readable
      cases rest with
      | nil => rwa [join_cons, List.flatMap_nil, List.append_nil]
      | cons next rest =>
          rw [join, List.intercalate_cons_cons, List.append_assoc]
          exact here.append (.prepend unicode (ih later))

theorem toBytes_join (separator : Text) (parts : List Text) :
    (join separator parts).toBytes = List.intercalate separator.toBytes (parts.map toBytes) := by
  induction parts with
  | nil => rfl
  | cons first rest ih =>
      cases rest with
      | nil => simp [join]
      | cons next rest =>
          rw [join] at ih
          rw [join, List.intercalate_cons_cons, toBytes_append, toBytes_append, ih, List.map_cons,
            List.map_cons, List.map_cons, List.intercalate_cons_cons]

end Text

namespace Split

variable {clause : Text} {clauses : List Text}

theorem split_readable {t : Text} (readable : t.Readable) (cut : split t = .ok clauses) :
    ∀ clause ∈ clauses, clause.Readable := by
  obtain ⟨parts, read, rfl⟩ := split_eq_ok_iff.mp cut
  obtain ⟨_, _, _, text⟩ := segments_text read
  intro clause member
  obtain ⟨part, listed, rfl⟩ := List.mem_map.mp (mem_dropBlankLast member)
  rw [text] at readable
  exact readable.of_infix ((Text.trim_infix part).trans (Text.infix_join listed))

theorem split_alone (whole : Whole clause) (trimmed : clause.trim = clause) :
    split clause = .ok (if clause.isEmpty then [] else [clause]) := by
  rw [split, segments_whole_text whole, except_ok_bind, except_pure, List.map_singleton, trimmed]
  rfl

/-- Splitting is stable on what it returns. A clause is its own only clause, where an empty one is none,
and clauses that are joined at commas, with blanks around them or without, are cut apart again, where the
last of them shows. -/
theorem split_stable {bytes : List UInt8} (cut : split (.ofBytes bytes) = .ok clauses) :
    (∀ clause ∈ clauses,
      split (.ofBytes clause.toBytes) = .ok (if clause.isEmpty then [] else [clause])) ∧
    (clauses.getLast? ≠ some [] →
      ∀ before after : Text, before.isBlank = true → after.isBlank = true →
        split (.ofBytes (List.intercalate (Text.toBytes (before ++ .char ',' :: after))
          (clauses.map Text.toBytes))) = .ok clauses) := by
  have readable := split_readable (Text.readable_ofBytes bytes) cut
  have whole := split_whole cut
  have trimmed := split_trimmed cut
  constructor
  · intro clause member
    rw [readable clause member]
    exact split_alone (whole clause member) (trimmed clause member)
  · intro shown before after early late
    have blankBefore := List.all_eq_true.mp early
    have blankAfter := List.all_eq_true.mp late
    have first := Text.isUnicode_of_isBlank early
    have second := Text.isUnicode_of_isBlank late
    have unicode : Text.isUnicode (before ++ .char ',' :: after) = true :=
      Text.isUnicode_append.mpr ⟨first, second⟩
    rw [← Text.toBytes_join, Text.readable_join unicode (by simp) readable]
    have none : ∀ g ∈ ([] : Text), g.isBlank = true := by simp
    exact split_join none blankBefore blankAfter whole trimmed shown

/-- An escaped quote, nested groups, commas inside both, and a clause with nothing in it. -/
def sparseList : Text := " $s = 'it\\'s, [', ,%o = [1, (2, \x7b3\x7d)] "

def sparseClauses : List Text := ["$s = 'it\\'s, ['", "", "%o = [1, (2, \x7b3\x7d)]"]

theorem split_stable_sparse : split (.ofBytes sparseList.toBytes) = .ok sparseClauses ∧
    (∀ clause ∈ sparseClauses,
      split (.ofBytes clause.toBytes) = .ok (if clause.isEmpty then [] else [clause])) ∧
    split (.ofBytes (List.intercalate (Text.toBytes "\u00a0,\u3000\t") (sparseClauses.map Text.toBytes))) =
      .ok sparseClauses := by
  have cut : split (.ofBytes sparseList.toBytes) = .ok sparseClauses := by
    rw [Text.ofBytes_toBytes (by decide)]
    decide +kernel
  obtain ⟨alone, joined⟩ := split_stable cut
  exact ⟨cut, alone, joined (by decide) "\u00a0" "\u3000\t" (by decide) (by decide)⟩

end Split

end CallPlan
