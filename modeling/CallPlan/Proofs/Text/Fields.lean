import CallPlan.Proofs.Text.Blank

/-!
The words of a text. Every glyph is blank or in a word, and a trimmed text with one word is that word.
-/

namespace CallPlan.Text

variable {t word w : Text} {words : List Text}

theorem mem_fieldsFrom {g : Glyph} (member : g ∈ word ∨ g ∈ t) (shown : g.isBlank = false) :
    ∃ w ∈ fieldsFrom word t, g ∈ w := by
  -- The glyph is in the run being read, which the induction carries along, or in what follows it.
  induction t generalizing word with
  | nil =>
      have inside : g ∈ word := by simpa using member
      have nonempty : word.isEmpty = false := by
        cases word with
        | nil => cases inside
        | cons => rfl
      simpa [fieldsFrom, nonempty] using inside
  | cons first rest ih =>
      unfold fieldsFrom
      by_cases blank : first.isBlank = true
      · have different : g ≠ first := by
          rintro rfl
          rw [blank] at shown
          cases shown
        have member : g ∈ word ∨ g ∈ rest := by simpa [different] using member
        cases word with
        | nil => simpa [blank] using ih (.inr (by simpa using member))
        | cons head tail =>
            simp only [blank, if_true, List.isEmpty_cons, Bool.false_eq_true, if_false]
            rcases member with inside | later
            · exact ⟨_, List.mem_cons_self, List.mem_reverse.mpr inside⟩
            · obtain ⟨w, listed, held⟩ := ih (.inr later)
              exact ⟨w, List.mem_cons_of_mem _ listed, held⟩
      · simp only [blank, Bool.false_eq_true, if_false]
        refine ih ?_
        rcases member with inside | later
        · exact .inl (List.mem_cons_of_mem _ inside)
        · rcases List.mem_cons.mp later with rfl | later
          · exact .inl List.mem_cons_self
          · exact .inr later

theorem mem_fields {g : Glyph} (member : g ∈ t) (shown : g.isBlank = false) :
    ∃ w ∈ t.fields, g ∈ w :=
  mem_fieldsFrom (.inr member) shown

theorem fieldsFrom_nil (none : fieldsFrom word t = []) :
    word = [] ∧ ∀ g ∈ t, g.isBlank = true := by
  induction t generalizing word with
  | nil =>
      cases word with
      | nil => simp
      | cons => simp [fieldsFrom] at none
  | cons first rest ih =>
      unfold fieldsFrom at none
      by_cases blank : first.isBlank = true
      · cases word with
        | nil =>
            have later := (ih (by simpa [blank] using none)).2
            simpa [blank] using later
        | cons => simp [blank] at none
      · have absurd := (ih (by simpa [blank] using none)).1
        cases absurd

/-- The first word of a text stands behind blanks, and ends at a blank or at the end. -/
theorem fieldsFrom_cons (read : fieldsFrom word t = w :: words) :
    ∃ gap run rest, t = gap ++ run ++ rest ∧ w = word.reverse ++ run ∧ (word ≠ [] → gap = []) ∧
      (∀ g ∈ gap, g.isBlank = true) ∧ (∀ g ∈ run, g.isBlank = false) ∧
      (∀ g ∈ rest.head?, g.isBlank = true) ∧ rest.fields = words := by
  induction t generalizing word with
  | nil =>
      cases word with
      | nil => simp [fieldsFrom] at read
      | cons head tail =>
          simp only [fieldsFrom, List.isEmpty_cons, Bool.false_eq_true, if_false, List.cons.injEq] at read
          exact ⟨[], [], [], rfl, by simpa using read.1.symm, by simp, by simp, by simp, by simp, read.2⟩
  | cons first rest ih =>
      unfold fieldsFrom at read
      by_cases blank : first.isBlank = true
      · cases word with
        | nil =>
            obtain ⟨gap, run, rest, rfl, same, _, before, others⟩ := ih (by simpa [blank] using read)
            exact ⟨first :: gap, run, rest, rfl, same, by simp, by simpa [blank] using before, others⟩
        | cons head tail =>
            simp only [blank, if_true, List.isEmpty_cons, Bool.false_eq_true, if_false,
              List.cons.injEq] at read
            have later : fields (first :: rest) = words := by
              simpa [fields, fieldsFrom, blank] using read.2
            exact ⟨[], [], first :: rest, rfl, by simpa using read.1.symm, by simp, by simp, by simp,
              by simpa using blank, later⟩
      · obtain ⟨gap, run, rest, rfl, same, joined, _, shown, others⟩ :=
          ih (by simpa [blank] using read)
        obtain rfl : gap = [] := joined (by simp)
        refine ⟨[], first :: run, rest, rfl, by simpa using same, by simp, by simp, ?_, others⟩
        exact List.forall_mem_cons.mpr ⟨by simpa using blank, shown⟩

theorem fieldsFrom_ne_nil (word t : Text) : ∀ w ∈ fieldsFrom word t, w ≠ [] := by
  induction t generalizing word with
  | nil => cases word <;> simp [fieldsFrom]
  | cons g rest ih =>
      unfold fieldsFrom
      split
      · split
        · exact ih []
        · next nonempty =>
            rw [List.forall_mem_cons]
            exact ⟨by simpa using nonempty, ih []⟩
      · exact ih (g :: word)

theorem exists_of_fields (read : t.fields = w :: words) : ∃ gap rest, t = gap ++ w ++ rest ∧ w ≠ [] ∧
    (∀ g ∈ gap, g.isBlank = true) ∧ (∀ g ∈ w, g.isBlank = false) ∧
    (∀ g ∈ rest.head?, g.isBlank = true) ∧ rest.fields = words := by
  have nonempty := fieldsFrom_ne_nil [] t w (by rw [← fields, read]; exact List.mem_cons_self)
  obtain ⟨gap, run, rest, text, same, _, parts⟩ := fieldsFrom_cons read
  obtain rfl : w = run := same
  exact ⟨gap, rest, text, nonempty, parts⟩

theorem eq_of_fields (trimmed : t.trim = t) (one : t.fields = [w]) : t = w := by
  obtain ⟨gap, rest, rfl, nonempty, before, shown, _, none⟩ := exists_of_fields one
  have after := (fieldsFrom_nil none).2
  have starts : w.StartsFirm := fun g first => shown g (List.mem_of_head? first)
  have ends : w.EndsFirm := fun g last => shown g (List.mem_of_getLast? last)
  rw [← trimmed, trim_append_blank _ after, trim_blank_append before, trim_of_firm starts ends]

/-- A text that has words starts with a blank or with its first word. -/
theorem head_of_fields {t : Text} (read : t.fields = word :: words) :
    ∃ g rest, t = g :: rest ∧ (g.isBlank = true ∨ word.head? = some g) := by
  obtain ⟨gap, rest, rfl, nonempty, before, _⟩ := exists_of_fields read
  cases gap with
  | nil =>
      obtain ⟨g, later, rfl⟩ := List.exists_cons_of_ne_nil nonempty
      exact ⟨g, later ++ rest, rfl, .inr rfl⟩
  | cons g gap => exact ⟨g, gap ++ word ++ rest, rfl, .inl (before g List.mem_cons_self)⟩

theorem fieldsFrom_append {run : Text} (shown : ∀ g ∈ run, g.isBlank = false) (word t : Text) :
    fieldsFrom word (run ++ t) = fieldsFrom (run.reverse ++ word) t := by
  induction run generalizing word with
  | nil => rfl
  | cons g rest ih =>
      rw [List.forall_mem_cons] at shown
      rw [List.cons_append, fieldsFrom, if_neg (by simp [shown.1]), ih shown.2]
      simp

/-- A word is taken off the front of a text at the blank that ends it. -/
theorem fields_cons {g : Glyph} (shown : ∀ g ∈ word, g.isBlank = false) (nonempty : word ≠ [])
    (blank : g.isBlank = true) (t : Text) : fields (word ++ g :: t) = word :: fields t := by
  rw [fields, fieldsFrom_append shown, List.append_nil, fieldsFrom, if_pos blank,
    if_neg (by simpa using nonempty), List.reverse_reverse, fields]

theorem fields_blank_append {gap : Text} (blank : ∀ g ∈ gap, g.isBlank = true) (t : Text) :
    fields (gap ++ t) = fields t := by
  induction gap with
  | nil => rfl
  | cons g rest ih =>
      rw [List.forall_mem_cons] at blank
      rw [fields, List.cons_append, fieldsFrom, if_pos blank.1]
      exact ih blank.2

theorem fields_blank (blank : ∀ g ∈ t, g.isBlank = true) : fields t = [] := by
  simpa [fields, fieldsFrom] using fields_blank_append blank []

theorem fields_append (shown : ∀ g ∈ word, g.isBlank = false) (nonempty : word ≠ [])
    (ends : ∀ g ∈ t.head?, g.isBlank = true) : fields (word ++ t) = word :: fields t := by
  cases t with
  | nil =>
      rw [fields, fieldsFrom_append shown, List.append_nil, fieldsFrom, if_neg (by simpa using nonempty),
        List.reverse_reverse]
      rfl
  | cons g rest =>
      have blank := ends g rfl
      have front : ∀ h ∈ [g], h.isBlank = true := by simpa using blank
      rw [fields_cons shown nonempty blank, ← fields_blank_append front rest, List.singleton_append]

/-- A word with nothing but blanks behind it is the only one. -/
theorem fields_word (shown : ∀ g ∈ word, g.isBlank = false) (nonempty : word ≠ [])
    (blank : ∀ g ∈ t, g.isBlank = true) : fields (word ++ t) = [word] := by
  rw [fields_append shown nonempty fun g first => blank g (List.mem_of_head? first), fields_blank blank]

theorem fieldsFrom_sublist (word t : Text) :
    List.Sublist (fieldsFrom word t).flatten (word.reverse ++ t) := by
  induction t generalizing word with
  | nil => cases word <;> simp [fieldsFrom]
  | cons g rest ih =>
      have later := ih []
      unfold fieldsFrom
      split
      · split
        · next empty =>
            rw [List.isEmpty_iff.mp empty]
            exact later.cons g
        · rw [List.flatten_cons]
          exact (later.cons g).append_left _
      · simpa using ih (g :: word)

theorem fields_sublist (t : Text) : List.Sublist t.fields.flatten t := fieldsFrom_sublist [] t

end CallPlan.Text
