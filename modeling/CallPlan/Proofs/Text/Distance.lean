import CallPlan.Text.Distance

/-!
Likeness of texts, said without a table. One text is a subsequence of another when it is what is left of it
after some characters are taken out; and the distance between two texts is the least number of single
insertions, deletions and substitutions that lead from one to the other.
-/

namespace CallPlan.Text

variable {s t u s' t' : List Char} {n m : Nat}

theorem isSubsequence_iff : isSubsequence s t = true ↔ s.Sublist t := by
  induction t generalizing s with
  | nil =>
      cases s with
      | nil => simp [isSubsequence]
      | cons a s => simp [isSubsequence]
  | cons b t ih =>
      cases s with
      | nil => simp [isSubsequence]
      | cons a s =>
          rw [isSubsequence]
          split
          · next same => rw [same, ih, List.cons_sublist_cons]
          · next different =>
              rw [ih, List.sublist_cons_iff]
              refine ⟨.inl, fun either => either.resolve_right ?_⟩
              rintro ⟨_, same, _⟩
              exact different (List.cons.inj same).1

/-! ### Alignments -/

/-- An alignment of two texts: each character of one is deleted, or stands over one of the other or over
nothing. It counts what is not equal. -/
inductive Aligned : List Char → List Char → Nat → Prop
  | done : Aligned [] [] 0
  | delete {s t : List Char} {n : Nat} (c : Char) (rest : Aligned s t n) : Aligned (c :: s) t (n + 1)
  | insert {s t : List Char} {n : Nat} (d : Char) (rest : Aligned s t n) : Aligned s (d :: t) (n + 1)
  | replace {s t : List Char} {n : Nat} (c d : Char) (rest : Aligned s t n) :
      Aligned (c :: s) (d :: t) (n + if c = d then 0 else 1)

namespace Aligned

theorem append (first : Aligned s t n) (second : Aligned s' t' m) :
    Aligned (s ++ s') (t ++ t') (n + m) := by
  induction first with
  | done => simpa using second
  | delete c _ ih => simpa only [List.cons_append, Nat.add_right_comm] using ih.delete c
  | insert d _ ih => simpa only [List.cons_append, Nat.add_right_comm] using ih.insert d
  | replace c d _ ih => simpa only [List.cons_append, Nat.add_right_comm] using ih.replace c d

theorem reverse (aligned : Aligned s t n) : Aligned s.reverse t.reverse n := by
  induction aligned with
  | done => exact .done
  | delete c _ ih => simpa using ih.append (.delete c .done)
  | insert d _ ih => simpa using ih.append (.insert d .done)
  | replace c d _ ih => simpa using ih.append (.replace c d .done)

theorem refl : (s : List Char) → Aligned s s 0
  | [] => .done
  | c :: s => by simpa using (refl s).replace c c

theorem deleteAll : (s : List Char) → Aligned s [] s.length
  | [] => .done
  | c :: s => (deleteAll s).delete c

theorem insertAll : (t : List Char) → Aligned [] t t.length
  | [] => .done
  | d :: t => (insertAll t).insert d

/-- An alignment is cut where the second text is. -/
theorem split (aligned : Aligned s (t ++ t') n) : ∃ front back k l,
    s = front ++ back ∧ n = k + l ∧ Aligned front t k ∧ Aligned back t' l := by
  generalize whole : t ++ t' = target at aligned
  induction aligned generalizing t with
  | done =>
      obtain ⟨rfl, rfl⟩ := List.append_eq_nil_iff.mp whole
      exact ⟨[], [], 0, 0, rfl, rfl, .done, .done⟩
  | delete c _ ih =>
      obtain ⟨front, back, k, l, rfl, rfl, first, second⟩ := ih whole
      exact ⟨c :: front, back, k + 1, l, rfl, by omega, first.delete c, second⟩
  | @insert s _ n d rest ih =>
      cases t with
      | nil =>
          obtain rfl : t' = _ := whole
          exact ⟨[], s, 0, n + 1, rfl, (Nat.zero_add _).symm, .done, rest.insert d⟩
      | cons head tail =>
          obtain ⟨rfl, tails⟩ := List.cons.inj whole
          obtain ⟨front, back, k, l, rfl, rfl, first, second⟩ := ih tails
          exact ⟨front, back, k + 1, l, rfl, by omega, first.insert head, second⟩
  | @replace s _ n c d rest ih =>
      cases t with
      | nil =>
          obtain rfl : t' = _ := whole
          exact ⟨[], c :: s, 0, _, rfl, (Nat.zero_add _).symm, .done, rest.replace c d⟩
      | cons head tail =>
          obtain ⟨rfl, tails⟩ := List.cons.inj whole
          obtain ⟨front, back, k, l, rfl, rfl, first, second⟩ := ih tails
          exact ⟨c :: front, back, _, l, rfl, by omega, first.replace c head, second⟩

/-- What stands over a character can be deleted. -/
theorem drop {d : Char} (aligned : Aligned s (d :: t) n) : ∃ k, k ≤ n + 1 ∧ Aligned s t k := by
  generalize whole : d :: t = target at aligned
  induction aligned with
  | done => cases whole
  | delete c _ ih =>
      obtain ⟨k, bound, rest⟩ := ih whole
      exact ⟨k + 1, by omega, rest.delete c⟩
  | insert _ rest =>
      cases whole
      exact ⟨_, by omega, rest⟩
  | replace c _ rest =>
      cases whole
      exact ⟨_, by omega, rest.delete c⟩

theorem substitute {d : Char} (aligned : Aligned s (d :: t) n) (c : Char) :
    ∃ k, k ≤ n + 1 ∧ Aligned s (c :: t) k := by
  generalize whole : d :: t = target at aligned
  induction aligned with
  | done => cases whole
  | delete own _ ih =>
      obtain ⟨k, bound, rest⟩ := ih whole
      exact ⟨k + 1, by omega, rest.delete own⟩
  | insert _ rest =>
      cases whole
      exact ⟨_, by omega, rest.insert c⟩
  | replace own _ rest =>
      cases whole
      exact ⟨_, by split <;> omega, rest.replace own c⟩

end Aligned

/-- The least count of an alignment, by how two texts start. -/
def cost : List Char → List Char → Nat
  | [], t => t.length
  | c :: s, [] => (c :: s).length
  | c :: s, d :: t =>
      min (min (cost (c :: s) t + 1) (cost s (d :: t) + 1)) (cost s t + if c = d then 0 else 1)

@[simp] theorem cost_nil (s : List Char) : cost s [] = s.length := by
  cases s <;> simp [cost]

theorem cost_delete_le (c : Char) (s t : List Char) : cost (c :: s) t ≤ cost s t + 1 := by
  cases t with
  | nil => simp
  | cons d t =>
      rw [cost]
      omega

theorem cost_insert_le (d : Char) (s t : List Char) : cost s (d :: t) ≤ cost s t + 1 := by
  cases s with
  | nil => simp [cost]
  | cons c s =>
      rw [cost]
      omega

theorem Aligned.cost_le (aligned : Aligned s t n) : cost s t ≤ n := by
  induction aligned with
  | done => simp
  | @delete s t n c _ ih =>
      have step := cost_delete_le c s t
      omega
  | @insert s t n d _ ih =>
      have step := cost_insert_le d s t
      omega
  | @replace s t n c d _ ih =>
      rw [cost]
      omega

theorem aligned_cost (s t : List Char) : Aligned s t (cost s t) := by
  induction s, t using cost.induct with
  | case1 t => simpa [cost] using Aligned.insertAll t
  | case2 c s => simpa using Aligned.deleteAll (c :: s)
  | case3 c s d t inserted deleted replaced =>
      rw [cost]
      rcases Nat.le_total (min (cost (c :: s) t + 1) (cost s (d :: t) + 1))
        (cost s t + if c = d then 0 else 1) with least | least
      · rw [Nat.min_eq_left least]
        rcases Nat.le_total (cost (c :: s) t + 1) (cost s (d :: t) + 1) with fewer | fewer
        · rw [Nat.min_eq_left fewer]
          exact inserted.insert d
        · rw [Nat.min_eq_right fewer]
          exact deleted.delete c
      · rw [Nat.min_eq_right least]
        exact replaced.replace c d

/-- It makes no difference from which end the texts are read. -/
theorem cost_reverse (s t : List Char) : cost s.reverse t.reverse = cost s t := by
  have back := (aligned_cost s.reverse t.reverse).reverse
  rw [List.reverse_reverse, List.reverse_reverse] at back
  exact Nat.le_antisymm (aligned_cost s t).reverse.cost_le back.cost_le

/-! ### Single edits -/

/-- One insertion, deletion or substitution of a character. -/
inductive Edit : List Char → List Char → Prop
  | insert (front back : List Char) (c : Char) : Edit (front ++ back) (front ++ c :: back)
  | delete (front back : List Char) (c : Char) : Edit (front ++ c :: back) (front ++ back)
  | substitute (front back : List Char) (c d : Char) : Edit (front ++ c :: back) (front ++ d :: back)

/-- A number of edits, one after another. -/
inductive Edits : Nat → List Char → List Char → Prop
  | none (s : List Char) : Edits 0 s s
  | snoc {n : Nat} {s t u : List Char} (earlier : Edits n s t) (last : Edit t u) : Edits (n + 1) s u

theorem Edit.cons (c : Char) (edit : Edit s t) : Edit (c :: s) (c :: t) := by
  cases edit with
  | insert front back d => exact .insert (c :: front) back d
  | delete front back d => exact .delete (c :: front) back d
  | substitute front back d e => exact .substitute (c :: front) back d e

theorem Edits.cons (c : Char) (edits : Edits n s t) : Edits n (c :: s) (c :: t) := by
  induction edits with
  | none s => exact .none (c :: s)
  | snoc _ last ih => exact ih.snoc (last.cons c)

theorem Edits.trans (first : Edits n s t) (second : Edits m t u) : Edits (n + m) s u := by
  induction second with
  | none => exact first
  | snoc _ last ih => exact (ih first).snoc last

/-- An alignment is carried out edit by edit. -/
theorem Aligned.edits (aligned : Aligned s t n) : Edits n s t := by
  induction aligned with
  | done => exact .none []
  | @delete s t n c _ ih =>
      have first : Edits 1 (c :: s) s := .snoc (.none _) (.delete [] s c)
      exact Nat.add_comm 1 n ▸ first.trans ih
  | @insert s t n d _ ih => exact ih.snoc (.insert [] t d)
  | @replace s t n c d _ ih =>
      by_cases same : c = d
      · subst same
        simpa using ih.cons c
      · rw [if_neg same]
        exact (ih.cons c).snoc (.substitute [] t c d)

/-- One more edit costs an alignment at most one more. -/
theorem Aligned.edit (aligned : Aligned s t n) (edit : Edit t u) : ∃ k, k ≤ n + 1 ∧ Aligned s u k := by
  cases edit with
  | insert front back c =>
      obtain ⟨_, _, k, l, rfl, rfl, first, second⟩ := aligned.split
      exact ⟨_, by omega, first.append (second.insert c)⟩
  | delete front back c =>
      obtain ⟨_, _, k, l, rfl, rfl, first, second⟩ := aligned.split
      obtain ⟨_, bound, rest⟩ := second.drop
      exact ⟨_, by omega, first.append rest⟩
  | substitute front back c d =>
      obtain ⟨_, _, k, l, rfl, rfl, first, second⟩ := aligned.split
      obtain ⟨_, bound, rest⟩ := second.substitute d
      exact ⟨_, by omega, first.append rest⟩

theorem Edits.cost_le (edits : Edits n s t) : cost s t ≤ n := by
  have bound : ∃ k, k ≤ n ∧ Aligned s t k := by
    induction edits with
    | none s => exact ⟨0, Nat.le_refl 0, .refl s⟩
    | snoc _ last ih =>
        obtain ⟨k, few, aligned⟩ := ih
        obtain ⟨l, more, aligned⟩ := aligned.edit last
        exact ⟨l, by omega, aligned⟩
  obtain ⟨k, few, aligned⟩ := bound
  exact Nat.le_trans aligned.cost_le few

/-! ### The table -/

/-- A row of the table: what it costs to come from `s` to `u` with one or more characters of the target in
front. Both are reversed, as the table starts with their ends. -/
def row (s u : List Char) : List Char → List Nat
  | [] => []
  | d :: target => cost s (d :: u) :: row s (d :: u) target

theorem row_nil (u target : List Char) :
    row [] u target = (List.range target.length).map (· + (u.length + 1)) := by
  induction target generalizing u with
  | nil => rfl
  | cons d target ih =>
      rw [row, ih]
      simp [cost, List.range_succ_eq_map, Nat.add_comm, Nat.add_left_comm]

theorem distanceRow_eq (c : Char) (s u target : List Char) :
    distanceRow c (cost (c :: s) u) (cost s u) target (row s u target) = row (c :: s) u target := by
  induction target generalizing u with
  | nil => rfl
  | cons d target ih =>
      have entry : min (min (cost (c :: s) u + 1) (cost s (d :: u) + 1))
          (cost s u + if c = d then 0 else 1) = cost (c :: s) (d :: u) := by rw [cost]
      simp only [row, distanceRow, entry, ih]

theorem distanceRows_eq (target source s : List Char) :
    distanceRows target s.length (row s [] target) source = row (source.reverse ++ s) [] target := by
  induction source generalizing s with
  | nil => rfl
  | cons c source ih =>
      have step := distanceRow_eq c s [] target
      simp only [cost_nil, List.length_cons] at step
      rw [distanceRows, step]
      simpa using ih (c :: s)

theorem getLast?_row (s u target : List Char) :
    ((row s u target).getLast?).getD (cost s u) = cost s (target.reverse ++ u) := by
  induction target generalizing u with
  | nil => rfl
  | cons d target ih =>
      rw [row, List.getLast?_cons, Option.getD_some, ih, List.reverse_cons, List.append_assoc]
      rfl

theorem distance_eq_cost (s t : Text) :
    distance s t = cost (s.map Glyph.scalar) (t.map Glyph.scalar) := by
  have first : (List.range (t.map Glyph.scalar).length).map (· + 1) = row [] [] (t.map Glyph.scalar) :=
    (row_nil [] _).symm
  have rows := distanceRows_eq (t.map Glyph.scalar) (s.map Glyph.scalar) []
  have last := getLast?_row ((s.map Glyph.scalar).reverse ++ []) [] (t.map Glyph.scalar)
  rw [← cost_reverse]
  simp only [List.append_nil, cost_nil, List.length_reverse, List.length_map] at last
  simp only [List.append_nil] at rows
  rw [← last, distance, first]
  exact congrArg (fun row => (List.getLast? row).getD s.length) rows

/-- So many edits lead from one text to the other, and no fewer. -/
def LeastEdits (s t : Text) (n : Nat) : Prop :=
  Edits n (s.map Glyph.scalar) (t.map Glyph.scalar) ∧
    ∀ m, Edits m (s.map Glyph.scalar) (t.map Glyph.scalar) → n ≤ m

/-- The distance between two texts is the least number of edits from one to the other. -/
theorem distance_least (s t : Text) : LeastEdits s t (distance s t) := by
  rw [distance_eq_cost]
  exact ⟨(aligned_cost _ _).edits, fun n edits => edits.cost_le⟩

end CallPlan.Text
