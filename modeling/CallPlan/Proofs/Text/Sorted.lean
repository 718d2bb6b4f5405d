import CallPlan.Proofs.Text.Utf8

/-!
Lists of distinct texts in byte order. Sorting such a list changes nothing, since texts that are read from
the same bytes are the same.
-/

namespace CallPlan.Text

variable {s t : Text} {texts texts' : List Text}

theorem precedes_iff : s.precedes t = true ↔ s.toBytes < t.toBytes := by
  simp [precedes]

/-- Each text of a list precedes those after it. -/
def Ascending (texts : List Text) : Prop := texts.Pairwise fun s t => s.precedes t = true

theorem mem_insertSorted : s ∈ insertSorted t texts ↔ s = t ∨ s ∈ texts := by
  induction texts with
  | nil => simp [insertSorted]
  | cons head rest ih =>
      unfold insertSorted
      split
      · next same => simp [same]
      · split
        · simp
        · rw [List.mem_cons, ih, List.mem_cons]
          exact or_left_comm

theorem mem_sorted : s ∈ sorted texts ↔ s ∈ texts := by
  induction texts with
  | nil => simp [sorted]
  | cons head rest ih =>
      rw [show sorted (head :: rest) = insertSorted head (sorted rest) from rfl, mem_insertSorted, ih,
        List.mem_cons]

theorem insertSorted_ascending (readable : t.Readable) (all : ∀ s ∈ texts, s.Readable)
    (ascending : Ascending texts) : Ascending (insertSorted t texts) := by
  induction texts with
  | nil => exact List.pairwise_singleton _ _
  | cons head rest ih =>
      obtain ⟨first, others⟩ := List.pairwise_cons.mp ascending
      unfold insertSorted
      split
      · exact ascending
      · next different =>
          split
          · next before =>
              refine List.pairwise_cons.mpr ⟨fun s member => ?_, ascending⟩
              rcases List.mem_cons.mp member with rfl | later
              · exact before
              · exact precedes_iff.mpr
                  (List.lt_trans (precedes_iff.mp before) (precedes_iff.mp (first s later)))
          -- Texts that are read from the same bytes are the same, so one that is not before comes after.
          · next notBefore =>
              have after : head.precedes t = true := by
                rw [precedes_iff] at notBefore ⊢
                refine Decidable.byContradiction fun notAfter => different ?_
                exact readable.eq (all head List.mem_cons_self) (List.le_antisymm notAfter notBefore)
              refine List.pairwise_cons.mpr ⟨fun s member => ?_,
                ih (fun s later => all s (List.mem_cons_of_mem _ later)) others⟩
              rcases mem_insertSorted.mp member with rfl | later
              · exact after
              · exact first s later

theorem sorted_ascending_of_readable (all : ∀ s ∈ texts, s.Readable) : Ascending (sorted texts) := by
  induction texts with
  | nil => exact .nil
  | cons head rest ih =>
      have others : ∀ s ∈ rest, s.Readable := fun s later => all s (List.mem_cons_of_mem _ later)
      exact insertSorted_ascending (all head List.mem_cons_self)
        (fun s member => others s (mem_sorted.mp member)) (ih others)

theorem sorted_ascending (all : ∀ s ∈ texts, s.isUnicode = true) : Ascending (sorted texts) :=
  sorted_ascending_of_readable fun s member => ofBytes_toBytes (all s member)

theorem sorted_of_ascending (ascending : Ascending texts) : sorted texts = texts := by
  induction texts with
  | nil => rfl
  | cons head rest ih =>
      obtain ⟨first, others⟩ := List.pairwise_cons.mp ascending
      rw [show sorted (head :: rest) = insertSorted head (sorted rest) from rfl, ih others]
      cases rest with
      | nil => rfl
      | cons next later =>
          have before := first next List.mem_cons_self
          have different : head ≠ next := by
            rintro rfl
            exact List.lt_irrefl _ (precedes_iff.mp before)
          simp [insertSorted, different, before]

theorem sorted_sorted (all : ∀ s ∈ sorted texts, s.isUnicode = true) :
    sorted (sorted texts) = sorted texts :=
  sorted_of_ascending (sorted_ascending fun s member => all s (mem_sorted.mpr member))

theorem Ascending.nodup (ascending : Ascending texts) : texts.Nodup := by
  refine List.Pairwise.imp (fun before => ?_) ascending
  rintro rfl
  exact List.lt_irrefl _ (precedes_iff.mp before)

/-- Which texts there are decides the sorted list, not how often and in which order they come. -/
theorem sorted_eq_of_mem_iff (unicode : ∀ t ∈ texts, t.isUnicode = true)
    (same : ∀ t, t ∈ texts ↔ t ∈ texts') : sorted texts = sorted texts' := by
  have ascending := sorted_ascending unicode
  have ascending' := sorted_ascending fun t member => unicode t ((same t).mpr member)
  have perm : (sorted texts).Perm (sorted texts') := by
    rw [List.perm_ext_iff_of_nodup ascending.nodup ascending'.nodup]
    simpa only [mem_sorted] using same
  refine perm.eq_of_pairwise (fun s t _ _ before after => ?_) ascending ascending'
  exact (List.lt_asymm (precedes_iff.mp before) (precedes_iff.mp after)).elim

theorem length_insertSorted (t : Text) (texts : List Text) :
    (insertSorted t texts).length ≤ texts.length + 1 := by
  induction texts with
  | nil => exact Nat.le_refl _
  | cons head rest ih =>
      unfold insertSorted
      split
      · exact Nat.le_succ _
      · split
        · exact Nat.le_refl _
        · exact Nat.succ_le_succ ih

theorem length_sorted (texts : List Text) : (sorted texts).length ≤ texts.length := by
  induction texts with
  | nil => exact Nat.le_refl _
  | cons head rest ih =>
      exact Nat.le_trans (length_insertSorted head (sorted rest)) (Nat.succ_le_succ ih)

end CallPlan.Text
