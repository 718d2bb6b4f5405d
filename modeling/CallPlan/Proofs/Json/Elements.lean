import CallPlan.Proofs.Json.Reading
import Mathlib.Data.List.Forall2

/-!
The items of a list as they are written. The text of a list is cut where its items end, and each piece
writes the item that the list has in its place. A text that can be cut is a list.
-/

namespace CallPlan.Json

variable {g : Glyph} {t before body after rest tail : Text} {v : Json} {items : List Json}
  {raws : List Text} {fuel : Nat}

theorem take_front (front back : Text) :
    (front ++ back).take ((front ++ back).length - back.length) = front := by
  rw [List.length_append, Nat.add_sub_cancel, List.take_left]

/-! ## Cutting a list -/

theorem Written.value?_item (written : Written body v) (shallow : 1 + v.height ≤ maxDepth)
    (apart : Apart rest) (start : skipSpace t = body ++ rest) :
    value? 1 (2 * t.length + 2) (body ++ rest) = some (v, rest) := by
  have whole : (skipSpace t).length ≤ t.length := List.length_dropWhile_le _ _
  rw [start, List.length_append] at whole
  rw [written.reads 1 (2 * t.length + 2) rest (by decide) (by omega) apart, if_pos shallow]

theorem rawItems?_more (written : Written body v) (shallow : 1 + v.height ≤ maxDepth) (blank : Blank after)
    (start : skipSpace t = body ++ (after ++ .char ',' :: tail)) :
    rawItems? (fuel + 1) t = (rawItems? fuel tail).map (body :: ·) := by
  have apart := apart_blank blank (apart_token (g := .char ',') (by decide) tail)
  have next := skipSpace_token blank (g := .char ',') (by decide) tail
  simp only [rawItems?, written.value?_item shallow apart start, start, Option.bind_eq_bind,
    Option.bind_some, next, take_front]
  cases rawItems? fuel tail <;> rfl

theorem rawItems?_last (written : Written body v) (shallow : 1 + v.height ≤ maxDepth) (blank : Blank after)
    (start : skipSpace t = body ++ (after ++ .char ']' :: tail)) (ends : Blank tail) :
    rawItems? (fuel + 1) t = some [body] := by
  have apart := apart_blank blank (apart_token (g := .char ']') (by decide) tail)
  have next := skipSpace_token blank (g := .char ']') (by decide) tail
  simp only [rawItems?, written.value?_item shallow apart start, start, Option.bind_eq_bind,
    Option.bind_some, next, take_front, ends.skipSpace]
  rfl

/-- A padded document in front of something starts with its text. -/
theorem Padded.start (padded : Padded t v) : ∃ body after, Written body v ∧ Blank after ∧
    ∀ rest, skipSpace (t ++ rest) = body ++ (after ++ rest) := by
  cases padded with
  | @around before body after _ front written back =>
      refine ⟨body, after, written, back, fun rest => ?_⟩
      obtain ⟨g, tail, rfl, shown, -⟩ := written.head
      rw [List.append_assoc, List.append_assoc, skipSpace_blank front, List.cons_append,
        skipSpace_shown shown]

theorem rawItems?_items (written : Items body items) (shallow : 1 + heightItems items ≤ maxDepth)
    (enough : items.length ≤ fuel) (ends : Blank after)
    (start : skipSpace t = skipSpace (body ++ .char ']' :: after)) :
    ∃ raws, rawItems? fuel t = some raws ∧ List.Forall₂ Written raws items := by
  induction items generalizing body fuel t with
  | nil => cases written
  | cons item rest ih =>
      obtain ⟨fuel, rfl⟩ : ∃ less, fuel = less + 1 :=
        Nat.exists_eq_add_one_of_ne_zero (by rw [List.length_cons] at enough; omega)
      rw [heightItems] at shallow
      cases written with
      | last padded =>
          obtain ⟨raw, gap, written, blank, cut⟩ := padded.start
          rw [cut] at start
          exact ⟨[raw], rawItems?_last written (by omega) blank start ends, .cons written .nil⟩
      | @more t' body' _ _ padded others =>
          obtain ⟨raw, gap, written, blank, cut⟩ := padded.start
          rw [List.append_assoc, List.cons_append, cut] at start
          obtain ⟨raws, read, each⟩ := ih others (by omega) (by simpa using enough) rfl
          exact ⟨raw :: raws, by rw [rawItems?_more written (by omega) blank start, read]; rfl,
            .cons written each⟩

theorem Items.length_le (written : Items body items) : items.length ≤ body.length + 1 := by
  induction items generalizing body with
  | nil => exact Nat.zero_le _
  | cons item rest ih =>
      cases written with
      | last => simp
      | more padded others =>
          have later := ih others
          simp only [List.length_cons, List.length_append]
          omega

/-- The comma behind an item is not skipped. -/
theorem Items.length_le_skip (written : Items body items) (rest : Text) :
    items.length ≤ (skipSpace (body ++ rest)).length + 1 := by
  cases written with
  | last => simp
  | more padded others =>
      obtain ⟨raw, gap, -, -, cut⟩ := padded.start
      have later := others.length_le
      rw [List.append_assoc, cut]
      simp only [List.length_cons, List.length_append]
      omega

theorem elements?_empty (start : skipSpace t = .char '[' :: body) (closed : skipSpace body = .char ']' :: after)
    (ends : Blank after) : elements? t = some [] := by
  simp only [elements?, start, closed, ends.skipSpace]
  rfl

theorem elements?_items (start : skipSpace t = .char '[' :: body) (shown : skipSpace body = g :: tail)
    (other : g ≠ .char ']') :
    elements? t = rawItems? ((skipSpace body).length + 1) (skipSpace body) := by
  simp only [elements?, start, shown]
  split
  · next equal => exact absurd (List.cons.inj equal).1 other
  · rfl

/-- A list is cut into texts that write its items. -/
theorem Document.elements (document : Document t (.list items)) :
    ∃ raws, elements? t = some raws ∧ List.Forall₂ Written raws items := by
  obtain ⟨padded, shallow⟩ := document
  obtain ⟨text, after, written, ends, cut⟩ := padded.start
  have start := cut []
  rw [List.append_nil, List.append_nil] at start
  cases written with
  | emptyList blank =>
      simp only [List.append_assoc, List.cons_append, List.nil_append] at start
      exact ⟨[], elements?_empty start (skipSpace_token blank (by decide) after) ends, .nil⟩
  | @list body _ written =>
      simp only [List.append_assoc, List.cons_append, List.nil_append] at start
      obtain ⟨g, tail, shown, other⟩ := written.head (.char ']' :: after)
      rw [elements?_items start shown other]
      exact rawItems?_items written (by rw [height] at shallow; omega) (written.length_le_skip _) ends
        (skipSpace_skipSpace _)

/-! ## What can be cut is a list -/

theorem Blank.append (front : Blank before) (back : Blank after) : Blank (before ++ after) :=
  fun g member => (List.mem_append.mp member).elim (front g) (back g)

theorem Padded.blank_append (blank : Blank before) (padded : Padded t v) : Padded (before ++ t) v := by
  cases padded with
  | around front written back =>
      rw [← List.append_assoc, ← List.append_assoc]
      exact .around (blank.append front) written back

theorem Items.blank_append (blank : Blank before) (written : Items body items) :
    Items (before ++ body) items := by
  cases written with
  | last padded => exact .last (padded.blank_append blank)
  | more padded others =>
      rw [← List.append_assoc]
      exact .more (padded.blank_append blank) others

theorem padded_of_value? (first : value? 1 (2 * t.length + 2) (skipSpace t) = some (v, rest))
    (listed : g ∈ [.char ',', .char ']', .char '\x7d']) (next : skipSpace rest = g :: tail) :
    ∃ body, t = body ++ g :: tail ∧ Padded body v ∧ 1 + v.height ≤ maxDepth := by
  rw [value?_skipSpace] at first
  obtain ⟨body, rfl, padded⟩ := ((reader_takes _).1 _ _ _ _ first).padded next
  obtain ⟨_, -, again⟩ := padded.reads 1 (2 * (body ++ g :: tail).length + 2) (g :: tail) (by decide)
    (by rw [List.length_append]; omega) (apart_token listed tail)
  rw [first] at again
  split at again
  · next shallow => exact ⟨body, rfl, padded, shallow⟩
  · cases again

theorem items_of_rawItems? (read : rawItems? fuel t = some raws) : ∃ body after items,
    t = body ++ .char ']' :: after ∧ Items body items ∧ Blank after ∧ 1 + heightItems items ≤ maxDepth := by
  induction fuel generalizing t raws with
  | zero => cases read
  | succ fuel ih =>
      simp only [rawItems?, Option.bind_eq_bind, Option.bind_eq_some_iff, Prod.exists] at read
      obtain ⟨v, rest, first, read⟩ := read
      split at read
      · next tail next =>
        simp only [Option.bind_eq_some_iff] at read
        obtain ⟨others, later, -⟩ := read
        obtain ⟨front, rfl, padded, shallow⟩ := padded_of_value? first (by decide) next
        obtain ⟨body, after, items, rfl, written, blank, shallows⟩ := ih later
        refine ⟨_, after, v :: items, ?_, .more padded written, blank, ?_⟩
        · simp
        · rw [heightItems]
          omega
      · next tail next =>
        split at read
        · next ends =>
          obtain ⟨body, rfl, padded, shallow⟩ := padded_of_value? first (by decide) next
          refine ⟨body, tail, [v], rfl, .last padded, blank_of_skipSpace ends, ?_⟩
          rw [heightItems, heightItems]
          omega
        · cases read
      · cases read

theorem document_of_elements? (read : elements? t = some raws) : ∃ items, Document t (.list items) := by
  obtain ⟨before, front, whole⟩ := skipSpace_eq t
  unfold elements? at read
  split at read
  · next inner start =>
    have around {list after : Text} {items : List Json} (written : Written list (.list items))
        (text : .char '[' :: inner = list ++ after) (ends : Blank after)
        (shallow : (Json.list items).height ≤ maxDepth) : Document t (.list items) := by
      rw [whole, start, text, ← List.append_assoc]
      exact ⟨.around front written ends, shallow⟩
    obtain ⟨gap, blank, spaced⟩ := skipSpace_eq inner
    split at read
    · next after closed =>
      split at read
      · next ends =>
        rw [closed] at spaced
        exact ⟨[], around (.emptyList blank) (by simp [spaced]) (blank_of_skipSpace ends) (by decide)⟩
      · cases read
    · obtain ⟨body, after, items, text, written, ends, shallow⟩ := items_of_rawItems? read
      rw [text] at spaced
      refine ⟨items, around (.list (written.blank_append blank)) (by simp [spaced]) ends ?_⟩
      rw [height]
      omega
  · cases read

end CallPlan.Json
