import CallPlan.Proofs.Plan.Reading
import CallPlan.Proofs.Data.Entries

/-!
Key/value lists. The plan reads them pair by pair from the front; the direct reading asks for the pair
at a number. Both find the same fault, the same last place of each key and the same unknown keys.
-/

namespace CallPlan.Reading

variable {first second : Value} {rest : List Value} {key : Text}

@[simp] theorem keyAt?_zero : keyAt? (first :: second :: rest) 0 = first.text? := by
  simp [keyAt?]

@[simp] theorem keyAt?_succ (pair : Nat) :
    keyAt? (first :: second :: rest) (pair + 1) = keyAt? rest pair := by
  simp [keyAt?, Nat.mul_add]

theorem pairs_length : (first :: second :: rest).length / 2 = rest.length / 2 + 1 := by
  simp only [List.length_cons]
  omega

theorem keys_cons : keys (first :: second :: rest) = first.text?.toList ++ keys rest := by
  have shifted : (keyAt? (first :: second :: rest) ∘ Nat.succ) = keyAt? rest :=
    funext keyAt?_succ
  rw [keys, pairs_length, List.range_succ_eq_map, List.filterMap_cons, List.filterMap_map, shifted]
  cases text : first.text? with
  | none => simp [keys, text]
  | some key => simp [keys, text]

theorem lastPair?_cons : lastPair? (first :: second :: rest) key =
    ((lastPair? rest key).map (· + 1)).or (if first.text? = some key then some 0 else none) := by
  have shifted : (fun pair => decide (keyAt? (first :: second :: rest) pair = some key)) ∘ Nat.succ =
      fun pair => decide (keyAt? rest pair = some key) :=
    funext fun pair => congrArg (fun found => decide (found = some key)) (keyAt?_succ pair)
  rw [lastPair?, pairs_length, List.range_succ_eq_map, List.reverse_cons, List.find?_append,
    ← List.map_reverse, List.find?_map, shifted]
  simp [lastPair?]

theorem keyFault?_cons (position : Nat) : keyFault? position (first :: second :: rest) =
    if first.text?.isSome then keyFault? (position + 2) rest
    else some (.keyNotText position first.type?) := by
  rw [keyFault?, pairs_length, List.range_succ_eq_map, List.findSome?_cons, List.findSome?_map]
  cases text : first.text? with
  | none => simp [text]
  | some key =>
      have shifted (pair : Nat) : position + 2 * (pair + 1) = position + 2 + 2 * pair := by omega
      have skipped (pair : Nat) : (first :: second :: rest)[2 * (pair + 1)]? = rest[2 * pair]? := by
        simp [Nat.mul_add]
      simp [text, keyFault?, Function.comp_def, shifted, skipped]

/-- Reading pairs finds the first fault, or else where each key stands last. -/
theorem offsetsFrom_eq (position : Nat) (list : List Value) (even : list.length % 2 = 0) :
    match keyFault? position list with
    | some fault => Arguments.offsetsFrom position list = .error fault
    | none => ∃ offsets, Arguments.offsetsFrom position list = .ok offsets ∧
        ∀ key, offsets.get? key = (lastPair? list key).map (position + 2 * ·) := by
  -- An offset that a later pair has given is kept, which makes it that of the last pair with the key.
  fun_induction Arguments.offsetsFrom position list with
  | case1 position first second rest text => simp [keyFault?_cons, text]
  | case2 position first second rest key text ih =>
      have inner := ih (by simp only [List.length_cons] at even; omega)
      simp only [keyFault?_cons, text, Option.isSome_some, if_true]
      cases fault : keyFault? (position + 2) rest with
      | some fault =>
          simp only [fault] at inner
          simp [inner, bind, Except.bind]
      | none =>
          simp only [fault] at inner
          obtain ⟨later, read, found⟩ := inner
          refine ⟨_, by rw [read]; rfl, ?_⟩
          intro other
          have among : later.has key = (lastPair? rest key).isSome := by
            simp [Entries.has, found]
          rw [lastPair?_cons, text]
          cases last : lastPair? rest other with
          | some pair =>
              have placed : later.get? other = some (position + 2 * (pair + 1)) := by
                rw [found, last]
                simp only [Option.map_some]
                congr 1
                omega
              split
              · simpa using placed
              · next absent =>
                  have different : key ≠ other := by
                    rintro rfl
                    simp [among, last] at absent
                  simpa [Entries.get?_cons, different] using placed
          | none =>
              have absent : later.get? other = none := by simp [found, last]
              split
              · next present =>
                  have different : key ≠ other := by
                    rintro rfl
                    simp [among, last] at present
                  simpa [different] using absent
              · by_cases same : key = other
                · simp [Entries.get?_cons, same]
                · simpa [Entries.get?_cons, same] using absent
  | case3 list position short =>
      rcases list with _ | ⟨first, _ | ⟨second, rest⟩⟩
      · simp [keyFault?, lastPair?, Entries.get?]
      · simp at even
      · exact (short first second rest rfl).elim

theorem pairs_eq (list : List Value) :
    match pairFault? list with
    | some fault => Arguments.pairs list = .error fault
    | none => ∃ offsets, Arguments.pairs list = .ok offsets ∧
        ∀ key, offsets.get? key = (lastPair? list key).map (2 * ·) := by
  unfold pairFault? Arguments.pairs
  by_cases odd : list.length % 2 = 1
  · simp [odd]
  · have even : list.length % 2 = 0 := by omega
    have read := offsetsFrom_eq 0 list even
    simp only [Nat.zero_add] at read
    rwa [if_neg odd, if_neg (not_not_intro even)]

theorem lastPair?_bound {list : List Value} {pair : Nat} (found : lastPair? list key = some pair) :
    2 * pair + 1 < list.length := by
  have member := List.mem_of_find?_eq_some found
  simp only [List.mem_reverse, List.mem_range] at member
  omega

theorem lastPair?_key {list : List Value} {pair : Nat} (found : lastPair? list key = some pair) :
    keyAt? list pair = some key := by
  simpa only [decide_eq_true_eq] using List.find?_some found

theorem valueOf?_cons : valueOf? (first :: second :: rest) key =
    (valueOf? rest key).or (if first.text? = some key then some second else none) := by
  unfold valueOf?
  rw [lastPair?_cons]
  cases last : lastPair? rest key with
  | none => by_cases here : first.text? = some key <;> simp [here]
  | some pair =>
      have present := List.getElem?_eq_getElem (lastPair?_bound last)
      simp [Nat.mul_add, present]

theorem even_of_pairFault? {list : List Value} (wellFormed : pairFault? list = none) :
    list.length % 2 = 0 ∧ keyFault? 0 list = none := by
  unfold pairFault? at wellFormed
  split at wellFormed
  · cases wellFormed
  · exact ⟨by omega, wellFormed⟩

/-- A list whose items are replaced is still one of pairs if the texts in it are replaced by texts. -/
theorem pairFault?_replaced {list later : List Value} (length : later.length = list.length)
    (texts : ∀ (index : Nat) (value : Value), list[index]? = some value → value.text?.isSome →
      ∃ value, later[index]? = some value ∧ value.text?.isSome)
    (wellFormed : pairFault? list = none) : pairFault? later = none := by
  obtain ⟨even, keys⟩ := even_of_pairFault? wellFormed
  rw [keyFault?, List.findSome?_eq_none_iff] at keys
  rw [pairFault?, if_neg (by omega), keyFault?, List.findSome?_eq_none_iff]
  intro pair member
  rw [length] at member
  have within : 2 * pair < list.length := by
    have bound := List.mem_range.mp member
    omega
  have found := List.getElem?_eq_getElem within
  have key := keys pair member
  rw [found, Option.bind_some] at key
  split at key
  · next text =>
      obtain ⟨value, replaced, text⟩ := texts _ _ found text
      rw [replaced, Option.bind_some, if_pos text]
  · cases key

/-- Gathering well-formed pairs gives each key its last value. -/
theorem pairEntries_eq {list : List Value} (entries : Entries Value) (position : Nat)
    (even : list.length % 2 = 0) (texts : keyFault? position list = none) :
    ∃ gathered, Plan.Call.pairEntries entries list = .ok gathered ∧
      ∀ key, gathered.get? key = (valueOf? list key).or (entries.get? key) := by
  fun_induction Plan.Call.pairEntries entries list generalizing position with
  | case1 entries first second rest key text ih =>
      rw [keyFault?_cons, text] at texts
      obtain ⟨gathered, read, found⟩ := ih (position + 2)
        (by simp only [List.length_cons] at even; omega) (by simpa using texts)
      refine ⟨gathered, read, fun other => ?_⟩
      rw [found, valueOf?_cons, Entries.get?_put, text]
      cases valueOf? rest other with
      | some value => rfl
      | none => by_cases same : key = other <;> simp [same]
  | case2 entries first second rest text => simp [keyFault?_cons, text] at texts
  | case3 list entries short =>
      match list with
      | [] => exact ⟨entries, rfl, fun key => by simp [valueOf?, lastPair?]⟩
      | [value] => simp at even
      | first :: second :: rest => exact (short first second rest rfl).elim

theorem keysOf_eq {list : List Value} (wellFormed : pairFault? list = none) :
    Plan.keysOf list = .ok (keys list) := by
  obtain ⟨even, noFault⟩ := even_of_pairFault? wellFormed
  have texts : ∃ position, keyFault? position list = none := ⟨0, noFault⟩
  clear noFault
  clear wellFormed
  fun_induction Plan.keysOf list with
  | case1 first second rest key text ih =>
      obtain ⟨position, noFault⟩ := texts
      rw [keyFault?_cons, text] at noFault
      rw [ih (by simp only [List.length_cons] at even; omega) ⟨_, by simpa using noFault⟩,
        keys_cons, text]
      rfl
  | case2 first second rest text =>
      obtain ⟨position, noFault⟩ := texts
      simp [keyFault?_cons, text] at noFault
  | case3 list short =>
      match list with
      | [] => rfl
      | [value] => simp at even
      | first :: second :: rest => exact (short first second rest rfl).elim

theorem unknownKeys_eq (known seen given : List Text) :
    Plan.unknownKeys known seen given =
      ((given.filter (!known.contains ·)).filter (!seen.contains ·)).eraseDups := by
  induction given generalizing seen with
  | nil => rfl
  | cons key rest ih =>
      simp only [Plan.unknownKeys]
      cases declared : known.contains key with
      | true =>
          simp only [Bool.true_or, if_true, ih, List.filter_cons, declared, Bool.not_true,
            Bool.false_eq_true, if_false]
      | false =>
          cases repeated : seen.contains key with
          | true =>
              simp only [Bool.or_true, if_true, ih, List.filter_cons, declared, repeated,
                Bool.not_true, Bool.not_false, Bool.false_eq_true, if_false]
          | false =>
              simp only [Bool.or_false, Bool.false_eq_true, if_false, ih, List.filter_cons, declared,
                repeated, Bool.not_false, if_true, List.eraseDups_cons, List.filter_filter]
              congr 2
              apply List.filter_congr
              intro other _
              simp only [List.contains_cons, Bool.not_or]
              cases (other == key) <;> simp

theorem unknownKeys_nil (known given : List Text) :
    Plan.unknownKeys known [] given = (given.filter (!known.contains ·)).eraseDups := by
  simp [unknownKeys_eq]

end CallPlan.Reading
