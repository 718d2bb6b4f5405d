import CallPlan.Cbor
import CallPlan.Proofs.Text.Utf8
import Mathlib.Algebra.Group.Nat.Defs

/-!
Items are read back from their encodings, at every width of a head. The reader has enough fuel for any
encoding, since an item takes at most two units of it for each byte.
-/

namespace CallPlan.Cbor

/-- Arguments below this one fit in the widest head. -/
def argumentLimit : Nat := 0x10000000000000000

@[simp] theorem length_bigEndian (width n : Nat) : (bigEndian width n).length = width := by
  induction width generalizing n with
  | zero => rfl
  | succ width ih => simp [bigEndian, ih]

theorem ofBigEndian_concat (bytes : List UInt8) (byte : UInt8) :
    ofBigEndian (bytes ++ [byte]) = ofBigEndian bytes * 256 + byte.toNat := by
  simp [ofBigEndian]

theorem ofBigEndian_bigEndian {width n : Nat} (fits : n < 256 ^ width) :
    ofBigEndian (bigEndian width n) = n := by
  induction width generalizing n with
  | zero => simpa [bigEndian, ofBigEndian, eq_comm] using fits
  | succ width ih =>
      have smaller : n / 256 < 256 ^ width := by
        rw [Nat.pow_succ] at fits
        omega
      have last : (n % 256).toUInt8.toNat = n % 256 := Text.lead_toNat (by omega)
      rw [bigEndian, ofBigEndian_concat, ih smaller, last]
      omega

theorem take?_append (content rest : List UInt8) :
    take? content.length (content ++ rest) = some (content, rest) := by
  simp [take?]

/-- The low bits of the shortest head with an argument. -/
def lowBits (n : Nat) : Nat :=
  if n < 24 then n
  else if n < 0x100 then 24
  else if n < 0x10000 then 25
  else if n < 0x100000000 then 26
  else 27

/-- A head whose argument follows it in bytes of its own. -/
theorem head?_wide {major low n : Nat} (known : major < 8) (wide : 24 ≤ low ∧ low < 28)
    (fits : n < 256 ^ (1 <<< (low - 24))) (rest : List UInt8) :
    head? ((major * 32 + low).toUInt8 :: bigEndian (1 <<< (low - 24)) n ++ rest) =
      some (major, low, .fixed n, rest) := by
  have byte : (major * 32 + low).toUInt8.toNat = major * 32 + low := Text.lead_toNat (by omega)
  have high : (major * 32 + low) / 32 = major := by omega
  have bits : (major * 32 + low) % 32 = low := by omega
  have taken := take?_append (bigEndian (1 <<< (low - 24)) n) rest
  rw [length_bigEndian] at taken
  simp only [List.cons_append, head?, byte, high, bits, show ¬ low < 24 by omega, wide.2, if_false,
    if_true, taken, Option.bind_eq_bind, Option.bind_some, ofBigEndian_bigEndian fits, Option.pure_def]

/-- Every head is read back, whatever follows it. -/
theorem head?_head {major n : Nat} (known : major < 8) (fits : n < argumentLimit)
    (rest : List UInt8) :
    head? (head major n ++ rest) = some (major, lowBits n, .fixed n, rest) := by
  unfold argumentLimit at fits
  unfold head lowBits
  split
  · next short =>
      have byte : (major * 32 + n).toUInt8.toNat = major * 32 + n := Text.lead_toNat (by omega)
      have high : (major * 32 + n) / 32 = major := by omega
      have bits : (major * 32 + n) % 32 = n := by omega
      simp only [List.singleton_append, head?, byte, high, bits, short, if_true]
  · split
    · next short => exact head?_wide known (by omega) short rest
    · split
      · next short => exact head?_wide known (by omega) short rest
      · split
        · next short => exact head?_wide known (by omega) short rest
        · exact head?_wide known (by omega) fits rest

/-- The first byte has a major type in its high bits. -/
def Starts (major : Nat) (bytes : List UInt8) : Prop :=
  ∃ first tail, bytes = first :: tail ∧ first.toNat / 32 = major

theorem Starts.append {major : Nat} {bytes : List UInt8} (starts : Starts major bytes)
    (more : List UInt8) : Starts major (bytes ++ more) := by
  obtain ⟨first, tail, rfl, high⟩ := starts
  exact ⟨first, tail ++ more, rfl, high⟩

theorem head_starts {major : Nat} (known : major < 8) (n : Nat) : Starts major (head major n) := by
  have high : ∀ low < 32, (major * 32 + low).toUInt8.toNat / 32 = major := by
    intro low small
    rw [Text.lead_toNat (by omega)]
    omega
  unfold head
  split
  · next short => exact ⟨_, [], rfl, high n (by omega)⟩
  · split
    · exact ⟨_, _, rfl, high 24 (by omega)⟩
    · split
      · exact ⟨_, _, rfl, high 25 (by omega)⟩
      · split
        · exact ⟨_, _, rfl, high 26 (by omega)⟩
        · exact ⟨_, _, rfl, high 27 (by omega)⟩

def Item.isTag : Item → Bool
  | .tag .. => true
  | _ => false

/-- The items that a reader takes at a depth. A tag counts as a level only where another follows it. -/
inductive Item.Readable : Nat → Item → Prop
  | unsigned {depth n : Nat} (fits : n < argumentLimit) : Readable depth (.unsigned n)
  | negative {depth n : Nat} (fits : n < argumentLimit) : Readable depth (.negative n)
  | bytes {depth : Nat} {content : List UInt8} (fits : content.length < argumentLimit) :
      Readable depth (.bytes content)
  | text {depth : Nat} {content : Text} (unicode : content.isUnicode = true)
      (fits : content.size < argumentLimit) : Readable depth (.text content)
  | array {depth : Nat} {items : List Item} (nested : depth < maxDepth)
      (short : items.length ≤ maxElements) (readable : ∀ item ∈ items, Readable (depth + 1) item) :
      Readable depth (.array items)
  | map {depth : Nat} {entries : List (Item × Item)} (nested : depth < maxDepth)
      (short : entries.length ≤ maxElements)
      (keys : ∀ entry ∈ entries, Readable (depth + 1) entry.1)
      (values : ∀ entry ∈ entries, Readable (depth + 1) entry.2) : Readable depth (.map entries)
  | tag {depth inner number : Nat} {content : Item} (fits : number < argumentLimit)
      (level : inner = if content.isTag then depth + 1 else depth) (nested : inner ≤ maxDepth)
      (readable : Readable inner content) : Readable depth (.tag number content)
  | simple {depth n : Nat} (named : n < 24 ∨ 32 ≤ n ∧ n < 256) : Readable depth (.simple n)
  | float {depth width bits : Nat} (known : width = 2 ∨ width = 4 ∨ width = 8)
      (fits : bits < 256 ^ width) : Readable depth (.float width bits)

/-- Reading an encoding at a depth gives the item back and stops where the encoding ends. -/
def Item.ReadsBack (depth : Nat) (item : Item) : Prop :=
  ∀ fuel rest, 2 * item.encode.length ≤ fuel + 1 →
    item? depth fuel (item.encode ++ rest) = some (item, rest)

/-- The major type that an item is written with. -/
def Item.major : Item → Nat
  | .unsigned _ => 0
  | .negative _ => 1
  | .bytes _ => 2
  | .text _ => 3
  | .array _ => 4
  | .map _ => 5
  | .tag .. => 6
  | .simple _ => 7
  | .float .. => 7

theorem encode_starts (item : Item) : Starts item.major item.encode := by
  cases item with
  | unsigned n => exact head_starts (by decide : 0 < 8) n
  | negative n => exact head_starts (by decide : 1 < 8) n
  | bytes content =>
      rw [Item.encode]
      exact (head_starts (by decide : 2 < 8) _).append content
  | text content =>
      rw [Item.encode]
      exact (head_starts (by decide : 3 < 8) _).append content.toBytes
  | array items =>
      rw [Item.encode]
      exact (head_starts (by decide : 4 < 8) _).append (encodeItems items)
  | map entries =>
      rw [Item.encode]
      exact (head_starts (by decide : 5 < 8) _).append (encodeEntries entries)
  | tag number content =>
      rw [Item.encode]
      exact (head_starts (by decide : 6 < 8) number).append content.encode
  | simple n => exact head_starts (by decide : 7 < 8) n
  | float width bits =>
      rw [Item.encode]
      refine ⟨_, _, rfl, ?_⟩
      split
      · rfl
      · split <;> rfl

theorem encode_length_pos (item : Item) : 1 ≤ item.encode.length := by
  obtain ⟨first, tail, written, -⟩ := encode_starts item
  simp [written]

theorem startsTag_encode (item : Item) (rest : List UInt8) :
    startsTag (item.encode ++ rest) = item.isTag := by
  obtain ⟨first, tail, written, high⟩ := encode_starts item
  rw [written, List.cons_append, startsTag, high]
  cases item <;> rfl

theorem items?_encodeItems {depth : Nat} {items : List Item}
    (readable : ∀ item ∈ items, item.ReadsBack depth) (fuel : Nat) (rest : List UInt8)
    (enough : 2 * (encodeItems items).length ≤ fuel) :
    items? depth (.fixed items.length) fuel (encodeItems items ++ rest) = some (items, rest) := by
  induction items generalizing fuel with
  | nil => cases fuel <;> simp [items?, encodeItems]
  | cons item others ih =>
      have positive := encode_length_pos item
      simp only [encodeItems, List.length_append] at enough
      cases fuel with
      | zero => omega
      | succ fuel =>
          have first := readable item List.mem_cons_self fuel (encodeItems others ++ rest) (by omega)
          have later := ih (fun other member => readable other (List.mem_cons_of_mem _ member)) fuel
            (by omega)
          simp [items?, encodeItems, first, later]

theorem entries?_encodeEntries {depth : Nat} {entries : List (Item × Item)}
    (keys : ∀ entry ∈ entries, entry.1.ReadsBack depth)
    (values : ∀ entry ∈ entries, entry.2.ReadsBack depth) (fuel : Nat) (rest : List UInt8)
    (enough : 2 * (encodeEntries entries).length ≤ fuel) :
    entries? depth (.fixed entries.length) fuel (encodeEntries entries ++ rest) =
      some (entries, rest) := by
  induction entries generalizing fuel with
  | nil => cases fuel <;> simp [entries?, encodeEntries]
  | cons entry others ih =>
      obtain ⟨key, value⟩ := entry
      have keyPositive := encode_length_pos key
      have valuePositive := encode_length_pos value
      simp only [encodeEntries, List.length_append] at enough
      cases fuel with
      | zero => omega
      | succ fuel =>
          have first := keys _ List.mem_cons_self fuel
            (value.encode ++ (encodeEntries others ++ rest)) (by simp only; omega)
          have second := values _ List.mem_cons_self fuel (encodeEntries others ++ rest)
            (by simp only; omega)
          have later := ih (fun other member => keys other (List.mem_cons_of_mem _ member))
            (fun other member => values other (List.mem_cons_of_mem _ member)) fuel (by omega)
          simp [entries?, encodeEntries, first, second, later]

/-- Reads an item when its head has been read. -/
theorem readsBack_of_head {depth major n : Nat} {item : Item} {content : List UInt8}
    (known : major < 8) (written : item.encode = head major n ++ content)
    (body : ∀ fuel rest, 2 * content.length ≤ fuel →
      item? depth (fuel + 1) (head major n ++ (content ++ rest)) = some (item, rest)) :
    item.ReadsBack depth := by
  intro fuel rest enough
  have positive := encode_length_pos item
  obtain ⟨first, tail, headed, -⟩ := head_starts known n
  rw [written] at enough ⊢
  simp only [headed, List.cons_append, List.length_cons, List.length_append] at enough
  cases fuel with
  | zero => omega
  | succ fuel =>
      rw [List.append_assoc]
      exact body fuel rest (by omega)

/-- Every readable item is read back from its encoding. -/
theorem Item.Readable.readsBack {depth : Nat} {item : Item} (readable : item.Readable depth) :
    item.ReadsBack depth := by
  induction readable with
  | @unsigned depth n fits =>
      refine readsBack_of_head (by decide : 0 < 8) (List.append_nil _).symm ?_
      intro fuel rest _
      simp [item?, head?_head (by decide : 0 < 8) fits]
  | @negative depth n fits =>
      refine readsBack_of_head (by decide : 1 < 8) (List.append_nil _).symm ?_
      intro fuel rest _
      simp [item?, head?_head (by decide : 1 < 8) fits]
  | @bytes depth content fits =>
      refine readsBack_of_head (by decide : 2 < 8) (by rw [Item.encode]) ?_
      intro fuel rest _
      simp [item?, head?_head (by decide : 2 < 8) fits, take?_append]
  | @text depth content unicode fits =>
      refine readsBack_of_head (by decide : 3 < 8) (by rw [Item.encode]) ?_
      intro fuel rest _
      have taken : take? content.size (content.toBytes ++ rest) = some (content.toBytes, rest) :=
        take?_append content.toBytes rest
      simp [item?, head?_head (by decide : 3 < 8) fits, taken, Text.ofBytes_toBytes unicode]
  | @array depth items nested short readable ih =>
      have fits : items.length < argumentLimit := Nat.lt_of_le_of_lt short (by decide)
      refine readsBack_of_head (by decide : 4 < 8) (by rw [Item.encode]) ?_
      intro fuel rest enough
      have read := items?_encodeItems ih fuel rest enough
      simp [item?, head?_head (by decide : 4 < 8) fits, read, Nat.not_le.mpr nested,
        Nat.not_lt.mpr short]
  | @map depth entries nested short keys values keysBack valuesBack =>
      have fits : entries.length < argumentLimit := Nat.lt_of_le_of_lt short (by decide)
      refine readsBack_of_head (by decide : 5 < 8) (by rw [Item.encode]) ?_
      intro fuel rest enough
      have read := entries?_encodeEntries keysBack valuesBack fuel rest enough
      simp [item?, head?_head (by decide : 5 < 8) fits, read, Nat.not_le.mpr nested,
        Nat.not_lt.mpr short]
  | @tag depth inner number content fits level nested readable ih =>
      refine readsBack_of_head (by decide : 6 < 8) (by rw [Item.encode]) ?_
      intro fuel rest enough
      have read := ih fuel rest (by omega)
      simp [item?, head?_head (by decide : 6 < 8) fits, startsTag_encode, ← level, read,
        Nat.not_lt.mpr nested]
  | @simple depth n named =>
      have fits : n < argumentLimit := by
        unfold argumentLimit
        omega
      refine readsBack_of_head (by decide : 7 < 8) (List.append_nil _).symm ?_
      intro fuel rest _
      have low : lowBits n < 24 ∨ lowBits n = 24 ∧ 32 ≤ n := by
        unfold lowBits
        rcases named with direct | ⟨lower, upper⟩
        · simp [direct]
        · simp [show ¬ n < 24 by omega, upper, lower]
      rcases low with direct | ⟨next, large⟩
      · simp [item?, head?_head (by decide : 7 < 8) fits, direct]
      · simp [item?, head?_head (by decide : 7 < 8) fits, next, Nat.not_lt.mpr large]
  | @float depth width bits known fits =>
      -- The three widths differ only in the low bits of the head.
      have wide : ∀ low, 25 ≤ low → low < 28 → width = 1 <<< (low - 24) →
          (Item.float width bits).encode = (7 * 32 + low).toUInt8 :: bigEndian width bits →
          (Item.float width bits).ReadsBack depth := by
        rintro low least most rfl written fuel rest enough
        have read := head?_wide (by decide : 7 < 8) ⟨by omega, most⟩ fits rest
        rw [written] at enough ⊢
        simp only [List.length_cons] at enough
        cases fuel with
        | zero => omega
        | succ fuel =>
            rw [item?, read]
            simp [show ¬ low < 24 by omega, show low ≠ 24 by omega]
      rcases known with rfl | rfl | rfl
      · exact wide 25 (by decide) (by decide) rfl (by rw [Item.encode]; rfl)
      · exact wide 26 (by decide) (by decide) rfl (by rw [Item.encode]; rfl)
      · exact wide 27 (by decide) (by decide) rfl (by rw [Item.encode]; rfl)

theorem decode?_encode {item : Item} (readable : item.Readable 0) :
    Item.decode? item.encode = some item := by
  have read := readable.readsBack (2 * item.encode.length + 1) [] (by omega)
  rw [List.append_nil] at read
  simp [Item.decode?, read]

end CallPlan.Cbor
