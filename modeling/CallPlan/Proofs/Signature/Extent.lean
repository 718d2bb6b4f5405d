import CallPlan.Proofs.Encoding
import CallPlan.Proofs.Signature.Layout
import CallPlan.Proofs.Signature.RoundTrip
import CallPlan.Proofs.Signature.Spelling

/-!
All that a signature holds stands in the text it was read from, the implied invocant apart. So if the text
is well-formed, the document of the signature can be written.
-/

namespace CallPlan

namespace Text

variable {t u word : Text} {parts : List Text}

theorem size_le_of_sublist (part : List.Sublist u t) : u.size ≤ t.size :=
  (part.flatMap Glyph.toBytes).length_le

theorem length_le_size (t : Text) : t.length ≤ t.size := by
  induction t with
  | nil => exact Nat.le_refl _
  | cons g rest ih =>
      have wide : 0 < g.toBytes.length := by
        cases g with
        | stray byte => simp [Glyph.toBytes]
        | char c =>
            unfold Glyph.toBytes
            dsimp only
            split_ifs <;> simp
      simp only [size, toBytes, List.flatMap_cons, List.length_append, List.length_cons] at ih ⊢
      omega

theorem Encodable.part (encodable : t.Encodable) (part : List.Sublist u t) : u.Encodable where
  unicode := List.all_eq_true.mpr fun g member =>
    List.all_eq_true.mp encodable.unicode g (part.subset member)
  fits := Nat.lt_of_le_of_lt (size_le_of_sublist part) encodable.fits

theorem Encodable.few (encodable : t.Encodable) (within : List.Sublist parts.flatten t)
    (nonempty : ∀ part ∈ parts, part ≠ []) : parts.length < Cbor.argumentLimit := by
  have counted : parts.length ≤ parts.flatten.length := by
    clear within
    induction parts with
    | nil => exact Nat.le_refl _
    | cons part rest ih =>
        rw [List.forall_mem_cons] at nonempty
        have first := List.length_pos_iff.mpr nonempty.1
        have later := ih nonempty.2
        simp only [List.flatten_cons, List.length_append, List.length_cons]
        omega
  have within := within.length_le
  have wide := t.length_le_size
  have fits := encodable.fits
  omega

end Text

namespace Split

variable {s s' : Scan} {g : Glyph} {t text : Text} {clauses : List Text}

/-- The segments of a scan, the one being read last. -/
def Scan.parts (s : Scan) : List Text := (s.segment.reverse :: s.segments).reverse

theorem Scan.step_sublist (read : s.step g = .ok s') :
    List.Sublist s'.parts.flatten (s.parts.flatten ++ [g]) := by
  have steps := s.step_steps g
  rw [read] at steps
  cases steps with
  | take _ took => simp [Scan.parts, took.segment, took.segments]
  | comma => simp [Scan.parts, Scan.cut]

theorem Scan.run_sublist (read : s.run t = .ok s') :
    List.Sublist s'.parts.flatten (s.parts.flatten ++ t) := by
  induction t generalizing s with
  | nil =>
      cases read
      simp
  | cons g rest ih =>
      simp only [Scan.run, except_bind_ok] at read
      obtain ⟨next, first, later⟩ := read
      have whole := (ih later).trans ((Scan.step_sublist first).append_right rest)
      simpa using whole

theorem dropBlankLast_sublist (clauses : List Text) : List.Sublist (dropBlankLast clauses) clauses := by
  induction clauses using dropBlankLast.induct with
  | case1 => exact .slnil
  | case2 last blank => simp [dropBlankLast, blank]
  | case3 last shown => simp [dropBlankLast, shown]
  | case4 first rest more ih =>
      rw [dropBlankLast]
      · exact ih.cons_cons first
      · exact more

/-- The clauses stand in the text, one after another. -/
theorem split_sublist (cut : split text = .ok clauses) : List.Sublist clauses.flatten text := by
  simp only [split, segments, except_bind_ok, except_pure, Except.ok.injEq, Scan.finish_ok_iff] at cut
  obtain ⟨_, ⟨s, ran, _, rfl⟩, rfl⟩ := cut
  have whole : List.Sublist s.parts.flatten text := by simpa [Scan.parts] using Scan.run_sublist ran
  exact ((dropBlankLast_sublist _).flatten.trans (Text.flatten_map_trim _)).trans whole

end Split

namespace Clause

variable {source head : Text} {tail : Option Text} {p : Param}

theorem Layout.sublist (layout : Layout source p head tail) :
    List.Sublist head source ∧ ∀ t ∈ tail, List.Sublist t source := by
  rw [layout.source]
  constructor
  · exact (List.sublist_append_right _ head).trans (List.sublist_append_left _ _)
  · rintro t ⟨⟩
    exact (List.sublist_cons_self _ t).trans (List.sublist_append_right _ _)

theorem Layout.writable (layout : Layout source p head tail) (binds : p.passthrough = false)
    (encodable : source.Encodable) : (DocumentParam.ofParam p).Writable := by
  obtain ⟨inside, after⟩ := layout.sublist
  obtain ⟨word, others, listed, words⟩ := layout.words
  obtain ⟨_, suffix, _, spelled⟩ := words.token binds
  obtain ⟨written, read, sorted⟩ := words.traits
  obtain ⟨rfl, _⟩ := traits_ok_iff.mp read
  have headEncodable := encodable.part inside
  have field : ∀ w ∈ head.fields, w.Encodable := fun w member =>
    headEncodable.part ((List.sublist_flatten_of_mem member).trans head.fields_sublist)
  have wordEncodable := field word (listed ▸ List.mem_cons_self)
  constructor
  case name =>
    rw [spelled] at wordEncodable
    exact wordEncodable.part ((List.sublist_cons_self _ p.name).trans (List.sublist_append_left _ _))
  case sigil => cases sigil : p.sigil <;> simp [DocumentParam.ofParam, sigil, Sigil.code, Cbor.argumentLimit]
  case traits =>
    intro trait member
    have member : trait ∈ written := Text.mem_sorted.mp (sorted ▸ member)
    refine field trait (listed ▸ List.mem_cons_of_mem _ ?_)
    exact List.mem_flatMap.mpr ⟨trait, member, by simp⟩
  case fewTraits =>
    have few := headEncodable.few head.fields_sublist (Text.fieldsFrom_ne_nil [] head)
    have distinct := Text.length_sorted written
    have pairs : (traitWords written).length = 2 * written.length := by
      simp [traitWords, Nat.mul_comm]
    rw [listed, List.length_cons, pairs] at few
    rw [show (DocumentParam.ofParam p).traits = _ from sorted]
    omega
  case defaultSource =>
    refine Text.Encodable.getD fun source same => ?_
    rw [layout.defaultSource] at same
    obtain ⟨rest, given, rfl⟩ := Option.map_eq_some_iff.mp same
    exact (encodable.part (after rest given)).part (Text.trim_sublist rest)

end Clause

namespace Invocant

variable {text rest name : Text}

theorem prefixed?_sublist (found : prefixed? text = some (name, rest)) :
    List.Sublist name text ∧ List.Sublist rest text := by
  obtain ⟨d, rfl, rfl, rfl⟩ := prefixed?_eq_some_iff.mp found
  refine ⟨List.IsInfix.sublist ?_, List.sublist_append_right _ _⟩
  rw [d.text_eq]
  exact ⟨d.before ++ d.sign, d.behind, by simp⟩

theorem split_sublist (text : Text) :
    (∀ name ∈ (split text).1, List.Sublist name text) ∧ List.Sublist (split text).2 text := by
  unfold split
  split
  · next found =>
      obtain ⟨named, after⟩ := prefixed?_sublist found
      exact ⟨by rintro _ ⟨⟩; exact named, after⟩
  · exact ⟨by rintro _ ⟨⟩, List.Sublist.refl _⟩

end Invocant

/-- Options whose invocant, if any, is a well-formed name. -/
structure AssemblyOptions.Encodable (options : AssemblyOptions) : Prop where
  invocant : ∀ name, options.invocant = some name → name.Encodable
  named : options.invocant ≠ some []

namespace Signature

variable {s : Signature} {text : Text} {options : AssemblyOptions}

theorem invocantOf_encodable (encodable : text.Encodable) (implied : options.Encodable) :
    ∀ name, invocantOf text options = some name → name.Encodable := by
  have inside := (Invocant.split_sublist text).1
  unfold invocantOf
  cases declared : (Invocant.split text).1 with
  | none => exact implied.invocant
  | some name =>
      rintro _ ⟨⟩
      exact encodable.part (inside name declared)

theorem length_ofParams (invocant : Option Text) (params : List Param) :
    (ofParams invocant params).params.length ≤ params.length := by
  have kept := List.length_filter_le (fun p : Param => !p.passthrough) params
  have halves := (Param.binding params).length_eq_length_filter_add fun p => p.role = .positional
  have other : (fun p : Param => decide (p.role = .named)) = fun p => !decide (p.role = .positional) := by
    funext p
    cases p.role <;> rfl
  rw [Param.binding] at halves
  simp only [Signature.params, ofParams, Param.binding, List.length_append, List.length_mapIdx,
    List.length_map, other]
  omega

/-- What a well-formed text reads as can be written. -/
theorem parse_writable (parsed : parse text options = .ok s) (encodable : text.Encodable)
    (implied : options.Encodable) : (Document.ofSignature s).Writable := by
  have invocant : ∀ name, s.invocant = some name → name.Encodable := by
    rw [(parse_assembled parsed).invocant_eq]
    exact invocantOf_encodable encodable implied
  obtain ⟨a, list, rfl⟩ := parse_ok_iff.mp parsed
  obtain ⟨clauses, params, cut, read, added⟩ := readList_ok_iff.mp list
  obtain ⟨_, made⟩ := (addAll_new_iff _).mp ⟨a, added, rfl⟩
  have within := (Split.split_sublist cut).trans (Invocant.split_sublist text).2
  have same : (a.setText text).signature.params = (ofParams (invocantOf text options) params).params := by
    rw [made]
    rfl
  constructor
  case version => exact (by decide : 1 < Cbor.argumentLimit)
  case text => exact encodable.part (Text.trim_sublist text)
  case invocant => exact Text.Encodable.getD invocant
  case params =>
    rintro _ ⟨⟩ d member
    obtain ⟨p, listed, rfl⟩ := List.mem_map.mp member
    obtain ⟨q, given, index, binds, rfl⟩ := mem_ofParams (same ▸ listed)
    obtain ⟨clause, written, reads⟩ := mem_of_forall₂ read given
    obtain ⟨head, tail, layout⟩ := Clause.parse_ok reads
    have inside := (List.sublist_flatten_of_mem written).trans within
    exact layout.writable binds (encodable.part ((Text.trim_sublist clause).trans inside))
  case fewParams =>
    rintro _ ⟨⟩
    have nonempty : ∀ clause ∈ clauses, clause ≠ [] := by
      refine (forall_mem_iff read fun clause p reads => iff_true_intro ?_).mpr fun _ _ => trivial
      rintro rfl
      cases reads
    have few := encodable.few within nonempty
    have count := length_ofParams (invocantOf text options) params
    rw [List.length_map, same]
    rw [read.length_eq] at few
    omega

end Signature
end CallPlan
