import CallPlan.Proofs.Text.Blank
import CallPlan.Signature.Invocant

/-!
Declarations of an invocant. A declaration is blanks, a dollar sign or none, a name, blanks and a colon,
with a list behind it; these are the texts that have a prefix, and each of them is put together in one way
only, since no part goes on with what the next one begins with.
-/

namespace CallPlan.Invocant

variable {t name rest : Text} {g : Glyph}

/-! ### The characters of a declaration -/

theorem isAsciiBlank_blank (blank : g.isAsciiBlank = true) : g.isBlank = true := by
  simp only [Glyph.isAsciiBlank, Bool.or_eq_true, decide_eq_true_eq] at blank
  rcases blank with (((rfl | rfl) | rfl) | rfl) | rfl <;> rfl

theorem isBlank_of_continuesName (continues : continuesName g = true) : g.isBlank = false := by
  cases g with
  | stray byte => rfl
  | char c =>
      simp only [continuesName, Bool.or_eq_true, decide_eq_true_eq, Glyph.char.injEq] at continues
      rcases continues with (rfl | letter) | number
      · decide
      · exact Text.not_blank_of_isLetter letter
      · exact Text.not_blank_of_isNumber number

theorem continuesName_of_blank (blank : g.isBlank = true) : continuesName g = false := by
  rw [Bool.eq_false_iff]
  intro continues
  rw [isBlank_of_continuesName continues] at blank
  cases blank

theorem isAsciiBlank_of_firm (firm : g.isBlank = false) : g.isAsciiBlank = false := by
  rw [Bool.eq_false_iff]
  intro blank
  rw [isAsciiBlank_blank blank] at firm
  cases firm

theorem continuesName_dollar : continuesName (.char '$') = false := by decide

theorem continuesName_colon : continuesName (.char ':') = false := by decide

theorem all_continuesName (valid : isName name = true) : ∀ g ∈ name, continuesName g = true := by
  cases name with
  | nil => cases valid
  | cons first rest =>
      simp only [isName, startsName, Bool.and_eq_true, List.all_eq_true] at valid
      intro g member
      rcases List.mem_cons.mp member with rfl | later
      · simp only [continuesName, Bool.or_eq_true]
        exact .inl (by simpa using valid.1)
      · exact valid.2 g later

/-- A letter or an underscore, and then letters, numbers and underscores. -/
def Named (name : Text) : Prop :=
  ∃ first others, name = first :: others ∧ (first = .char '_' ∨ first.isLetter = true) ∧
    ∀ g ∈ others, g = .char '_' ∨ g.isLetter = true ∨ g.isNumber = true

theorem isName_iff : isName name = true ↔ Named name := by
  cases name with
  | nil => simp [isName, Named]
  | cons first others => simp [isName, startsName, continuesName, Named, or_assoc]

/-- A run of characters goes no further than a text that begins with none of them. -/
theorem run_append {p : Glyph → Bool} {after : Text} (stops : ∀ g ∈ after.head?, p g = false) (t : Text) :
    (t ++ after).takeWhile p = t.takeWhile p ∧ (t ++ after).dropWhile p = t.dropWhile p ++ after := by
  induction t with
  | nil =>
      cases after with
      | nil => exact ⟨rfl, rfl⟩
      | cons g rest => simp [stops g rfl]
  | cons g rest ih =>
      cases first : p g with
      | true => simpa [first] using ih
      | false => simp [first]

theorem run_whole {p : Glyph → Bool} {front after : Text} (inside : ∀ g ∈ front, p g = true)
    (stops : ∀ g ∈ after.head?, p g = false) :
    (front ++ after).takeWhile p = front ∧ (front ++ after).dropWhile p = after := by
  obtain ⟨taken, dropped⟩ := run_append stops front
  rw [taken, dropped, List.takeWhile_eq_self_iff.mpr inside, List.dropWhile_eq_nil_iff.mpr inside]
  exact ⟨rfl, rfl⟩

/-! ### Declarations -/

/-- A text that declares an invocant, in parts. -/
@[ext]
structure Declaration where
  before : Text
  dollar : Bool
  name : Text
  between : Text
  rest : Text
  before_blank : ∀ g ∈ before, g.isAsciiBlank = true
  named : Named name
  between_blank : ∀ g ∈ between, g.isAsciiBlank = true
  single : rest.head? ≠ some (.char ':')

namespace Declaration

def sign (d : Declaration) : Text := if d.dollar then [.char '$'] else []

/-- The invocant with its colon. -/
def written (d : Declaration) : Text := d.sign ++ d.name ++ d.between ++ [.char ':']

def text (d : Declaration) : Text := d.before ++ d.written ++ d.rest

/-- What stands behind the name. -/
def behind (d : Declaration) : Text := d.between ++ .char ':' :: d.rest

variable (d : Declaration)

theorem valid : isName d.name = true := isName_iff.mpr d.named

theorem text_eq : d.text = d.before ++ (d.sign ++ (d.name ++ d.behind)) := by
  simp [text, written, behind]

theorem sign_head (more : Text) : ∀ g ∈ (d.sign ++ (d.name ++ more)).head?,
    g = .char '$' ∨ continuesName g = true := by
  obtain ⟨first, others, name, -, -⟩ := d.named
  have continues := all_continuesName d.valid first (by rw [name]; exact List.mem_cons_self)
  unfold sign
  split
  · rintro g ⟨⟩
    exact .inl rfl
  · rw [name]
    rintro g ⟨⟩
    exact .inr continues

theorem sign_starts (more : Text) : (d.sign ++ (d.name ++ more)).StartsFirm := by
  intro g first
  rcases d.sign_head more g first with rfl | continues
  · rfl
  · exact isBlank_of_continuesName continues

theorem text_front : d.text.takeWhile Glyph.isAsciiBlank = d.before ∧
    d.text.dropWhile Glyph.isAsciiBlank = d.sign ++ (d.name ++ d.behind) := by
  have stops : ∀ g ∈ (d.sign ++ (d.name ++ d.behind)).head?, g.isAsciiBlank = false :=
    fun g first => isAsciiBlank_of_firm (d.sign_starts d.behind g first)
  rw [text_eq]
  exact run_whole d.before_blank stops

theorem dropDollar_sign (more : Text) : dropDollar (d.sign ++ (d.name ++ more)) = d.name ++ more := by
  obtain ⟨first, others, name, -, -⟩ := d.named
  have continues := all_continuesName d.valid first (by rw [name]; exact List.mem_cons_self)
  unfold sign
  split
  · rfl
  · rw [name, List.nil_append, List.cons_append]
    unfold dropDollar
    split
    · next same =>
        rw [(List.cons.inj same).1, continuesName_dollar] at continues
        cases continues
    · rfl

theorem name_front : (d.name ++ d.behind).takeWhile continuesName = d.name ∧
    (d.name ++ d.behind).dropWhile continuesName = d.behind := by
  have stops : ∀ g ∈ d.behind.head?, continuesName g = false := by
    unfold behind
    cases between : d.between with
    | nil =>
        rintro g ⟨⟩
        exact continuesName_colon
    | cons first more =>
        rintro g ⟨⟩
        have blank := d.between_blank first (by rw [between]; exact List.mem_cons_self)
        exact continuesName_of_blank (isAsciiBlank_blank blank)
  exact run_whole (all_continuesName d.valid) stops

theorem behind_front : d.behind.takeWhile Glyph.isAsciiBlank = d.between ∧
    d.behind.dropWhile Glyph.isAsciiBlank = .char ':' :: d.rest := by
  have stops : ∀ g ∈ (Glyph.char ':' :: d.rest).head?, g.isAsciiBlank = false := by
    rintro g ⟨⟩
    rfl
  exact run_whole d.between_blank stops

/-- A declaration is taken apart into its name and its list. -/
theorem prefixed?_text : prefixed? d.text = some (d.name, d.rest) := by
  have colon : afterColon? (.char ':' :: d.rest) = some d.rest := by
    rw [afterColon?, if_neg d.single]
  unfold prefixed?
  dsimp only
  rw [d.text_front.2, dropDollar_sign, d.name_front.1, d.name_front.2, d.behind_front.2, colon,
    if_pos d.valid, Option.map_some]

/-- No text is a declaration in two ways: each part ends where the next one begins. -/
theorem text_injective : Function.Injective text := by
  intro d e same
  have before : d.before = e.before := by rw [← d.text_front.1, same, e.text_front.1]
  have signed : d.sign ++ (d.name ++ d.behind) = e.sign ++ (e.name ++ e.behind) := by
    rw [← d.text_front.2, same, e.text_front.2]
  have unsigned : d.name ++ d.behind = e.name ++ e.behind := by
    rw [← d.dropDollar_sign, signed, e.dropDollar_sign]
  have name : d.name = e.name := by rw [← d.name_front.1, unsigned, e.name_front.1]
  have behind : d.behind = e.behind := by rw [← d.name_front.2, unsigned, e.name_front.2]
  have between : d.between = e.between := by rw [← d.behind_front.1, behind, e.behind_front.1]
  have rest : d.rest = e.rest := by
    have colons := d.behind_front.2
    rw [behind, e.behind_front.2] at colons
    exact (List.cons.inj colons).2.symm
  have dollar : d.dollar = e.dollar := by
    have signs : d.sign = e.sign := by
      rw [unsigned] at signed
      exact List.append_cancel_right signed
    unfold sign at signs
    cases one : d.dollar <;> cases other : e.dollar <;> simp [one, other] at signs ⊢
  exact Declaration.ext before dollar name between rest

end Declaration

theorem dropDollar_eq (t : Text) : ∃ dollar : Bool,
    t = (if dollar then [Glyph.char '$'] else []) ++ dropDollar t := by
  unfold dropDollar
  split
  · exact ⟨true, rfl⟩
  · exact ⟨false, rfl⟩

theorem afterColon?_eq_some_iff :
    afterColon? t = some rest ↔ t = .char ':' :: rest ∧ rest.head? ≠ some (.char ':') := by
  unfold afterColon?
  split
  · next more =>
      simp only [Option.ite_none_left_eq_some, Option.some.injEq, List.cons.injEq, true_and]
      constructor
      · rintro ⟨single, rfl⟩
        exact ⟨rfl, single⟩
      · rintro ⟨rfl, single⟩
        exact ⟨single, rfl⟩
  · next other =>
      constructor
      · rintro ⟨⟩
      · rintro ⟨rfl, -⟩
        exact (other rest rfl).elim

/-- A text has a prefix if and only if it is a declaration. -/
theorem prefixed?_eq_some_iff : prefixed? t = some (name, rest) ↔
    ∃ d : Declaration, d.text = t ∧ d.name = name ∧ d.rest = rest := by
  constructor
  · intro found
    unfold prefixed? at found
    dsimp only at found
    split at found
    · next valid =>
        obtain ⟨_, colon, same⟩ := Option.map_eq_some_iff.mp found
        cases same
        obtain ⟨colon, single⟩ := afterColon?_eq_some_iff.mp colon
        obtain ⟨dollar, signed⟩ := dropDollar_eq (t.dropWhile Glyph.isAsciiBlank)
        let start := dropDollar (t.dropWhile Glyph.isAsciiBlank)
        let d : Declaration :=
          { before := t.takeWhile Glyph.isAsciiBlank
            dollar
            name := start.takeWhile continuesName
            between := (start.dropWhile continuesName).takeWhile Glyph.isAsciiBlank
            rest
            before_blank := fun g => List.mem_takeWhile_imp
            named := isName_iff.mp valid
            between_blank := fun g => List.mem_takeWhile_imp
            single }
        have behind : d.behind = start.dropWhile continuesName := by
          rw [Declaration.behind, ← colon, List.takeWhile_append_dropWhile]
        refine ⟨d, ?_, rfl, rfl⟩
        rw [d.text_eq, behind, List.takeWhile_append_dropWhile, Declaration.sign, ← signed,
          List.takeWhile_append_dropWhile]
    · cases found
  · rintro ⟨d, rfl, rfl, rfl⟩
    exact d.prefixed?_text

theorem isName_of_prefixed? (found : prefixed? t = some (name, rest)) : isName name = true := by
  obtain ⟨d, -, rfl, -⟩ := prefixed?_eq_some_iff.mp found
  exact d.valid

/-! ### Texts without a prefix -/

theorem prefixed?_eq_none_iff : prefixed? t = none ↔ ∀ d : Declaration, d.text ≠ t := by
  rw [Option.eq_none_iff_forall_ne_some]
  constructor
  · rintro none d rfl
    exact none _ d.prefixed?_text
  · rintro none ⟨name, rest⟩ found
    obtain ⟨d, same, -⟩ := prefixed?_eq_some_iff.mp found
    exact none d same

theorem prefixed?_of_no_colon (none : .char ':' ∉ t) : prefixed? t = .none := by
  rw [prefixed?_eq_none_iff]
  rintro d rfl
  exact none (by simp [Declaration.text, Declaration.written])

theorem prefixed?_cons (visible : g.isAsciiBlank = false) (unsigned : g ≠ .char '$')
    (outside : continuesName g = false) (t : Text) : prefixed? (g :: t) = none := by
  refine prefixed?_eq_none_iff.mpr fun d same => ?_
  have front := d.text_front.2
  rw [same, List.dropWhile_cons_of_neg (by simp [visible])] at front
  rcases d.sign_head d.behind g (by rw [← front]; rfl) with dollar | continues
  · exact unsigned dollar
  · rw [continues] at outside
    cases outside

/-! ### Texts around a declaration -/

theorem prefixed?_ascii_append {before : Text} (ascii : ∀ g ∈ before, g.isAsciiBlank = true) (t : Text) :
    prefixed? (before ++ t) = prefixed? t := by
  unfold prefixed?
  rw [List.dropWhile_append_of_pos ascii]

/-- A text that cannot carry on a name, nor end one as an invocant. -/
structure Apart (after : Text) : Prop where
  ended : ∀ g ∈ after.head?, continuesName g = false
  noColon : ∀ g ∈ (after.dropWhile Glyph.isAsciiBlank).head?, g ≠ .char ':'

variable {after : Text}

theorem Apart.head (apart : Apart after) : after.head? ≠ some (.char ':') := by
  intro first
  obtain ⟨rest, rfl⟩ := List.head?_eq_some_iff.mp first
  exact apart.noColon (.char ':') rfl rfl

theorem afterColon?_of_head (other : ∀ g ∈ t.head?, g ≠ .char ':') : afterColon? t = none := by
  unfold afterColon?
  split
  · exact (other _ rfl rfl).elim
  · rfl

theorem Apart.afterColon?_append (apart : Apart after) (t : Text) :
    afterColon? ((t ++ after).dropWhile Glyph.isAsciiBlank) =
      (afterColon? (t.dropWhile Glyph.isAsciiBlank)).map (· ++ after) := by
  rw [List.dropWhile_append]
  cases shown : t.dropWhile Glyph.isAsciiBlank with
  | nil => exact afterColon?_of_head apart.noColon
  | cons g rest =>
      rw [if_neg (by simp)]
      by_cases colon : g = .char ':'
      · subst g
        cases rest with
        | nil => simp [afterColon?, apart.head]
        | cons next more => by_cases double : next = .char ':' <;> simp [afterColon?, double]
      · have other : ∀ t : Text, afterColon? (g :: t) = none := fun t =>
          afterColon?_of_head (by simpa using colon)
        rw [List.cons_append, other, other]
        rfl

theorem dropDollar_cons_append (g : Glyph) (t after : Text) :
    dropDollar (g :: (t ++ after)) = dropDollar (g :: t) ++ after := by
  unfold dropDollar
  split
  · next same =>
      cases same
      rfl
  · next other =>
      split
      · next same =>
          cases same
          exact (other _ rfl).elim
      · rfl

/-- Whether a text begins with a declaration is settled in front of what stands apart from it. -/
theorem Apart.prefixed?_append (apart : Apart after) (visible : g.isAsciiBlank = false) (t : Text) :
    prefixed? (g :: (t ++ after)) =
      (prefixed? (g :: t)).map fun found => (found.1, found.2 ++ after) := by
  have start : ∀ t : Text, (g :: t).dropWhile Glyph.isAsciiBlank = g :: t := fun t =>
    List.dropWhile_cons_of_neg (by simp [visible])
  obtain ⟨taken, dropped⟩ := run_append apart.ended (dropDollar (g :: t))
  unfold prefixed?
  dsimp only
  rw [start, start, dropDollar_cons_append, taken, dropped, apart.afterColon?_append]
  split
  · rw [Option.map_map, Option.map_map]
    rfl
  · rfl

theorem apart_blank (blank : ∀ g ∈ after, g.isBlank = true) : Apart after := by
  constructor
  · exact fun g first => continuesName_of_blank (blank g (List.mem_of_head? first))
  · rintro _ first rfl
    have member := (List.dropWhile_sublist _).subset (List.mem_of_head? first)
    have shown := blank _ member
    cases shown

theorem prefixed?_blank (blank : ∀ g ∈ t, g.isBlank = true) : prefixed? t = none :=
  prefixed?_of_no_colon fun member => by
    have shown := blank _ member
    cases shown

/-- Blanks at the end of a text are no part of its invocant. -/
theorem prefixed?_append_blank (blank : ∀ g ∈ after, g.isBlank = true) (t : Text) :
    prefixed? (t ++ after) = (prefixed? t).map fun found => (found.1, found.2 ++ after) := by
  induction t with
  | nil => exact prefixed?_blank blank
  | cons g rest ih =>
      cases visible : g.isAsciiBlank with
      | true =>
          have skipped : ∀ t : Text, prefixed? (g :: t) = prefixed? t :=
            prefixed?_ascii_append (List.forall_mem_singleton.mpr visible)
          rw [List.cons_append, skipped, skipped, ih]
      | false => exact (apart_blank blank).prefixed?_append visible rest

end CallPlan.Invocant
