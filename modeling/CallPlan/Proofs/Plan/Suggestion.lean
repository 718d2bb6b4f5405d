import CallPlan.Proofs.Plan.Laziness
import CallPlan.Proofs.Plan.Tails
import CallPlan.Proofs.Signature.Spelling
import CallPlan.Proofs.Text.Distance

/-!
Which declared name is suggested for a key that no parameter has. A name that contains the key goes before
all others, then one that is close to it, and there is none that would be nearer. Where the empty name is
meant nothing is suggested, which only a signature that is not read from a text can come to.
-/

namespace CallPlan

namespace Suggestion

open Text (distance)

variable {key name other : Text} {names declared : List Text}

/-- The characters of a key occur in a name in order, apart from case. -/
def Within (key name : Text) : Prop := key.folded.Sublist name.folded

/-- The name among those declared that a key most likely means: one that contains the key, with none of the
others that do nearer to it; or, if none does, the first of the nearest ones, unless it is too far away. -/
inductive Meant (key : Text) (declared : List Text) (name : Text) : Prop
  | within (listed : name ∈ declared) (within : Within key name)
      (nearest : ∀ other ∈ declared, Within key other → distance key name ≤ distance key other) :
      Meant key declared name
  | near {front back : List Text} (without : ∀ other ∈ declared, ¬ Within key other)
      (cut : declared = front ++ name :: back)
      (first : ∀ other ∈ front, distance key name < distance key other)
      (nearest : ∀ other ∈ back, distance key name ≤ distance key other)
      (close : distance key name ≤ 2) : Meant key declared name

/-- No declared name contains the key or is close to it. -/
def Remote (key : Text) (declared : List Text) : Prop :=
  ∀ name ∈ declared, ¬ Within key name ∧ 3 ≤ distance key name

/-- The first of the names with the least distance to a key. -/
structure First (key : Text) (names front : List Text) (name : Text) (back : List Text) : Prop where
  cut : names = front ++ name :: back
  first : ∀ other ∈ front, distance key name < distance key other
  nearest : ∀ other ∈ back, distance key name ≤ distance key other

theorem First.le {front back : List Text} (found : First key names front name back) (member : other ∈ names) :
    distance key name ≤ distance key other := by
  rw [found.cut, List.mem_append, List.mem_cons] at member
  rcases member with before | rfl | after
  · exact Nat.le_of_lt (found.first other before)
  · exact Nat.le_refl _
  · exact found.nearest other after

theorem First.mem {front back : List Text} (found : First key names front name back) : name ∈ names := by
  rw [found.cut]
  exact List.mem_append_right _ List.mem_cons_self

theorem First.unique {front back front' back' : List Text} (found : First key names front name back)
    (found' : First key names front' other back') : name = other := by
  rcases List.append_eq_append_iff.mp (found.cut.symm.trans found'.cut) with
    ⟨between, fronts, backs⟩ | ⟨between, fronts, backs⟩
  · cases between with
    | nil => exact (List.cons.inj backs).1
    | cons head rest =>
        -- The one that comes later would have to be nearer than the one before it.
        obtain ⟨rfl, -⟩ := List.cons.inj backs
        have later := found'.first name (fronts ▸ List.mem_append_right _ List.mem_cons_self)
        exact absurd (found.le found'.mem) (Nat.not_le.mpr later)
  · cases between with
    | nil => exact (List.cons.inj backs).1.symm
    | cons head rest =>
        obtain ⟨rfl, -⟩ := List.cons.inj backs
        have later := found.first other (fronts ▸ List.mem_append_right _ List.mem_cons_self)
        exact absurd (found'.le found.mem) (Nat.not_le.mpr later)

theorem nearest_eq_none (none : nearest key names = none) : names = [] := by
  cases names with
  | nil => rfl
  | cons name rest =>
      rw [nearest] at none
      split at none
      · split at none <;> cases none
      · cases none

theorem nearest_first {least : Nat} (found : nearest key names = some (name, least)) :
    least = distance key name ∧ ∃ front back, First key names front name back := by
  induction names generalizing name least with
  | nil => cases found
  | cons head rest ih =>
      rw [nearest] at found
      cases later : nearest key rest with
      | none =>
          rw [later] at found
          cases found
          cases nearest_eq_none later
          exact ⟨rfl, [], [], rfl, nofun, nofun⟩
      | some entry =>
          obtain ⟨second, smaller⟩ := entry
          obtain ⟨rfl, front, back, first⟩ := ih later
          simp only [later] at found
          split at found
          · next nearer =>
              cases found
              refine ⟨rfl, head :: front, back, congrArg (head :: ·) first.cut, ?_, first.nearest⟩
              exact List.forall_mem_cons.mpr ⟨nearer, first.first⟩
          · next farther =>
              cases found
              exact ⟨rfl, [], rest, rfl, nofun, fun _ member =>
                Nat.le_trans (Nat.not_lt.mp farther) (first.le member)⟩

theorem mem_filter_within :
    other ∈ declared.filter (Text.isFoldedSubsequence key) ↔ other ∈ declared ∧ Within key other := by
  rw [List.mem_filter, Text.isFoldedSubsequence, Text.isSubsequence_iff, Within]

/-- What is chosen is meant, and nothing is chosen only where every name is remote. -/
theorem meant_cases (key : Text) (declared : List Text) :
    (∃ name, meant key declared = some name ∧ Meant key declared name) ∨
      meant key declared = none ∧ Remote key declared := by
  rw [meant]
  cases found : nearest key (declared.filter (Text.isFoldedSubsequence key)) with
  | some entry =>
      obtain ⟨name, least⟩ := entry
      obtain ⟨-, _, _, first⟩ := nearest_first found
      obtain ⟨listed, within⟩ := mem_filter_within.mp first.mem
      exact .inl ⟨name, rfl, .within listed within fun other member contains =>
        first.le (mem_filter_within.mpr ⟨member, contains⟩)⟩
  | none =>
      have without : ∀ other ∈ declared, ¬ Within key other := by
        intro other member contains
        have kept := mem_filter_within.mpr ⟨member, contains⟩
        rw [nearest_eq_none found] at kept
        cases kept
      cases closest : nearest key declared with
      | none => exact .inr ⟨rfl, nearest_eq_none closest ▸ nofun⟩
      | some entry =>
          obtain ⟨name, least⟩ := entry
          obtain ⟨rfl, _, _, first⟩ := nearest_first closest
          dsimp only
          split
          · next close => exact .inl ⟨name, rfl, .near without first.cut first.first first.nearest close⟩
          · next far =>
              refine .inr ⟨rfl, fun other member => ⟨without other member, ?_⟩⟩
              exact Nat.le_trans (Nat.not_le.mp far) (first.le member)

theorem Meant.not_remote (meant : Meant key declared name) : ¬ Remote key declared := by
  intro remote
  cases meant with
  | within listed within _ => exact (remote name listed).1 within
  | near _ cut _ _ close =>
      have far := (remote name (cut ▸ List.mem_append_right _ List.mem_cons_self)).2
      exact absurd close (Nat.not_le.mpr far)

theorem Meant.listed (meant : Meant key declared name) : name ∈ declared := by
  cases meant with
  | within listed => exact listed
  | near _ cut => exact cut ▸ List.mem_append_right _ List.mem_cons_self

/-- Of the names that do not contain the key only one can be meant. -/
theorem Meant.unique (meant : Meant key declared name) (meant' : Meant key declared other)
    (without : ∀ other ∈ declared, ¬ Within key other) : name = other := by
  cases meant with
  | within listed within => exact (without name listed within).elim
  | near _ cut first nearest =>
      cases meant' with
      | within listed within => exact (without other listed within).elim
      | near _ cut' first' nearest' => exact First.unique ⟨cut, first, nearest⟩ ⟨cut', first', nearest'⟩

theorem within_empty (within : Within key []) : key = [] :=
  List.map_eq_nil_iff.mp (List.sublist_nil.mp within)

/-- The empty name does not contain a key that is not declared, so it is meant where it is the nearest. -/
theorem Meant.without_of_empty (meant : Meant key declared []) (unknown : key ∉ declared) :
    ∀ other ∈ declared, ¬ Within key other := by
  cases meant with
  | within listed within => exact (unknown (within_empty within ▸ listed)).elim
  | near without => exact without

theorem closest_some (found : closest key declared = some name) :
    name ≠ [] ∧ Meant key declared name := by
  obtain ⟨chosen, shown⟩ := Option.filter_eq_some_iff.mp found
  rcases meant_cases key declared with ⟨_, same, meant⟩ | ⟨none, -⟩
  · cases same.symm.trans chosen
    exact ⟨by simpa using shown, meant⟩
  · cases none.symm.trans chosen

theorem closest_eq_none_iff (unknown : key ∉ declared) :
    closest key declared = none ↔ Remote key declared ∨ Meant key declared [] := by
  rw [closest]
  rcases meant_cases key declared with ⟨name, chosen, likely⟩ | ⟨chosen, remote⟩
  · rw [chosen]
    constructor
    · intro hidden
      have empty : name = [] := by simpa using hidden
      exact .inr (empty ▸ likely)
    · rintro (remote | meant)
      · exact (likely.not_remote remote).elim
      · have empty : name = [] := likely.unique meant (meant.without_of_empty unknown)
        rw [empty]
        rfl
  · rw [chosen]
    exact ⟨fun _ => .inl remote, fun _ => rfl⟩

end Suggestion

/-! ### The error of a call -/

namespace Reading

variable {site : Site} {p : Param} {error : CallError}

theorem kind_missing {required : Bool} {argument : Option Value}
    (broken : missing site p required argument = some error) : error.kind = .missingArgument := by
  unfold missing at broken
  split at broken
  · cases broken
    rfl
  · cases broken

theorem kind_notReference {argument : Option Value} (broken : notReference site p argument = some error) :
    error.kind = .notAReference := by
  unfold notReference at broken
  split at broken
  · obtain ⟨value, -, broken⟩ := Option.bind_eq_some_iff.mp broken
    split at broken
    · cases broken
    · cases broken
      rfl
  · cases broken

theorem kind_malformed {param : Text} {list : List Value} (broken : malformed site param list = some error) :
    error.kind = .malformedNamedArguments := by
  obtain ⟨fault, -, rfl⟩ := Option.map_eq_some_iff.mp broken
  rfl

theorem kind_surplus {strict : Bool} {s : Signature} {rest : List Value}
    (broken : surplus site strict s rest = some error) : error.kind = .tooManyArguments := by
  unfold surplus at broken
  split at broken
  · cases broken
    rfl
  · cases broken

/-- The keys that no parameter has are told each once, and one alone comes with what is suggested for it. -/
theorem unknown_some {known : List Text} {pairs : List Value}
    (broken : unknown site known pairs = some error) :
    error.keys = ((keys pairs).filter (!known.contains ·)).eraseDups ∧ error.keys ≠ [] ∧
      (∀ key, error.keys = [key] →
        error.suggestion = ((Suggestion.closest key known).map (.char ':' :: ·)).getD []) ∧
      ((∀ key, error.keys ≠ [key]) → error.suggestion = []) := by
  unfold unknown at broken
  split at broken
  · cases broken
  · next key only =>
      cases broken
      refine ⟨only.symm, List.cons_ne_nil _ _, ?_, fun several => (several key rfl).elim⟩
      rintro _ same
      cases same
      cases Suggestion.closest key known <;> rfl
  · next several some_ single =>
      cases broken
      exact ⟨rfl, some_, fun key same => (single key same).elim, fun _ => rfl⟩

end Reading

namespace Signature

open Reading

variable {s : Signature} {strict : Bool} {site : Site} {args : List Value} {error : CallError}

/-- A call that is refused for the keys it passes has broken the rule on unknown ones. -/
theorem unknown_of_kind (broken : s.firstBroken strict site args = some error)
    (kind : error.kind = .unexpectedNamedArgument) :
    unknown site (s.named.map (·.name)) (s.pairs args) = some error := by
  obtain ⟨rule, member, same⟩ := List.exists_of_findSome?_eq_some broken
  obtain rfl : rule = some error := same
  have other {found : Condition} (own : error.kind = found)
      (different : found ≠ .unexpectedNamedArgument) : False :=
    different (own.symm.trans kind)
  simp only [rules, List.mem_append, List.mem_singleton, List.mem_flatten] at member
  rcases member with ((invocant | ⟨own, positional, member⟩) | named) | surplus
  · obtain ⟨name, _, broken⟩ := List.mem_map.mp invocant
    split at broken
    · cases broken
      cases kind
    · cases broken
  · obtain ⟨index, _, rfl⟩ := List.mem_mapIdx.mp positional
    simp only [positionalRules, List.mem_cons, List.not_mem_nil, or_false] at member
    rcases member with broken | broken | broken
    · exact (other (kind_missing broken.symm) (by decide)).elim
    · split at broken
      · cases broken
      · exact (other (kind_notReference broken.symm) (by decide)).elim
    · split at broken
      · exact (other (kind_malformed broken.symm) (by decide)).elim
      · cases broken
  · unfold namedRules at named
    split at named
    · simp only [List.cons_append, List.mem_cons, List.mem_append, List.mem_flatMap,
        List.not_mem_nil, or_false, Reading.namedRules] at named
      rcases named with broken | ⟨p, _, broken | broken⟩ | broken
      · exact (other (kind_malformed broken.symm) (by decide)).elim
      · exact (other (kind_missing broken.symm) (by decide)).elim
      · exact (other (kind_notReference broken.symm) (by decide)).elim
      · exact broken.symm
    · cases named
  · exact (other (kind_surplus surplus.symm) (by decide)).elim

theorem name_ne_nil_of_parsed {text : Text} {options : AssemblyOptions}
    (parsed : Signature.parse text options = .ok s) : [] ∉ s.named.map (·.name) := by
  intro member
  obtain ⟨p, listed, empty⟩ := List.mem_map.mp member
  have spelled := parse_params_spelled parsed p (List.mem_append_right _ listed)
  exact Text.ne_nil_of_isIdentifier spelled.name empty

end Signature

namespace Plan

open Suggestion (Meant Remote)

variable {settings : PlanOptions} {s : Signature} {plan : Plan}

theorem call_unexpected {context : Context} {site : Site} {store : Store} {args : View} {error : CallError}
    {after : Session} (compiled : (compile s settings).outcome = .ok plan) (wellFormed : s.WellFormed)
    (called : plan.call context site store args = (.error (.refused error), after))
    (kind : error.kind = .unexpectedNamedArgument) :
    Reading.unknown (settings.siteOf site) (s.named.map (·.name)) (s.pairs (store.items args)) =
      some error := by
  have cases := call_cases context site store args compiled wellFormed
  split at cases
  · next first broken =>
      rw [cases] at called
      cases called
      exact Signature.unknown_of_kind broken kind
  · -- What fails once the arguments are checked is a default.
    obtain ⟨c, -, -, -, -, -, run⟩ := cases
    have stops := (c.bind_done store).of_error (run ▸ called)
    cases stops.kind.symm.trans kind

/-- What the error of a call says about the keys passed that no parameter has. There is a suggestion only for
a key that is the only one, and then it is the declared name that the key most likely means. -/
structure Suggests (declared passed : List Text) (error : CallError) : Prop where
  nonempty : error.keys ≠ []
  distinct : error.keys.Nodup
  unknown : ∀ key, key ∈ error.keys ↔ key ∈ passed ∧ key ∉ declared
  meant : error.suggestion ≠ [] → ∃ key name, error.keys = [key] ∧
    error.suggestion = .char ':' :: name ∧ name ≠ [] ∧ Meant key declared name
  /-- There is none where every declared name is remote, and where the empty name is meant. -/
  silent : ∀ key, error.keys = [key] →
    (error.suggestion = [] ↔ Remote key declared ∨ Meant key declared [])
  remote : [] ∉ declared → ∀ key, error.keys = [key] → (error.suggestion = [] ↔ Remote key declared)

theorem call_suggests {context : Context} {site : Site} {store : Store} {args : View} {error : CallError}
    {after : Session} (compiled : (compile s settings).outcome = .ok plan) (wellFormed : s.WellFormed)
    (called : plan.call context site store args = (.error (.refused error), after))
    (kind : error.kind = .unexpectedNamedArgument) :
    Suggests (s.named.map (·.name)) (Reading.keys (s.pairs (store.items args))) error := by
  have broken := call_unexpected compiled wellFormed called kind
  obtain ⟨keys, some_, single, several⟩ := Reading.unknown_some broken
  have unknown : ∀ key, key ∈ error.keys ↔
      key ∈ Reading.keys (s.pairs (store.items args)) ∧ key ∉ s.named.map (·.name) := by
    intro key
    rw [keys, List.mem_eraseDups, List.mem_filter, Bool.not_eq_true', ← Bool.not_eq_true,
      List.contains_iff_mem]
  have silent : ∀ key, error.keys = [key] → (error.suggestion = [] ↔
      Remote key (s.named.map (·.name)) ∨ Meant key (s.named.map (·.name)) []) := by
    intro key only
    have other := ((unknown key).mp (only ▸ List.mem_cons_self)).2
    rw [single key only, ← Suggestion.closest_eq_none_iff other]
    cases Suggestion.closest key (s.named.map (·.name)) <;> simp
  refine ⟨some_, keys ▸ Reading.nodup_eraseDups _, unknown, fun suggested => ?_, silent,
    fun unnamed key only => ?_⟩
  · obtain ⟨key, only⟩ : ∃ key, error.keys = [key] :=
      Classical.byContradiction fun none => suggested (several fun key same => none ⟨key, same⟩)
    rw [single key only] at suggested ⊢
    cases found : Suggestion.closest key (s.named.map (·.name)) with
    | none => simp [found] at suggested
    | some name =>
        obtain ⟨shown, meant⟩ := Suggestion.closest_some found
        exact ⟨key, name, only, rfl, shown, meant⟩
  · rw [silent key only, or_iff_left]
    exact fun meant => unnamed meant.listed

/-- What is suggested when a call passes a key that no parameter has is a nearest declared name, and there is
one unless every declared name is remote or the empty name is meant. No signature that is read from a text
declares the empty name. What is nearest is so by the number of edits. -/
theorem suggestion_is_nearest (obtained : s.Obtainable) (compiled : (compile s settings).outcome = .ok plan)
    {context : Context} {site : Site} {store : Store} {args : View} {error : CallError} {after : Session}
    (called : plan.call context site store args = (.error (.refused error), after))
    (kind : error.kind = .unexpectedNamedArgument) :
    Suggests (s.named.map (·.name)) (Reading.keys (s.pairs (store.items args))) error ∧
    (∀ text options, Signature.parse text options = .ok s → [] ∉ s.named.map (·.name)) ∧
    ∀ key name, Text.LeastEdits key name (Text.distance key name) :=
  ⟨call_suggests compiled obtained.consistent.toWellFormed called kind,
    fun _ _ parsed => Signature.name_ne_nil_of_parsed parsed, Text.distance_least⟩

/-- Two names, of which the second is meant by what is passed. -/
def datedSample : Signature where
  text := ":$year, :$month"
  named := [{ name := "year", role := .named, optional := true },
    { name := "month", role := .named, optional := true }]

def datedStore : Store where
  cells := #[.list [.plain (.text "mnth"), .null, .plain (.text "mnth"), .plain (.bool true)]]

theorem suggestion_is_nearest_misspelt :
    Signature.parse ":$year, :$month" {} = .ok datedSample ∧
    ∃ plan error after, (compile datedSample {}).outcome = .ok plan ∧
      plan.call [] {} datedStore ⟨0, 0, 4⟩ = (.error (.refused error), after) ∧
      error.kind = .unexpectedNamedArgument ∧ error.keys = ["mnth"] ∧ error.suggestion = ":month" ∧
      Meant "mnth" ["year", "month"] "month" ∧ ¬ Remote "mnth" ["year", "month"] := by
  have parsed : Signature.parse ":$year, :$month" {} = .ok datedSample := by rfl
  obtain ⟨plan, compiled, error, after, called, kind, keys, suggested⟩ :
      ∃ plan, (compile datedSample {}).outcome = .ok plan ∧ ∃ error after,
        plan.call [] {} datedStore ⟨0, 0, 4⟩ = (.error (.refused error), after) ∧
        error.kind = .unexpectedNamedArgument ∧ error.keys = [Text.ofString "mnth"] ∧
        error.suggestion = Text.ofString ":month" :=
    ⟨_, rfl, _, _, rfl, rfl, by decide, by decide⟩
  obtain ⟨suggests, named, -⟩ := suggestion_is_nearest (.parsed parsed) compiled called kind
  have remote := suggests.remote (named _ _ parsed) _ keys
  obtain ⟨key, name, only, shown, -, meant⟩ := suggests.meant (by rw [suggested]; decide)
  cases only.symm.trans keys
  cases shown.symm.trans suggested
  refine ⟨parsed, plan, error, after, compiled, called, kind, keys, suggested, meant, fun far => ?_⟩
  rw [remote.mpr far] at suggested
  cases suggested

/-- The map 1: 1, 5: one parameter, which is named and optional and has the empty name. -/
def namelessBytes : List UInt8 :=
  [0xa2, 0x01, 0x01, 0x05, 0x81, 0xa4, 0x01, 0x60, 0x02, 0x00, 0x03, 0xf5, 0x07, 0xf5]

def namelessStore : Store where
  cells := #[.list [.plain (.text "a"), .plain (.int .int 1)]]

/-- The empty name is one edit away from the key, and is not suggested. -/
theorem suggestion_is_hidden : ∃ s, Signature.decode namelessBytes = .ok s ∧
    s.named.map (·.name) = [[]] ∧
    ∃ plan error after, (compile s {}).outcome = .ok plan ∧
      plan.call [] {} namelessStore ⟨0, 0, 2⟩ = (.error (.refused error), after) ∧
      error.kind = .unexpectedNamedArgument ∧ error.keys = ["a"] ∧ error.suggestion = [] ∧
      Text.distance "a" [] = 1 ∧ ¬ Remote "a" (s.named.map (·.name)) := by
  have near : Text.distance "a" [] = 1 := by decide
  refine ⟨{ named := [{ name := [], role := .named, optional := true }] }, by decide +kernel, rfl,
    _, _, _, rfl, rfl, rfl, by decide +kernel, rfl, near, fun remote => ?_⟩
  have far := (remote [] List.mem_cons_self).2
  omega

end Plan
end CallPlan
