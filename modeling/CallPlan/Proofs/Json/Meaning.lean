import CallPlan.Proofs.Data.Entries
import CallPlan.Proofs.Json.Numerals

/-!
Documents become the host values that they mean, part by part.
-/

namespace CallPlan.Json

open Datum (ofJson)

variable {t s : Text} {v : Json} {pieces : List Piece}

theorem itemsOfJson_eq (items : List Json) : Datum.itemsOfJson items = items.map ofJson := by
  induction items with
  | nil => rfl
  | cons item rest ih => rw [Datum.itemsOfJson, ih, List.map_cons]

theorem membersOfJson_eq (members : List (Text × Json)) :
    Datum.membersOfJson members = Entries.mapValues ofJson members := by
  induction members with
  | nil => rfl
  | cons member rest ih => rw [Datum.membersOfJson, ih]; rfl

theorem means_list {items : List Json} (each : ∀ item ∈ items, item.Means (ofJson item)) :
    Means (.list items) (ofJson (.list items)) := by
  rw [ofJson, itemsOfJson_eq]
  refine .list (by simp) fun entry member => ?_
  rw [← List.map_prod_left_eq_zip] at member
  obtain ⟨item, listed, rfl⟩ := List.mem_map.mp member
  exact each item listed

theorem means_object {members : List (Text × Json)}
    (each : ∀ member ∈ members, member.2.Means (ofJson member.2)) :
    Means (.object members) (ofJson (.object members)) := by
  rw [ofJson, membersOfJson_eq]
  refine .object (Entries.merge_nodup List.nodup_nil) (fun key => ?_) fun key value datum last found => ?_
  · rw [Entries.has_iff_mem_keys, Entries.ofList, Entries.mem_keys_merge, Entries.keys_mapValues]
    simp [Entries.keys]
  · have kept : (Entries.mapValues ofJson members).reverse = Entries.mapValues ofJson members.reverse :=
      List.map_reverse.symm
    have held := Entries.get?_mapValues ofJson members.reverse key
    rw [Entries.get?_ofList, kept] at found
    rw [Entries.get?, found, Entries.get?, last] at held
    cases held
    exact each (key, value) (List.mem_reverse.mp (Entries.mem_of_get? last))

mutual

theorem Written.means : ∀ {t : Text} {v : Json}, Written t v → v.Means (ofJson v)
  | _, _, .null => .null
  | _, _, .yes => .bool true
  | _, _, .no => .bool false
  | _, _, .number n => ofLiteral_means n
  | _, _, .text (s := s) _ _ => .text s
  | _, _, .emptyList _ => means_list nofun
  | _, _, .list written => means_list written.means
  | _, _, .emptyObject _ => means_object nofun
  | _, _, .object written => means_object written.means

theorem Padded.means : ∀ {t : Text} {v : Json}, Padded t v → v.Means (ofJson v)
  | _, _, .around _ written _ => written.means

theorem Items.means : ∀ {t : Text} {items : List Json}, Items t items →
    ∀ item ∈ items, item.Means (ofJson item)
  | _, _, .last padded => by
      rintro item (_ | ⟨_, ⟨⟩⟩)
      exact padded.means
  | _, _, .more padded others => by
      rintro item (_ | ⟨_, later⟩)
      · exact padded.means
      · exact others.means item later

theorem Member.means : ∀ {t : Text} {member : Text × Json}, Member t member →
    member.2.Means (ofJson member.2)
  | _, _, .keyed _ _ _ _ padded => padded.means

theorem Members.means : ∀ {t : Text} {members : List (Text × Json)}, Members t members →
    ∀ member ∈ members, member.2.Means (ofJson member.2)
  | _, _, .last written => by
      rintro member (_ | ⟨_, ⟨⟩⟩)
      exact written.means
  | _, _, .more written others => by
      rintro member (_ | ⟨_, later⟩)
      · exact written.means
      · exact others.means member later

end

/-! ## Documents are at least as long as what they mean -/

theorem Inside.length_le {body : Text} (inside : Inside body pieces) : pieces.length ≤ body.length := by
  induction inside <;> simp only [List.length_cons, List.length_nil] <;> omega

theorem Joined.length_le (joined : Joined pieces s) : s.length ≤ pieces.length := by
  induction joined <;> simp only [List.length_cons, List.length_nil] <;> omega

theorem Written.length_le (written : Written t v) (means : v.Means (.text s)) : s.length ≤ t.length := by
  cases written with
  | number n =>
      generalize same : Json.number n.literal = v at means
      cases means with
      | literal _ _ => exact (congrArg List.length (Json.number.inj same)).ge
      | _ => cases same
  | text inside joined =>
      have shorter := inside.length_le
      have joins := joined.length_le
      cases means
      simp only [List.length_append, List.length_cons]
      omega
  | _ => cases means

end CallPlan.Json
