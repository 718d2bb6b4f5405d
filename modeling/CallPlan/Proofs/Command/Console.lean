import CallPlan.Command.Console
import CallPlan.Proofs.Command.Prepared
import Mathlib.Data.List.Induction

/-!
Conversations. The plan in force is the one that the last good signature was compiled to. Every other
line leaves it as it is, and what is written for a line of arguments depends on the plan and the line
only: the plan itself keeps no trace of the calls before.
-/

namespace CallPlan

theorem Text.cut_eq (mark : Char) (t : Text) :
    (∃ before after, t.cut mark = (before, some after) ∧ t = before ++ .char mark :: after) ∨
      t.cut mark = (t, none) := by
  induction t with
  | nil => exact .inr rfl
  | cons g rest ih =>
      simp only [cut]
      split
      · next same => exact .inl ⟨[], rest, rfl, congrArg (· :: rest) same⟩
      · rcases ih with ⟨before, after, found, whole⟩ | none
        · rw [found]
          exact .inl ⟨g :: before, after, rfl, congrArg (g :: ·) whole⟩
        · rw [none]
          exact .inr rfl

namespace Console

variable {prepare : Preparation} {line text : Text} {plan fresh used : Option Prepared}

/-- A line that supplies a signature: by the command, or by itself where no plan is in force. -/
inductive Supplies : Option Prepared → Text → Text → Prop
  | command {plan : Option Prepared} (text : Text) : Supplies plan (":sig " ++ text) text
  | bare {plan : Option Prepared} : Supplies plan ":sig" []
  | plain {line : Text} (noCommand : line.head? ≠ some (.char ':')) : Supplies none line line

/-- A line whose first word ends the conversation. -/
def endsConversation (line : Text) : Bool :=
  let (word, _) := line.cut ' '
  word = ":quit" || word = ":q"

theorem head_of_cut {word : Text} {rest : Option Text} (found : line.cut ' ' = (word, rest)) :
    word.head? = some (.char ':') ↔ line.head? = some (.char ':') := by
  rcases line.cut_eq ' ' with ⟨before, after, cut, whole⟩ | cut
  · cases found.symm.trans cut
    rw [whole]
    cases word with
    | nil => simp
    | cons g word => rfl
  · cases found.symm.trans cut
    rfl

/-- Where a line starts with a colon, its first word says what it asks for. -/
theorem ofLine_command {word : Text} {rest : Option Text} (found : line.cut ' ' = (word, rest))
    (command : line.head? = some (.char ':')) :
    Request.ofLine line =
      if word = ":quit" || word = ":q" then .quit
      else if word = ":help" then .help
      else if word = ":sig" then .signature (rest.getD [])
      else if word = ":plan" then .plan
      else .unknown word := by
  have colon := (head_of_cut found).mpr command
  simp only [Request.ofLine, found, colon, ne_eq, not_true, if_false]

theorem ofLine_plain {other : Text} : Request.ofLine line = .plain other ↔
    other = line ∧ line.head? ≠ some (.char ':') := by
  cases found : line.cut ' ' with
  | mk word rest =>
      by_cases command : line.head? = some (.char ':')
      · rw [ofLine_command found command]
        constructor
        · intro plain
          split at plain
          · cases plain
          · split at plain
            · cases plain
            · split at plain
              · cases plain
              · split at plain <;> cases plain
        · exact fun given => absurd command given.2
      · have noCommand : word.head? ≠ some (.char ':') := fun colon =>
          command ((head_of_cut found).mp colon)
        simp only [Request.ofLine, found, noCommand, ne_eq, not_false_iff, if_true, Request.plain.injEq,
          command, and_true, eq_comm]

theorem ofLine_quit : Request.ofLine line = .quit ↔ endsConversation line = true := by
  cases found : line.cut ' ' with
  | mk word rest =>
      by_cases command : line.head? = some (.char ':')
      · rw [ofLine_command found command]
        simp only [endsConversation, found]
        split
        · next quits => exact ⟨fun _ => quits, fun _ => rfl⟩
        · next other =>
            refine ⟨fun quit => ?_, fun quits => absurd quits other⟩
            split at quit
            · cases quit
            · split at quit
              · cases quit
              · split at quit <;> cases quit
      · rw [ofLine_plain.mpr ⟨rfl, command⟩]
        refine ⟨fun quit => (nomatch quit), fun quits => absurd ?_ command⟩
        simp only [endsConversation, found, Bool.or_eq_true, decide_eq_true_eq] at quits
        rw [← head_of_cut found]
        rcases quits with rfl | rfl <;> rfl

theorem ofLine_signature : Request.ofLine line = .signature text ↔
    line = ":sig " ++ text ∨ line = ":sig" ∧ text = [] := by
  constructor
  · intro asks
    cases found : line.cut ' ' with
    | mk word rest =>
        by_cases command : line.head? = some (.char ':')
        · rw [ofLine_command found command] at asks
          split at asks
          · cases asks
          · split at asks
            · cases asks
            · split at asks
              · next first =>
                  cases asks
                  subst first
                  rcases line.cut_eq ' ' with ⟨before, after, cut, whole⟩ | cut
                  · cases found.symm.trans cut
                    exact .inl whole
                  · cases found.symm.trans cut
                    exact .inr ⟨rfl, rfl⟩
              · split at asks <;> cases asks
        · rw [ofLine_plain.mpr ⟨rfl, command⟩] at asks
          cases asks
  · rintro (rfl | ⟨rfl, rfl⟩) <;> rfl

theorem supplies_iff : Supplies plan line text ↔
    Request.ofLine line = .signature text ∨ plan = none ∧ Request.ofLine line = .plain text := by
  rw [ofLine_signature, ofLine_plain]
  constructor
  · intro supplies
    cases supplies with
    | command => exact .inl (.inl rfl)
    | bare => exact .inl (.inr ⟨rfl, rfl⟩)
    | plain noCommand => exact .inr ⟨rfl, rfl, noCommand⟩
  · rintro ((rfl | ⟨rfl, rfl⟩) | ⟨rfl, rfl, noCommand⟩)
    · exact .command text
    · exact .bare
    · exact .plain noCommand

/-- The plan in force after a line, as it was compiled. -/
def follow (prepare : Preparation) (plan : Option Prepared) (line : Text) : Option Prepared :=
  match Request.ofLine line, plan with
  | .signature text, _ => (setSignature prepare plan text).plan
  | .plain text, none => (setSignature prepare none text).plan
  | _, _ => plan

theorem follow_supplied (supplies : Supplies plan line text) :
    follow prepare plan line = (setSignature prepare plan text).plan := by
  rcases supplies_iff.mp supplies with asked | ⟨rfl, asked⟩
  · simp only [follow, asked]
  · simp only [follow, asked]

theorem follow_good {p : Prepared} (supplies : Supplies plan line text) (good : prepare text = .ok p) :
    follow prepare plan line = some p := by
  simp only [follow_supplied supplies, setSignature, good]

/-- A line that supplies no signature that compiles leaves the plan as it is. -/
theorem follow_other (bad : ∀ text p, Supplies plan line text → prepare text ≠ .ok p) :
    follow prepare plan line = plan := by
  have kept : ∀ text, Supplies plan line text → follow prepare plan line = plan := by
    intro text supplies
    rw [follow_supplied supplies, setSignature]
    cases compiled : prepare text with
    | error failure => rfl
    | ok p => exact absurd compiled (bad text p supplies)
  cases asked : Request.ofLine line with
  | signature text => exact kept text (supplies_iff.mpr (.inl asked))
  | plain text =>
      cases plan with
      | some prepared => simp only [follow, asked]
      | none => exact kept text (supplies_iff.mpr (.inr ⟨rfl, asked⟩))
  | quit => simp only [follow, asked]
  | help => simp only [follow, asked]
  | plan => simp only [follow, asked]
  | unknown word => simp only [follow, asked]

/-- The plan in force is one that was compiled, after some calls. -/
inductive InUse : Option Prepared → Option Prepared → Prop
  | none : InUse none none
  | some {p p' : Prepared} (sound : p.Sound) (used : p.Used p') : InUse (some p) (some p')

theorem InUse.plan_eq (inUse : InUse fresh used) : used.map (·.plan) = fresh.map (·.plan) := by
  cases inUse with
  | none => rfl
  | some sound used => exact congrArg Option.some used.plan

/-- What a signature leads to: the plan in force before shows only if the signature is refused. -/
theorem setSignature_step (sound : ∀ text p, prepare text = .ok p → p.Sound) (inUse : InUse fresh used)
    (text : Text) :
    (setSignature prepare used text).writes = (setSignature prepare fresh text).writes ∧
      InUse (setSignature prepare fresh text).plan (setSignature prepare used text).plan := by
  unfold setSignature
  cases compiled : prepare text with
  | error failure => exact ⟨rfl, inUse⟩
  | ok p => exact ⟨rfl, .some (sound text p compiled) (.refl p)⟩

theorem answer_step {p p' : Prepared} (sound : p.Sound) (used : p.Used p') (line : Text) :
    (answer p' line).writes = (answer p line).writes ∧ (answer p' line).quits = false ∧
      InUse (some p) (answer p' line).plan := by
  unfold answer
  cases Argument.readLine line with
  | error cause => exact ⟨rfl, rfl, .some sound used⟩
  | ok args =>
      have shown := Prepared.bind_eq sound used args
      have later : p.Used (p'.bind args).2 :=
        used.trans (Prepared.bind_used (sound.tame used) args)
      simp only
      generalize p'.bind args = result at shown later ⊢
      generalize p.bind args = result' at shown ⊢
      obtain ⟨outcome, after⟩ := result
      obtain ⟨outcome', after'⟩ := result'
      cases shown
      cases outcome with
      | error failure => exact ⟨rfl, rfl, .some sound later⟩
      | ok texts => exact ⟨rfl, rfl, .some sound later⟩

/-- One line: the plan as it was compiled says what is written, and what the plan is from then on. -/
theorem reply_step (sound : ∀ text p, prepare text = .ok p → p.Sound) (inUse : InUse fresh used)
    (line : Text) :
    (reply prepare used line).writes = (reply prepare fresh line).writes ∧
      (reply prepare used line).quits = endsConversation line ∧
      InUse (follow prepare fresh line) (reply prepare used line).plan := by
  have goesOn : ∀ request, Request.ofLine line = request → request ≠ .quit →
      endsConversation line = false := by
    intro request asked other
    by_contra quits
    exact other (asked.symm.trans (ofLine_quit.mpr (Bool.not_eq_false _ ▸ quits)))
  cases asked : Request.ofLine line with
  | quit =>
      simp only [reply, follow, asked, true_and]
      exact ⟨(ofLine_quit.mp asked).symm, inUse⟩
  | signature text =>
      have step := setSignature_step sound inUse text
      simp only [reply, follow, asked]
      refine ⟨step.1, ?_, step.2⟩
      rw [goesOn _ asked (by simp)]
      unfold setSignature
      split <;> rfl
  | help =>
      simp only [reply, follow, asked, true_and]
      exact ⟨(goesOn _ asked (by simp)).symm, inUse⟩
  | unknown word =>
      simp only [reply, follow, asked, true_and]
      exact ⟨(goesOn _ asked (by simp)).symm, inUse⟩
  | plan =>
      cases inUse with
      | none =>
          simp only [reply, follow, asked, true_and]
          exact ⟨(goesOn _ asked (by simp)).symm, .none⟩
      | @some p p' own used =>
          simp only [reply, follow, asked, used.plan, true_and]
          exact ⟨(goesOn _ asked (by simp)).symm, .some own used⟩
  | plain text =>
      cases inUse with
      | none =>
          have step := setSignature_step sound .none text
          simp only [reply, follow, asked, true_and]
          refine ⟨?_, step.2⟩
          rw [goesOn _ asked (by simp)]
          unfold setSignature
          split <;> rfl
      | @some p p' own used =>
          have step := answer_step own used text
          simp only [reply, follow, asked]
          exact ⟨step.1, step.2.1.trans (goesOn _ asked (by simp)).symm, step.2.2⟩

/-- The lines that are answered: those that are not blank, up to the first that ends the conversation. -/
def answered (lines : List Text) : List Text :=
  let shown := (lines.map Text.trim).filter (!·.isEmpty)
  shown.take (shown.findIdx endsConversation + 1)

section Answered

variable {rest : List Text}

theorem answered_blank (blank : line.trim.isEmpty = true) : answered (line :: rest) = answered rest := by
  simp only [answered, List.map_cons, List.filter_cons, blank, Bool.not_true, Bool.false_eq_true, if_false]

theorem answered_quit (shown : line.trim.isEmpty = false) (quits : endsConversation line.trim = true) :
    answered (line :: rest) = [line.trim] := by
  simp [answered, shown, List.findIdx_cons, quits]

theorem answered_cons (shown : line.trim.isEmpty = false) (goesOn : endsConversation line.trim = false) :
    answered (line :: rest) = line.trim :: answered rest := by
  simp [answered, shown, List.findIdx_cons, goesOn]

theorem answered_take (lines : List Text) (n : Nat) : answered (lines.take n) <+: answered lines := by
  induction lines generalizing n with
  | nil => simp
  | cons line rest ih =>
      cases n with
      | zero => exact List.nil_prefix
      | succ n =>
          rw [List.take_succ_cons]
          cases shown : line.trim.isEmpty with
          | true =>
              rw [answered_blank shown, answered_blank shown]
              exact ih n
          | false =>
              cases quits : endsConversation line.trim with
              | true =>
                  simp only [answered_quit shown quits, List.prefix_rfl]
              | false =>
                  rw [answered_cons shown quits, answered_cons shown quits]
                  exact (List.prefix_cons_inj _).mpr (ih n)

end Answered

/-- The plan in force after lines that have been answered, as it was compiled. -/
def inForce (prepare : Preparation) (opening : Option Prepared) (lines : List Text) : Option Prepared :=
  lines.foldl (follow prepare) opening

/-- What a conversation tells: each line is answered from the plan in force as it was compiled. -/
structure Tells (prepare : Preparation) (ending : Ending) (opening : Option Prepared) (lines : List Text)
    (t : Transcript) : Prop where
  history : t.history = answered lines
  unread : t.unread = lines.drop (lines.findIdx (endsConversation ·.trim) + 1)
  writes : t.writes = (t.history.mapIdx fun i line =>
      (reply prepare (inForce prepare opening (t.history.take i)) line).writes).flatten ++
    (if t.history.any endsConversation then [] else farewell ending)
  plan : InUse (inForce prepare opening t.history) t.plan

theorem converse_tells (sound : ∀ text p, prepare text = .ok p → p.Sound) (ending : Ending)
    (inUse : InUse fresh used) (lines : List Text) :
    Tells prepare ending fresh lines (converse prepare ending used lines) := by
  induction lines generalizing fresh used with
  | nil => exact ⟨rfl, rfl, rfl, inUse⟩
  | cons line rest ih =>
      cases shown : line.trim.isEmpty with
      | true =>
          have later := ih inUse
          have blank : endsConversation line.trim = false := by
            rw [List.isEmpty_iff.mp shown]
            rfl
          simp only [converse, shown, if_true]
          refine ⟨?_, ?_, later.writes, later.plan⟩
          · rw [answered_blank shown]
            exact later.history
          · simp only [List.findIdx_cons, blank, cond_false, List.drop_succ_cons]
            exact later.unread
      | false =>
          obtain ⟨writes, quits, next⟩ := reply_step sound inUse line.trim
          cases ends : endsConversation line.trim with
          | true =>
              rw [ends] at quits
              simp only [converse, shown, Bool.false_eq_true, if_false, quits, if_true]
              refine ⟨(answered_quit shown ends).symm, ?_, ?_, next⟩
              · simp only [List.findIdx_cons, ends, cond_true, Nat.zero_add, List.drop_one, List.tail_cons]
              · simp [ends, writes, inForce]
          | false =>
              rw [ends] at quits
              have later := ih next
              simp only [converse, shown, Bool.false_eq_true, if_false, quits]
              refine ⟨?_, ?_, ?_, later.plan⟩
              · rw [answered_cons shown ends, later.history]
              · simp only [List.findIdx_cons, ends, cond_false, List.drop_succ_cons]
                exact later.unread
              · -- The lines after this one are answered as they would be if the plan it leaves had opened.
                rw [later.writes, writes]
                simp only [List.mapIdx_cons, List.flatten_cons, List.take_zero, List.take_succ_cons, inForce,
                  List.foldl_nil, List.foldl_cons, List.any_cons, ends, Bool.false_or, List.append_assoc]

/-- None of the signatures that a line supplies compiles. -/
def Refused (prepare : Preparation) (plan : Option Prepared) (line : Text) : Prop :=
  ∀ text p, Supplies plan line text → prepare text ≠ .ok p

/-- The plan is that of the last line that supplied a signature that compiles, or the opening one where
there is none. What is in force before a line decides whether it supplies one. -/
inductive LastGood (prepare : Preparation) (opening : Option Prepared)
    (current : List Text → Option Prepared) (lines : List Text) : Prop
  | opening (same : current lines = opening)
      (refused : ∀ before line after, lines = before ++ line :: after →
        Refused prepare (current before) line)
  | latest {before after : List Text} {line text : Text} {p : Prepared}
      (split : lines = before ++ line :: after) (supplies : Supplies (current before) line text)
      (good : prepare text = .ok p) (same : current lines = some p)
      (refused : ∀ middle other rest, after = middle ++ other :: rest →
        Refused prepare (current (before ++ line :: middle)) other)

theorem inForce_concat (prepare : Preparation) (opening : Option Prepared) (lines : List Text)
    (line : Text) : inForce prepare opening (lines ++ [line]) =
      follow prepare (inForce prepare opening lines) line := by
  simp only [inForce, List.foldl_append, List.foldl_cons, List.foldl_nil]

/-- Where a list ends with a line, a line in it is the last one or before that. -/
theorem split_concat {lines before after : List Text} {last other : Text}
    (whole : lines ++ [last] = before ++ other :: after) :
    (after = [] ∧ before = lines ∧ other = last) ∨
      ∃ rest, after = rest ++ [last] ∧ lines = before ++ other :: rest := by
  rcases List.eq_nil_or_concat after with rfl | ⟨rest, final, rfl⟩
  · obtain ⟨same, ends⟩ := List.append_inj' whole rfl
    exact .inl ⟨rfl, same.symm, (List.cons.inj ends).1.symm⟩
  · rw [List.concat_eq_append, ← List.cons_append, ← List.append_assoc] at whole
    obtain ⟨same, ends⟩ := List.append_inj' whole rfl
    exact .inr ⟨rest, by rw [List.concat_eq_append, (List.cons.inj ends).1], same⟩

theorem inForce_lastGood (prepare : Preparation) (opening : Option Prepared) (lines : List Text) :
    LastGood prepare opening (inForce prepare opening) lines := by
  induction lines using List.reverseRecOn with
  | nil => exact .opening rfl fun before line after whole => by simp at whole
  | append_singleton lines last ih =>
      by_cases refused : Refused prepare (inForce prepare opening lines) last
      · have same : inForce prepare opening (lines ++ [last]) = inForce prepare opening lines := by
          rw [inForce_concat, follow_other refused]
        cases ih with
        | opening unchanged earlier =>
            refine .opening (same.trans unchanged) fun before other after whole => ?_
            rcases split_concat whole with ⟨-, rfl, rfl⟩ | ⟨rest, -, inside⟩
            · exact refused
            · exact earlier before other rest inside
        | @latest before after line text p split supplies good unchanged earlier =>
            refine .latest (by rw [split, List.append_assoc, List.cons_append]) supplies good
              (same.trans unchanged) fun middle other rest whole => ?_
            rcases split_concat whole with ⟨-, rfl, rfl⟩ | ⟨rest, -, inside⟩
            · rwa [split] at refused
            · exact earlier middle other rest inside
      · simp only [Refused, not_forall, not_not] at refused
        obtain ⟨text, p, supplies, good⟩ := refused
        refine .latest rfl supplies good ?_ fun middle other rest none => by simp at none
        rw [inForce_concat, follow_good supplies good]

/-- Conversations keep the last good signature. The history is the lines that are not blank, and nothing
after the line that ends the conversation is read. After any number of lines the plan in force is the one
that the last good signature was compiled to; and what is written for a line depends on that plan and the
line alone, whatever has been bound before. -/
theorem run_keeps_last_good (flags : Flags) (files : Files) (signature : Option Text) (ending : Ending)
    (lines : List Text) :
    let prepare := flags.prepare files
    let opening := start prepare signature
    let t := run prepare signature ending lines
    t.history = answered lines ∧
    t.unread = lines.drop (lines.findIdx (endsConversation ·.trim) + 1) ∧
    ∃ current : List Text → Option Prepared,
      (∀ before, LastGood prepare opening.plan current before) ∧
      (∀ before line, Refused prepare (current before) line →
        current (before ++ [line]) = current before) ∧
      (∀ count, let earlier := run prepare signature ending (lines.take count)
        earlier.history <+: t.history ∧
          earlier.plan.map (·.plan) = (current earlier.history).map (·.plan)) ∧
      t.writes = opening.writes ++ greeting ::
        ((t.history.mapIdx fun i line => (reply prepare (current (t.history.take i)) line).writes).flatten ++
          (if t.history.any endsConversation then [] else farewell ending)) := by
  intro prepare opening t
  have sound : ∀ text p, prepare text = .ok p → p.Sound := fun text p => Flags.prepare_sound
  have started : InUse opening.plan opening.plan := by
    cases signature with
    | none => exact .none
    | some text => exact (setSignature_step sound .none text).2
  have told := fun lines => converse_tells sound ending started lines
  refine ⟨(told lines).history, (told lines).unread, inForce prepare opening.plan,
    inForce_lastGood prepare opening.plan, ?_, ?_, ?_⟩
  · intro before line refused
    rw [inForce_concat, follow_other refused]
  · intro count
    refine ⟨?_, (told (lines.take count)).plan.plan_eq⟩
    exact (told _).history ▸ (told lines).history ▸ answered_take lines count
  · exact congrArg (opening.writes ++ greeting :: ·) (told lines).writes

end Console
end CallPlan
