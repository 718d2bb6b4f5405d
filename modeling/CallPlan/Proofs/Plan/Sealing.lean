import CallPlan.Proofs.Data.Sealed
import CallPlan.Proofs.Plan.Refinement
import CallPlan.Proofs.Scope

/-!
Read-only collections stay hidden while a call binds. Each is in a cell of its own, and no other binding,
no variable of a scope and no default leads to it.
-/

namespace CallPlan

namespace Content

variable {store middle after : Store} {hidden : Nat → Prop} {mode : Mode} {content : Content}
  {value : Value}

/-- The cell of a read-only collection. -/
def hidden? (mode : Mode) : Content → Option Nat
  | .own value => if mode = .readOnly then value.collection? else none
  | _ => none

/-- Content leads to cells that are shown, unless it is a read-only collection. -/
def Sealed (store : Store) (hidden : Nat → Prop) (mode : Mode) : Content → Prop
  | .own value => ∀ cell, value.cell? = some cell →
      hidden? mode (.own value) = some cell ∨ store.Shown hidden cell
  | .ref _ place => store.Shown hidden place.cell
  | .shared view => store.Shown hidden view.cell

theorem Sealed.map {hidden' : Nat → Prop} (own : content.Sealed store hidden mode)
    (wide : ∀ cell, store.Shown hidden cell → after.Shown hidden' cell) :
    content.Sealed after hidden' mode := by
  cases content with
  | own value => exact fun cell named => (own cell named).imp_right (wide cell)
  | ref type place => exact wide _ own
  | shared view => exact wide _ own

/-- New content, hidden as far as it is a read-only collection. -/
structure Seals (store : Store) (hidden : Nat → Prop) (mode : Mode) (content : Content)
    (after : Store) : Prop where
  grown : store.cells.size ≤ after.cells.size
  late : ∀ cell, content.hidden? mode = some cell → store.cells.size ≤ cell
  shut : after.Sealed fun cell => hidden cell ∨ content.hidden? mode = some cell
  own : content.Sealed after (fun cell => hidden cell ∨ content.hidden? mode = some cell) mode

theorem Seals.start (seals : content.Seals middle hidden mode after)
    (grown : store.cells.size ≤ middle.cells.size) : content.Seals store hidden mode after where
  grown := Nat.le_trans grown seals.grown
  late cell unseen := Nat.le_trans grown (seals.late cell unseen)
  shut := seals.shut
  own := seals.own

theorem seals_shown (shut : store.Sealed hidden) (plain : content.hidden? mode = none)
    (own : content.Sealed store hidden mode) : content.Seals store hidden mode store := by
  have same : (fun cell => hidden cell ∨ content.hidden? mode = some cell) = hidden := by
    simp [plain]
  refine ⟨Nat.le_refl _, by simp [plain], ?_, ?_⟩
  · rw [same]
    exact shut
  · rw [same]
    exact own

theorem seals_alloc (shut : store.Sealed hidden) {cell : Cell}
    (within : cell.Within (store.Shown hidden)) (named : value.cell? = some store.cells.size)
    (collection : value.collection? = some store.cells.size) (mode : Mode) :
    (own value).Seals store hidden mode (store.alloc cell).2 := by
  have new : ∀ other, hidden? mode (.own value) = some other → other = store.cells.size := by
    intro other unseen
    simp only [hidden?, collection] at unseen
    split at unseen
    · exact (Option.some.inj unseen).symm
    · cases unseen
  refine ⟨by simp, fun other unseen => Nat.le_of_eq (new other unseen).symm,
    shut.alloc_hidden within new, fun other same => ?_⟩
  rw [named, Option.some.injEq] at same
  subst same
  by_cases readOnly : mode = .readOnly
  · exact .inl (by simp [hidden?, readOnly, collection])
  · exact .inr ⟨by simp, by simpa [hidden?, readOnly] using shut.fresh (Nat.le_refl _)⟩

theorem seals_clone (shut : store.Sealed hidden) (within : value.Within (store.Shown hidden))
    (mode : Mode) : (own (store.clone value).1).Seals store hidden mode (store.clone value).2 := by
  cases value with
  | list view =>
      have within : (Cell.list (store.items view)).Within (store.Shown hidden) := fun value member =>
        shut.of_mem_items member
      exact seals_alloc shut within rfl rfl mode
  | dict cell =>
      refine seals_alloc shut (fun value member => ?_) rfl rfl mode
      obtain ⟨entry, listed, rfl⟩ := List.mem_map.mp member
      exact shut.of_mem_entries listed
  | plain datum =>
      exact seals_shown shut (by simp [hidden?, Store.clone, Value.collection?])
        fun cell named => .inr (within cell named)
  | pointer type place =>
      exact seals_shown shut (by simp [hidden?, Store.clone, Value.collection?])
        fun cell named => .inr (within cell named)

end Content

namespace Binding

variable {store after : Store} {hidden : Nat → Prop} {b : Binding} {value : Value}

theorem give_seals (shut : store.Sealed hidden) {mode : Mode}
    (own : (Content.own value).Sealed store hidden mode) :
    (give mode store value).2.Sealed hidden ∧ store.Extends (give mode store value).2 ∧
      (give mode store value).1.Within ((give mode store value).2.Shown hidden) := by
  unfold give
  by_cases readOnly : mode = .readOnly
  · simp only [readOnly, if_true]
    refine shut.clone fun plain cell named => ?_
    refine (own cell named).resolve_left ?_
    simp [Content.hidden?, plain]
  · simp only [readOnly, if_false]
    refine ⟨shut, .refl store, fun cell named => ?_⟩
    refine (own cell named).resolve_left ?_
    simp [Content.hidden?, readOnly]

theorem get_seals (shut : store.Sealed hidden) (own : b.content.Sealed store hidden b.mode)
    (got : b.get store = .ok (value, after)) :
    after.Sealed hidden ∧ store.Extends after ∧ value.Within (after.Shown hidden) := by
  cases content : b.content with
  | own held =>
      rw [content] at own
      have given := give_seals shut own
      rwa [Except.ok.inj ((get_own content store).symm.trans got)] at given
  | shared view =>
      rw [content] at own
      cases (get_shared content store).symm.trans got
      refine ⟨shut, .refl store, fun cell named => ?_⟩
      cases named
      exact own
  | ref type place =>
      cases loaded : store.load? place with
      | none => simp [get, content, loaded] at got
      | some held =>
          have shown : (Content.own held).Sealed store hidden b.mode := fun cell named =>
            .inr (shut.of_load? loaded cell named)
          have given := give_seals shut shown
          rwa [Except.ok.inj ((get_ref content loaded).symm.trans got)] at given

theorem valuesOf_seals {bound : Entries Binding} {values : Entries Value} (shut : store.Sealed hidden)
    (own : ∀ entry ∈ bound, entry.2.content.Sealed store hidden entry.2.mode)
    (got : Bindings.valuesOf store bound = .ok (values, after)) :
    after.Sealed hidden ∧ store.Extends after ∧
      ∀ entry ∈ values, entry.2.Within (after.Shown hidden) := by
  induction bound generalizing store values with
  | nil =>
      cases got
      exact ⟨shut, .refl _, by simp⟩
  | cons entry rest ih =>
      obtain ⟨name, binding⟩ := entry
      simp only [Bindings.valuesOf, except_bind_ok] at got
      obtain ⟨⟨value, middle⟩, first, ⟨others, last⟩, second, made⟩ := got
      cases made
      obtain ⟨middleShut, grown, shown⟩ := get_seals shut (own _ List.mem_cons_self) first
      obtain ⟨lastShut, more, rest⟩ := ih middleShut (fun entry member =>
        (own entry (List.mem_cons_of_mem _ member)).map fun _ seen => seen.later grown.size_le) second
      refine ⟨lastShut, grown.trans more, ?_⟩
      intro entry member
      rcases List.mem_cons.mp member with rfl | later
      · exact shown.mono fun _ seen => seen.later more.size_le
      · exact rest entry later

/-- The cells of the read-only collections among bindings. -/
def HiddenIn (bound : Entries Binding) (cell : Nat) : Prop :=
  ∃ entry ∈ bound, entry.2.content.hidden? entry.2.mode = some cell

theorem hiddenIn_append (bound : Entries Binding) (name : Text) (b : Binding) :
    HiddenIn (bound ++ [(name, b)]) =
      fun cell => HiddenIn bound cell ∨ b.content.hidden? b.mode = some cell := by
  funext cell
  simp [HiddenIn, or_and_right, exists_or]

/-- No binding leads to the read-only collection of another. -/
def AllSealed (store : Store) (bound : Entries Binding) : Prop :=
  ∀ entry ∈ bound, entry.2.content.Sealed store (HiddenIn bound) entry.2.mode

end Binding

namespace Plan.Call

variable {c : Call} {step : Step} {session : Session} {bound : Entries Binding} {before : Store}
  {hidden : Nat → Prop}

/-- What a call may read is in the storage there was before it. -/
structure Within (c : Call) (before : Store) : Prop where
  rest : c.rest.cell < before.cells.size
  scope : c.plan.scope.Within fun cell => cell < before.cells.size

/-- A session in which cells that were added are hidden. -/
structure Sealing (before : Store) (hidden : Nat → Prop) (session : Session) : Prop where
  grown : before.cells.size ≤ session.store.cells.size
  late : ∀ cell, hidden cell → before.cells.size ≤ cell
  shut : session.store.Sealed hidden
  data : ∀ data, session.scopeData = some data → ∀ entry ∈ data,
    entry.2.Within (session.store.Shown hidden)

theorem Sealing.shown (sealing : Sealing before hidden session) {cell : Nat}
    (there : cell < before.cells.size) : session.store.Shown hidden cell :=
  ⟨Nat.lt_of_lt_of_le there sealing.grown, fun unseen => by
    have late := sealing.late cell unseen
    omega⟩

theorem Sealing.later {after : Session} (sealing : Sealing before hidden session) (more : Nat → Prop)
    (same : after.scopeData = session.scopeData)
    (grown : session.store.cells.size ≤ after.store.cells.size)
    (late : ∀ cell, more cell → session.store.cells.size ≤ cell)
    (shut : after.store.Sealed fun cell => hidden cell ∨ more cell) :
    Sealing before (fun cell => hidden cell ∨ more cell) after where
  grown := Nat.le_trans sealing.grown grown
  late cell unseen := unseen.elim (sealing.late cell) fun added =>
    Nat.le_trans sealing.grown (late cell added)
  shut := shut
  data data read entry member := by
    rw [same] at read
    exact (sealing.data data read entry member).mono fun _ seen => seen.hide grown late

theorem Sealing.grow {after : Session} (sealing : Sealing before hidden session)
    (same : after.scopeData = session.scopeData)
    (grown : session.store.cells.size ≤ after.store.cells.size) (shut : after.store.Sealed hidden) :
    Sealing before hidden after := by
  have later := sealing.later (fun _ => False) same grown (by simp) (by simpa using shut)
  simpa using later

theorem scopeData_seals (sealing : Sealing before hidden session) (within : c.Within before) :
    Leads (c.scopeData step) session
      (fun data after => Sealing before hidden after ∧ after.store = session.store ∧
        ∀ entry ∈ data, entry.2.Within (session.store.Shown hidden)) (fun _ _ => True) := by
  unfold scopeData
  simp only [Leads.bind_iff, Leads.get_iff]
  cases read : session.scopeData with
  | some data => exact ⟨sealing, rfl, sealing.data data read⟩
  | none =>
      simp only [Leads.bind_iff, Leads.record_iff, Leads.get_iff]
      cases given : c.plan.scope.data session.store c.context with
      | error reason => trivial
      | ok data =>
          have scope : c.plan.scope.Within (session.store.Shown hidden) :=
            within.scope.mono fun _ there => sealing.shown there
          have shown := Scope.data_within sealing.shut.cells scope given
          refine ⟨⟨sealing.grown, sealing.late, sealing.shut, ?_⟩, rfl, shown⟩
          intro other same
          cases same
          exact shown

theorem evalDefault_seals {e : Expression} (confined : e.Confined)
    (sealing : Sealing before hidden session) (within : c.Within before)
    (own : ∀ entry ∈ bound, entry.2.content.Sealed session.store hidden entry.2.mode) :
    Leads (c.evalDefault step e bound) session
      (fun value after => Sealing before hidden after ∧
        session.store.cells.size ≤ after.store.cells.size ∧
        value.Within (after.store.Shown hidden)) (fun _ _ => True) := by
  unfold evalDefault vars
  simp only [Leads.bind_iff, Leads.get_iff, Leads.record_iff]
  refine (scopeData_seals sealing within).mono ?_ fun _ _ _ => trivial
  rintro data read ⟨reading, same, dataShown⟩
  cases valued : Bindings.valuesOf read.store bound with
  | error fault => trivial
  | ok result =>
      obtain ⟨values, store⟩ := result
      obtain ⟨shut, kept, valuesShown⟩ :=
        Binding.valuesOf_seals reading.shut (same ▸ own) valued
      have grown := kept.size_le
      simp only [Leads.bind_iff, Leads.setStore_iff, Leads.pure_iff]
      have shown : ∀ entry ∈ data.merge values, entry.2.Within (store.Shown hidden) :=
        Entries.merge_all (fun entry member => (dataShown entry member).mono fun _ seen =>
          seen.later (same ▸ grown)) valuesShown
      cases run : e.eval store (data.merge values) with
      | error failure => cases failure <;> trivial
      | ok result =>
          obtain ⟨value, after⟩ := result
          obtain ⟨grows, given⟩ := confined store _ value after run _ shut.closed shown
          have more := grows.kept.size_le
          refine ⟨reading.grow rfl (Nat.le_trans grown more) (shut.grow grows), ?_, ?_⟩
          · exact Nat.le_trans (same ▸ grown) more
          · exact given.mono fun _ known => shut.given grows.kept known

/-- Content was made, and is hidden as far as it is a read-only collection. -/
structure Adds (before : Store) (hidden : Nat → Prop) (session : Session) (mode : Mode)
    (content : Content) (after : Session) : Prop where
  sealing : Sealing before (fun cell => hidden cell ∨ content.hidden? mode = some cell) after
  grown : session.store.cells.size ≤ after.store.cells.size
  late : ∀ cell, content.hidden? mode = some cell → session.store.cells.size ≤ cell
  own : content.Sealed after.store (fun cell => hidden cell ∨ content.hidden? mode = some cell) mode

variable {middle after : Session} {mode : Mode} {content : Content}

theorem Sealing.add (sealing : Sealing before hidden middle)
    (grown : session.store.cells.size ≤ middle.store.cells.size)
    (same : after.scopeData = middle.scopeData)
    (seals : content.Seals middle.store hidden mode after.store) :
    Adds before hidden session mode content after where
  sealing := sealing.later _ same seals.grown seals.late seals.shut
  grown := Nat.le_trans grown seals.grown
  late := (seals.start grown).late
  own := seals.own

theorem absentValue_seals (confined : ∀ e, step.default? = some e → e.Confined)
    (sealing : Sealing before hidden session) (within : c.Within before)
    (own : ∀ entry ∈ bound, entry.2.content.Sealed session.store hidden entry.2.mode) :
    Leads (c.absentValue step bound) session
      (fun value after => Sealing before hidden after ∧
        session.store.cells.size ≤ after.store.cells.size ∧
        value.Within (after.store.Shown hidden)) (fun _ _ => True) := by
  have nothing : Value.null.Within (session.store.Shown hidden) := fun _ named => nomatch named
  unfold absentValue
  cases given : step.default? with
  | none => exact ⟨sealing, Nat.le_refl _, nothing⟩
  | some e =>
      cases step.param.required with
      | true => exact ⟨sealing, Nat.le_refl _, nothing⟩
      | false => exact evalDefault_seals (confined e given) sealing within own

theorem bindAbsent_seals (confined : ∀ e, step.default? = some e → e.Confined)
    (sealing : Sealing before hidden session) (within : c.Within before)
    (own : ∀ entry ∈ bound, entry.2.content.Sealed session.store hidden entry.2.mode) :
    Leads (c.bindAbsent step bound) session (Adds before hidden session step.mode)
      (fun _ _ => True) := by
  unfold bindAbsent
  rw [Leads.bind_iff]
  refine (absentValue_seals confined sealing within own).mono ?_ fun _ _ _ => trivial
  rintro value middle ⟨reached, grown, shown⟩
  split
  · have inside : (Cell.variable value).Within (middle.store.Shown hidden) := by
      intro held member
      rw [List.mem_singleton.mp member]
      exact shown
    have shut := reached.shut.alloc inside
    have fresh := reached.shut.fresh (Nat.le_refl middle.store.cells.size)
    refine reached.add grown rfl (Content.Seals.start (Content.seals_shown shut rfl ?_) (by simp))
    exact ⟨by simp [Place.cell], fresh⟩
  · exact reached.add grown rfl (Content.seals_clone reached.shut shown step.mode)

theorem bindPresent_seals {index : Nat} (sealing : Sealing before hidden session)
    (within : c.Within before) :
    Leads (c.bindPresent step index) session (Adds before hidden session step.mode)
      (fun _ _ => True) := by
  unfold bindPresent
  simp only [Leads.bind_iff, Leads.get_iff]
  cases found : (session.store.items c.rest)[index]? with
  | none => trivial
  | some value =>
      have shown := sealing.shut.of_mem_items (List.mem_of_getElem? found)
      dsimp only
      split
      · cases reference : step.param.refAlias with
        | false =>
            refine sealing.add (Nat.le_refl _) rfl (Content.seals_shown sealing.shut rfl ?_)
            exact sealing.shown within.rest
        | true =>
            cases value with
            | pointer type place =>
                refine sealing.add (Nat.le_refl _) rfl (Content.seals_shown sealing.shut rfl ?_)
                exact shown _ rfl
            | plain datum => trivial
            | list view => trivial
            | dict cell => trivial
      · cases reference : step.param.refAlias with
        | false =>
            exact sealing.add (Nat.le_refl _) rfl (Content.seals_clone sealing.shut shown step.mode)
        | true =>
            cases value with
            | pointer type place =>
                simp only [if_true, Leads.bind_iff, Call.target, Leads.get_iff]
                cases loaded : session.store.load? place with
                | none => trivial
                | some target =>
                    exact sealing.add (Nat.le_refl _) rfl (Content.seals_clone sealing.shut
                      (sealing.shut.of_load? loaded) step.mode)
            | plain datum => trivial
            | list view => trivial
            | dict cell => trivial

theorem pairEntries_within {known : Nat → Prop} {items : List Value} {entries gathered : Entries Value}
    (first : ∀ entry ∈ entries, entry.2.Within known) (each : ∀ value ∈ items, value.Within known)
    (read : pairEntries entries items = .ok gathered) :
    ∀ entry ∈ gathered, entry.2.Within known := by
  induction entries, items using pairEntries.induct with
  | case1 entries key value rest k text ih =>
      simp only [pairEntries, text] at read
      refine ih ?_ (fun other member => each other (by simp [member])) read
      intro entry member
      rcases Entries.mem_put member with same | earlier
      · exact same ▸ each value (by simp)
      · exact first entry earlier
  | case2 entries key value rest text => simp [pairEntries, text] at read
  | case3 entries items short =>
      rw [pairEntries] at read
      · cases read
        exact first
      · exact short

/-- A step made a binding, which is hidden as far as it is a read-only collection, or made none. -/
def AddsBinding (before : Store) (hidden : Nat → Prop) (session : Session) (b : Option Binding)
    (after : Session) : Prop :=
  match b with
  | some b => Adds before hidden session b.mode b.content after
  | none => after = session

theorem bindSlurpy_seals (sealing : Sealing before hidden session) (within : c.Within before) :
    Leads (c.bindSlurpy step) session
      (fun b after => Adds before hidden session b.mode b.content after) (fun _ _ => True) := by
  have shown : ∀ value ∈ session.store.items (c.rest.drop step.index),
      value.Within (session.store.Shown hidden) := fun value member =>
    sealing.shut.of_mem_items member
  unfold bindSlurpy
  simp only [Leads.bind_iff, Leads.get_iff]
  by_cases hash : step.param.sigil = .hash
  · simp only [hash, if_true]
    cases read : pairEntries [] (session.store.items (c.rest.drop step.index)) with
    | error fault => trivial
    | ok entries =>
        have gathered := pairEntries_within (by simp) shown read
        have inside : (Cell.dict entries).Within (session.store.Shown hidden) := by
          intro value member
          obtain ⟨entry, listed, rfl⟩ := List.mem_map.mp member
          exact gathered entry listed
        exact sealing.add (Nat.le_refl _) rfl (Content.seals_alloc sealing.shut inside rfl rfl _)
  · simp only [hash, if_false]
    by_cases aliased : step.mode = .alias
    · simp only [aliased, if_true]
      refine sealing.add (Nat.le_refl _) rfl (Content.seals_shown sealing.shut rfl ?_)
      exact sealing.shown within.rest
    · simp only [aliased, if_false]
      have inside : (Cell.list (session.store.items (c.rest.drop step.index))).Within
          (session.store.Shown hidden) := shown
      exact sealing.add (Nat.le_refl _) rfl (Content.seals_alloc sealing.shut inside rfl rfl _)

theorem bindScalar_seals (index : Option Nat) (confined : ∀ e, step.default? = some e → e.Confined)
    (sealing : Sealing before hidden session) (within : c.Within before)
    (own : ∀ entry ∈ bound, entry.2.content.Sealed session.store hidden entry.2.mode) :
    Leads (c.bindScalar step index bound) session
      (fun b after => Adds before hidden session b.mode b.content after) (fun _ _ => True) := by
  unfold bindScalar
  cases index with
  | none => exact Leads.bind_iff.mpr (bindAbsent_seals confined sealing within own)
  | some index => exact Leads.bind_iff.mpr (bindPresent_seals sealing within)

theorem bindStep_seals (confined : ∀ e, step.default? = some e → e.Confined)
    (sealing : Sealing before hidden session) (within : c.Within before)
    (own : ∀ entry ∈ bound, entry.2.content.Sealed session.store hidden entry.2.mode) :
    Leads (c.bindStep bound step) session (AddsBinding before hidden session) (fun _ _ => True) := by
  cases kind : step.kind with
  | invocant =>
      simp only [bindStep, kind, Leads.bind_iff, Leads.get_iff]
      cases found : (session.store.items c.args)[0]? with
      | none => trivial
      | some value =>
          have shown := sealing.shut.of_mem_items (List.mem_of_getElem? found)
          refine sealing.add (Nat.le_refl _) rfl (Content.seals_shown sealing.shut ?_ ?_)
          · simp [Content.hidden?]
          · exact fun cell named => .inr (shown cell named)
  | positional =>
      simp only [bindStep, kind, Leads.bind_iff, Leads.pure_iff]
      exact bindScalar_seals _ confined sealing within own
  | slurpy =>
      simp only [bindStep, kind, Leads.bind_iff, Leads.pure_iff]
      exact bindSlurpy_seals sealing within
  | named =>
      simp only [bindStep, kind, Leads.bind_iff, Leads.pure_iff]
      exact bindScalar_seals _ confined sealing within own
  | collectNamed =>
      simp only [bindStep, kind]
      exact rfl
  | rejectUnknown =>
      simp only [bindStep, kind]
      exact rfl

/-- Steps bind in order, and all read-only collections that they bind are hidden. -/
theorem bindSteps_seals {steps : List Step}
    (confined : ∀ step ∈ steps, ∀ e, step.default? = some e → e.Confined)
    (sealing : Sealing before (Binding.HiddenIn bound) session) (within : c.Within before)
    (own : Binding.AllSealed session.store bound) :
    Leads (c.bindSteps bound steps) session
      (fun entries after => Sealing before (Binding.HiddenIn entries) after ∧
        Binding.AllSealed after.store entries) (fun _ _ => True) := by
  -- With each binding more cells are hidden; that those before stay sealed is part of the invariant.
  induction steps generalizing bound session with
  | nil => exact ⟨sealing, own⟩
  | cons step rest ih =>
      have later : ∀ step ∈ rest, ∀ e, step.default? = some e → e.Confined := fun step member =>
        confined step (List.mem_cons_of_mem _ member)
      unfold bindSteps
      refine Leads.bind_iff.mpr ((bindStep_seals (confined step List.mem_cons_self) sealing within
        own).mono ?_ fun _ _ _ => trivial)
      intro b middle adds
      cases b with
      | none =>
          cases adds
          exact ih later sealing own
      | some b =>
          have added : Adds before (Binding.HiddenIn bound) session b.mode b.content middle := adds
          refine ih later ?_ ?_
          · rw [Binding.hiddenIn_append]
            exact added.sealing
          · intro entry member
            rw [Binding.hiddenIn_append]
            rcases List.mem_append.mp member with earlier | last
            · exact (own entry earlier).map fun _ seen => seen.hide added.grown added.late
            · rw [List.mem_singleton.mp last]
              exact added.own

end Plan.Call

theorem Store.Valid.sealed {store : Store} (valid : store.Valid) : store.Sealed fun _ => False := by
  refine ⟨fun _ unseen => unseen.elim, fun cell content found value held named same => ?_⟩
  exact ⟨(valid cell content found value held).lt_size same, id⟩

namespace Plan

/-- A call hides the read-only collections that it binds, all of which are new. -/
theorem call_seals {settings : PlanOptions} {s : Signature} {plan : Plan} {context : Context}
    {site : Site} {store : Store} {args : View} {bindings : Bindings} {after : Session}
    (compiled : (compile s settings).outcome = .ok plan) (wellFormed : s.WellFormed)
    (confined : settings.Confined) (passes : store.Passes args) (placed : args.cell < store.cells.size)
    (outer : settings.scope.Within fun cell => cell < store.cells.size)
    (called : plan.call context site store args = (.ok bindings, after)) :
    Call.Sealing store (Binding.HiddenIn bindings.entries) after ∧
      Binding.AllSealed after.store bindings.entries := by
  have cases := call_cases context site store args compiled wellFormed
  split at cases
  · rw [cases] at called
    cases called
  · obtain ⟨c, own, rfl, same, rfl, follows, run⟩ := cases
    obtain ⟨-, -, scope⟩ := compile_fields compiled
    have rest : c.rest.cell < store.cells.size := by
      rw [(follows passes.shown).rest]
      exact placed
    have within : c.Within store := ⟨rest, by rwa [own, scope]⟩
    have steps : ∀ step ∈ plan.steps, ∀ e, step.default? = some e → e.Confined := by
      intro step member e given
      obtain ⟨engine, source, visible, chosen, found⟩ := default_of_engine compiled member given
      exact confined engine chosen source visible e found
    -- Before anything is bound nothing is hidden.
    have nothing : Binding.HiddenIn [] = fun _ => False := by
      funext cell
      simp [Binding.HiddenIn]
    have sealing : Call.Sealing store (Binding.HiddenIn []) { store } := by
      rw [nothing]
      exact ⟨Nat.le_refl _, by simp, passes.valid.sealed, by simp⟩
    have leads : Leads c.bind { store } (fun bindings after =>
        Call.Sealing store (Binding.HiddenIn bindings.entries) after ∧
          Binding.AllSealed after.store bindings.entries) (fun _ _ => True) := by
      simp only [Call.bind, own, Leads.bind_iff, Leads.get_iff, Leads.pure_iff]
      exact Call.bindSteps_seals steps sealing within (by simp [Binding.AllSealed])
    exact leads.of_ok (run ▸ called)

end Plan
end CallPlan
