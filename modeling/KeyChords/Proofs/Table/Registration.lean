import Mathlib.Data.List.Induction
import Mathlib.Data.List.Nodup
import KeyChords.Table
import KeyChords.Proofs.Dict
import KeyChords.Proofs.Progress

/-! # Registering rules

A rule that is bound in a free slot goes behind the other bindings of its chord and leaves every
other chord alone. Binding it fails when its chord names no key or its slot is taken, and then the
table stays as it is. It also fails when the action is a macro with an element that is no step: such
an action has no title, which is noticed only when the rule is in its slot
(`KeyChords.Table.bind_cases`).

A row of rules goes into a table exactly when each of them names a key, has a title and takes a slot
that neither the table nor another of the rules has taken (`KeyChords.Table.Admits`); a row that
does not is registered up to the first rule that is refused (`KeyChords.Table.each_bind_cases`).
-/

namespace KeyChords

/-- A condition that is well formed has its line. -/
theorem Draft.conditionText_of_toCondition {draft : Draft} {condition : Condition}
    (formed : draft.toCondition = .ok condition) : draft.conditionText = .ok condition.text := by
  rw [Draft.conditionText, formed]
  rfl

/-! ## Titles -/

namespace Action

/-- An action that messages can call by a title. -/
def HasTitle (action : Action) : Prop :=
  ∃ title, action.title = .ok title

theorem hasTitle_run (command : Command) : (run command).HasTitle :=
  ⟨_, rfl⟩

/-- The elements of a macro are its arguments, or the first that is no step is the fault. -/
theorem mapM_toObject_eq_error {elements : List Draft} {fault : Fault}
    (failed : elements.mapM Draft.toObject = .error fault) :
    ∃ draft ∈ elements, (∀ step, draft ≠ .step step) ∧
      fault = .absentMember draft.kindName "to_dict" := by
  induction elements with
  | nil => cases failed
  | cons draft rest hyp =>
    rw [List.mapM_cons] at failed
    rcases error_of_bind_eq_error failed with refused | ⟨object, -, failed⟩
    · refine ⟨draft, List.mem_cons_self, ?_, ?_⟩
      · rintro step rfl
        cases refused
      · cases draft with
        | step taken => cases refused
        | _ => exact (Except.error.inj refused).symm
    · rcases error_of_bind_eq_error failed with refused | ⟨objects, -, ended⟩
      · obtain ⟨other, inside, rest⟩ := hyp refused
        exact ⟨other, List.mem_cons_of_mem draft inside, rest⟩
      · cases ended

/-- **Only a macro with an element that is no step is without a title**, and the fault names the
kind of such an element. -/
theorem title_eq_error {action : Action} {fault : Fault} (untitled : action.title = .error fault) :
    ∃ elements draft, action = .sequence elements ∧ draft ∈ elements ∧
      (∀ step, draft ≠ .step step) ∧ fault = .absentMember draft.kindName "to_dict" := by
  cases action with
  | run command => cases untitled
  | suppress => cases untitled
  | sequence elements =>
    change Prod.fst <$> (sequence elements).render = .error fault at untitled
    rcases error_of_bind_eq_error (eq_error_of_map untitled) with refused | ⟨objects, -, ended⟩
    · obtain ⟨draft, inside, other, rfl⟩ := mapM_toObject_eq_error refused
      exact ⟨elements, draft, rfl, inside, other, rfl⟩
    · cases ended

end Action

namespace Table

variable {table : Table} {chord line asked : String} {rule : Rule} {kind : Violation.Kind}

/-! ## Looking slots up -/

/-- The bindings of a chord are the rows that are held under it. -/
theorem mem_bindings_iff {binding : Binding} :
    binding ∈ table.bindings chord ↔ (binding.when, binding.action) ∈ table.lookup chord := by
  rw [bindings, rowBindings, List.mem_map]
  constructor
  · rintro ⟨⟨line, action⟩, held, rfl⟩
    exact held
  · exact fun held => ⟨_, held, rfl⟩

/-- The conditions of a chord, in the order in which they were bound. -/
theorem map_when_bindings (table : Table) (chord : String) :
    (table.bindings chord).map Binding.when = (table.lookup chord).keys := by
  rw [bindings, rowBindings, List.map_map]
  rfl

/-- A slot is free when no binding of its chord has its condition. -/
theorem find?_eq_none_iff :
    table.find? chord line = none ↔ ∀ held ∈ table.bindings chord, held.when ≠ line := by
  rw [find?, Dict.get?_eq_none_iff, ← map_when_bindings, List.mem_map]
  simp

/-- What is found in a slot is bound there. -/
theorem mem_of_find? {action : Action} (found : table.find? chord line = some action) :
    ⟨line, action⟩ ∈ table.bindings chord :=
  mem_bindings_iff.mpr (Dict.mem_of_get? found)

/-- A slot is taken when a binding of its chord has its condition. -/
theorem isSome_find?_iff :
    (table.find? chord line).isSome = true ↔ ∃ held ∈ table.bindings chord, held.when = line := by
  rw [find?, Dict.isSome_get?_iff, ← map_when_bindings, List.mem_map]

/-! ## Adding a rule -/

private theorem lookup_add (table : Table) (chord : String) (rule : Rule) (asked : String) :
    (table.add chord rule).lookup asked =
      if asked = chord then (table.lookup chord).put rule.when rule.action
      else table.lookup asked := by
  rw [lookup, add, Dict.get?_update]
  split <;> rfl

/-- **Adding a rule** changes what is in its slot alone. -/
theorem find?_add (table : Table) (chord : String) (rule : Rule) (asked line : String) :
    (table.add chord rule).find? asked line =
      if asked = chord ∧ line = rule.when then some rule.action else table.find? asked line := by
  rw [find?, lookup_add]
  by_cases same : asked = chord
  · subst same
    rw [if_pos rfl, Dict.put, Dict.get?_update]
    simp only [true_and]
    rfl
  · rw [if_neg same, if_neg fun both => same both.1]
    rfl

/-- A rule that takes a free slot goes behind the bindings of its chord. -/
theorem bindings_add (free : table.find? chord rule.when = none) (asked : String) :
    (table.add chord rule).bindings asked =
      table.bindings asked ++ if asked = chord then [rule.binding] else [] := by
  rw [bindings, lookup_add]
  by_cases same : asked = chord
  · subst same
    rw [if_pos rfl, if_pos rfl, Dict.put, Dict.update_of_not_mem (Dict.get?_eq_none_iff.mp free),
      rowBindings, List.map_append]
    rfl
  · rw [if_neg same, if_neg same, List.append_nil]
    rfl

theorem mem_chords_add :
    asked ∈ (table.add chord rule).chords ↔ asked ∈ table.chords ∨ asked = chord := by
  rw [chords, add, Dict.mem_keys_update, or_comm]
  rfl

/-- A chord that is given its row binds nothing more. -/
theorem lookup_opened (table : Table) (chord asked : String) :
    (table.opened chord).lookup asked = table.lookup asked := by
  rw [lookup, opened, Dict.putNew, Dict.get?_update, lookup]
  split
  · next same => rw [same, Option.getD_some]
  · rfl

private theorem find?_opened (table : Table) (chord asked line : String) :
    (table.opened chord).find? asked line = table.find? asked line := by
  rw [find?, lookup_opened, find?]

private theorem add_opened (table : Table) (chord : String) (rule : Rule) :
    (table.opened chord).add chord rule = table.add chord rule := by
  simp only [add, opened, Dict.putNew, Dict.update_update, Option.getD_some]

/-- A chord that binds something has its row. -/
theorem opened_of_find? {action : Action} (found : table.find? chord line = some action) :
    table.opened chord = table := by
  cases row : table.entries.get? chord with
  | none =>
    rw [find?, lookup, row] at found
    cases found
  | some slots => rw [opened, Dict.putNew, Dict.update_eq_self row rfl]

/-! ## Binding a chord -/

/-- **The fault of a slot that is taken** is a violation of the given kind, unless one of the two
actions is without a title. -/
theorem taken_cases (kind : Violation.Kind) (chord line : String) (held rejected : Action) :
    (∃ holder newcomer, held.title = .ok holder ∧ rejected.title = .ok newcomer ∧
        taken kind chord line held rejected = .violation
          ⟨kind, .alreadyBound holder newcomer, some chord, some line⟩) ∨
      ∃ action ∈ [held, rejected], action.title = .error (taken kind chord line held rejected) := by
  unfold taken
  cases holds : held.title with
  | error fault => exact Or.inr ⟨held, List.mem_cons_self, holds⟩
  | ok holder =>
    cases comes : rejected.title with
    | error fault => exact Or.inr ⟨rejected, by simp, comes⟩
    | ok newcomer => exact Or.inl ⟨holder, newcomer, rfl, rfl, rfl⟩

/-- A rule that was written down properly is registered by binding its chord. -/
theorem register_of_toCondition {draft : Draft} {condition : Condition}
    (formed : draft.toCondition = .ok condition) (table : Table) (chord : String) (action : Action)
    (kind : Violation.Kind) :
    table.register chord draft (.action action) kind =
      table.bind chord ⟨condition, action⟩ kind := by
  simp only [bind, register, Draft.toAction, formed, Draft.toCondition_ofCondition]

/-- A rule on an empty chord is refused. -/
theorem bind_of_blank (table : Table) (rule : Rule) (kind : Violation.Kind) :
    table.bind "" rule kind = .stopped table .emptyChord := by
  rw [bind, register, if_pos rfl]

theorem bind_of_named (named : chord ≠ "") :
    table.bind chord rule kind = table.enter chord rule kind := by
  simp only [bind, register, if_neg named, Draft.toAction, Draft.toCondition_ofCondition]

/-- A rule is refused a slot that is taken, with the action that holds it. -/
theorem bind_of_taken {held : Action} (named : chord ≠ "")
    (found : table.find? chord rule.when = some held) :
    table.bind chord rule kind =
      .stopped table (taken kind chord rule.when held rule.action) := by
  simp only [bind_of_named named, enter, opened_of_find? found, found]

/-- A rule with a title takes a free slot, and says so. -/
theorem bind_of_titled {title : String} (named : chord ≠ "")
    (free : table.find? chord rule.when = none) (titled : rule.action.title = .ok title) :
    table.bind chord rule kind =
      .done (table.add chord rule) [bound chord rule.when title] := by
  simp only [bind_of_named named, enter, find?_opened, free, add_opened, titled]

/-- A rule without a title takes a free slot, and is refused only then. -/
theorem bind_of_untitled {fault : Fault} (named : chord ≠ "")
    (free : table.find? chord rule.when = none) (untitled : rule.action.title = .error fault) :
    table.bind chord rule kind = .stopped (table.add chord rule) fault := by
  simp only [bind_of_named named, enter, find?_opened, free, add_opened, untitled]

/-- **What binding a chord can do.** A chord that names no key is refused, and so is a slot that is
taken. In a free slot the rule is added; but it is a fault if its action has no title. -/
theorem bind_cases (table : Table) (chord : String) (rule : Rule) (kind : Violation.Kind) :
    (chord = "" ∧ table.bind chord rule kind = .stopped table .emptyChord) ∨
      (∃ held, chord ≠ "" ∧ table.find? chord rule.when = some held ∧
        table.bind chord rule kind =
          .stopped table (taken kind chord rule.when held rule.action)) ∨
      (∃ title, chord ≠ "" ∧ table.find? chord rule.when = none ∧ rule.action.title = .ok title ∧
        table.bind chord rule kind =
          .done (table.add chord rule) [bound chord rule.when title]) ∨
      ∃ fault, chord ≠ "" ∧ table.find? chord rule.when = none ∧
        rule.action.title = .error fault ∧
        table.bind chord rule kind = .stopped (table.add chord rule) fault := by
  by_cases blank : chord = ""
  · subst blank
    exact Or.inl ⟨rfl, bind_of_blank table rule kind⟩
  · right
    cases found : table.find? chord rule.when with
    | some held => exact Or.inl ⟨held, blank, rfl, bind_of_taken blank found⟩
    | none =>
      cases titled : rule.action.title with
      | ok title =>
        exact Or.inr (Or.inl ⟨title, blank, rfl, rfl, bind_of_titled blank found titled⟩)
      | error fault =>
        exact Or.inr (Or.inr ⟨fault, blank, rfl, rfl, bind_of_untitled blank found titled⟩)

/-- A rule is bound when it has a chord, a free slot and a title. -/
theorem fault_bind_eq_none_iff :
    (table.bind chord rule kind).fault = none ↔
      chord ≠ "" ∧ table.find? chord rule.when = none ∧ rule.action.HasTitle := by
  rcases bind_cases table chord rule kind with ⟨blank, stopped⟩ | ⟨held, -, found, stopped⟩ |
    ⟨title, named, free, titled, done⟩ | ⟨fault, -, -, untitled, stopped⟩
  · rw [stopped]
    simp [Progress.stopped, blank]
  · simp [stopped, Progress.stopped, found]
  · simp [done, Progress.done, named, free, Action.HasTitle, titled]
  · simp [stopped, Progress.stopped, Action.HasTitle, untitled]

/-- A rule that is bound is added to the table. -/
theorem state_bind_of_none (sound : (table.bind chord rule kind).fault = none) :
    (table.bind chord rule kind).state = table.add chord rule := by
  obtain ⟨named, free, title, titled⟩ := fault_bind_eq_none_iff.mp sound
  rw [bind_of_titled named free titled]
  rfl

/-- The slot that a rule takes. -/
def slot (rule : String × Rule) : String × String :=
  (rule.1, rule.2.when)

/-- A table with rules added to it one after the other, taken slots or not. -/
def added (table : Table) (rules : List (String × Rule)) : Table :=
  rules.foldl (fun table rule => table.add rule.1 rule.2) table

/-- The bindings that rules give a chord. -/
def given (rules : List (String × Rule)) (chord : String) : List Binding :=
  (rules.filter fun rule => chord = rule.1).map fun rule => rule.2.binding

variable {rules others : List (String × Rule)}

/-- The given bindings of a chord are those of the rules on it. -/
theorem mem_given {held : Binding} :
    held ∈ given rules chord ↔ ∃ rule, (chord, rule) ∈ rules ∧ rule.binding = held := by
  simp only [given, List.mem_map, List.mem_filter, decide_eq_true_eq]
  constructor
  · rintro ⟨⟨other, rule⟩, ⟨member, rfl⟩, rfl⟩
    exact ⟨rule, member, rfl⟩
  · rintro ⟨rule, member, rfl⟩
    exact ⟨(chord, rule), ⟨member, rfl⟩, rfl⟩

private theorem given_append (rules others : List (String × Rule)) (chord : String) :
    given (rules ++ others) chord = given rules chord ++ given others chord := by
  simp only [given, List.filter_append, List.map_append]

/-- Rules are added one after another. -/
theorem added_append (table : Table) (rules others : List (String × Rule)) :
    table.added (rules ++ others) = (table.added rules).added others :=
  List.foldl_append

/-- The last of some rules is added last. -/
theorem added_concat (table : Table) (rules : List (String × Rule)) (rule : String × Rule) :
    table.added (rules ++ [rule]) = (table.added rules).add rule.1 rule.2 :=
  added_append table rules [rule]

/-- A chord is in the table when it was, or when a rule stands on it. -/
theorem mem_chords_added :
    asked ∈ (table.added rules).chords ↔ asked ∈ table.chords ∨ asked ∈ rules.map Prod.fst := by
  induction rules generalizing table with
  | nil => simp [added]
  | cons rule rest hyp =>
    rw [added, List.foldl_cons, ← added, hyp, mem_chords_add, List.map_cons, List.mem_cons,
      or_assoc]

/-- **What is looked up slot by slot**: adding a rule changes it in the slot of the rule alone. -/
def SlotWise {α : Type} (look : Table → String × String → Option α) (held : Rule → α) : Prop :=
  ∀ table chord rule taken, look (table.add chord rule) taken =
    if taken = (chord, rule.when) then some (held rule) else look table taken

/-- The actions are held slot by slot. -/
theorem slotWise_find? : SlotWise (fun table taken => table.find? taken.1 taken.2) Rule.action := by
  intro table chord rule taken
  dsimp only
  rw [find?_add]
  by_cases same : taken = (chord, rule.when)
  · rw [if_pos same, if_pos (Prod.ext_iff.mp same)]
  · rw [if_neg same, if_neg fun both => same (Prod.ext_iff.mpr both)]

/-- The conditions are held slot by slot. -/
theorem slotWise_conditions :
    SlotWise (fun table taken => table.conditions.get? taken) Rule.condition :=
  fun _ _ _ _ => Dict.get?_update

section SlotWise

variable {α : Type} {look : Table → String × String → Option α} {held : Rule → α}
  {taken : String × String}

/-- Rules leave the slots of others as they are. -/
theorem SlotWise.added_of_not_mem (slotWise : SlotWise look held)
    (other : taken ∉ rules.map slot) : look (table.added rules) taken = look table taken := by
  induction rules generalizing table with
  | nil => rfl
  | cons rule rest hyp =>
    obtain ⟨differ, later⟩ := not_or.mp (mt List.mem_cons.mpr other)
    rw [added, List.foldl_cons, ← added, hyp later, slotWise]
    exact if_neg differ

/-- Of rules with different slots each is found in its own. -/
theorem SlotWise.added_of_mem (slotWise : SlotWise look held) (apart : (rules.map slot).Nodup)
    {rule : String × Rule} (member : rule ∈ rules) :
    look (table.added rules) (slot rule) = some (held rule.2) := by
  induction rules generalizing table with
  | nil => exact absurd member List.not_mem_nil
  | cons first rest hyp =>
    obtain ⟨fresh, restApart⟩ := List.nodup_cons.mp apart
    rw [added, List.foldl_cons, ← added]
    rcases List.mem_cons.mp member with rfl | later
    · rw [slotWise.added_of_not_mem fresh, slotWise]
      exact if_pos rfl
    · exact hyp restApart later

end SlotWise

/-- A slot is free when it was, and no added rule takes it. -/
theorem find?_added_eq_none_iff :
    (table.added rules).find? chord line = none ↔
      table.find? chord line = none ∧ (chord, line) ∉ rules.map slot := by
  induction rules generalizing table with
  | nil => simp [added]
  | cons rule rest hyp =>
    rw [added, List.foldl_cons, ← added, hyp, find?_add, List.map_cons, List.mem_cons, not_or, slot,
      Prod.mk.injEq]
    by_cases here : chord = rule.1 ∧ line = rule.2.when
    · simp [here]
    · simp [here]

/-- **Rules with slots of their own**: each slot was free, and no two rules take the same. -/
structure Fits (table : Table) (rules : List (String × Rule)) : Prop where
  free : ∀ rule ∈ rules, table.find? rule.1 rule.2.when = none
  apart : (rules.map slot).Nodup

private theorem fits_nil (table : Table) : table.Fits [] where
  free := by simp
  apart := List.nodup_nil

/-- Rules go on fitting with one more that takes a free slot. -/
theorem fits_concat_iff {rule : String × Rule} (fits : table.Fits rules) :
    table.Fits (rules ++ [rule]) ↔ (table.added rules).find? rule.1 rule.2.when = none := by
  rw [find?_added_eq_none_iff]
  constructor
  · rintro ⟨free, apart⟩
    rw [List.map_append, List.map_singleton, ← List.concat_eq_append, List.nodup_concat] at apart
    exact ⟨free rule (List.mem_append_right _ (List.mem_singleton_self rule)), apart.1⟩
  · rintro ⟨free, fresh⟩
    refine ⟨?_, ?_⟩
    · intro other member
      rcases List.mem_append.mp member with old | new
      · exact fits.free other old
      · exact List.mem_singleton.mp new ▸ free
    · rw [List.map_append, List.map_singleton, ← List.concat_eq_append, List.nodup_concat]
      exact ⟨fresh, fits.apart⟩

/-- Rules that fit still do without the later ones. -/
theorem Fits.of_append {before after : List (String × Rule)}
    (fits : table.Fits (before ++ after)) : table.Fits before where
  free rule member := fits.free rule (List.mem_append_left after member)
  apart := by
    have apart := fits.apart
    rw [List.map_append] at apart
    exact apart.of_append_left

/-- **Rules that fit** go behind the bindings of their chords. -/
theorem Fits.bindings_added (fits : table.Fits rules) (asked : String) :
    (table.added rules).bindings asked = table.bindings asked ++ given rules asked := by
  induction rules using List.reverseRecOn with
  | nil => simp [added, given]
  | append_singleton rules rule hyp =>
    have before := fits.of_append
    rw [added_concat, bindings_add ((fits_concat_iff before).mp fits), hyp before, given_append,
      List.append_assoc]
    by_cases same : asked = rule.1 <;> simp [given, same]

/-- When the rules fit, a chord has its old bindings and those that it is given. -/
theorem Fits.mem_bindings_added (fits : table.Fits rules) {held : Binding} :
    held ∈ (table.added rules).bindings chord ↔
      held ∈ table.bindings chord ∨ ∃ rule, (chord, rule) ∈ rules ∧ rule.binding = held := by
  rw [fits.bindings_added, List.mem_append, mem_given]

/-- **A table admits rules** when each names a key and has a title, and they fit. -/
structure Admits (table : Table) (rules : List (String × Rule)) : Prop extends
    Fits table rules where
  named : ∀ rule ∈ rules, rule.1 ≠ ""
  titled : ∀ rule ∈ rules, rule.2.action.HasTitle

private theorem admits_nil (table : Table) : table.Admits [] where
  toFits := fits_nil table
  named := by simp
  titled := by simp

/-- A row of rules goes on with one that can be bound. -/
theorem admits_concat_iff {rule : String × Rule} (admits : table.Admits rules) :
    table.Admits (rules ++ [rule]) ↔
      ((table.added rules).bind rule.1 rule.2 kind).fault = none := by
  rw [fault_bind_eq_none_iff, ← fits_concat_iff admits.toFits]
  have last : rule ∈ rules ++ [rule] := List.mem_append_right _ (List.mem_singleton_self rule)
  constructor
  · exact fun further => ⟨further.named rule last, further.toFits, further.titled rule last⟩
  · rintro ⟨named, fits, titled⟩
    refine ⟨fits, ?_, ?_⟩
    · exact List.forall_mem_append.mpr ⟨admits.named, List.forall_mem_singleton.mpr named⟩
    · exact List.forall_mem_append.mpr ⟨admits.titled, List.forall_mem_singleton.mpr titled⟩

/-- **A row of rules is registered or refused.** It goes in as a whole when the table admits it.
Otherwise what is in front of the first rule that is not admitted goes in, and the run ends as
binding this rule does. -/
theorem each_bind_cases (table : Table) (kind : Violation.Kind) (rules : List (String × Rule)) :
    let run := Progress.each (fun table (rule : String × Rule) =>
      table.bind rule.1 rule.2 kind) table rules
    (table.Admits rules ∧ run.fault = none ∧ run.state = table.added rules) ∨
      ∃ before rule after fault, rules = before ++ rule :: after ∧ table.Admits before ∧
        ¬ table.Admits (before ++ [rule]) ∧ run.fault = some fault ∧
        ((table.added before).bind rule.1 rule.2 kind).fault = some fault ∧
        run.state = ((table.added before).bind rule.1 rule.2 kind).state := by
  intro run
  let Made (state : Table) (made : List (String × Rule)) : Prop :=
    table.Admits made ∧ state = table.added made
  have kept : ∀ state made rule, Made state made → (state.bind rule.1 rule.2 kind).fault = none →
      Made (state.bind rule.1 rule.2 kind).state (made ++ [rule]) := by
    rintro state made rule ⟨admits, rfl⟩ sound
    refine ⟨(admits_concat_iff admits).mpr sound, ?_⟩
    rw [state_bind_of_none sound, added_concat]
  have start : Made table [] := ⟨admits_nil table, rfl⟩
  rcases Progress.each_cases _ Made kept rules start with
    ⟨ended, admits, state⟩ | ⟨before, rule, after, _, fault, split, ⟨admits, rfl⟩, stops, failed,
      state⟩
  · exact Or.inl ⟨admits, ended, state⟩
  · refine Or.inr ⟨before, rule, after, fault, split, admits, ?_, failed, stops, state⟩
    intro further
    cases ((admits_concat_iff admits).mp further).symm.trans stops

/-- **How a row of rules with different slots is refused.** The first rule that is refused names no
key, finds its slot taken in the table that there was, or has no title. -/
theorem each_bind_apart_cases (table : Table) (kind : Violation.Kind)
    {rules : List (String × Rule)} (apart : (rules.map slot).Nodup) :
    let run := Progress.each (fun table (rule : String × Rule) =>
      table.bind rule.1 rule.2 kind) table rules
    (table.Admits rules ∧ run.fault = none ∧ run.state = table.added rules) ∨
      ∃ before rule after fault, rules = before ++ rule :: after ∧ table.Admits before ∧
        run.fault = some fault ∧
        ((rule.1 = "" ∧ fault = .emptyChord ∧ run.state = table.added before) ∨
          (∃ held, table.find? rule.1 rule.2.when = some held ∧
            fault = taken kind rule.1 rule.2.when held rule.2.action ∧
            run.state = table.added before) ∨
          (table.find? rule.1 rule.2.when = none ∧ rule.2.action.title = .error fault ∧
            run.state = table.added (before ++ [rule]))) := by
  intro run
  rcases each_bind_cases table kind rules with
    registered | ⟨before, rule, after, fault, split, admits, -, failed, stops, state⟩
  · exact Or.inl registered
  · refine Or.inr ⟨before, rule, after, fault, split, admits, failed, ?_⟩
    have fresh : slot rule ∉ before.map slot := by
      rw [split, List.map_append, List.map_cons] at apart
      intro met
      exact List.disjoint_of_nodup_append apart met List.mem_cons_self
    have unmoved : (table.added before).find? rule.1 rule.2.when =
        table.find? rule.1 rule.2.when := slotWise_find?.added_of_not_mem fresh
    have reached : run.state = ((table.added before).bind rule.1 rule.2 kind).state := state
    rw [reached, ← unmoved]
    rcases bind_cases (table.added before) rule.1 rule.2 kind with ⟨blank, stopped⟩ |
      ⟨held, -, found, stopped⟩ | ⟨_, -, -, -, done⟩ | ⟨inner, -, free, untitled, stopped⟩
    · rw [stopped] at stops ⊢
      exact Or.inl ⟨blank, (Option.some.inj stops).symm, rfl⟩
    · rw [stopped] at stops ⊢
      exact Or.inr (Or.inl ⟨held, found, (Option.some.inj stops).symm, rfl⟩)
    · rw [done] at stops
      cases stops
    · rw [stopped] at stops ⊢
      obtain rfl := Option.some.inj stops
      exact Or.inr (Or.inr ⟨free, untitled, (added_concat table before rule).symm⟩)

end Table

end KeyChords
