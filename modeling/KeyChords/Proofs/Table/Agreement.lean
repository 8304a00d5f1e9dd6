import Mathlib.Data.List.Perm.Basic
import KeyChords.Proofs.Table.Registration

/-! # Tables that agree

Two tables agree when they bind the same chords and give each the same bindings, in whatever order
(`KeyChords.Table.Agrees`). Tables that agree refuse the same rules for the same faults, and agree
after each that they take. Rules that take different slots lead to tables that agree, whatever the
order in which they are registered (`KeyChords.Table.agrees_of_perm`).
-/

namespace KeyChords

namespace Table

/-- **Two tables agree**: they bind the same chords, with the same bindings up to their order, and
no chord has two bindings under one line. -/
structure Agrees (first second : Table) : Prop where
  chords : ∀ chord, chord ∈ first.chords ↔ chord ∈ second.chords
  bindings : ∀ chord, (first.bindings chord).Perm (second.bindings chord)
  distinct : ∀ chord, ((first.bindings chord).map Binding.when).Nodup

variable {first second : Table}

/-- Where no chord has two bindings under one line, a slot has at most one. -/
theorem find?_eq_some_iff {table : Table} {chord line : String} {action : Action}
    (distinct : ((table.bindings chord).map Binding.when).Nodup) :
    table.find? chord line = some action ↔ ⟨line, action⟩ ∈ table.bindings chord := by
  rw [map_when_bindings] at distinct
  rw [find?, Dict.get?_eq_some_iff distinct, mem_bindings_iff]

/-- Tables that agree hold the same action in each slot. -/
theorem Agrees.find? (agrees : first.Agrees second) (chord line : String) :
    first.find? chord line = second.find? chord line := by
  have order := agrees.bindings chord
  have distinct : ((second.bindings chord).map Binding.when).Nodup :=
    (order.map Binding.when).nodup_iff.mp (agrees.distinct chord)
  ext held
  rw [find?_eq_some_iff (agrees.distinct chord), find?_eq_some_iff distinct, order.mem_iff]

/-- Binding a free slot in two tables that agree leaves them in agreement. -/
theorem Agrees.add (agrees : first.Agrees second) {chord : String} {rule : Rule}
    (free : first.find? chord rule.when = none) :
    (first.add chord rule).Agrees (second.add chord rule) where
  chords asked := by rw [mem_chords_add, mem_chords_add, agrees.chords]
  bindings asked := by
    rw [bindings_add free, bindings_add ((agrees.find? chord rule.when).symm.trans free)]
    exact (agrees.bindings asked).append_right _
  distinct asked := by
    rw [bindings_add free]
    by_cases same : asked = chord
    · subst same
      rw [if_pos rfl, List.map_append, List.map_singleton, ← List.concat_eq_append,
        List.nodup_concat]
      refine ⟨?_, agrees.distinct asked⟩
      intro present
      obtain ⟨held, member, line⟩ := List.mem_map.mp present
      exact find?_eq_none_iff.mp free held member line
    · rw [if_neg same, List.append_nil]
      exact agrees.distinct asked

/-- **Tables that agree refuse the same rules** and agree after each that they take. -/
theorem Agrees.bind (agrees : first.Agrees second) (chord : String) (rule : Rule)
    (kind : Violation.Kind) :
    Progress.Alike Agrees (first.bind chord rule kind) (second.bind chord rule kind) := by
  have same := agrees.find? chord rule.when
  rcases bind_cases first chord rule kind with ⟨rfl, stopped⟩ | ⟨held, named, found, stopped⟩ |
    ⟨title, named, free, titled, done⟩ | ⟨fault, named, free, untitled, stopped⟩
  · rw [stopped, bind_of_blank]
    exact ⟨rfl, agrees⟩
  · rw [stopped, bind_of_taken named (same.symm.trans found)]
    exact ⟨rfl, agrees⟩
  · rw [done, bind_of_titled named (same.symm.trans free) titled]
    exact ⟨rfl, agrees.add free⟩
  · rw [stopped, bind_of_untitled named (same.symm.trans free) untitled]
    exact ⟨rfl, agrees.add free⟩

/-- Tables that agree go alike through a registration. -/
theorem Agrees.register (agrees : first.Agrees second) (chord : String)
    (condition action : Draft) (kind : Violation.Kind) :
    Progress.Alike Agrees (first.register chord condition action kind)
      (second.register chord condition action kind) := by
  by_cases blank : chord = ""
  · simp only [Table.register, blank, ↓reduceIte]
    exact ⟨rfl, agrees⟩
  · simp only [Table.register, blank, ↓reduceIte]
    cases action.toAction with
    | error fault => exact ⟨rfl, agrees⟩
    | ok action =>
        cases condition.toCondition with
        | error fault => exact ⟨rfl, agrees⟩
        | ok condition =>
            have bound := agrees.bind chord ⟨condition, action⟩ kind
            rw [bind_of_named blank, bind_of_named blank] at bound
            exact bound

/-- The table after rules were registered one after the other, refused ones included. -/
def registered (table : Table) (rules : List (String × Rule)) : Table :=
  rules.foldl (fun table rule =>
    (table.register rule.1 rule.2.condition rule.2.action).state) table

/-- A rule for a free slot is in it afterwards, if its chord names a key. -/
theorem state_register_of_free {table : Table} {rule : String × Rule}
    (free : table.find? rule.1 rule.2.when = none) :
    (table.register rule.1 rule.2.condition rule.2.action).state =
      table.added ([rule].filter fun rule => rule.1 ≠ "") := by
  rw [register_of_toCondition (Draft.toCondition_ofCondition rule.2.condition)]
  rcases bind_cases table rule.1 rule.2 .duplicate with ⟨blank, stopped⟩ | ⟨held, -, found, -⟩ |
    ⟨_, named, -, -, done⟩ | ⟨_, named, -, -, stopped⟩
  · rw [stopped]
    simp [blank, added, Progress.stopped]
  · cases free.symm.trans found
  · rw [done]
    simp [named, added, Progress.done]
  · rw [stopped]
    simp [named, added, Progress.stopped]

/-- Of rules that take different free slots, exactly those that name a key are registered. -/
theorem registered_of_free {table : Table} {rules : List (String × Rule)}
    (free : ∀ rule ∈ rules, table.find? rule.1 rule.2.when = none)
    (apart : (rules.map slot).Nodup) :
    table.registered rules = table.added (rules.filter fun rule => rule.1 ≠ "") := by
  induction rules generalizing table with
  | nil => rfl
  | cons rule rest ih =>
      rw [List.map_cons, List.nodup_cons] at apart
      obtain ⟨fresh, restApart⟩ := apart
      have first := free rule List.mem_cons_self
      have restFree : ∀ other ∈ rest,
          (table.added ([rule].filter fun rule => rule.1 ≠ "")).find? other.1 other.2.when =
            none := by
        intro other member
        refine find?_added_eq_none_iff.mpr ⟨free other (List.mem_cons_of_mem rule member), ?_⟩
        intro present
        obtain ⟨taker, taken, same⟩ := List.mem_map.mp present
        have only : taker = rule := List.mem_singleton.mp (List.mem_filter.mp taken).1
        refine fresh (List.mem_map.mpr ⟨other, member, ?_⟩)
        rw [← only, same]
        rfl
      rw [registered, List.foldl_cons, ← registered, state_register_of_free first,
        ih restFree restApart, ← added_append, ← List.filter_append]
      rfl

/-- Rules that take different slots are all registered, but for those on an empty chord. -/
theorem registered_empty {rules : List (String × Rule)} (apart : (rules.map slot).Nodup) :
    registered ∅ rules = added ∅ (rules.filter fun rule => rule.1 ≠ "") :=
  registered_of_free (fun _ _ => rfl) apart

/-- The lines of the bindings that rules of different slots give a chord are different. -/
theorem nodup_given {rules : List (String × Rule)} (apart : (rules.map slot).Nodup)
    (chord : String) : ((given rules chord).map Binding.when).Nodup := by
  rw [given, List.map_map]
  refine List.Nodup.map_on ?_ ((List.Nodup.of_map slot apart).filter _)
  intro one member other otherMember line
  obtain ⟨oneRule, oneChord⟩ := List.mem_filter.mp member
  obtain ⟨otherRule, otherChord⟩ := List.mem_filter.mp otherMember
  refine List.inj_on_of_nodup_map apart oneRule otherRule (Prod.ext ?_ line)
  exact (of_decide_eq_true oneChord).symm.trans (of_decide_eq_true otherChord)

/-- **The order of registration does not matter.** Rules that take different slots lead to tables
that agree. -/
theorem agrees_of_perm {rules others : List (String × Rule)} (reordered : rules.Perm others)
    (apart : (rules.map slot).Nodup) : (registered ∅ rules).Agrees (registered ∅ others) := by
  have otherApart : (others.map slot).Nodup := (reordered.map slot).nodup_iff.mp apart
  have fits {rules : List (String × Rule)} (apart : (rules.map slot).Nodup) :
      Fits ∅ (rules.filter fun rule => rule.1 ≠ "") :=
    ⟨fun _ _ => rfl, apart.sublist (List.filter_sublist.map slot)⟩
  rw [registered_empty apart, registered_empty otherApart]
  have named := reordered.filter fun rule => decide (rule.1 ≠ "")
  refine ⟨fun chord => ?_, fun chord => ?_, fun chord => ?_⟩
  · rw [mem_chords_added, mem_chords_added, (named.map Prod.fst).mem_iff]
  · rw [(fits apart).bindings_added, (fits otherApart).bindings_added]
    exact ((named.filter _).map _).append_left _
  · rw [(fits apart).bindings_added]
    exact nodup_given (fits apart).apart chord

end Table

end KeyChords
