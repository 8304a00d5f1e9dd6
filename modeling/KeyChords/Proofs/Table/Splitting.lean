import KeyChords.Table.Split
import KeyChords.Text.Blank
import KeyChords.Proofs.Table.Registration

/-! # Splits by a context key

A split takes a bare context key and puts two rules on a chord, one under the key and one under its
negation. What is accepted as a key is a text of letters and points, and also such a text with one
line feed behind it (`KeyChords.Condition.isContextKey_iff`); the line feed then stands in the lines
of both rules. The lines differ, so registering a split on a chord stops only at a line that was
taken before, or at a side without a title (`KeyChords.Split.contextual_outcome`).
-/

namespace KeyChords

namespace Condition

/-! ## Context keys -/

/-- **A bare context key**: letters of the Latin alphabet and points, at least one. -/
def IsBareKey (text : List Char) : Prop :=
  text ≠ [] ∧ ∀ c ∈ text, ('a' ≤ c ∧ c ≤ 'z') ∨ ('A' ≤ c ∧ c ≤ 'Z') ∨ c = '.'

/-- **What is accepted as a context key**: a bare one, or one with a line feed behind it. -/
def IsAccepted (text : List Char) : Prop :=
  IsBareKey text ∨ ∃ key, IsBareKey key ∧ text = key ++ ['\n']

private theorem isContextChar_iff {c : Char} :
    isContextChar c = true ↔ ('a' ≤ c ∧ c ≤ 'z') ∨ ('A' ≤ c ∧ c ≤ 'Z') ∨ c = '.' := by
  have letter : c.isAlpha = (c.isUpper || c.isLower) := rfl
  have upper : c.isUpper = decide ('A' ≤ c ∧ c ≤ 'Z') := rfl
  have lower : c.isLower = (decide ('a' ≤ c) && decide (c ≤ 'z')) := rfl
  simp only [isContextChar, letter, upper, lower, Bool.or_eq_true, Bool.and_eq_true,
    decide_eq_true_eq]
  tauto

private theorem isBareKey_iff {text : List Char} :
    IsBareKey text ↔ (!text.isEmpty && text.all isContextChar) = true := by
  simp [IsBareKey, isContextChar_iff]

/-- A bare key is free of blanks. -/
theorem IsBareKey.not_isBlank {text : List Char} (bare : IsBareKey text) {c : Char}
    (member : c ∈ text) : Text.isBlank c = false := by
  have code : (97 ≤ c.toNat ∧ c.toNat ≤ 122) ∨ (65 ≤ c.toNat ∧ c.toNat ≤ 90) ∨ c.toNat = 46 := by
    rcases bare.2 c member with lower | upper | rfl
    · exact .inl lower
    · exact .inr (.inl upper)
    · exact .inr (.inr rfl)
  by_contra blank
  simp only [Bool.not_eq_false, Text.isBlank, Text.isWhite, Bool.or_eq_true,
    Text.CharClass.contains_iff] at blank
  rcases blank with ⟨range, member, low, high⟩ | ⟨range, member, low, high⟩
  · simp only [Text.whiteSpace, List.mem_cons, List.not_mem_nil, or_false] at member
    rcases member with rfl | rfl | rfl | rfl | rfl | rfl | rfl | rfl | rfl | rfl <;>
      dsimp only at low high <;> omega
  · simp only [Text.separators, List.mem_singleton] at member
    subst member
    dsimp only at low high
    omega

/-- **What is accepted as a context key.** -/
theorem isContextKey_iff (text : List Char) : isContextKey text = true ↔ IsAccepted text := by
  by_cases ended : text.getLast? = some '\n'
  · obtain ⟨key, rfl⟩ : ∃ key, text = key ++ ['\n'] :=
      (List.getLast?_eq_some_iff).mp ended
    have name : isContextKey (key ++ ['\n']) = (!key.isEmpty && key.all isContextChar) := by
      simp [isContextKey]
    rw [name, ← isBareKey_iff]
    constructor
    · exact fun bare => .inr ⟨key, bare, rfl⟩
    · rintro (bare | ⟨other, bare, same⟩)
      · exact absurd (bare.not_isBlank (List.mem_append_right key (List.mem_singleton_self _)))
          (by decide)
      · exact (List.append_cancel_right same) ▸ bare
  · have name : isContextKey text = (!text.isEmpty && text.all isContextChar) := by
      simp [isContextKey, ended]
    rw [name, ← isBareKey_iff]
    constructor
    · exact .inl
    · rintro (bare | ⟨key, -, rfl⟩)
      · exact bare
      · exact absurd (by simp) ended

/-- The fault of a text that is no context key. -/
def keyFault (context : String) : Fault :=
  .violation ⟨.contextKey, .compoundContext, none, some context⟩

private theorem requireContextKey_of_isAccepted {context : String}
    (accepted : IsAccepted context.toList) :
    requireContextKey context = .ok context := by
  rw [requireContextKey, if_pos ((isContextKey_iff _).mpr accepted)]

private theorem requireContextKey_of_not_isAccepted {context : String}
    (other : ¬ IsAccepted context.toList) :
    requireContextKey context = .error (keyFault context) := by
  rw [requireContextKey, if_neg (mt (isContextKey_iff _).mp other)]
  rfl

private theorem IsAccepted.ne_empty {context : String} (accepted : IsAccepted context.toList) :
    context ≠ "" := by
  rintro rfl
  rcases accepted with bare | ⟨key, -, same⟩
  · exact bare.1 rfl
  · simp at same

/-- **Among the accepted keys the bare ones** are those without a blank. -/
theorem IsAccepted.isBareKey_iff {text : List Char} (accepted : IsAccepted text) :
    IsBareKey text ↔ ∀ c ∈ text, Text.isBlank c = false := by
  constructor
  · exact fun bare c member => bare.not_isBlank member
  · intro solid
    rcases accepted with bare | ⟨key, -, rfl⟩
    · exact bare
    · exact absurd (solid '\n' (by simp)) (by decide)

end Condition

namespace Table

/-- **Binding two rules of different lines**: the first that finds its line taken or has no title is
refused, and if there is none both are added. -/
theorem each_bind_pair_cases (table : Table) (chord : String) {first second : Rule}
    (differ : first.when ≠ second.when) :
    let run := Progress.each (fun table (rule : String × Rule) => table.bind rule.1 rule.2) table
      ([first, second].map (chord, ·))
    (chord = "" ∧ run.fault = some .emptyChord) ∨
      (∃ rule ∈ [first, second], ∃ held, table.find? chord rule.when = some held ∧
        run.fault = some (taken .duplicate chord rule.when held rule.action)) ∨
      (∃ rule ∈ [first, second], ∃ fault, table.find? chord rule.when = none ∧
        rule.action.title = .error fault ∧ run.fault = some fault) ∨
      (chord ≠ "" ∧ (∀ rule ∈ [first, second], table.find? chord rule.when = none) ∧
        run.fault = none ∧ run.state = table.added ([first, second].map (chord, ·))) := by
  intro run
  have apart : (([first, second].map (chord, ·)).map slot).Nodup := by simp [slot, differ]
  rcases each_bind_apart_cases table .duplicate apart with
    ⟨admits, ended, state⟩ | ⟨before, rule, after, fault, split, -, failed, refused⟩
  · refine Or.inr (Or.inr (Or.inr ⟨?_, ?_, ended, state⟩))
    · exact admits.named (chord, first) List.mem_cons_self
    · exact fun rule member => admits.free (chord, rule) (List.mem_map_of_mem member)
  · have among : rule ∈ [first, second].map (chord, ·) := by
      rw [split]
      exact List.mem_append_right _ List.mem_cons_self
    obtain ⟨rule, member, rfl⟩ := List.mem_map.mp among
    rcases refused with ⟨blank, rfl, -⟩ | ⟨held, found, rfl, -⟩ | ⟨free, untitled, -⟩
    · exact Or.inl ⟨blank, failed⟩
    · exact Or.inr (Or.inl ⟨rule, member, held, found, failed⟩)
    · exact Or.inr (Or.inr (Or.inl ⟨rule, member, fault, free, untitled, failed⟩))

end Table

namespace Split

open Condition

/-- A side of a split as it is written down: an action, or nothing. -/
def written : Option Action → Draft
  | some action => .action action
  | none => .value .null

/-- The rules of a split: one under the key and one under its negation. A side without an action
suppresses. -/
def rules (context : String) (held otherwise : Option Action) : List Rule :=
  [⟨.leaf context false, held.getD .suppress⟩, ⟨.leaf context true, otherwise.getD .suppress⟩]

private theorem side_written (action : Option Action) :
    side (written action) = .action (action.getD .suppress) := by
  cases action <;> rfl

/-- A split by an accepted key. -/
theorem contextual_of_isAccepted {context : String} (accepted : IsAccepted context.toList)
    (held otherwise : Option Action) :
    contextual context (written held) (written otherwise) =
      .ok ((rules context held otherwise).map fun rule =>
        (rule.condition, .action rule.action)) := by
  have legal : (atom context).negate = .ok (.leaf context true) := by
    simp [atom, negate, accepted.ne_empty]
  rw [contextual, requireContextKey_of_isAccepted accepted]
  simp only [bind, Except.bind, legal, side_written]
  rfl

private theorem registerAll_rules (table : Table) (chord context : String)
    (held otherwise : Option Action) :
    table.registerAll chord (RulePairs.drafts
        ((rules context held otherwise).map fun rule => (rule.condition, .action rule.action))) =
      Progress.each (fun table (rule : String × Rule) => table.bind rule.1 rule.2) table
        ((rules context held otherwise).map (chord, ·)) := by
  rw [Table.registerAll, RulePairs.drafts, Progress.each_map, Progress.each_map, Progress.each_map]
  rfl

private theorem when_rules (context : String) (held otherwise : Option Action) :
    (rules context held otherwise).map Rule.when = [context, "!" ++ context] := rfl

private theorem ne_negated (context : String) : context ≠ "!" ++ context := by
  intro same
  have lengths := congrArg String.length same
  simp at lengths

/-- **Splitting a chord by a context key.** What is accepted is a bare key, or one with a line feed
behind it; any other text is refused as a context key. A split by an accepted key has two rules, of
the lines `context` and `!context`, which are different; they hold no blank exactly when the key is
bare. Registering the split on a chord with a name is refused only where one of the two lines was
taken before, or where a side is an action without a title. -/
theorem contextual_outcome (context : String) (held otherwise : Option Action) :
    (¬ IsAccepted context.toList ∧ requireContextKey context = .error (keyFault context) ∧
        contextual context (written held) (written otherwise) = .error (keyFault context)) ∨
      (IsAccepted context.toList ∧ requireContextKey context = .ok context ∧
        ∃ pairs : RulePairs, contextual context (written held) (written otherwise) = .ok pairs ∧
          pairs.map (fun pair => pair.1.text) = [context, "!" ++ context] ∧
          context ≠ "!" ++ context ∧
          (IsBareKey context.toList ↔
            ∀ line ∈ [context, "!" ++ context], ∀ c ∈ line.toList, Text.isBlank c = false) ∧
          ∀ (table : Table) (chord : String),
            let run := table.registerAll chord (RulePairs.drafts pairs)
            (chord = "" ∧ run.fault = some .emptyChord) ∨
              (∃ rule ∈ rules context held otherwise, ∃ earlier,
                table.find? chord rule.when = some earlier ∧
                  run.fault =
                    some (Table.taken .duplicate chord rule.when earlier rule.action)) ∨
              (∃ rule ∈ rules context held otherwise, ∃ fault,
                table.find? chord rule.when = none ∧ rule.action.title = .error fault ∧
                  run.fault = some fault) ∨
              (chord ≠ "" ∧
                (∀ rule ∈ rules context held otherwise, table.find? chord rule.when = none) ∧
                run.fault = none ∧
                run.state = table.added ((rules context held otherwise).map (chord, ·)))) := by
  by_cases accepted : IsAccepted context.toList
  · refine .inr ⟨accepted, requireContextKey_of_isAccepted accepted, _,
      contextual_of_isAccepted accepted held otherwise, ?_, ne_negated context, ?_, ?_⟩
    · rw [List.map_map]
      exact when_rules context held otherwise
    · rw [accepted.isBareKey_iff]
      have sign : Text.isBlank '!' = false := by decide
      simp [sign]
    · intro table chord
      rw [registerAll_rules]
      exact table.each_bind_pair_cases chord (ne_negated context)
  · refine .inl ⟨accepted, requireContextKey_of_not_isAccepted accepted, ?_⟩
    rw [contextual, requireContextKey_of_not_isAccepted accepted]
    rfl

/-- A line feed behind a key is accepted. -/
theorem contextual_lineFeed :
    ¬ IsBareKey "a\n".toList ∧ requireContextKey "a\n" = .ok "a\n" ∧
      ∃ pairs, contextual "a\n" (written none) (written none) = .ok pairs := by
  have accepted : IsAccepted "a\n".toList := .inr ⟨['a'], by simp [IsBareKey], rfl⟩
  refine ⟨?_, requireContextKey_of_isAccepted accepted, _,
    contextual_of_isAccepted accepted none none⟩
  intro bare
  exact absurd (bare.not_isBlank (.tail _ (.head _))) (by decide)

end Split

end KeyChords
