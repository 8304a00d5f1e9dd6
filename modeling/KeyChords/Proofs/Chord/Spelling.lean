import KeyChords.Chord.Leaders
import KeyChords.Proofs.Chord.Press

/-! # Spellings of a chord

Beside itself a chord has at most one spelling: the one that holds the missing modifiers of its
leader through the second press. In that spelling nothing is missing any more, so it has no further
spelling of its own (`KeyChords.Leaders.heldSpelling?_held`), and every spelling of a spelling is a
spelling of the chord. Which chords have a second spelling, and how it is read, is settled by their
presses (`KeyChords.Leaders.spellings_of_ofList`).
-/

namespace KeyChords

open Text Chord

namespace Chord

/-- Presses are not empty and hold no blank. -/
theorem press_of_mem_presses {chord press : String} (member : press ∈ presses chord) :
    press ≠ "" ∧ ' ' ∉ press.toList := by
  obtain ⟨letters, inside, rfl⟩ := List.mem_map.mp member
  obtain ⟨piece, filled⟩ := List.mem_filter.mp inside
  have some : letters ≠ [] := of_decide_eq_true filled
  rw [String.toList_ofList]
  exact ⟨by simpa using some, not_mem_of_mem_pieces piece⟩

private theorem presses_led {leader follower : String} (leads : leader ≠ "")
    (follows : follower ≠ "") (leaderWhole : ' ' ∉ leader.toList)
    (followerWhole : ' ' ∉ follower.toList) :
    presses (led leader follower) = [leader, follower] := by
  have letters : (led leader follower).toList = leader.toList ++ ' ' :: follower.toList := by
    simp [led]
  have someLeader : leader.toList ≠ [] := by simpa using leads
  have someFollower : follower.toList ≠ [] := by simpa using follows
  rw [presses, pressChars, letters, pieces_append_separator, pieces_of_not_mem leaderWhole,
    pieces_of_not_mem followerWhole]
  simp [someLeader, someFollower]

end Chord

namespace Press

/-- A press with several modifiers in front. -/
def underAll (modifiers : List String) (press : String) : String :=
  "+".intercalate modifiers ++ "+" ++ press

private theorem underAll_singleton (modifier press : String) :
    underAll [modifier] press = modified modifier press := by
  rw [underAll, String.intercalate_singleton, modified]

private theorem underAll_cons {modifier : String} {modifiers : List String}
    (further : modifiers ≠ []) (press : String) :
    underAll (modifier :: modifiers) press = modified modifier (underAll modifiers press) := by
  rw [underAll, String.intercalate_cons_of_ne_nil further, modified, underAll]
  simp only [String.append_assoc]

private theorem underAll_ne_empty (modifiers : List String) (press : String) :
    underAll modifiers press ≠ "" := by
  intro empty
  have letters := congrArg String.toList empty
  simp [underAll] at letters

/-- A press under further modifiers is read with them in front of its own. -/
theorem read_underAll {modifiers : List String} (filled : modifiers ≠ [])
    (valid : ∀ modifier ∈ modifiers, modifier ≠ "" ∧ '+' ∉ modifier.toList) (press : String) :
    read (underAll modifiers press) =
      ⟨modifiers ++ (read press).modifiers, (read press).literal⟩ := by
  induction modifiers with
  | nil => exact absurd rfl filled
  | cons modifier rest ih =>
      obtain ⟨named, plain⟩ := valid modifier List.mem_cons_self
      cases rest with
      | nil =>
          rw [underAll_singleton, read_modified named plain]
          rfl
      | cons next others =>
          rw [underAll_cons (List.cons_ne_nil next others), read_modified named plain,
            ih (List.cons_ne_nil next others) fun other member =>
              valid other (List.mem_cons_of_mem modifier member)]
          rfl

/-- A press under modifiers holds no blank when neither they nor the press do. -/
theorem blank_not_mem_underAll {modifiers : List String} {press : String}
    (valid : ∀ modifier ∈ modifiers, ' ' ∉ modifier.toList) (whole : ' ' ∉ press.toList) :
    ' ' ∉ (underAll modifiers press).toList := by
  induction modifiers with
  | nil => simpa [underAll] using whole
  | cons modifier rest ih =>
      have first := valid modifier List.mem_cons_self
      have others := ih fun other member => valid other (List.mem_cons_of_mem modifier member)
      cases rest with
      | nil =>
          rw [underAll_singleton]
          simp [modified, first, whole]
      | cons next further =>
          rw [underAll_cons (List.cons_ne_nil next further)]
          simp [modified, first, others]

end Press

namespace Leaders

open Press

variable {leaders : Leaders} {chord held : String}

/-- The leaders of a list are those that it names. -/
theorem mem_all_of_ofList {named : List String} {leaders : Leaders}
    (made : ofList named = .ok leaders) (leader : String) :
    leader ∈ leaders.all ↔ leader ∈ named := by
  unfold ofList at made
  split at made
  · cases made
    exact mem_firsts
  · cases made

/-- **When a chord has a second spelling**, and which one. -/
theorem heldSpelling?_eq_some_iff :
    leaders.heldSpelling? chord = some held ↔
      ∃ leader follower, presses chord = [leader, follower] ∧ leader ∈ leaders.all ∧
        missing leader follower ≠ [] ∧
        held = led leader (underAll (missing leader follower) follower) := by
  rw [heldSpelling?]
  constructor
  · intro spelled
    split at spelled
    · next leader follower cut =>
        by_cases leads : leader ∈ leaders.all
        · by_cases complete : missing leader follower = []
          · simp [leads, complete] at spelled
          · simp only [leads, complete, ↓reduceIte, Option.some.injEq] at spelled
            exact ⟨leader, follower, cut, leads, complete, spelled.symm⟩
        · simp [leads] at spelled
    · exact absurd spelled (by simp)
  · rintro ⟨leader, follower, cut, leads, lacking, rfl⟩
    rw [cut]
    simp only [leads, ↓reduceIte, lacking, underAll]

private theorem mem_of_mem_missing {leader follower modifier : String}
    (member : modifier ∈ missing leader follower) : modifier ∈ (read leader).modifiers :=
  (List.mem_filter.mp member).1

private theorem missing_ne_nil_iff {leader follower : String} :
    missing leader follower ≠ [] ↔
      ∃ modifier ∈ (read leader).modifiers, modifier ∉ (read follower).modifiers := by
  simp [missing]

/-- **A press under the modifiers that it lacks** has them in front of its own, and its key. -/
theorem read_held {leader follower : String} (lacking : missing leader follower ≠ []) :
    read (underAll (missing leader follower) follower) =
      ⟨missing leader follower ++ (read follower).modifiers, (read follower).literal⟩ := by
  refine read_underAll lacking (fun modifier member => ?_) follower
  obtain ⟨named, plain, -⟩ := modifier_of_mem_read (mem_of_mem_missing member)
  exact ⟨named, plain⟩

/-- Under the modifiers that it lacks, a press lacks none. -/
theorem missing_underAll {leader follower : String} (lacking : missing leader follower ≠ []) :
    missing leader (underAll (missing leader follower) follower) = [] := by
  apply List.filter_eq_nil_iff.mpr
  intro modifier member
  rw [read_held lacking, decide_eq_true_eq, not_not, List.mem_append]
  by_cases present : modifier ∈ (read follower).modifiers
  · exact Or.inr present
  · exact Or.inl (List.mem_filter.mpr ⟨member, decide_eq_true present⟩)

/-- **A spelling that holds the modifiers has the leader and the press under them as presses.** -/
theorem presses_held {leader follower : String} (cut : presses chord = [leader, follower]) :
    presses (led leader (underAll (missing leader follower) follower)) =
      [leader, underAll (missing leader follower) follower] := by
  obtain ⟨leads, leaderWhole⟩ := press_of_mem_presses (cut ▸ List.mem_cons_self)
  obtain ⟨-, followerWhole⟩ := press_of_mem_presses
    (cut ▸ List.mem_cons_of_mem leader (List.mem_singleton_self follower))
  refine presses_led leads (underAll_ne_empty _ _) leaderWhole ?_
  refine blank_not_mem_underAll (fun modifier member blank => ?_) followerWhole
  exact leaderWhole ((modifier_of_mem_read (mem_of_mem_missing member)).2.2 ' ' blank)

/-- **A second spelling has no second spelling.** -/
theorem heldSpelling?_held (spelled : leaders.heldSpelling? chord = some held) :
    leaders.heldSpelling? held = none := by
  obtain ⟨leader, follower, cut, leads, lacking, rfl⟩ := heldSpelling?_eq_some_iff.mp spelled
  rw [heldSpelling?, presses_held cut]
  simp only [missing_underAll lacking, ↓reduceIte, ite_self]

private theorem heldSpelling?_ne (spelled : leaders.heldSpelling? chord = some held) :
    held ≠ chord := by
  rintro rfl
  rw [heldSpelling?_held spelled] at spelled
  cases spelled

/-- A chord is spelled as it is written, and possibly with the modifiers of its leader held. -/
theorem mem_spellings {spelling : String} :
    spelling ∈ leaders.spellings chord ↔
      spelling = chord ∨ leaders.heldSpelling? chord = some spelling := by
  rw [spellings, List.mem_cons, Option.mem_toList]

/-- **Every spelling of a spelling is a spelling of the chord.** -/
theorem mem_spellings_of_mem_spellings {spelling other : String}
    (first : spelling ∈ leaders.spellings chord) (second : other ∈ leaders.spellings spelling) :
    other ∈ leaders.spellings chord := by
  rcases mem_spellings.mp first with rfl | heldFirst
  · exact second
  · rcases mem_spellings.mp second with rfl | heldSecond
    · exact first
    · rw [heldSpelling?_held heldFirst] at heldSecond
      exact absurd heldSecond (by simp)

/-- **A chord of at most one press** has itself as its only spelling, and no other chord is spelled
like it. -/
theorem mem_spellings_of_single {spelling : String} (single : (presses spelling).length ≤ 1) :
    spelling ∈ leaders.spellings chord ↔ spelling = chord := by
  rw [mem_spellings]
  refine ⟨?_, Or.inl⟩
  rintro (same | spelled)
  · exact same
  · obtain ⟨leader, follower, cut, -, -, rfl⟩ := heldSpelling?_eq_some_iff.mp spelled
    rw [presses_held cut] at single
    simp at single

/-- A chord of at most one press has one spelling. -/
theorem spellings_of_single (single : (presses chord).length ≤ 1) :
    leaders.spellings chord = [chord] := by
  cases spelled : leaders.heldSpelling? chord with
  | none => rw [spellings, spelled, Option.toList_none]
  | some held =>
      obtain ⟨leader, follower, cut, -⟩ := heldSpelling?_eq_some_iff.mp spelled
      rw [cut] at single
      simp at single

/-- **The spellings of a chord.** A chord has itself as its first spelling. It has one more, and
never two, exactly when it is made of a leader and one further press that lacks a modifier of the
leader. The second spelling is another chord. It is the leader and a press with the missing
modifiers, in the order of the leader, in front of those of the further press, and with the same
key; and it is the only spelling of itself. -/
theorem spellings_of_ofList {named : List String} (accepted : ofList named = .ok leaders)
    (chord : String) :
    (leaders.spell chord).result = .ok (leaders.spellings chord) ∧
      (leaders.spellings chord).head? = some chord ∧
      (leaders.spellings chord).length ≤ 2 ∧
      ((leaders.spellings chord).length = 2 ↔
        ∃ leader follower, presses chord = [leader, follower] ∧ leader ∈ named ∧
          ∃ modifier ∈ (read leader).modifiers, modifier ∉ (read follower).modifiers) ∧
      ∀ held, leaders.spellings chord = [chord, held] →
        held ≠ chord ∧ leaders.spellings held = [held] ∧
          ∃ leader follower press, presses chord = [leader, follower] ∧ leader ∈ named ∧
            presses held = [leader, press] ∧
            read press =
              ⟨(read leader).modifiers.filter (· ∉ (read follower).modifiers) ++
                (read follower).modifiers, (read follower).literal⟩ := by
  have second (held : String) : leaders.spellings chord = [chord, held] ↔
      leaders.heldSpelling? chord = some held := by
    cases spelled : leaders.heldSpelling? chord <;> simp [spellings, spelled]
  have several : (leaders.spellings chord).length = 2 ↔
      ∃ held, leaders.heldSpelling? chord = some held := by
    cases spelled : leaders.heldSpelling? chord <;> simp [spellings, spelled]
  refine ⟨rfl, rfl, ?_, ?_, ?_⟩
  · cases spelled : leaders.heldSpelling? chord <;> simp [spellings, spelled]
  · simp only [several, heldSpelling?_eq_some_iff, mem_all_of_ofList accepted, missing_ne_nil_iff]
    constructor
    · rintro ⟨held, leader, follower, cut, leads, lacking, -⟩
      exact ⟨leader, follower, cut, leads, lacking⟩
    · rintro ⟨leader, follower, cut, leads, lacking⟩
      exact ⟨_, leader, follower, cut, leads, lacking, rfl⟩
  · intro held listed
    have spelled := (second held).mp listed
    refine ⟨heldSpelling?_ne spelled, ?_, ?_⟩
    · rw [spellings, heldSpelling?_held spelled, Option.toList_none]
    · obtain ⟨leader, follower, cut, leads, lacking, rfl⟩ := heldSpelling?_eq_some_iff.mp spelled
      exact ⟨leader, follower, _, cut, (mem_all_of_ofList accepted leader).mp leads,
        presses_held cut, read_held lacking⟩

/-- A leader with two modifiers, one of which the other leader has as well. -/
def shiftedLeader : Leaders :=
  ⟨["ctrl+shift+x", "ctrl+x"], by decide, by decide +kernel⟩

/-- A chord with a blank in front and two between its presses, the second of which has a plus sign
as its key. -/
theorem spellings_shiftedLeader :
    ofList ["ctrl+shift+x", "ctrl+x", "ctrl+shift+x"] = .ok shiftedLeader ∧
      shiftedLeader.spellings " ctrl+shift+x  ctrl++" =
        [" ctrl+shift+x  ctrl++", "ctrl+shift+x shift+ctrl++"] ∧
      shiftedLeader.spellings "ctrl+shift+x shift+ctrl++" = ["ctrl+shift+x shift+ctrl++"] := by
  have accepted : ofList ["ctrl+shift+x", "ctrl+x", "ctrl+shift+x"] = .ok shiftedLeader := rfl
  have listed : shiftedLeader.spellings " ctrl+shift+x  ctrl++" =
      [" ctrl+shift+x  ctrl++", "ctrl+shift+x shift+ctrl++"] := by decide +kernel
  obtain ⟨-, -, -, -, second⟩ := spellings_of_ofList accepted " ctrl+shift+x  ctrl++"
  exact ⟨accepted, listed, (second _ listed).2.1⟩

end Leaders

namespace Chord

/-- A text without blanks is at most one press, whether a blank follows it or not. -/
theorem length_presses_le_one {text : List Char} (whole : ' ' ∉ text) :
    (presses (String.ofList text)).length ≤ 1 ∧
      (presses (String.ofList (text ++ [' ']))).length ≤ 1 := by
  by_cases empty : text = []
  · simp [presses, pressChars, empty, pieces]
  · refine ⟨?_, ?_⟩
    · simp [presses, pressChars, pieces_of_not_mem whole, empty]
    · simp [presses, pressChars, pieces_append_separator, pieces_of_not_mem whole, pieces, empty]

end Chord

end KeyChords
