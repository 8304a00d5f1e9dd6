import KeyChords.Proofs.Json.RoundTrip

/-! # Documents have distinct keys

A key that comes a second time in an object gives its new value to the first place. So no object of
a document that was read, at whatever level, has two fields of one key
(`KeyChords.Json.Document.hasDistinctKeys_of_read`).
-/

namespace KeyChords.Json

open KeyChords.Decimal KeyChords.Text

/-! ## Bare words -/

private theorem hasDistinctKeys_of_hexadecimal {negative : Bool} {digits : List Char}
    {value : Document} (read : bareNumber?.hexadecimal negative digits = some value) :
    value.hasDistinctKeys = true := by
  unfold bareNumber?.hexadecimal at read
  split at read
  · cases read
  · split at read
    · rw [← Option.some.inj read]
      rfl
    · cases read

private theorem hasDistinctKeys_of_bareNumber? {negative : Bool} {word : List Char}
    {value : Document}
    (read : bareNumber? negative word = some value) : value.hasDistinctKeys = true := by
  unfold bareNumber? at read
  split at read
  · exact hasDistinctKeys_of_hexadecimal read
  · exact hasDistinctKeys_of_hexadecimal read
  · split at read
    · rw [← Option.some.inj read]
      rfl
    split at read
    · rw [← Option.some.inj read]
      rfl
    generalize Numeral.read? word = spelled at read
    cases spelled with
    | none => cases read
    | some numeral =>
        dsimp only at read
        split at read
        · cases read
        split at read
        · split at read
          · cases read
          · rw [← Option.some.inj read]
            rfl
        · rw [← Option.some.inj read]
          rfl

/-- A bare word means a value without fields. -/
theorem hasDistinctKeys_of_bareValue? {word : List Char} {value : Document}
    (read : bareValue? word = some value) : value.hasDistinctKeys = true := by
  unfold bareValue? at read
  split at read
  · rw [← Option.some.inj read]
    rfl
  split at read
  · rw [← Option.some.inj read]
    rfl
  split at read
  · rw [← Option.some.inj read]
    rfl
  · exact hasDistinctKeys_of_bareNumber? read

/-! ## The reader -/

/-- The items of a list that is still open have distinct keys inside. -/
def DistinctItems (items : List Document) : Prop :=
  Datum.haveDistinctKeys items = true

/-- The fields of an object that is still open have distinct keys, and so have their values. -/
structure DistinctFields (fields : Fields (List CodePoint)) : Prop where
  keys : (fields.map Prod.fst).Nodup
  values : Datum.holdDistinctKeys fields = true

private theorem distinctFields_nil : DistinctFields [] :=
  ⟨List.nodup_nil, rfl⟩

private theorem DistinctItems.concat {items : List Document} {value : Document}
    (distinct : DistinctItems items) (fresh : value.hasDistinctKeys = true) :
    DistinctItems (items ++ [value]) := by
  refine Datum.haveDistinctKeys_iff.mpr ?_
  intro item member
  rcases List.mem_append.mp member with old | new
  · exact Datum.haveDistinctKeys_iff.mp distinct item old
  · rw [List.mem_singleton.mp new]
    exact fresh

/-- A sound value under a key keeps the keys of an object apart. -/
theorem DistinctFields.put {fields : Fields (List CodePoint)} {key : List CodePoint}
    {value : Document} (distinct : DistinctFields fields) (fresh : value.hasDistinctKeys = true) :
    DistinctFields (fields.put key value) where
  keys := Dict.nodup_keys_update distinct.keys
  values := by
    refine Datum.holdDistinctKeys_iff.mpr ?_
    intro field member
    rcases Dict.mem_update member with rfl | old
    · exact fresh
    · exact Datum.holdDistinctKeys_iff.mp distinct.values field old

theorem DistinctFields.object {fields : Fields (List CodePoint)}
    (distinct : DistinctFields fields) : (Datum.object fields).hasDistinctKeys = true :=
  (Bool.and_eq_true _ _).mpr ⟨decide_eq_true distinct.keys, distinct.values⟩

/-- A frame whose objects have distinct keys. -/
def Frame.Distinct : Frame → Prop
  | .list items => DistinctItems items
  | .member fields _ => DistinctFields fields

/-- Frames whose objects have distinct keys. -/
def DistinctStack (stack : List Frame) : Prop :=
  ∀ frame ∈ stack, frame.Distinct

theorem DistinctStack.cons {frame : Frame} {stack : List Frame} (distinct : DistinctStack stack)
    (first : frame.Distinct) : DistinctStack (frame :: stack) :=
  List.forall_mem_cons.mpr ⟨first, distinct⟩

namespace Reading

/-- **Everything that has been read so far has distinct keys.** -/
def Distinct : Reading → Prop
  | .beforeValue stack => DistinctStack stack
  | .beforeItem items stack => DistinctItems items ∧ DistinctStack stack
  | .afterItem items stack => DistinctItems items ∧ DistinctStack stack
  | .beforeKey fields stack => DistinctFields fields ∧ DistinctStack stack
  | .afterKey fields _ stack => DistinctFields fields ∧ DistinctStack stack
  | .afterField fields stack => DistinctFields fields ∧ DistinctStack stack
  | .done document => document.hasDistinctKeys = true

variable {reading next : Reading} {token : Token} {stack : List Frame}

private theorem distinct_place {value : Document} (fresh : value.hasDistinctKeys = true)
    (distinct : DistinctStack stack) : (place value stack).Distinct := by
  cases stack with
  | nil => exact fresh
  | cons frame stack =>
      obtain ⟨first, rest⟩ := List.forall_mem_cons.mp distinct
      cases frame with
      | list items => exact ⟨DistinctItems.concat first fresh, rest⟩
      | member fields key => exact ⟨DistinctFields.put first fresh, rest⟩

private theorem distinct_begin (distinct : DistinctStack stack)
    (begun : begin stack token = .ok next) :
    next.Distinct := by
  cases token with
  | openList =>
      cases begun
      exact ⟨rfl, distinct⟩
  | openObject =>
      cases begun
      exact ⟨distinctFields_nil, distinct⟩
  | text content =>
      cases begun
      exact distinct_place rfl distinct
  | bare word =>
      cases means : bareValue? word with
      | none => simp [begin, means] at begun
      | some value =>
          simp only [begin, means] at begun
          cases begun
          exact distinct_place (hasDistinctKeys_of_bareValue? means) distinct
  | _ => cases begun

/-- **Every token keeps what has been read distinct.** -/
theorem distinct_step (distinct : reading.Distinct) (stepped : reading.step token = .ok next) :
    next.Distinct := by
  cases reading with
  | beforeValue stack => exact distinct_begin distinct stepped
  | beforeItem items stack =>
      obtain ⟨held, outer⟩ := distinct
      have inner : DistinctStack (.list items :: stack) := DistinctStack.cons outer held
      cases token with
      | closeList =>
          cases stepped
          exact distinct_place held outer
      | _ =>
          rw [step] at stepped
          · exact distinct_begin inner stepped
          · nofun
  | afterItem items stack =>
      obtain ⟨held, outer⟩ := distinct
      cases token with
      | comma =>
          cases stepped
          exact ⟨held, outer⟩
      | closeList =>
          cases stepped
          exact distinct_place held outer
      | _ => cases stepped
  | beforeKey fields stack =>
      obtain ⟨held, outer⟩ := distinct
      cases token with
      | closeObject =>
          cases stepped
          exact distinct_place held.object outer
      | text content =>
          cases stepped
          exact ⟨held, outer⟩
      | bare word =>
          cases means : bareKey? word with
          | none => simp [step, means] at stepped
          | some key =>
              simp only [step, means] at stepped
              cases stepped
              exact ⟨held, outer⟩
      | _ => cases stepped
  | afterKey fields key stack =>
      obtain ⟨held, outer⟩ := distinct
      cases token with
      | colon =>
          cases stepped
          exact DistinctStack.cons outer held
      | _ => cases stepped
  | afterField fields stack =>
      obtain ⟨held, outer⟩ := distinct
      cases token with
      | comma =>
          cases stepped
          exact ⟨held, outer⟩
      | closeObject =>
          cases stepped
          exact distinct_place held.object outer
      | _ => cases stepped
  | done document => cases stepped

private theorem distinct_run {sequence : List Token} {final : Reading} (distinct : reading.Distinct)
    (ran : reading.run sequence = .ok final) : final.Distinct := by
  induction sequence generalizing reading with
  | nil =>
      cases ran
      exact distinct
  | cons token rest ih =>
      rw [run] at ran
      cases stepped : reading.step token with
      | error fault => simp [stepped] at ran
      | ok next =>
          rw [stepped] at ran
          exact ih (distinct_step distinct stepped) ran

end Reading

/-- **A document that was read has distinct keys**, in every object at every level. -/
theorem Document.hasDistinctKeys_of_read {text : String} {document : Document}
    (read : Document.read text = .ok document) : document.hasDistinctKeys = true := by
  have empty : (Reading.beforeValue []).Distinct := List.forall_mem_nil Frame.Distinct
  unfold Document.read at read
  cases cut : tokens text.toList with
  | error fault =>
      rw [cut] at read
      cases read
  | ok sequence =>
      cases ran : (Reading.beforeValue []).run sequence with
      | error fault =>
          simp only [cut, ran] at read
          cases read
      | ok final =>
          simp only [cut, ran] at read
          have distinct := Reading.distinct_run empty ran
          cases final with
          | done held =>
              cases read
              exact distinct
          | _ => cases read

end KeyChords.Json
