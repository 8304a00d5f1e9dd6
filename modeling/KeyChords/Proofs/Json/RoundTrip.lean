import KeyChords.Json.Reader
import KeyChords.Proofs.Json.Mapped
import KeyChords.Proofs.Json.Tokens

/-! # Reading what was written

A reader that is given the tokens of a written value places that value, whatever is still open
around it. Objects need distinct keys for that, since a key that comes again would give its new
value to the first place, and integers have to be short enough to be read.
-/

namespace KeyChords.Json

open KeyChords.Decimal KeyChords.Text

/-! ## Distinct keys -/

namespace Datum

variable {τ : Type} [DecidableEq τ]

mutual

/-- Whether no object inside a value has two fields of one key. -/
def hasDistinctKeys : Datum τ → Bool
  | .list items => haveDistinctKeys items
  | .object fields => decide (fields.map Prod.fst).Nodup && holdDistinctKeys fields
  | _ => true
termination_by structural value => value

/-- Whether the objects in the items of a list have distinct keys. -/
def haveDistinctKeys : List (Datum τ) → Bool
  | [] => true
  | item :: rest => hasDistinctKeys item && haveDistinctKeys rest
termination_by structural items => items

/-- Whether the objects in the values of fields have distinct keys. -/
def holdDistinctKeys : List (τ × Datum τ) → Bool
  | [] => true
  | (_, value) :: rest => hasDistinctKeys value && holdDistinctKeys rest
termination_by structural fields => fields

end

/-- Items keep their keys apart when each of them does. -/
theorem haveDistinctKeys_iff {items : List (Datum τ)} :
    haveDistinctKeys items = true ↔ ∀ item ∈ items, item.hasDistinctKeys = true := by
  induction items with
  | nil => simp [haveDistinctKeys]
  | cons item rest hyp => simp [haveDistinctKeys, hyp]

/-- Fields hold distinct keys when each of their values does. -/
theorem holdDistinctKeys_iff {fields : Fields τ} :
    holdDistinctKeys fields = true ↔ ∀ field ∈ fields, field.2.hasDistinctKeys = true := by
  induction fields with
  | nil => simp [holdDistinctKeys]
  | cons field rest hyp => simp [holdDistinctKeys, hyp]

end Datum

/-! ## The reader -/

namespace Reading

open Datum

variable {stack : List Frame} {rest : List Token}

private theorem run_cons {reading next : Reading} {token : Token}
    (step : reading.step token = .ok next)
    (rest : List Token) : reading.run (token :: rest) = next.run rest := by
  rw [run, step]

private theorem run_bare {word : List Char} {value : Document}
    (means : bareValue? word = some value) :
    (beforeValue stack).run (.bare word :: rest) = (place value stack).run rest :=
  run_cons (by rw [step, begin, means]) rest

/-- No value begins with a closing bracket, so an item is read like any other value. -/
theorem run_beforeItem (items : List Document) (value : Value) :
    (beforeItem items stack).run (value.tokenList ++ rest) =
      (beforeValue (.list items :: stack)).run (value.tokenList ++ rest) := by
  rcases value with _ | _ | _ | _ | _ | items | fields
  case list => cases items <;> rfl
  case object => cases fields <;> rfl
  all_goals rfl

-- The induction is on the value; the stack is arbitrary, since an item or a field is read with the
-- list or object around it still open.

mutual

/-- **The tokens of a value place the value.** -/
theorem run_tokenList : ∀ (value : Value), value.hasDistinctKeys = true →
    value.isWritable = true → ∀ (stack : List Frame) (rest : List Token),
    (beforeValue stack).run (value.tokenList ++ rest) =
      (place (value.map Spelling.ofString) stack).run rest
  | .null => fun _ _ stack rest => run_bare rfl
  | .bool value => fun _ _ stack rest => run_bare (bareValue?_bool value)
  | .int value => fun _ writable stack rest =>
    run_bare (bareValue?_intText writable)
  | .float value => fun _ _ stack rest => run_bare (bareValue?_floatText value)
  | .str text => fun _ _ stack rest => rfl
  | .list [] => fun _ _ stack rest => rfl
  | .list (item :: items) => by
    intro distinct writable stack rest
    simp only [hasDistinctKeys, haveDistinctKeys, Bool.and_eq_true] at distinct
    simp only [isWritable, areWritable, Bool.and_eq_true] at writable
    have opened : (beforeValue stack).run ((Datum.list (item :: items)).tokenList ++ rest) =
        (beforeItem [] stack).run (item.tokenList ++ (itemTokens items ++ .closeList :: rest)) := by
      simp [tokenList, run, step, begin]
    rw [opened, run_beforeItem, run_tokenList item distinct.1 writable.1, place,
      run_itemTokens items distinct.2 writable.2]
    rfl
  | .object [] => fun _ _ stack rest => rfl
  | .object ((key, value) :: fields) => by
    intro distinct writable stack rest
    simp only [hasDistinctKeys, holdDistinctKeys, Bool.and_eq_true, decide_eq_true_eq] at distinct
    simp only [isWritable, haveWritable, Bool.and_eq_true] at writable
    obtain ⟨keys, value_distinct, fields_distinct⟩ := distinct
    have opened :
        (beforeValue stack).run ((Datum.object ((key, value) :: fields)).tokenList ++ rest) =
          (beforeValue (.member [] (Spelling.ofString key) :: stack)).run
            (value.tokenList ++ (fieldTokens fields ++ .closeObject :: rest)) := by
      simp [tokenList, run, step, begin]
    have read_keys := List.Nodup.map ofString_injective keys
    rw [opened, run_tokenList value value_distinct writable.1]
    exact run_fieldTokens fields fields_distinct writable.2
      [(Spelling.ofString key, value.map Spelling.ofString)] stack (.closeObject :: rest) read_keys

private theorem run_itemTokens : ∀ (items : List Value), haveDistinctKeys items = true →
    areWritable items = true →
    ∀ (done : List Document) (stack : List Frame) (rest : List Token),
    (afterItem done stack).run (itemTokens items ++ rest) =
      (afterItem (done ++ mapItems Spelling.ofString items) stack).run rest
  | [] => fun _ _ done stack rest => by simp [itemTokens, mapItems]
  | item :: items => by
    intro distinct writable done stack rest
    simp only [haveDistinctKeys, Bool.and_eq_true] at distinct
    simp only [areWritable, Bool.and_eq_true] at writable
    have behind : (afterItem done stack).run (itemTokens (item :: items) ++ rest) =
        (beforeItem done stack).run (item.tokenList ++ (itemTokens items ++ rest)) := by
      simp [itemTokens, run, step]
    rw [behind, run_beforeItem, run_tokenList item distinct.1 writable.1, place,
      run_itemTokens items distinct.2 writable.2]
    simp [mapItems]

/-- The fields behind others join them, if no key comes again. -/
theorem run_fieldTokens : ∀ (fields : List (String × Value)), holdDistinctKeys fields = true →
    haveWritable fields = true →
    ∀ (done : Fields (List CodePoint)) (stack : List Frame) (rest : List Token),
    (done.map Prod.fst ++ (fields.map Prod.fst).map Spelling.ofString).Nodup →
    (afterField done stack).run (fieldTokens fields ++ rest) =
      (afterField (done ++ mapFields Spelling.ofString fields) stack).run rest
  | [] => fun _ _ done stack rest _ => by simp [fieldTokens, mapFields]
  | (key, value) :: fields => by
    intro distinct writable done stack rest keys
    simp only [holdDistinctKeys, Bool.and_eq_true] at distinct
    simp only [haveWritable, Bool.and_eq_true] at writable
    have behind : (afterField done stack).run (fieldTokens ((key, value) :: fields) ++ rest) =
        (beforeValue (.member done (Spelling.ofString key) :: stack)).run
          (value.tokenList ++ (fieldTokens fields ++ rest)) := by
      simp [fieldTokens, run, step]
    -- a key that is new goes behind the others, so no earlier field changes
    have fresh : (Spelling.ofString key : List CodePoint) ∉ done.map Prod.fst := by
      intro taken
      exact (List.nodup_append.mp keys).2.2 _ taken _ List.mem_cons_self rfl
    have joined : done.put (Spelling.ofString key) (value.map Spelling.ofString) =
        done ++ [(Spelling.ofString key, value.map Spelling.ofString)] :=
      Dict.update_of_not_mem fresh
    rw [behind, run_tokenList value distinct.1 writable.1, place, joined,
      run_fieldTokens fields distinct.2 writable.2 _ _ _ (by simpa using keys)]
    simp [mapFields]

end

end Reading

/-- **A document that was written is read as the value it was written for.** -/
theorem Document.read_indentedText {value : Value} (distinct : value.hasDistinctKeys = true)
    (writable : value.isWritable = true) :
    Document.read (value.indentedText ++ "\n") = .ok (value.map Spelling.ofString) := by
  have line_end : tokens ['\n'] = .ok [] := (tokens_space rfl []).trans tokens_nil
  have cut := Datum.tokens_write .indented 0 value (endsWord_cons rfl []) line_end
  have text : (value.indentedText ++ "\n").toList = value.write .indented 0 ++ ['\n'] := by
    simp [Datum.indentedText]
  have read := Reading.run_tokenList value distinct writable [] []
  unfold Document.read
  rw [text, cut]
  dsimp only
  rw [read]
  rfl

end KeyChords.Json
