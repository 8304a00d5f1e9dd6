import Mathlib.Data.List.Basic
import KeyChords.Debug.Settings

/-! # Option values that are refused

Whether an option value is refused, and for which fault, is a matter of the value alone, not of
those in front of it (`KeyChords.Debug.Filter.apply_eq_error_iff`). So a list of values is refused
exactly for the first of them that is (`KeyChords.Debug.Filter.ofValues_eq_error_iff`).
-/

namespace KeyChords.Debug

open Text

namespace Filter

variable {filter : Filter} {raw : String} {fault : Fault}

/-! ## Refused values -/

/-- What an option value says: the value without the blanks around it. -/
def content (raw : String) : List Char :=
  strip raw.toList

/-- A number: digits of any kind, at least one. -/
def IsNumber (text : List Char) : Prop :=
  text ≠ [] ∧ ∀ c ∈ text, isDigit c = true

/-- The digits in front of the first one that is not decimal. -/
def decimals (digits : List Char) : List Char :=
  digits.takeWhile fun c => (decimalValue? c).isSome

/-- **A value that is refused**, with the fault it is refused for. -/
inductive Refused (raw : String) : Fault → Prop
  | length (number : IsNumber (content raw))
      (many : Decimal.digitLimit < (decimals (content raw)).length) :
      Refused raw (.debugLength (decimals (content raw)).length)
  | digits {c : Char} (number : IsNumber (content raw))
      (few : (decimals (content raw)).length ≤ Decimal.digitLimit) (held : c ∈ content raw)
      (undecimal : decimalValue? c = none) :
      Refused raw (.debugDigits (String.ofList (content raw)))
  | word (filled : content raw ≠ []) (other : ¬ IsNumber (content raw))
      (uncut : '=' ∉ content raw) : Refused raw (.debugValue raw)
  | target {name target : String} (cut : content raw = name.toList ++ '=' :: target.toList)
      (first : '=' ∉ name.toList) (asked : name = "target" ∨ name = "category")
      (unknown : target ≠ everyCategory ∧ target ∉ Category.all.map Category.name) :
      Refused raw (.debugTarget target)
  | name {name value : String} (cut : content raw = name.toList ++ '=' :: value.toList)
      (first : '=' ∉ name.toList) (unknown : name ∉ ["target", "category", "chord", "key"]) :
      Refused raw (.debugValue raw)

/-! ### How a value is read -/

private theorem apply_of_blank (blank : content raw = []) :
    filter.apply raw = .ok filter.raised := by
  rw [apply, show strip raw.toList = [] from blank]
  rfl

private theorem apply_of_number (number : IsNumber (content raw)) :
    filter.apply raw = (fun level => { filter with level }) <$> readLevel (content raw) := by
  obtain ⟨filled, digits⟩ := number
  have some : (strip raw.toList).isEmpty = false := List.isEmpty_eq_false_iff.mpr filled
  have all : (strip raw.toList).all isDigit = true := List.all_eq_true.mpr digits
  rw [apply, some, all]
  rfl

private theorem not_isNumber_of_cut {text name value : List Char}
    (cut : text = name ++ '=' :: value) :
    ¬ IsNumber text := by
  intro number
  have held : '=' ∈ text := cut ▸ List.mem_append_right name List.mem_cons_self
  exact absurd (number.2 '=' held) (by decide)

private theorem apply_of_other (filled : content raw ≠ []) (other : ¬ IsNumber (content raw)) :
    filter.apply raw =
      if '=' ∈ content raw then
        filter.assign raw ((content raw).takeWhile (· ≠ '='))
          (((content raw).dropWhile (· ≠ '=')).drop 1)
      else .error (.debugValue raw) := by
  have some : (strip raw.toList).isEmpty = false := List.isEmpty_eq_false_iff.mpr filled
  have mixed : (strip raw.toList).all isDigit = false := by
    rw [← Bool.not_eq_true, List.all_eq_true]
    exact fun digits => other ⟨filled, digits⟩
  rw [apply, some, mixed]
  rfl

private theorem apply_of_cut {name value : String}
    (cut : content raw = name.toList ++ '=' :: value.toList) (first : '=' ∉ name.toList) :
    filter.apply raw = filter.assign raw name.toList value.toList := by
  have filled : content raw ≠ [] := by simp [cut]
  have held : '=' ∈ content raw := by simp [cut]
  have others : ∀ c ∈ name.toList, (decide (c ≠ '=')) = true := by
    intro c member
    exact decide_eq_true (ne_of_mem_of_not_mem member first)
  have front : (content raw).takeWhile (· ≠ '=') = name.toList := by
    rw [cut, List.takeWhile_append_of_pos others]
    simp
  have back : ((content raw).dropWhile (· ≠ '=')).drop 1 = value.toList := by
    rw [cut, List.dropWhile_append_of_pos others]
    simp
  rw [apply_of_other filled (not_isNumber_of_cut cut), if_pos held, front, back]

private theorem exists_cut {text : List Char} (held : '=' ∈ text) :
    ∃ name value : String, text = name.toList ++ '=' :: value.toList ∧ '=' ∉ name.toList := by
  obtain ⟨front, back, cut, first⟩ := List.eq_append_cons_of_mem held
  exact ⟨String.ofList front, String.ofList back, by simpa using cut, by simpa using first⟩

/-! ### Which values are refused -/

private theorem readDigits_eq_none_iff {value : Nat} {digits : List Char} :
    readDigits value digits = none ↔ ∃ c ∈ digits, decimalValue? c = none := by
  induction digits generalizing value with
  | nil => simp [readDigits]
  | cons c rest ih =>
      cases decimal : decimalValue? c with
      | none => simp [readDigits, decimal]
      | some digit => simp [readDigits, decimal, ih]

variable {digits : List Char}

private theorem readLevel_of_many (many : Decimal.digitLimit < (decimals digits).length) :
    readLevel digits = .error (.debugLength (decimals digits).length) :=
  if_pos many

private theorem readLevel_of_unread (few : (decimals digits).length ≤ Decimal.digitLimit)
    (unread : readDigits 0 digits = none) :
    readLevel digits = .error (.debugDigits (String.ofList digits)) := by
  rw [readLevel, unread]
  exact if_neg (Nat.not_lt_of_le few)

private theorem readLevel_of_read {level : Nat}
    (few : (decimals digits).length ≤ Decimal.digitLimit)
    (read : readDigits 0 digits = some level) : readLevel digits = .ok level := by
  rw [readLevel, read]
  exact if_neg (Nat.not_lt_of_le few)

/-- A refused value is refused whatever was read before it. -/
theorem Refused.apply (refused : Refused raw fault) (filter : Filter) :
    filter.apply raw = .error fault := by
  cases refused with
  | length number many =>
      rw [apply_of_number number, readLevel_of_many many]
      rfl
  | digits number few held undecimal =>
      have unread : readDigits 0 (content raw) = none :=
        readDigits_eq_none_iff.mpr ⟨_, held, undecimal⟩
      rw [apply_of_number number, readLevel_of_unread few unread]
      rfl
  | word filled other uncut => rw [apply_of_other filled other, if_neg uncut]
  | target cut first asked unknown =>
      rw [apply_of_cut cut first, assign, String.ofList_toList, String.ofList_toList, if_pos asked,
        if_neg (not_or.mpr unknown)]
  | name cut first unknown =>
      simp only [List.mem_cons, List.not_mem_nil, or_false, not_or] at unknown
      obtain ⟨target, category, chord, key⟩ := unknown
      rw [apply_of_cut cut first, assign, String.ofList_toList,
        if_neg (not_or.mpr ⟨target, category⟩), if_neg (not_or.mpr ⟨chord, key⟩)]

private theorem refused_of_readLevel (number : IsNumber (content raw))
    (stopped : readLevel (content raw) = .error fault) : Refused raw fault := by
  by_cases many : Decimal.digitLimit < (decimals (content raw)).length
  · rw [readLevel_of_many many] at stopped
    cases stopped
    exact .length number many
  · have few := Nat.le_of_not_lt many
    cases read : readDigits 0 (content raw) with
    | none =>
        rw [readLevel_of_unread few read] at stopped
        cases stopped
        obtain ⟨c, held, undecimal⟩ := readDigits_eq_none_iff.mp read
        exact .digits number few held undecimal
    | some level =>
        rw [readLevel_of_read few read] at stopped
        cases stopped

private theorem refused_of_assign {name value : String}
    (cut : content raw = name.toList ++ '=' :: value.toList) (first : '=' ∉ name.toList)
    (stopped : filter.assign raw name.toList value.toList = .error fault) : Refused raw fault := by
  rw [assign, String.ofList_toList, String.ofList_toList] at stopped
  split at stopped
  next asked =>
    split at stopped
    next => cases stopped
    next unknown =>
      cases stopped
      exact .target cut first asked (not_or.mp unknown)
  next unasked =>
    split at stopped
    next => cases stopped
    next unkeyed =>
      cases stopped
      refine .name cut first ?_
      simp only [List.mem_cons, List.not_mem_nil, or_false]
      tauto

/-- **Which values are refused**, whatever was read before them. -/
theorem apply_eq_error_iff : filter.apply raw = .error fault ↔ Refused raw fault := by
  refine ⟨fun stopped => ?_, fun refused => refused.apply filter⟩
  by_cases blank : content raw = []
  · rw [apply_of_blank blank] at stopped
    cases stopped
  · by_cases number : IsNumber (content raw)
    · rw [apply_of_number number] at stopped
      cases read : readLevel (content raw) with
      | error other =>
          rw [read] at stopped
          cases stopped
          exact refused_of_readLevel number read
      | ok level =>
          rw [read] at stopped
          cases stopped
    · by_cases held : '=' ∈ content raw
      · obtain ⟨name, value, cut, first⟩ := exists_cut held
        rw [apply_of_cut cut first] at stopped
        exact refused_of_assign cut first stopped
      · rw [apply_of_other blank number, if_neg held] at stopped
        cases stopped
        exact .word blank number held

/-- **The first refused value** of a list stands behind values none of which is refused. -/
def FirstRefused (values : List String) (fault : Fault) : Prop :=
  ∃ before raw rest, values = before ++ raw :: rest ∧
    (∀ earlier ∈ before, ∀ other, ¬ Refused earlier other) ∧ Refused raw fault

private theorem not_firstRefused_nil : ¬ FirstRefused [] fault := by
  rintro ⟨before, raw, rest, split, -⟩
  simp at split

private theorem firstRefused_cons {value : String} {values : List String} :
    FirstRefused (value :: values) fault ↔
      Refused value fault ∨ (∀ other, ¬ Refused value other) ∧ FirstRefused values fault := by
  constructor
  · rintro ⟨before, raw, rest, split, passed, refused⟩
    cases before with
    | nil =>
        cases split
        exact Or.inl refused
    | cons earlier others =>
        cases split
        obtain ⟨passes, passed⟩ := List.forall_mem_cons.mp passed
        exact Or.inr ⟨passes, others, raw, rest, rfl, passed, refused⟩
  · rintro (refused | ⟨passes, before, raw, rest, rfl, passed, refused⟩)
    · exact ⟨[], value, values, rfl, fun _ none => absurd none List.not_mem_nil, refused⟩
    · exact ⟨value :: before, raw, rest, rfl, List.forall_mem_cons.mpr ⟨passes, passed⟩, refused⟩

/-- **A list of values is refused for the first of them that is.** -/
theorem foldlM_eq_error_iff {values : List String} :
    values.foldlM apply filter = .error fault ↔ FirstRefused values fault := by
  -- the filter that was reached changes with every value and decides nothing
  induction values generalizing filter with
  | nil => exact iff_of_false (fun stopped => by cases stopped) not_firstRefused_nil
  | cons value values ih =>
      have step : Refused value fault ↔ filter.apply value = .error fault :=
        apply_eq_error_iff.symm
      rw [firstRefused_cons, step, List.foldlM_cons]
      cases read : filter.apply value with
      | error first =>
          have stops : ¬ ∀ other, ¬ Refused value other := fun passes =>
            passes first (apply_eq_error_iff.mp read)
          change (Except.error first : Except Fault Filter) = .error fault ↔ _
          simp only [stops, false_and, or_false]
      | ok next =>
          have passes (other : Fault) : ¬ Refused value other := by
            intro refused
            rw [refused.apply filter] at read
            cases read
          change values.foldlM Filter.apply next = .error fault ↔ _
          simp [ih, passes]

/-- Values are refused with the fault of the first that is. -/
theorem ofValues_eq_error_iff {values : List String} :
    ofValues values = .error fault ↔ FirstRefused values fault :=
  foldlM_eq_error_iff

theorem Refused.className_eq (refused : Refused raw fault) : fault.className = "ValueError" := by
  cases refused <;> rfl

end Filter

end KeyChords.Debug
