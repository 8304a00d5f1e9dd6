import KeyChords.Dict
import Mathlib.Data.List.Nodup

/-! # What dictionaries hold

All changes of a dictionary are updates: the value of one key changes and all others stay
(`KeyChords.Dict.get?_update`), and the keys stay in order, with a new one behind them
(`KeyChords.Dict.keys_update`). Keys that are distinct stay distinct, and a dictionary with distinct
keys is told by its keys and their values (`KeyChords.Dict.ext`).
-/

namespace KeyChords.Dict

variable {κ ν : Type} {dict other : Dict κ ν} {key asked : κ} {value : ν}
  {change further : Option ν → ν}

@[simp]
theorem keys_nil : keys ([] : Dict κ ν) = [] :=
  rfl

@[simp]
theorem keys_cons (row : κ × ν) (dict : Dict κ ν) : keys (row :: dict) = row.1 :: dict.keys :=
  rfl

@[simp]
theorem keys_append (dict other : Dict κ ν) : keys (dict ++ other) = dict.keys ++ other.keys :=
  List.map_append

theorem mem_keys_of_mem {row : κ × ν} (held : row ∈ dict) : row.1 ∈ dict.keys :=
  List.mem_map_of_mem held

variable [DecidableEq κ]

@[simp]
theorem get?_nil : get? key ([] : Dict κ ν) = none :=
  rfl

theorem get?_cons (row : κ × ν) (dict : Dict κ ν) :
    get? key (row :: dict) = if key = row.1 then some row.2 else dict.get? key := by
  obtain ⟨name, held⟩ := row
  by_cases same : key = name
  · simp [get?, same]
  · simp [get?, List.lookup_cons, same, beq_eq_false_iff_ne.mpr same]

/-! ## Looking up -/

/-- What is found under a key stands in the dictionary. -/
theorem mem_of_get? (found : dict.get? key = some value) : (key, value) ∈ dict := by
  obtain ⟨before, after, split, -⟩ := List.lookup_eq_some_iff.mp found
  rw [split]
  exact List.mem_append_right _ List.mem_cons_self

/-- **Where keys are distinct, every row is found under its key.** -/
theorem get?_eq_some_iff (distinct : dict.keys.Nodup) :
    dict.get? key = some value ↔ (key, value) ∈ dict := by
  constructor
  · exact mem_of_get?
  · intro held
    obtain ⟨before, after, split⟩ := List.append_of_mem held
    rw [split, keys_append, keys_cons, List.nodup_middle, List.nodup_cons] at distinct
    refine List.lookup_eq_some_iff.mpr ⟨before, after, split, fun row inside => ?_⟩
    refine bne_iff_ne.mpr fun same => distinct.1 (List.mem_append_left _ ?_)
    exact List.mem_map.mpr ⟨row, inside, same.symm⟩

/-- Nothing is found under a key just when it is not one of the keys. -/
theorem get?_eq_none_iff : dict.get? key = none ↔ key ∉ dict.keys := by
  induction dict with
  | nil => simp
  | cons row rest hyp =>
    rw [get?_cons, keys_cons, List.mem_cons]
    by_cases same : key = row.1
    · simp [same]
    · simp [same, hyp]

theorem isSome_get?_iff : (dict.get? key).isSome ↔ key ∈ dict.keys := by
  rw [← Option.ne_none_iff_isSome, Ne, get?_eq_none_iff, not_not]

theorem exists_of_mem_keys (held : key ∈ dict.keys) : ∃ value, dict.get? key = some value :=
  Option.isSome_iff_exists.mp (isSome_get?_iff.mpr held)

/-- An element of a row that is looked up belongs to the row of the key. -/
theorem exists_row_of_mem {α : Type} {rows : Dict κ (List α)} {element : α}
    (found : element ∈ (rows.get? key).getD []) :
    ∃ row, rows.get? key = some row ∧ element ∈ row := by
  cases row : rows.get? key with
  | none => simp [row] at found
  | some elements =>
    rw [row, Option.getD_some] at found
    exact ⟨elements, rfl, found⟩

/-- **Two dictionaries are one** when they have the same distinct keys with the same values. -/
theorem ext (distinct : dict.keys.Nodup) (names : dict.keys = other.keys)
    (same : ∀ key, dict.get? key = other.get? key) : dict = other := by
  induction dict generalizing other with
  | nil => exact (List.map_eq_nil_iff.mp names.symm).symm
  | cons row rest hyp =>
    cases other with
    | nil => cases names
    | cons head tail =>
      obtain ⟨fresh, restDistinct⟩ := List.nodup_cons.mp distinct
      obtain ⟨name, tailKeys⟩ : row.1 = head.1 ∧ keys rest = keys tail := List.cons_eq_cons.mp names
      have first : row.2 = head.2 := by
        have := same row.1
        rwa [get?_cons, get?_cons, if_pos rfl, if_pos name, Option.some_inj] at this
      have others : rest = tail := by
        refine hyp restDistinct tailKeys fun key => ?_
        by_cases outer : key = row.1
        · have absent : key ∉ keys tail := by rwa [← tailKeys, outer]
          rw [get?_eq_none_iff.mpr (outer ▸ fresh), get?_eq_none_iff.mpr absent]
        · have := same key
          rwa [get?_cons, get?_cons, if_neg outer, if_neg (name ▸ outer)] at this
      rw [Prod.ext name first, others]

/-! ## Updating -/

theorem update_cons (row : κ × ν) (dict : Dict κ ν) :
    update key change (row :: dict) =
      if row.1 = key then (key, change (some row.2)) :: dict
      else row :: dict.update key change :=
  rfl

/-- **An update changes the value of its key alone.** -/
theorem get?_update :
    (dict.update key change).get? asked =
      if asked = key then some (change (dict.get? key)) else dict.get? asked := by
  induction dict with
  | nil => rw [update, get?_cons]; rfl
  | cons row rest hyp =>
    rw [update_cons]
    by_cases here : row.1 = key
    · rw [if_pos here, get?_cons, get?_cons, get?_cons, if_pos here.symm]
      by_cases same : asked = key
      · rw [if_pos same, if_pos same]
      · rw [if_neg same, if_neg same, if_neg (here.symm ▸ same)]
    · rw [if_neg here, get?_cons, get?_cons, get?_cons, hyp, if_neg (Ne.symm here)]
      by_cases same : asked = key
      · rw [if_neg (same ▸ Ne.symm here), if_pos same, if_pos same]
      · rw [if_neg same, if_neg same]

/-- **An update keeps the keys in order**, with a new one behind them. -/
theorem keys_update :
    (dict.update key change).keys = if key ∈ dict.keys then dict.keys else dict.keys ++ [key] := by
  induction dict with
  | nil => rfl
  | cons row rest hyp =>
    rw [update_cons]
    by_cases here : row.1 = key
    · simp [here]
    · rw [if_neg here, keys_cons, hyp]
      by_cases later : key ∈ keys rest
      · simp [later]
      · simp [later, Ne.symm here]

theorem mem_keys_update :
    asked ∈ (dict.update key change).keys ↔ asked = key ∨ asked ∈ dict.keys := by
  rw [keys_update]
  split
  · next held => exact ⟨Or.inr, fun either => either.elim (fun same => same ▸ held) id⟩
  · rw [List.mem_append, List.mem_singleton, or_comm]

theorem update_ne_nil : dict.update key change ≠ [] := by
  intro empty
  have held : key ∈ (dict.update key change).keys := mem_keys_update.mpr (Or.inl rfl)
  rw [empty] at held
  exact List.not_mem_nil held

/-- An update keeps the keys apart. -/
theorem nodup_keys_update (distinct : dict.keys.Nodup) : (dict.update key change).keys.Nodup := by
  rw [keys_update]
  split
  · exact distinct
  · next fresh =>
    exact List.nodup_append'.mpr ⟨distinct, List.nodup_singleton key, by simpa using fresh⟩

/-- The row of a new key stands behind all others. -/
theorem update_of_not_mem (fresh : key ∉ dict.keys) :
    dict.update key change = dict ++ [(key, change none)] := by
  induction dict with
  | nil => rfl
  | cons row rest hyp =>
    rw [keys_cons, List.mem_cons, not_or] at fresh
    obtain ⟨other, later⟩ := fresh
    rw [update_cons, if_neg (Ne.symm other), hyp later, List.cons_append]

/-- A row behind an update is the row of its key, or it was there. -/
theorem mem_update {row : κ × ν} (held : row ∈ dict.update key change) :
    row = (key, change (dict.get? key)) ∨ row ∈ dict := by
  induction dict with
  | nil => exact Or.inl (List.mem_singleton.mp held)
  | cons first rest hyp =>
    rw [update_cons] at held
    rw [get?_cons]
    by_cases here : first.1 = key
    · rw [if_pos here] at held
      rw [if_pos here.symm]
      exact (List.mem_cons.mp held).imp_right (List.mem_cons_of_mem _)
    · rw [if_neg here] at held
      rw [if_neg (Ne.symm here)]
      rcases List.mem_cons.mp held with rfl | later
      · exact Or.inr List.mem_cons_self
      · exact (hyp later).imp_right (List.mem_cons_of_mem _)

/-- An update that gives a key the value that it has changes nothing. -/
theorem update_eq_self (found : dict.get? key = some value) (same : change (some value) = value) :
    dict.update key change = dict := by
  induction dict with
  | nil => cases found
  | cons row rest hyp =>
    rw [get?_cons] at found
    rw [update_cons]
    by_cases here : row.1 = key
    · rw [if_pos here.symm] at found
      obtain rfl := Option.some.inj found
      rw [if_pos here, same, ← here]
    · rw [if_neg (Ne.symm here)] at found
      rw [if_neg here, hyp found]

/-- Two updates of one key are one. -/
theorem update_update :
    (dict.update key change).update key further =
      dict.update key fun held => further (some (change held)) := by
  induction dict with
  | nil => simp [update]
  | cons row rest hyp =>
    rw [update_cons, update_cons]
    by_cases here : row.1 = key
    · rw [if_pos here, if_pos here, update_cons, if_pos rfl]
    · rw [if_neg here, if_neg here, update_cons, if_neg here, hyp]

end KeyChords.Dict
