import Crontab.Text

/-!
# Registers

A register holds values under names, in the order in which the names were first entered. Putting a
value under a name that is held keeps the name's place; erasing a name gives its place up.
-/

namespace Crontab

/-- Values under names, in order of entry. -/
structure Register (α : Type) where
  /-- The names with their values. -/
  entries : List (Text × α)
  deriving DecidableEq, Repr

namespace Register

variable {α : Type}

/-- A register that holds nothing. -/
def empty : Register α := ⟨[]⟩

/-- The names held, in order of entry. -/
def names (r : Register α) : List Text := r.entries.map Prod.fst

/-- The value held under a name. -/
def get? (r : Register α) (name : Text) : Option α := r.entries.lookup name

/-- Some value is held under a name. -/
def holds (r : Register α) (name : Text) : Bool := (r.get? name).isSome

/-- Holds `value` under `name`, in the place of what was held there, or else at the end. -/
def put (r : Register α) (name : Text) (value : α) : Register α :=
  if r.holds name then ⟨r.entries.map fun e => if e.1 = name then (name, value) else e⟩
  else ⟨r.entries ++ [(name, value)]⟩

/-- Holds nothing under `name`. -/
def erase (r : Register α) (name : Text) : Register α :=
  ⟨r.entries.filter fun e => e.1 ≠ name⟩

@[simp] theorem get?_empty (name : Text) : (empty : Register α).get? name = none := rfl

@[simp] theorem names_empty : (empty : Register α).names = [] := rfl

/-- Looking a name up goes on past every other name. -/
theorem lookup_cons_ite (entries : List (Text × α)) (key name : Text) (value : α) :
    ((key, value) :: entries).lookup name =
      if name = key then some value else entries.lookup name := by
  rw [List.lookup_cons]
  by_cases h : name = key
  · simp [h]
  · simp [h, beq_eq_false_iff_ne.mpr h]

/-- A name is held exactly when it is among the names. -/
theorem holds_iff_mem_names (r : Register α) (name : Text) :
    r.holds name = true ↔ name ∈ r.names := by
  obtain ⟨entries⟩ := r
  simp only [holds, get?, names]
  induction entries with
  | nil => simp
  | cons e entries ih =>
    rw [lookup_cons_ite, List.map_cons, List.mem_cons, ← ih]
    by_cases h : name = e.1
    · simp only [h, if_true, Option.isSome_some, true_or]
    · simp only [h, if_false, false_or]

/-- Putting a value keeps the places of all names, and a new name goes to the end. -/
theorem names_put (r : Register α) (name : Text) (value : α) :
    (r.put name value).names = if r.holds name then r.names else r.names ++ [name] := by
  unfold put
  split
  · rw [names, names, List.map_map]
    refine List.map_congr_left fun e _ => ?_
    by_cases h : e.1 = name <;> simp [h]
  · simp [names]

/-- Erasing a name keeps the order of the others. -/
theorem names_erase (r : Register α) (name : Text) :
    (r.erase name).names = r.names.filter fun other => other ≠ name := by
  simp [names, erase, List.filter_map, Function.comp_def]

/-- Replacing the values under one name leaves what the other names hold. -/
theorem lookup_replace (entries : List (Text × α)) (name other : Text) (value : α) :
    (entries.map fun e => if e.1 = name then (name, value) else e).lookup other =
      if other = name then (entries.lookup other).map fun _ => value
      else entries.lookup other := by
  induction entries with
  | nil => simp only [List.map_nil, List.lookup_nil, Option.map_none, ite_self]
  | cons e entries ih =>
    obtain ⟨key, held⟩ := e
    rw [List.map_cons, lookup_cons_ite]
    by_cases hk : key = name
    · subst hk
      rw [if_pos rfl, lookup_cons_ite, ih]
      by_cases ho : other = key <;> simp only [ho, if_true, if_false, Option.map_some]
    · rw [if_neg hk, lookup_cons_ite, ih]
      by_cases ho : other = key
      · subst ho
        simp only [hk, if_true, if_false]
      · simp only [ho, if_false]

/-- A value that was put is found under its name, and the other names keep theirs. -/
theorem get?_put (r : Register α) (name other : Text) (value : α) :
    (r.put name value).get? other = if other = name then some value else r.get? other := by
  unfold put
  split
  · rename_i h
    rw [get?, lookup_replace]
    split
    · rename_i ho
      obtain ⟨held, hh⟩ := Option.isSome_iff_exists.mp h
      rw [ho, show r.entries.lookup name = some held from hh, Option.map_some]
    · rfl
  · rename_i h
    have hn : r.entries.lookup name = none := Option.not_isSome_iff_eq_none.mp h
    rw [get?, List.lookup_append, lookup_cons_ite, List.lookup_nil]
    by_cases ho : other = name
    · rw [if_pos ho, if_pos ho, ho, hn, Option.none_or]
    · rw [if_neg ho, if_neg ho, Option.or_none, get?]

/-- Nothing is found under a name that was erased, and the other names keep their values. -/
theorem get?_erase (r : Register α) (name other : Text) :
    (r.erase name).get? other = if other = name then none else r.get? other := by
  obtain ⟨entries⟩ := r
  rw [erase, get?, get?]
  induction entries with
  | nil => simp only [List.filter_nil, List.lookup_nil, ite_self]
  | cons e entries ih =>
    obtain ⟨key, held⟩ := e
    by_cases hk : key = name
    · subst hk
      rw [List.filter_cons_of_neg (by simp), ih, lookup_cons_ite]
      by_cases ho : other = key <;> simp only [ho, if_true, if_false]
    · rw [List.filter_cons_of_pos (by simpa using hk), lookup_cons_ite, lookup_cons_ite, ih]
      by_cases ho : other = key
      · subst ho
        simp only [hk, if_true, if_false]
      · simp only [ho, if_false]

end Register

end Crontab
