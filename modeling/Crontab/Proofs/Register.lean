import Mathlib.Data.List.Nodup
import Crontab.Register

/-!
# Registers under a change of values

Changing every value of a register leaves its names and their order alone, and it does not matter
whether the change is made before or after a value is put or a name is erased. A name is never held
twice.
-/

namespace Crontab.Register

variable {α β : Type}

/-- A register with its values changed by `f`. -/
def map (f : α → β) (r : Register α) : Register β := ⟨r.entries.map fun e => (e.1, f e.2)⟩

@[simp] theorem entries_map (f : α → β) (r : Register α) :
    (r.map f).entries = r.entries.map fun e => (e.1, f e.2) := rfl

@[simp] theorem names_map (f : α → β) (r : Register α) : (r.map f).names = r.names := by
  simp only [names, map, List.map_map]
  rfl

/-- A name holds the changed value of what it held. -/
@[simp] theorem get?_map (f : α → β) (r : Register α) (name : Text) :
    (r.map f).get? name = (r.get? name).map f := by
  obtain ⟨entries⟩ := r
  simp only [map, get?]
  induction entries with
  | nil => rfl
  | cons e entries ih =>
    obtain ⟨key, held⟩ := e
    rw [List.map_cons, lookup_cons_ite, lookup_cons_ite, ih]
    split <;> rfl

@[simp] theorem holds_map (f : α → β) (r : Register α) (name : Text) :
    (r.map f).holds name = r.holds name := by
  simp only [holds, get?_map, Option.isSome_map]

theorem map_put (f : α → β) (r : Register α) (name : Text) (value : α) :
    (r.put name value).map f = (r.map f).put name (f value) := by
  unfold put
  rw [holds_map]
  split
  · simp only [map, List.map_map, mk.injEq]
    refine List.map_congr_left fun e _ => ?_
    by_cases h : e.1 = name <;> simp [h]
  · simp [map]

theorem map_erase (f : α → β) (r : Register α) (name : Text) :
    (r.erase name).map f = (r.map f).erase name := by
  simp only [map, erase, List.filter_map, mk.injEq]
  rfl

/-- A name that is held finds a value. -/
theorem exists_get?_of_mem {r : Register α} {name : Text} (h : name ∈ r.names) :
    ∃ value, r.get? name = some value :=
  Option.isSome_iff_exists.mp ((holds_iff_mem_names r name).mpr h)

theorem holds_eq_decide (r : Register α) (name : Text) :
    r.holds name = decide (name ∈ r.names) := by
  rw [Bool.eq_iff_iff, holds_iff_mem_names, decide_eq_true_iff]

theorem get?_eq_none_iff (r : Register α) (name : Text) :
    r.get? name = none ↔ name ∉ r.names := by
  rw [← holds_iff_mem_names, holds, Bool.not_eq_true, Option.isSome_eq_false_iff,
    Option.isNone_iff_eq_none]

/-- Putting a value holds its name from then on. -/
theorem mem_names_put (r : Register α) (name other : Text) (value : α) :
    other ∈ (r.put name value).names ↔ other = name ∨ other ∈ r.names := by
  rw [← holds_iff_mem_names, ← holds_iff_mem_names, holds, holds, get?_put]
  by_cases h : other = name <;> simp [h]

theorem mem_names_erase (r : Register α) (name other : Text) :
    other ∈ (r.erase name).names ↔ other ≠ name ∧ other ∈ r.names := by
  rw [names_erase, List.mem_filter, decide_eq_true_iff, and_comm]

theorem nodup_names_put {r : Register α} (h : r.names.Nodup) (name : Text) (value : α) :
    (r.put name value).names.Nodup := by
  rw [names_put]
  split
  · exact h
  · next hn =>
    rw [holds_iff_mem_names] at hn
    exact List.nodup_append.mpr ⟨h, List.nodup_singleton _,
      fun a ha b hb => by rw [List.mem_singleton.mp hb]; exact fun he => hn (he ▸ ha)⟩

theorem nodup_names_erase {r : Register α} (h : r.names.Nodup) (name : Text) :
    (r.erase name).names.Nodup := by
  rw [names_erase]
  exact h.filter _

/-- The entries of a register whose names are distinct are what its names find. -/
theorem get?_of_mem_entries {r : Register α} (h : r.names.Nodup) {name : Text} {value : α}
    (hm : (name, value) ∈ r.entries) : r.get? name = some value := by
  obtain ⟨entries⟩ := r
  simp only [names, get?] at *
  induction entries with
  | nil => exact absurd hm List.not_mem_nil
  | cons e entries ih =>
    obtain ⟨key, held⟩ := e
    rw [List.map_cons, List.nodup_cons] at h
    rw [lookup_cons_ite]
    rcases List.mem_cons.mp hm with he | hrest
    · rw [Prod.mk.injEq] at he
      rw [if_pos he.1, he.2]
    · have hne : name ≠ key := by
        rintro rfl
        exact h.1 (List.mem_map.mpr ⟨_, hrest, rfl⟩)
      rw [if_neg hne]
      exact ih h.2 hrest

/-- In a register whose names are distinct, one entry stands under a name that is held. -/
theorem filter_entries {r : Register α} (h : r.names.Nodup) {name : Text} {value : α}
    (hget : r.get? name = some value) :
    (r.entries.filter fun e => e.1 = name) = [(name, value)] := by
  obtain ⟨entries⟩ := r
  simp only [names, get?] at *
  induction entries with
  | nil => simp at hget
  | cons e entries ih =>
    obtain ⟨key, held⟩ := e
    rw [List.map_cons, List.nodup_cons] at h
    rw [lookup_cons_ite] at hget
    by_cases hname : name = key
    · subst hname
      have hrest : (entries.filter fun e => e.1 = name) = [] := by
        apply List.filter_eq_nil_iff.mpr
        intro e he hkey
        exact h.1 (List.mem_map.mpr ⟨e, he, of_decide_eq_true hkey⟩)
      rw [if_pos rfl] at hget
      rw [List.filter_cons_of_pos (by simp), hrest, Option.some.inj hget]
    · rw [if_neg hname] at hget
      rw [List.filter_cons_of_neg (by simpa using Ne.symm hname), ih h.2 hget]

end Crontab.Register
