import Crontab.Proofs.Store.Held

/-!
# Restricting a store to some documents

A store can be looked at as if only the documents of a class were open. Writing and closing a
document of the class does the same to the restricted store, and any other document leaves it alone.
The summaries of the restricted store are those of the store that are about the class, in order.
-/

namespace Crontab

namespace Register

variable {α : Type}

/-- The part of a register under the names of a class. -/
def restrict (A : Text → Bool) (r : Register α) : Register α := ⟨r.entries.filter fun e => A e.1⟩

/-- A name of the class holds what it held, and no other name holds anything. -/
theorem get?_restrict (A : Text → Bool) (r : Register α) (name : Text) :
    (r.restrict A).get? name = if A name then r.get? name else none := by
  obtain ⟨entries⟩ := r
  simp only [restrict, get?]
  induction entries with
  | nil => simp only [List.filter_nil, List.lookup_nil, ite_self]
  | cons e entries ih =>
    obtain ⟨key, held⟩ := e
    by_cases hkey : A key = true
    · rw [List.filter_cons_of_pos (by exact hkey), lookup_cons_ite, lookup_cons_ite, ih]
      by_cases hname : name = key
      · rw [if_pos hname, if_pos hname, hname, if_pos hkey]
      · rw [if_neg hname, if_neg hname]
    · rw [List.filter_cons_of_neg (by exact hkey), ih, lookup_cons_ite]
      by_cases hname : name = key
      · rw [hname, if_neg hkey, if_neg hkey]
      · rw [if_neg hname]

theorem holds_restrict {A : Text → Bool} {name : Text} (h : A name = true) (r : Register α) :
    (r.restrict A).holds name = r.holds name := by
  rw [holds, holds, get?_restrict, if_pos h]

/-- Putting a value under a name of the class puts it in the restricted register too. -/
theorem restrict_put (A : Text → Bool) (r : Register α) (name : Text) (value : α) :
    (r.put name value).restrict A =
      if A name then (r.restrict A).put name value else r.restrict A := by
  have hkeeps : ∀ e : Text × α, A (if e.1 = name then (name, value) else e).1 = A e.1 := by
    intro e
    by_cases h : e.1 = name <;> simp [h]
  by_cases hname : A name = true
  · rw [if_pos hname, put, put, holds_restrict hname]
    split
    · simp only [restrict, List.filter_map, Function.comp_def, hkeeps]
    · simp [restrict, hname]
  · rw [if_neg hname, put]
    split
    · simp only [restrict, List.filter_map, Function.comp_def, hkeeps, mk.injEq]
      refine (List.map_congr_left fun e he => ?_).trans (List.map_id _)
      have hne : e.1 ≠ name := by
        rintro rfl
        exact hname (List.mem_filter.mp he).2
      simp [hne]
    · simp [restrict, hname]

theorem restrict_erase (A : Text → Bool) (r : Register α) (name : Text) :
    (r.erase name).restrict A = (r.restrict A).erase name := by
  simp only [restrict, erase, List.filter_filter, Bool.and_comm]

/-- Erasing a name outside the class is not seen. -/
theorem restrict_erase_of_not {A : Text → Bool} {name : Text} (h : ¬A name = true)
    (r : Register α) : (r.erase name).restrict A = r.restrict A := by
  rw [restrict_erase, erase, mk.injEq]
  apply List.filter_eq_self.mpr
  intro e he
  have hne : e.1 ≠ name := by
    rintro rfl
    exact h (List.mem_filter.mp he).2
  exact decide_eq_true hne

end Register

namespace Store

/-- A store as if only the documents of a class were open. -/
def restrict (A : Text → Bool) (store : Store) : Store :=
  { store with tokens := store.tokens.restrict A, lines := store.lines.restrict A }

/-- A document of the class is held as before. -/
theorem sameAt_restrict {A : Text → Bool} {id : Text} (h : A id = true) (store : Store) :
    SameAt id (store.restrict A) store := by
  constructor
  · rw [restrict, Register.get?_restrict, if_pos h]
  · rw [restrict, Register.get?_restrict, if_pos h]

theorem restrict_write_of_mem {A : Text → Bool} {id : Text} (h : A id = true) (store : Store)
    (text : Text) : (store.write id text).restrict A = (store.restrict A).write id text := by
  simp only [restrict, write, Register.restrict_put, h, if_true]

theorem restrict_write_of_not {A : Text → Bool} {id : Text} (h : ¬A id = true) (store : Store)
    (text : Text) : (store.write id text).restrict A = store.restrict A := by
  simp only [restrict, write, Register.restrict_put, h, if_false, Bool.false_eq_true]

theorem restrict_close (A : Text → Bool) (store : Store) (id : Text) :
    (store.close id).restrict A = (store.restrict A).close id := by
  simp only [restrict, close, Register.restrict_erase]

theorem restrict_close_of_not {A : Text → Bool} {id : Text} (h : ¬A id = true) (store : Store) :
    (store.close id).restrict A = store.restrict A := by
  simp only [restrict, close, Register.restrict_erase_of_not h]

/-- The summaries of a restricted store are those of the store that are about the class. -/
theorem summaries_restrict (A : Text → Bool) (store : Store) :
    (store.restrict A).summaries = store.summaries.filter fun s => A s.id := by
  simp only [summaries, restrict, Register.restrict, List.filter_map, Function.comp_def]
  refine List.map_congr_left fun e he => ?_
  have hid : A e.1 = true := (List.mem_filter.mp he).2
  have hlines := (sameAt_restrict hid store).lines
  simp only [restrict, Register.restrict] at hlines
  rw [hlines]

/-- Closing a document takes its summary out of the list and leaves the others in order. -/
theorem summaries_close (store : Store) (id : Text) :
    (store.close id).summaries = store.summaries.filter fun s => s.id ≠ id := by
  have hclose : store.close id = store.restrict fun other => other ≠ id := rfl
  rw [hclose, summaries_restrict]

/-- Two stores that hold the same for a document find the same. -/
theorem SameAt.tokensOf {id : Text} {store other : Store} (h : SameAt id store other) :
    store.tokensOf id = other.tokensOf id := by
  rw [Store.tokensOf, Store.tokensOf, look, look, h.tokens]

theorem SameAt.find {id : Text} {store other : Store} (h : SameAt id store other) :
    store.find id = other.find id := by
  rw [Store.find, Store.find, linesOf, linesOf, look, look, h.lines, h.tokensOf]

theorem SameAt.holds {id : Text} {store other : Store} (h : SameAt id store other) :
    store.holds id = other.holds id := by
  rw [Store.holds, Store.holds, Register.holds, Register.holds, h.tokens]

end Store

end Crontab
