import Crontab.Proofs.Term.Language

/-!
# The errors of a term

A term that fails has at least one error, so a term without errors is a term of its field. The
columns of an error count forwards and reach at most twice as far as the term: a list allows two
columns for each number and its comma, and a piece of it may be empty. The message of an error
quotes nothing but the term.
-/

namespace Crontab.Term

/-- Reading never fails without an error. -/
theorem read_ne_errors_nil (field : Field) (term : Text) : read field term ≠ .errors [] := by
  intro h
  rw [read] at h
  split at h
  · cases h
  split at h
  · rw [readSingle] at h
    split at h <;> cases h
  split at h
  · rw [readList] at h
    split at h
    · cases h
    · next hne => exact hne (Reading.errors.inj h)
  split at h
  · rw [readRange] at h
    split at h <;> cases h
  split at h
  · rw [readStep] at h
    split at h <;> cases h
  · cases h

/-- Reading gives a value, or at least one error. -/
theorem read_eq_value_or_errors_cons (field : Field) (term : Text) :
    (∃ v, read field term = .value v) ∨ ∃ e es, read field term = .errors (e :: es) := by
  cases hread : read field term with
  | value v => exact Or.inl ⟨v, rfl⟩
  | errors es =>
    cases es with
    | nil => exact absurd hread (read_ne_errors_nil field term)
    | cons e es => exact Or.inr ⟨e, es, rfl⟩

/-- A term has no errors exactly when it is a term of its field. -/
theorem errorList_read_eq_nil_iff (field : Field) (term : Text) :
    (read field term).errorList = [] ↔ ∃ v, Denotes field term v := by
  constructor
  · intro h
    rcases read_eq_value_or_errors_cons field term with ⟨v, hread⟩ | ⟨e, es, hread⟩
    · exact ⟨v, .of_read hread⟩
    · rw [hread] at h
      exact absurd h (List.cons_ne_nil e es)
  · rintro ⟨v, hv⟩
    rw [hv.read]
    rfl

/-- The text that a fault quotes in its message. -/
def Fault.quoted : Fault → Text
  | .pieceUnreadable piece => piece
  | .unreadable term => term
  | _ => []

/-- An error says what is wrong with a term and where. -/
structure Error.Reports (e : Error) (field : Field) (term : Text) : Prop where
  /-- It starts in the term. -/
  start_nonneg : 0 ≤ e.start
  /-- It does not stop before it starts. -/
  start_le_stop : e.start ≤ e.stop
  /-- It stops no further away than twice the term. -/
  stop_le : e.stop ≤ (2 * term.length : Nat)
  /-- Its message is that of a fault which quotes the term. -/
  message : ∃ fault : Fault, e.message = fault.message field ∧ fault.quoted ⊆ term

/-- An error made between two offsets lies between them. -/
theorem errorAt_reports {field : Field} {term : Text} {start stop : Nat} {fault : Fault}
    (hstart : start ≤ stop) (hstop : stop ≤ 2 * term.length) (hquoted : fault.quoted ⊆ term) :
    (errorAt field start stop fault).Reports field term :=
  ⟨Int.natCast_nonneg start, Int.ofNat_le.mpr hstart, Int.ofNat_le.mpr hstop, fault, rfl, hquoted⟩

/-- The error of a piece is one of the term. -/
theorem readPiece_reports {field : Field} {term piece : Text} {i : Nat} {e : Error}
    (hpiece : (Text.pieces ',' term)[i]? = some piece) (h : readPiece field piece i = .error e) :
    e.Reports field term := by
  have hlength := Text.index_add_length_le ',' hpiece
  have hsubset := Text.subset_joined ',' (List.mem_of_getElem? hpiece)
  rw [Text.joined_pieces] at hlength hsubset
  have hstop : slotWidth * i + piece.length ≤ 2 * term.length := by
    rw [slotWidth]
    omega
  rw [readPiece] at h
  split at h
  · split at h
    · cases h
    · exact Except.error.inj h ▸ errorAt_reports (by omega) hstop (List.nil_subset _)
  · exact Except.error.inj h ▸ errorAt_reports (by omega) hstop hsubset

/-- The errors of a list are those of its pieces. -/
theorem mem_errorList_readList {field : Field} {term : Text} {e : Error}
    (h : e ∈ (readList field term).errorList) :
    ∃ i piece, (Text.pieces ',' term)[i]? = some piece ∧ readPiece field piece i = .error e := by
  rw [readList] at h
  split at h
  · exact absurd h List.not_mem_nil
  · rw [Reading.errorList] at h
    obtain ⟨result, hresult, herror⟩ := List.mem_filterMap.mp h
    obtain ⟨⟨piece, i⟩, hpiece, rfl⟩ := List.mem_map.mp hresult
    refine ⟨i, piece, List.mem_zipIdx_iff_getElem?.mp hpiece, ?_⟩
    cases hread : readPiece field piece i with
    | ok n => simp [hread, error?] at herror
    | error e' => simpa [hread, error?] using herror

/-- Every error of a term reports on the term. -/
theorem errorList_read_reports {field : Field} {term : Text} {e : Error}
    (h : e ∈ (read field term).errorList) : e.Reports field term := by
  rw [read] at h
  split at h
  · exact absurd h List.not_mem_nil
  split at h
  · rw [readSingle] at h
    split at h
    · exact absurd h List.not_mem_nil
    · rw [List.mem_singleton.mp h]
      exact errorAt_reports (Nat.zero_le _) (by omega) (List.nil_subset _)
  split at h
  · obtain ⟨i, piece, hpiece, hread⟩ := mem_errorList_readList h
    exact readPiece_reports hpiece hread
  split at h
  · next first last hrange =>
    obtain ⟨_, _, rfl⟩ := (range?_eq_some_iff term first last).mp hrange
    have hlength : first.length + 1 + last.length = (first ++ .char '-' :: last).length := by
      rw [List.length_append, List.length_cons]
      omega
    have hfirst : (errorAt field 0 first.length .firstOutOfBounds).Reports field
        (first ++ .char '-' :: last) :=
      errorAt_reports (Nat.zero_le _) (by omega) (List.nil_subset _)
    have hlast : (errorAt field (first.length + 1) (first.length + 1 + last.length)
        .lastOutOfBounds).Reports field (first ++ .char '-' :: last) :=
      errorAt_reports (by omega) (by omega) (List.nil_subset _)
    rw [readRange] at h
    split at h
    · exact absurd h List.not_mem_nil
    · exact List.mem_singleton.mp h ▸ hfirst
    · exact List.mem_singleton.mp h ▸ hlast
    · rcases List.mem_pair.mp h with rfl | rfl
      · exact hfirst
      · exact hlast
  split at h
  · next num hstep =>
    obtain ⟨_, rfl⟩ := (step?_eq_some_iff term num).mp hstep
    have hstop : 2 + num.length ≤ 2 * (.char '*' :: .char '/' :: num : Text).length := by
      rw [List.length_cons, List.length_cons]
      omega
    rw [readStep] at h
    split at h
    · rw [List.mem_singleton.mp h]
      exact errorAt_reports (by omega) hstop (List.nil_subset _)
    · rw [List.mem_singleton.mp h]
      exact errorAt_reports (by omega) hstop (List.nil_subset _)
    · exact absurd h List.not_mem_nil
  · rw [List.mem_singleton.mp h]
    exact errorAt_reports (Nat.zero_le _) (by omega) (List.Subset.refl _)

end Crontab.Term
