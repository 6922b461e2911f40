import Mathlib.Data.List.Forall2
import Crontab.Proofs.Term.Errors

/-!
# Where the errors of a term lie

The errors of a term are in order of their starts. Without a comma they lie within the term and apart
from each other. In a list each piece that is no number of the field has its own error, as long as
the piece, in a place that allows two columns for each piece before it: too far to the left behind
long pieces, and too far to the right, even past the end of the term, behind empty ones.
-/

namespace Crontab.Term

instance (field : Field) (num : Text) : Decidable (IsNumberOf field num) :=
  decidable_of_iff (num ≠ [] ∧ (∀ c ∈ num, c.isDigit = true) ∧
      field.least ≤ Numeral.value num ∧ Numeral.value num ≤ field.greatest)
    ⟨fun ⟨hne, hdigits, hleast, hgreatest⟩ => ⟨hne, hdigits, hleast, hgreatest⟩,
      fun h => ⟨h.ne_nil, h.digits, h.least_le, h.le_greatest⟩⟩

/-- The pieces of a list that are no numbers of the field, each with its index. -/
def badPieces (field : Field) (term : Text) : List (Text × Nat) :=
  (Text.pieces ',' term).zipIdx.filter fun (piece, _) => ¬IsNumberOf field piece

/-- The error of a piece that is no number of the field. -/
def pieceError (field : Field) (piece : Text) (i : Nat) : Error :=
  errorAt field (slotWidth * i) (slotWidth * i + piece.length)
    (if Numeral.isNumeral piece then .pieceOutOfBounds else .pieceUnreadable piece)

/-- A piece has an error exactly if it is no number of the field. -/
theorem error?_readPiece (field : Field) (piece : Text) (i : Nat) :
    error? (readPiece field piece i) =
      if IsNumberOf field piece then none else some (pieceError field piece i) := by
  by_cases hnum : IsNumberOf field piece
  · rw [(readPiece_eq_ok_iff field piece i _).mpr ⟨hnum, rfl⟩, if_pos hnum]
    rfl
  · rw [if_neg hnum, readPiece, pieceError]
    by_cases hnumeral : Numeral.isNumeral piece = true
    · rw [if_pos hnumeral, if_pos hnumeral]
      cases hn : field.number? piece with
      | none => rfl
      | some n => exact absurd ((number?_eq_some_iff field hnumeral n).mp hn).1 hnum
    · rw [if_neg hnumeral, if_neg hnumeral]
      rfl

/-- The errors of a list are those of its bad pieces, in order. -/
theorem errorList_readList (field : Field) (term : Text) :
    (readList field term).errorList =
      (badPieces field term).map fun (piece, i) => pieceError field piece i := by
  have hall : (readList field term).errorList =
      (readPieces field (Text.pieces ',' term)).filterMap error? := by
    rw [readList, readPieces]
    split
    · next hnone => exact hnone.symm
    · rfl
  rw [hall, readPieces, List.filterMap_map, badPieces, ← List.filterMap_eq_map,
    List.filterMap_filter]
  apply List.filterMap_congr
  rintro ⟨piece, i⟩ _
  rw [Function.comp_apply, error?_readPiece]
  by_cases hnum : IsNumberOf field piece
  · simp [hnum]
  · simp [hnum]

/-- The bad pieces are in the order of their indices. -/
theorem pairwise_badPieces (field : Field) (term : Text) :
    (badPieces field term).Pairwise fun a b => a.2 < b.2 := by
  apply List.Pairwise.filter
  rw [← List.pairwise_map, List.zipIdx_map_snd]
  exact List.pairwise_lt_range'

/-- An error marks the piece of a list at index `i`. -/
structure Error.Marks (e : Error) (term piece : Text) (i : Nat) : Prop where
  /-- It is as long as the piece. -/
  length_eq : e.stop - e.start = piece.length
  /-- It starts two columns further for each piece before. -/
  start_eq : e.start = (2 * i : Nat)
  /-- It stops past the end of the term by no more than the number of empty pieces before. -/
  stop_le : e.stop ≤ (term.length + ((Text.pieces ',' term).take i).countP List.isEmpty : Nat)
  /-- The piece itself stands behind the pieces before it, each of them with its comma. -/
  stands : ∃ after, term = Text.closed ',' ((Text.pieces ',' term).take i) ++ (piece ++ after)
  /-- The error starts where the piece stands exactly if the pieces before it hold as many code
  points as they are. -/
  start_eq_iff : e.start = (Text.closed ',' ((Text.pieces ',' term).take i)).length ↔
    (((Text.pieces ',' term).take i).map List.length).sum = i

/-- The error of a piece marks it. -/
theorem pieceError_marks (field : Field) {term piece : Text} {i : Nat}
    (h : (Text.pieces ',' term)[i]? = some piece) :
    (pieceError field piece i).Marks term piece i := by
  have hi : ((Text.pieces ',' term).take i).length = i :=
    List.length_take_of_le (List.getElem?_eq_some_iff.mp h).1.le
  have hclosed := Text.length_closed ',' ((Text.pieces ',' term).take i)
  have hempty := Text.length_le_sum_add_countP ((Text.pieces ',' term).take i)
  obtain ⟨after, hterm⟩ := Text.exists_joined_eq_closed_append ',' h
  rw [Text.joined_pieces] at hterm
  have hlength := congrArg List.length hterm
  rw [List.length_append, List.length_append] at hlength
  have hstart : (pieceError field piece i).start = (2 * i : Nat) := rfl
  have hstop : (pieceError field piece i).stop = (2 * i + piece.length : Nat) := rfl
  constructor
  · rw [hstart, hstop]
    omega
  · exact hstart
  · rw [hstop]
    omega
  · exact ⟨after, hterm⟩
  · rw [hstart]
    omega

/-- The error of a bad piece marks it. -/
theorem marks_of_mem_badPieces {field : Field} {term : Text} {bad : Text × Nat}
    (h : bad ∈ badPieces field term) :
    (pieceError field bad.1 bad.2).Marks term bad.1 bad.2 :=
  pieceError_marks field (List.mem_zipIdx_iff_getElem?.mp (List.mem_filter.mp h).1)

/-- Errors that lie within a text of some length, each of them ending before the next starts. -/
structure LieApart (length : Nat) (es : List Error) : Prop where
  /-- They stop within the text. -/
  stop_le : ∀ e ∈ es, e.stop ≤ length
  /-- They are in order and do not touch. -/
  stop_lt : es.Pairwise fun a b => a.stop < b.start

theorem lieApart_nil (length : Nat) : LieApart length [] :=
  ⟨fun _ he => absurd he List.not_mem_nil, .nil⟩

theorem lieApart_singleton {length : Nat} {e : Error} (h : e.stop ≤ length) :
    LieApart length [e] :=
  ⟨fun _ he => List.mem_singleton.mp he ▸ h, List.pairwise_singleton _ _⟩

/-- The errors of a range lie on the two sides of its hyphen. -/
theorem lieApart_readRange (field : Field) (first last : Text) :
    LieApart (first ++ .char '-' :: last).length (readRange field first last).errorList := by
  have hlength : (first ++ .char '-' :: last).length = first.length + 1 + last.length := by
    rw [List.length_append, List.length_cons]
    omega
  have hfirst : (first.length : Int) ≤ (first ++ .char '-' :: last).length := by omega
  have hlast := Int.ofNat_le.mpr hlength.ge
  rw [readRange]
  split
  · exact lieApart_nil _
  · exact lieApart_singleton hfirst
  · exact lieApart_singleton hlast
  · constructor
    · intro e he
      rcases List.mem_pair.mp he with rfl | rfl
      · exact hfirst
      · exact hlast
    · exact List.pairwise_pair.mpr (Int.ofNat_lt.mpr (Nat.lt_succ_self _))

/-- The error of a step lies behind its slash. -/
theorem lieApart_readStep (field : Field) (num : Text) :
    LieApart (.char '*' :: .char '/' :: num : Text).length (readStep field num).errorList := by
  have hstop : ((2 + num.length : Nat) : Int) ≤
      (.char '*' :: .char '/' :: num : Text).length := by
    rw [List.length_cons, List.length_cons]
    omega
  rw [readStep]
  split
  · exact lieApart_singleton hstop
  · exact lieApart_singleton hstop
  · exact lieApart_nil _

/-- Without a comma the errors of a term lie within it and apart. -/
theorem lieApart_of_notMem (field : Field) {term : Text} (h : .char ',' ∉ term) :
    LieApart term.length (read field term).errorList := by
  rw [read, if_neg h]
  split
  · exact lieApart_nil _
  split
  · rw [readSingle]
    split
    · exact lieApart_nil _
    · exact lieApart_singleton (Int.le_refl _)
  split
  · next first last hrange =>
    obtain ⟨_, _, rfl⟩ := (range?_eq_some_iff term first last).mp hrange
    exact lieApart_readRange field first last
  split
  · next num hstep =>
    obtain ⟨_, rfl⟩ := (step?_eq_some_iff term num).mp hstep
    exact lieApart_readStep field num
  · exact lieApart_singleton (Int.le_refl _)

/-- With a comma the errors of a term are those of its bad pieces. -/
theorem errorList_read_of_mem (field : Field) {term : Text} (h : .char ',' ∈ term) :
    (read field term).errorList =
      (badPieces field term).map fun (piece, i) => pieceError field piece i := by
  have hstar : term ≠ [.char '*'] := by
    rintro rfl
    exact absurd h (by decide)
  rw [read, if_neg hstar, if_neg (isNumeral_eq_false h rfl), if_pos h]
  exact errorList_readList field term

/-- The errors of a term are strictly ordered by their starts. -/
theorem pairwise_errorList_read (field : Field) (term : Text) :
    (read field term).errorList.Pairwise fun a b => a.start < b.start := by
  by_cases hcomma : .char ',' ∈ term
  · rw [errorList_read_of_mem field hcomma, List.pairwise_map]
    refine (pairwise_badPieces field term).imp ?_
    intro a b hlt
    exact Int.ofNat_lt.mpr (Nat.mul_lt_mul_of_pos_left hlt (by decide))
  · refine (lieApart_of_notMem field hcomma).stop_lt.imp_of_mem ?_
    intro a b ha _ hlt
    exact Int.lt_of_le_of_lt (errorList_read_reports ha).start_le_stop hlt

/-- A term that is no list with an empty piece. -/
def Filled (term : Text) : Prop :=
  .char ',' ∈ term → ∀ piece ∈ Text.pieces ',' term, piece ≠ []

instance (term : Text) : Decidable (Filled term) :=
  inferInstanceAs (Decidable (_ → ∀ piece ∈ Text.pieces ',' term, piece ≠ []))

/-- The errors of a term stop within it, unless it is a list with an empty piece. -/
theorem stop_le_of_filled {field : Field} {term : Text} {e : Error} (hfilled : Filled term)
    (he : e ∈ (read field term).errorList) : e.stop ≤ term.length := by
  by_cases hcomma : .char ',' ∈ term
  · rw [errorList_read_of_mem field hcomma] at he
    obtain ⟨⟨piece, i⟩, hbad, rfl⟩ := List.mem_map.mp he
    have hnone : ((Text.pieces ',' term).take i).countP List.isEmpty = 0 := by
      rw [List.countP_eq_zero]
      intro piece hpiece hempty
      exact hfilled hcomma piece (List.take_subset _ _ hpiece) (List.isEmpty_iff.mp hempty)
    have hstop := (marks_of_mem_badPieces hbad).stop_le
    rwa [hnone, Nat.add_zero] at hstop
  · exact (lieApart_of_notMem field hcomma).stop_le e he

/-- Where the errors of a term of `field` lie. -/
structure Located (field : Field) (term : Text) (es : List Error) : Prop where
  /-- There is an error. -/
  ne_nil : es ≠ []
  /-- No error starts before the term or stops before it starts. -/
  forward : ∀ e ∈ es, 0 ≤ e.start ∧ e.start ≤ e.stop
  /-- They are strictly ordered by their starts. -/
  increasing : es.Pairwise fun a b => a.start < b.start
  /-- Without a comma they stop within the term, and each ends before the next starts. -/
  lieApart : .char ',' ∉ term → LieApart term.length es
  /-- With a comma they mark the pieces that are no numbers of the field, one each and in order. -/
  marks : .char ',' ∈ term →
    List.Forall₂ (fun e bad => e.Marks term bad.1 bad.2) es (badPieces field term)
  /-- Without an empty piece of a list they stop within the term. -/
  filled : Filled term → ∀ e ∈ es, e.stop ≤ term.length

/-- The errors of a term that is no term of its field lie in order, within the term and apart from
each other unless it is a list, and on the bad pieces of a list as far as two columns for each piece
tell where these stand. -/
theorem errors_located {field : Field} {term : Text} {es : List Error}
    (h : read field term = .errors es) : Located field term es := by
  obtain rfl : (read field term).errorList = es := by
    rw [h]
    rfl
  constructor
  · intro hnil
    exact read_ne_errors_nil field term (h.trans (congrArg Reading.errors hnil))
  · intro e he
    have hreports := errorList_read_reports he
    exact ⟨hreports.start_nonneg, hreports.start_le_stop⟩
  · exact pairwise_errorList_read field term
  · exact lieApart_of_notMem field
  · intro hcomma
    rw [errorList_read_of_mem field hcomma, List.forall₂_map_left_iff, List.forall₂_same]
    exact fun _ hbad => marks_of_mem_badPieces hbad
  · exact fun hfilled e => stop_le_of_filled hfilled

/-- Of three hours in a list the second is empty and the third is out of bounds. The error of the
third is moved past the end of the term by the empty one before it. -/
theorem errors_located_empty_piece :
    let term := Text.ofString "7,,99"
    ∃ es, read .hour term = .errors es ∧ es.map (fun e => (e.start, e.stop)) = [(2, 2), (4, 6)] ∧
      term.length = 5 ∧ Located .hour term es := by
  intro term
  have hread : read .hour term = .errors (read .hour term).errorList := by decide
  exact ⟨_, hread, by decide, rfl, errors_located hread⟩

end Crontab.Term
