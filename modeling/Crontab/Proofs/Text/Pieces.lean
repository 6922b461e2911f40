import Mathlib.Algebra.Ring.Nat
import Mathlib.Data.List.DropRight
import Mathlib.Data.List.Induction
import Crontab.Text

/-!
# Cutting and joining

Cutting a text at a separator and joining the pieces undo each other: joining restores every text,
and cutting restores every non-empty list of pieces without the separator. Empty pieces at the end
are separators at the end.
-/

namespace Crontab.Text

/-- Cutting is the splitting of a list at an element. -/
theorem pieces_eq_splitOn (sep : CodePoint) (text : Text) : pieces sep text = text.splitOn sep := by
  induction text with
  | nil => rfl
  | cons c text ih =>
    rw [List.splitOn_cons_eq_if_modifyHead, ← ih]
    by_cases hc : c = sep
    · rw [hc, pieces_cons_self, beq_self_eq_true, if_pos rfl]
    · rw [pieces_cons_of_ne hc, if_neg (by simpa using hc)]

/-- Cutting joined pieces restores them. -/
theorem pieces_joined {sep : CodePoint} {ps : List Text} (hne : ps ≠ [])
    (h : ∀ p ∈ ps, sep ∉ p) : pieces sep (joined sep ps) = ps := by
  rw [pieces_eq_splitOn, joined, List.splitOn_intercalate sep h hne]

/-- A piece in front of a separator is cut off there. -/
theorem pieces_append_cons {sep : CodePoint} {p : Text} (h : sep ∉ p) (text : Text) :
    pieces sep (p ++ sep :: text) = p :: pieces sep text := by
  induction p with
  | nil => exact pieces_cons_self sep text
  | cons c p ih =>
    rw [List.mem_cons, not_or] at h
    rw [List.cons_append, pieces_cons_of_ne (Ne.symm h.1), ih h.2, List.modifyHead_cons]

/-- No piece holds the separator. -/
theorem sep_notMem_of_mem_pieces {sep : CodePoint} {text p : Text} (hp : p ∈ pieces sep text) :
    sep ∉ p := by
  induction text generalizing p with
  | nil =>
    rw [pieces_nil, List.mem_singleton] at hp
    subst hp
    exact List.not_mem_nil
  | cons c text ih =>
    by_cases hc : c = sep
    · rw [hc, pieces_cons_self, List.mem_cons] at hp
      rcases hp with rfl | hp
      · exact List.not_mem_nil
      · exact ih hp
    · obtain ⟨q, qs, hq⟩ := List.exists_cons_of_ne_nil (pieces_ne_nil sep text)
      rw [hq] at ih
      rw [pieces_cons_of_ne hc, hq, List.modifyHead_cons, List.mem_cons] at hp
      rcases hp with rfl | hp
      · rw [List.mem_cons, not_or]
        exact ⟨Ne.symm hc, ih (List.mem_cons_self ..)⟩
      · exact ih (List.mem_cons_of_mem _ hp)

@[simp] theorem joined_nil (sep : CodePoint) : joined sep [] = [] := rfl

@[simp] theorem joined_singleton (sep : CodePoint) (p : Text) : joined sep [p] = p :=
  List.intercalate_singleton

/-- The first of several pieces is followed by a separator. -/
theorem joined_cons {sep : CodePoint} {ps : List Text} (h : ps ≠ []) (p : Text) :
    joined sep (p :: ps) = p ++ sep :: joined sep ps := by
  rw [joined, List.intercalate_cons_of_ne_nil h, List.append_assoc]
  rfl

/-- Pieces in front of others are followed by a separator. -/
theorem joined_append {sep : CodePoint} {ps qs : List Text} (hps : ps ≠ []) (hqs : qs ≠ []) :
    joined sep (ps ++ qs) = joined sep ps ++ sep :: joined sep qs := by
  induction ps with
  | nil => exact absurd rfl hps
  | cons p ps ih =>
    cases ps with
    | nil => rw [List.singleton_append, joined_cons hqs, joined_singleton]
    | cons r rs =>
      rw [List.cons_append, joined_cons (by simp), ih (List.cons_ne_nil _ _),
        joined_cons (List.cons_ne_nil _ _)]
      simp only [List.append_assoc, List.cons_append]

/-- The last of several pieces comes after a separator. -/
theorem joined_concat {sep : CodePoint} {ps : List Text} (h : ps ≠ []) (p : Text) :
    joined sep (ps ++ [p]) = joined sep ps ++ sep :: p := by
  rw [joined_append h (List.cons_ne_nil p []), joined_singleton]

/-- Pieces without separators have one less between them than there are of them. -/
theorem count_joined {sep : CodePoint} {ps : List Text} (hne : ps ≠ []) (h : ∀ p ∈ ps, sep ∉ p) :
    (joined sep ps).count sep + 1 = ps.length := by
  induction ps with
  | nil => exact absurd rfl hne
  | cons p ps ih =>
    have hp : p.count sep = 0 := List.count_eq_zero.mpr (h p (List.mem_cons_self ..))
    cases ps with
    | nil => rw [joined_singleton, hp, List.length_singleton]
    | cons q qs =>
      have hrest := ih (List.cons_ne_nil q qs) fun r hr => h r (List.mem_cons_of_mem p hr)
      rw [joined_cons (List.cons_ne_nil q qs), List.count_append, hp, List.count_cons_self,
        Nat.zero_add, hrest, List.length_cons, List.length_cons, List.length_cons]

/-- Strings joined by a string spell their texts joined by its text. -/
theorem ofString_intercalate (sep : String) (strings : List String) :
    ofString (sep.intercalate strings) = (ofString sep).intercalate (strings.map ofString) := by
  induction strings with
  | nil => rfl
  | cons s strings ih =>
    cases strings with
    | nil => rw [String.intercalate_singleton, List.map_singleton, List.intercalate_singleton]
    | cons t strings =>
      have hne : (t :: strings).map ofString ≠ [] := List.cons_ne_nil _ _
      rw [String.intercalate_cons_cons, ofString_append, ofString_append, ih]
      exact (List.intercalate_cons_of_ne_nil hne).symm

/-- A text that holds the separator has at least two pieces. -/
theorem two_le_length_pieces {sep : CodePoint} {text : Text} (h : sep ∈ text) :
    2 ≤ (pieces sep text).length := by
  by_contra hlt
  obtain ⟨p, ps, hps⟩ := List.exists_cons_of_ne_nil (pieces_ne_nil sep text)
  have hnil : ps = [] := by
    rw [hps, List.length_cons] at hlt
    exact List.length_eq_zero_iff.mp (by omega)
  have htext := joined_pieces sep text
  rw [hps, hnil, joined_singleton] at htext
  exact sep_notMem_of_mem_pieces (hps ▸ List.mem_cons_self ..) (htext ▸ h)

/-- Two or more pieces have a separator between them. -/
theorem sep_mem_joined {sep : CodePoint} {ps : List Text} (h : 2 ≤ ps.length) :
    sep ∈ joined sep ps := by
  cases ps with
  | nil => exact absurd h (by simp)
  | cons p ps =>
    have hne : ps ≠ [] := by
      rintro rfl
      exact absurd h (by simp)
    rw [joined_cons hne]
    exact List.mem_append_right _ (List.mem_cons_self ..)

/-- A piece holds nothing but code points of the text. -/
theorem subset_joined (sep : CodePoint) {ps : List Text} {piece : Text} (h : piece ∈ ps) :
    piece ⊆ joined sep ps := by
  induction ps with
  | nil => exact absurd h List.not_mem_nil
  | cons p ps ih =>
    cases ps with
    | nil =>
      rw [List.mem_singleton.mp h, joined_singleton]
      exact List.Subset.refl _
    | cons q qs =>
      rw [joined_cons (List.cons_ne_nil q qs)]
      rcases List.mem_cons.mp h with rfl | h
      · exact List.subset_append_left _ _
      · exact fun c hc => List.mem_append_right _ (List.mem_cons_of_mem _ (ih h hc))

/-- Joined pieces are spelled if the pieces are. -/
theorem isSpelled_joined (sep : Char) {ps : List Text} (h : ∀ p ∈ ps, isSpelled p = true) :
    (joined sep ps).isSpelled = true := by
  induction ps with
  | nil => rfl
  | cons p ps ih =>
    have hp := h p (List.mem_cons_self ..)
    have hrest := ih fun q hq => h q (List.mem_cons_of_mem _ hq)
    cases ps with
    | nil => rwa [joined_singleton]
    | cons q qs =>
      rw [joined_cons (List.cons_ne_nil q qs), isSpelled_append, hp, Bool.true_and]
      exact hrest

/-- Pieces with a separator behind each. -/
def closed (sep : CodePoint) (ps : List Text) : Text := ps.flatMap fun p => p ++ [sep]

theorem length_closed (sep : CodePoint) (ps : List Text) :
    (closed sep ps).length = (ps.map List.length).sum + ps.length := by
  induction ps with
  | nil => rfl
  | cons p ps ih =>
    rw [closed, List.flatMap_cons, ← closed, List.length_append, ih, List.length_append,
      List.length_singleton, List.map_cons, List.sum_cons, List.length_cons]
    omega

/-- A piece stands behind the pieces before it, each of them with its separator. -/
theorem exists_joined_eq_closed_append (sep : CodePoint) {ps : List Text} {i : Nat} {piece : Text}
    (h : ps[i]? = some piece) :
    ∃ after, joined sep ps = closed sep (ps.take i) ++ (piece ++ after) := by
  induction ps generalizing i with
  | nil => exact absurd h (by simp)
  | cons p ps ih =>
    cases i with
    | zero =>
      obtain rfl : p = piece := by simpa using h
      cases ps with
      | nil => exact ⟨[], by simp [closed]⟩
      | cons q qs => exact ⟨sep :: joined sep (q :: qs), joined_cons (List.cons_ne_nil q qs) p⟩
    | succ i =>
      rw [List.getElem?_cons_succ] at h
      obtain ⟨after, hafter⟩ := ih h
      have hne : ps ≠ [] := by
        rintro rfl
        exact absurd h (by simp)
      refine ⟨after, ?_⟩
      rw [joined_cons hne, hafter, List.take_succ_cons]
      simp [closed]

/-- There are no more pieces than code points in them and empty ones among them. -/
theorem length_le_sum_add_countP (ps : List Text) :
    ps.length ≤ (ps.map List.length).sum + ps.countP List.isEmpty := by
  induction ps with
  | nil => exact Nat.zero_le _
  | cons p ps ih =>
    rw [List.length_cons, List.map_cons, List.sum_cons, List.countP_cons]
    cases p with
    | nil =>
      rw [List.isEmpty_nil, if_pos rfl]
      omega
    | cons c p =>
      rw [List.length_cons]
      omega

/-- The index of a piece and its length fit into the text. -/
theorem index_add_length_le (sep : CodePoint) {ps : List Text} {i : Nat} {piece : Text}
    (h : ps[i]? = some piece) : i + piece.length ≤ (joined sep ps).length := by
  obtain ⟨after, hjoined⟩ := exists_joined_eq_closed_append sep h
  have hi : (ps.take i).length = i :=
    List.length_take_of_le (List.getElem?_eq_some_iff.mp h).1.le
  rw [hjoined, List.length_append, List.length_append, length_closed, hi]
  omega

/-- Pieces as cutting at `sep` leaves them without the empty ones at the end. -/
structure Tidy (sep : CodePoint) (ps : List Text) : Prop where
  /-- No piece holds the separator. -/
  sep_notMem : ∀ p ∈ ps, sep ∉ p
  /-- The last piece is not empty. -/
  getLast_ne_nil : ∀ hne : ps ≠ [], ps.getLast hne ≠ []

theorem Tidy.tail {sep : CodePoint} {p : Text} {ps : List Text} (h : Tidy sep (p :: ps)) :
    Tidy sep ps := by
  refine ⟨fun q hq => h.sep_notMem q (List.mem_cons_of_mem p hq), fun hne => ?_⟩
  simpa only [List.getLast_cons hne] using h.getLast_ne_nil (List.cons_ne_nil p ps)

theorem Tidy.drop {sep : CodePoint} {ps : List Text} (h : Tidy sep ps) (n : Nat) :
    Tidy sep (ps.drop n) := by
  induction n generalizing ps with
  | zero => exact h
  | succ n ih =>
    cases ps with
    | nil => exact h
    | cons p ps => exact ih h.tail

theorem Tidy.joined_ne_nil {sep : CodePoint} {ps : List Text} (h : Tidy sep ps) (hne : ps ≠ []) :
    joined sep ps ≠ [] := by
  have hlast := h.getLast_ne_nil hne
  cases ps with
  | nil => exact absurd rfl hne
  | cons p ps =>
    cases ps with
    | nil => simpa using hlast
    | cons q qs => simp [joined_cons]

/-- Tidy pieces are restored from what they spell: none from the empty text, and else by cutting. -/
theorem Tidy.eq_ite {sep : CodePoint} {ps : List Text} (h : Tidy sep ps) :
    ps = if joined sep ps = [] then [] else pieces sep (joined sep ps) := by
  by_cases hne : ps = []
  · rw [hne, joined_nil, if_pos rfl]
  · rw [if_neg (h.joined_ne_nil hne), pieces_joined hne h.sep_notMem]

/-- Different tidy pieces spell different texts. -/
theorem Tidy.joined_inj {sep : CodePoint} {ps qs : List Text} (hp : Tidy sep ps)
    (hq : Tidy sep qs) (h : joined sep ps = joined sep qs) : ps = qs := by
  rw [hp.eq_ite, h, ← hq.eq_ite]

/-- Leaving out the empty pieces at the end leaves out the separators at the end. -/
theorem joined_rdropWhile_isEmpty {sep : CodePoint} {ps : List Text} (h : ∀ p ∈ ps, sep ∉ p) :
    joined sep (ps.rdropWhile List.isEmpty) = (joined sep ps).rdropWhile (· = sep) := by
  induction ps using List.reverseRecOn with
  | nil => rfl
  | append_singleton ps p ih =>
    have hps : ∀ q ∈ ps, sep ∉ q := fun q hq => h q (List.mem_append_left _ hq)
    cases p using List.reverseRecOn with
    | nil =>
      rw [List.rdropWhile_concat_pos _ _ _ rfl, ih hps]
      cases ps with
      | nil => rfl
      | cons q qs =>
        rw [joined_concat (List.cons_ne_nil _ _),
          List.rdropWhile_concat_pos _ _ _ (by simp)]
    | append_singleton p c =>
      have hc : c ≠ sep := by
        rintro rfl
        exact h (p ++ [c]) (by simp) (by simp)
      rw [List.rdropWhile_concat_neg _ _ _ (by simp)]
      cases ps with
      | nil =>
        rw [List.nil_append, joined_singleton, List.rdropWhile_concat_neg _ _ _ (by simpa using hc)]
      | cons q qs =>
        rw [joined_concat (List.cons_ne_nil _ _), ← List.cons_append, ← List.append_assoc,
          List.rdropWhile_concat_neg _ _ _ (by simpa using hc)]

end Crontab.Text
