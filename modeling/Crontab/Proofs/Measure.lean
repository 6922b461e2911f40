import Mathlib.Order.Bounds.Basic
import Mathlib.Order.Monotone.Basic
import Crontab.Measure

/-!
# Columns in units

Where texts in a row count together and every code point counts, the two conversions of a column are
adjoint. An offset in units goes to the first code point offset that takes as many units, so that
code point offsets come back, and an offset in units comes back unless it falls inside a code point.
All of this holds for every offset that is not negative, also past the end of the line.
-/

namespace Crontab

namespace Measure

/-- A measure that counts units: texts in a row count together, and every code point counts. -/
structure IsUnits (measure : Measure) : Prop where
  /-- Two texts in a row take the units of both. -/
  append (a b : Text) : measure (a ++ b) = measure a + measure b
  /-- Every code point takes a unit. -/
  one_le (c : CodePoint) : 1 ≤ measure [c]

variable {measure : Measure}

theorem IsUnits.nil (h : measure.IsUnits) : measure [] = 0 := by
  have happend := h.append [] []
  rw [List.append_nil] at happend
  omega

theorem IsUnits.cons (h : measure.IsUnits) (c : CodePoint) (text : Text) :
    measure (c :: text) = measure [c] + measure text :=
  h.append [c] text

theorem IsUnits.nonneg (h : measure.IsUnits) (text : Text) : 0 ≤ measure text := by
  induction text with
  | nil => exact h.nil.ge
  | cons c text ih =>
    have hone := h.one_le c
    rw [h.cons]
    omega

/-- The units that are taken by the code point at an offset. Past the end of the line it is one. -/
def widthAt (measure : Measure) (text : Text) (char : Nat) : Int :=
  text[char]?.elim 1 fun c => measure [c]

theorem IsUnits.one_le_widthAt (h : measure.IsUnits) (text : Text) (char : Nat) :
    1 ≤ measure.widthAt text char := by
  rw [widthAt]
  cases text[char]? with
  | none => exact le_rfl
  | some c => exact h.one_le c

/-- An offset that is not negative takes the units of what stands before it. -/
theorem toUnits_natCast (measure : Measure) (line : Text) (char : Nat) :
    measure.toUnits line char = measure (line.take char) + (char - line.length : Nat) := by
  rw [toUnits, SignedPosition.before, if_pos (Int.natCast_nonneg char), Int.toNat_natCast]
  omega

theorem IsUnits.toUnits_zero (h : measure.IsUnits) (line : Text) : measure.toUnits line 0 = 0 := by
  have hzero := toUnits_natCast measure line 0
  simpa [h.nil] using hzero

/-- One offset further is as many units further as the code point between them takes. -/
theorem IsUnits.toUnits_succ (h : measure.IsUnits) (text : Text) (char : Nat) :
    measure.toUnits text (char + 1 : Nat) =
      measure.toUnits text char + measure.widthAt text char := by
  rw [toUnits_natCast, toUnits_natCast, List.take_add_one, h.append, widthAt]
  cases hc : text[char]? with
  | none =>
    have hlength := List.getElem?_eq_none_iff.mp hc
    simp only [Option.toList_none, Option.elim_none, h.nil]
    omega
  | some c =>
    have hlength := (List.getElem?_eq_some_iff.mp hc).1
    simp only [Option.toList_some, Option.elim_some]
    omega

/-- A code point in front of a line moves all other offsets by its units. -/
theorem IsUnits.toUnits_cons_succ (h : measure.IsUnits) (c : CodePoint) (line : Text)
    (char : Nat) :
    measure.toUnits (c :: line) (char + 1 : Nat) = measure [c] + measure.toUnits line char := by
  rw [toUnits_natCast, toUnits_natCast, List.take_succ_cons, h.cons, List.length_cons]
  omega

/-- One offset is before another when it is in units. -/
theorem IsUnits.toUnits_lt_iff (h : measure.IsUnits) (line : Text) {a b : Int} (ha : 0 ≤ a)
    (hb : 0 ≤ b) : measure.toUnits line a < measure.toUnits line b ↔ a < b := by
  have hmono : StrictMono fun char : Nat => measure.toUnits line char := by
    apply strictMono_nat_of_lt_succ
    intro char
    have hwidth := h.one_le_widthAt line char
    rw [h.toUnits_succ]
    omega
  obtain ⟨m, rfl⟩ := Int.eq_ofNat_of_zero_le ha
  obtain ⟨n, rfl⟩ := Int.eq_ofNat_of_zero_le hb
  rw [Int.ofNat_lt]
  exact hmono.lt_iff_lt

theorem IsUnits.toUnits_le_iff (h : measure.IsUnits) (line : Text) {a b : Int} (ha : 0 ≤ a)
    (hb : 0 ≤ b) : measure.toUnits line a ≤ measure.toUnits line b ↔ a ≤ b := by
  rw [← Int.not_lt, h.toUnits_lt_iff line hb ha, Int.not_lt]

theorem IsUnits.toUnits_nonneg (h : measure.IsUnits) (line : Text) {char : Int}
    (hchar : 0 ≤ char) : 0 ≤ measure.toUnits line char := by
  rwa [← h.toUnits_zero line, h.toUnits_le_iff line le_rfl hchar]

/-- What has been passed over counts on its own, so a scan can start again from where it is. -/
theorem seek_eq_add_fromUnits (measure : Measure) (units : Int) (index : Nat) (consumed : Int)
    (rest : Text) :
    measure.seek units index consumed rest = index + measure.fromUnits rest (units - consumed) := by
  induction rest generalizing units index consumed with
  | nil => simp [seek, fromUnits]
  | cons c rest ih =>
    rw [fromUnits, seek, seek]
    by_cases hle : units ≤ consumed
    · rw [if_pos hle, if_pos (by omega)]
      rfl
    · rw [if_neg hle, if_neg (by omega), ih, ih (units - consumed), Int.zero_add, Int.sub_sub,
        Nat.zero_add, Int.natCast_add, Int.add_assoc]

theorem fromUnits_nil (measure : Measure) (units : Int) :
    measure.fromUnits [] units = max 0 units := by
  simp [fromUnits, seek]

/-- A code point in front is passed over when it does not take enough units. -/
theorem fromUnits_cons (measure : Measure) (c : CodePoint) (line : Text) (units : Int) :
    measure.fromUnits (c :: line) units =
      if units ≤ 0 then 0 else 1 + measure.fromUnits line (units - measure [c]) := by
  rw [fromUnits, seek, seek_eq_add_fromUnits, Int.zero_add]
  rfl

theorem fromUnits_nonneg (measure : Measure) (line : Text) (units : Int) :
    0 ≤ measure.fromUnits line units := by
  induction line generalizing units with
  | nil =>
    rw [fromUnits_nil]
    exact le_max_left ..
  | cons c line ih =>
    rw [fromUnits_cons]
    split
    · exact le_rfl
    · have hrest := ih (units - measure [c])
      omega

/-- The two conversions are adjoint. -/
theorem IsUnits.fromUnits_le_iff (h : measure.IsUnits) (line : Text) (units : Int) {char : Int}
    (hchar : 0 ≤ char) :
    measure.fromUnits line units ≤ char ↔ units ≤ measure.toUnits line char := by
  obtain ⟨n, rfl⟩ := Int.eq_ofNat_of_zero_le hchar
  induction line generalizing units n with
  | nil =>
    rw [fromUnits_nil, toUnits_natCast, List.take_nil, h.nil, List.length_nil]
    omega
  | cons c line ih =>
    have hfrom := measure.fromUnits_nonneg line (units - measure [c])
    rw [fromUnits_cons]
    cases n with
    | zero =>
      rw [Int.natCast_zero, h.toUnits_zero]
      split <;> omega
    | succ n =>
      have hto := h.toUnits_nonneg line (Int.natCast_nonneg n)
      have hone := h.one_le c
      have hrest := ih (units - measure [c]) n (Int.natCast_nonneg n)
      rw [h.toUnits_cons_succ]
      split <;> omega

theorem IsUnits.fromUnits_lt_iff (h : measure.IsUnits) (line : Text) (units : Int) {char : Int}
    (hchar : 0 < char) :
    measure.fromUnits line units < char ↔ units ≤ measure.toUnits line (char - 1) := by
  rw [← h.fromUnits_le_iff line units (by omega)]
  omega

/-- Code point offsets come back. -/
theorem IsUnits.fromUnits_toUnits (h : measure.IsUnits) (line : Text) {char : Int}
    (hchar : 0 ≤ char) : measure.fromUnits line (measure.toUnits line char) = char := by
  have hfrom := measure.fromUnits_nonneg line (measure.toUnits line char)
  apply le_antisymm ((h.fromUnits_le_iff line _ hchar).mpr le_rfl)
  rw [← h.toUnits_le_iff line hchar hfrom, ← h.fromUnits_le_iff line _ hfrom]

/-- The units of an offset found are not fewer than those asked for. -/
theorem IsUnits.le_toUnits_fromUnits (h : measure.IsUnits) (line : Text) (units : Int) :
    units ≤ measure.toUnits line (measure.fromUnits line units) :=
  (h.fromUnits_le_iff line units (measure.fromUnits_nonneg line units)).mp le_rfl

/-- An offset in units is one at which a code point of the line starts or ends, or one from the end
of the line on. -/
def IsBoundary (measure : Measure) (line : Text) (units : Int) : Prop :=
  (∃ before after, line = before ++ after ∧ measure before = units) ∨ measure line ≤ units

/-- An offset in units falls inside the code point at an index of the line, not at either end. -/
def IsInside (measure : Measure) (line : Text) (index units : Int) : Prop :=
  ∃ before c after, line = before ++ c :: after ∧ before.length = index ∧
    measure before < units ∧ units < measure before + measure [c]

/-- The boundaries are the units of the offsets that are not negative. -/
theorem isBoundary_iff (measure : Measure) (line : Text) (units : Int) :
    measure.IsBoundary line units ↔ ∃ char, 0 ≤ char ∧ measure.toUnits line char = units := by
  constructor
  · rintro (⟨before, after, rfl, rfl⟩ | hend)
    · refine ⟨before.length, Int.natCast_nonneg _, ?_⟩
      rw [toUnits_natCast, List.take_left, List.length_append]
      omega
    · refine ⟨(line.length + (units - measure line).toNat : Nat), Int.natCast_nonneg _, ?_⟩
      rw [toUnits_natCast, List.take_of_length_le (by omega)]
      omega
  · rintro ⟨char, hchar, rfl⟩
    obtain ⟨n, rfl⟩ := Int.eq_ofNat_of_zero_le hchar
    rw [toUnits_natCast]
    rcases Nat.le_total n line.length with hn | hn
    · refine Or.inl ⟨line.take n, line.drop n, (List.take_append_drop n line).symm, ?_⟩
      omega
    · refine Or.inr ?_
      rw [List.take_of_length_le hn]
      omega

/-- An offset in units falls inside a code point when it lies between the units of its two ends. -/
theorem IsUnits.isInside_iff (h : measure.IsUnits) (text : Text) {index : Int} (hindex : 0 ≤ index)
    (units : Int) :
    measure.IsInside text index units ↔
      measure.toUnits text index < units ∧ units < measure.toUnits text (index + 1) := by
  obtain ⟨n, rfl⟩ := Int.eq_ofNat_of_zero_le hindex
  have hsucc : measure.toUnits text (n + 1) = measure.toUnits text n + measure.widthAt text n :=
    h.toUnits_succ text n
  rw [hsucc, toUnits_natCast, widthAt]
  constructor
  · rintro ⟨before, c, after, rfl, hlength, hstart, hstop⟩
    obtain rfl : before.length = n := Int.ofNat_inj.mp hlength
    rw [List.take_left, List.getElem?_append_right le_rfl, Nat.sub_self, List.length_append]
    simp only [List.getElem?_cons_zero, Option.elim_some]
    omega
  · rintro ⟨hstart, hstop⟩
    cases hc : text[n]? with
    | none =>
      rw [hc, Option.elim_none] at hstop
      omega
    | some c =>
      obtain ⟨hlt, hget⟩ := List.getElem?_eq_some_iff.mp hc
      rw [hc, Option.elim_some] at hstop
      refine ⟨text.take n, c, text.drop (n + 1), ?_, ?_, ?_, ?_⟩
      · rw [← hget, List.getElem_cons_drop, List.take_append_drop]
      · rw [List.length_take_of_le hlt.le]
      · omega
      · omega

/-- An offset in units inside a code point is found at the next one. -/
theorem IsUnits.fromUnits_of_isInside (h : measure.IsUnits) {line : Text} {index units : Int}
    (hinside : measure.IsInside line index units) :
    measure.fromUnits line units = index + 1 := by
  have hindex : 0 ≤ index := by
    obtain ⟨before, c, after, _, hlength, _⟩ := hinside
    omega
  obtain ⟨hstart, hstop⟩ := (h.isInside_iff line hindex units).mp hinside
  have hbefore := h.fromUnits_le_iff line units hindex
  have hnext := (h.fromUnits_le_iff line units (show 0 ≤ index + 1 by omega)).mpr hstop.le
  omega

/-- The least boundary that is not before an offset in units is that of the code point found. -/
theorem IsUnits.isLeast_toUnits_fromUnits (h : measure.IsUnits) (line : Text) (units : Int) :
    IsLeast {n | measure.IsBoundary line n ∧ units ≤ n}
      (measure.toUnits line (measure.fromUnits line units)) := by
  have hfrom := measure.fromUnits_nonneg line units
  constructor
  · exact ⟨(measure.isBoundary_iff line _).mpr ⟨_, hfrom, rfl⟩, h.le_toUnits_fromUnits line units⟩
  · rintro n ⟨hboundary, hle⟩
    obtain ⟨char, hchar, rfl⟩ := (measure.isBoundary_iff line n).mp hboundary
    rw [h.toUnits_le_iff line hfrom hchar, h.fromUnits_le_iff line units hchar]
    exact hle

/-- An offset in units comes back exactly when it does not fall inside a code point. -/
theorem IsUnits.toUnits_fromUnits_eq_iff (h : measure.IsUnits) (line : Text) {units : Int}
    (hunits : 0 ≤ units) :
    measure.toUnits line (measure.fromUnits line units) = units ↔
      ¬∃ index, measure.IsInside line index units := by
  constructor
  · rintro hback ⟨index, hinside⟩
    have hindex : 0 ≤ index := by
      obtain ⟨before, c, after, _, hlength, _⟩ := hinside
      omega
    have hstop := ((h.isInside_iff line hindex units).mp hinside).2
    rw [h.fromUnits_of_isInside hinside] at hback
    omega
  · intro hnot
    by_contra hne
    have hle := h.le_toUnits_fromUnits line units
    have hpositive : 0 < measure.fromUnits line units := by
      refine lt_of_le_of_ne (measure.fromUnits_nonneg line units) ?_
      intro hzero
      rw [← hzero, h.toUnits_zero] at hne hle
      omega
    -- The offset before the one found does not take enough units.
    have hshort : ¬units ≤ measure.toUnits line (measure.fromUnits line units - 1) := by
      rw [← h.fromUnits_lt_iff line units hpositive]
      exact lt_irrefl _
    refine hnot ⟨measure.fromUnits line units - 1, ?_⟩
    rw [h.isInside_iff line (by omega), Int.sub_add_cancel]
    omega

/-- Two conversions of columns on a line, to units and from units, that are adjoint. -/
structure Adjoint (measure : Measure) (line : Text) (toUnits fromUnits : Int → Int) : Prop where
  /-- An offset in units is found at an offset or before it when that one takes as many units. -/
  fromUnits_le_iff (units : Int) {char : Int} (hchar : 0 ≤ char) :
    fromUnits units ≤ char ↔ units ≤ toUnits char
  /-- No offset found is negative. -/
  fromUnits_nonneg (units : Int) : 0 ≤ fromUnits units
  /-- Further offsets are further in units. -/
  toUnits_lt {a b : Int} (ha : 0 ≤ a) (hlt : a < b) : toUnits a < toUnits b
  /-- Code point offsets come back, also past the end of the line. -/
  fromUnits_toUnits {char : Int} (hchar : 0 ≤ char) : fromUnits (toUnits char) = char
  /-- An offset in units comes back as the least boundary that is not before it. -/
  isLeast {units : Int} (hunits : 0 ≤ units) :
    IsLeast {n | measure.IsBoundary line n ∧ units ≤ n} (toUnits (fromUnits units))
  /-- An offset in units comes back as itself exactly when it does not fall inside a code point. -/
  toUnits_fromUnits_eq_iff {units : Int} (hunits : 0 ≤ units) :
    toUnits (fromUnits units) = units ↔ ¬∃ index, measure.IsInside line index units

/-- The two conversions on a line are adjoint. -/
theorem IsUnits.adjoint (h : measure.IsUnits) (line : Text) :
    Adjoint measure line (measure.toUnits line) (measure.fromUnits line) where
  fromUnits_le_iff units _ hchar := h.fromUnits_le_iff line units hchar
  fromUnits_nonneg := measure.fromUnits_nonneg line
  toUnits_lt ha hlt := (h.toUnits_lt_iff line ha (ha.trans hlt.le)).mpr hlt
  fromUnits_toUnits hchar := h.fromUnits_toUnits line hchar
  isLeast _ := h.isLeast_toUnits_fromUnits line _
  toUnits_fromUnits_eq_iff hunits := h.toUnits_fromUnits_eq_iff line hunits

/-- Code points are units. -/
theorem isUnits_codePoints : codePoints.IsUnits := by
  constructor
  · intro a b
    simp [codePoints]
  · intro c
    exact le_rfl

/-- A code point offset that is not negative is found at itself. -/
theorem fromUnits_codePoints (line : Text) {char : Int} (hchar : 0 ≤ char) :
    codePoints.fromUnits line char = char := by
  have hback := isUnits_codePoints.fromUnits_toUnits line hchar
  rwa [toUnits_codePoints line hchar] at hback

end Measure

namespace Encoding

/-- Every code point takes a unit in every encoding. -/
theorem one_le_width (encoding : Encoding) (c : CodePoint) : 1 ≤ encoding.width c := by
  cases encoding with
  | utf8 =>
    cases c with
    | char c => exact c.utf8Size_pos
    | surrogate n => exact (by decide : 1 ≤ 3)
  | utf16 =>
    simp only [width]
    split <;> omega
  | utf32 => exact le_rfl

/-- Every encoding counts units. -/
theorem isUnits_measure (encoding : Encoding) : encoding.measure.IsUnits := by
  constructor
  · intro a b
    simp [measure]
  · intro c
    have hwidth := encoding.one_le_width c
    simp only [measure, size_cons, size_nil]
    omega

/-- A space takes one unit in every encoding. -/
theorem measure_space (encoding : Encoding) : encoding.measure [.char ' '] = 1 := by
  cases encoding <;> rfl

end Encoding

end Crontab
