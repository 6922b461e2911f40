import Mathlib.Algebra.Group.Nat.Defs
import Mathlib.Data.List.Induction
import Mathlib.Data.Nat.Digits.Defs
import Crontab.Field

/-!
# The bounded reading of numerals

Zeros in front of a numeral do not count, and a numeral that starts with another digit is at least
the power of ten of its other digits. So giving up on too many significant digits is giving up on
values above `largest`, and since every field ends far below that, a field never sees the cut.
-/

namespace Crontab.Numeral

/-- A text that holds digits only. -/
def Digits (text : Text) : Prop := ∀ c ∈ text, c.isDigit = true

instance (text : Text) : Decidable (Digits text) :=
  inferInstanceAs (Decidable (∀ c ∈ text, c.isDigit = true))

theorem isNumeral_iff (text : Text) : isNumeral text = true ↔ text ≠ [] ∧ Digits text := by
  simp [isNumeral, Digits]

theorem Digits.tail {c : CodePoint} {text : Text} (h : Digits (c :: text)) : Digits text :=
  fun d hd => h d (List.mem_cons_of_mem c hd)

theorem Digits.notMem {text : Text} (h : Digits text) {c : CodePoint} (hc : c.isDigit = false) :
    c ∉ text := fun hmem => absurd (h c hmem) (by simp [hc])

/-- A digit stands for at most nine, and for zero only if it is the zero. -/
theorem digit_spec {c : CodePoint} (h : c.isDigit = true) :
    digit c ≤ 9 ∧ (c ≠ .char '0' → 1 ≤ digit c) := by
  cases c with
  | surrogate n => exact absurd h (by simp)
  | char c =>
    rw [CodePoint.isDigit_char, Char.isDigit, Bool.and_eq_true, decide_eq_true_iff,
      decide_eq_true_iff, ge_iff_le, UInt32.le_iff_toNat_le, UInt32.le_iff_toNat_le] at h
    have hlow : 48 ≤ c.toNat := h.1
    have hhigh : c.toNat ≤ 57 := h.2
    have hdigit : digit (.char c) = c.toNat - 48 := rfl
    refine ⟨by omega, fun hne => ?_⟩
    have hzero : c.toNat ≠ 48 := fun heq => hne (congrArg _ (Char.toNat_inj.mp heq))
    omega

/-- Reading on from a number multiplies it by ten for each digit. -/
theorem foldl_digit (n : Nat) (digits : Text) :
    digits.foldl (fun n c => 10 * n + digit c) n = n * 10 ^ digits.length + value digits := by
  induction digits using List.reverseRecOn with
  | nil => simp
  | append_singleton digits c ih =>
    rw [List.foldl_append, ih, value_concat, List.length_append, List.foldl_cons, List.foldl_nil,
      List.length_singleton, Nat.pow_succ]
    grind

/-- The first digit counts the power of ten of the others. -/
theorem value_cons (c : CodePoint) (digits : Text) :
    value (c :: digits) = digit c * 10 ^ digits.length + value digits := by
  rw [value, List.foldl_cons, foldl_digit]
  simp

/-- The value of a run of digits is the sum of the digits, each times a power of ten that counts the
digits behind it. -/
theorem value_eq_ofDigits (digits : Text) :
    value digits = Nat.ofDigits 10 (digits.map digit).reverse := by
  induction digits with
  | nil => rfl
  | cons c digits ih =>
    rw [value_cons, List.map_cons, Nat.ofDigits_reverse_cons, ← ih, List.length_map, Nat.add_comm,
      Nat.mul_comm]

/-- The value of a numeral is below the power of ten of its length. -/
theorem value_lt {digits : Text} (h : Digits digits) : value digits < 10 ^ digits.length := by
  induction digits with
  | nil => exact Nat.one_pos
  | cons c digits ih =>
    have hc := (digit_spec (h c (List.mem_cons_self ..))).1
    have hrest := ih h.tail
    rw [value_cons, List.length_cons, Nat.pow_succ]
    have hmul : digit c * 10 ^ digits.length ≤ 9 * 10 ^ digits.length := Nat.mul_le_mul_right _ hc
    omega

/-- Zeros in front do not change the value. -/
theorem value_dropWhile_zero (digits : Text) :
    value (digits.dropWhile (· = .char '0')) = value digits := by
  induction digits with
  | nil => rfl
  | cons c digits ih =>
    by_cases hc : c = .char '0'
    · have hzero : digit c = 0 := by rw [hc]; rfl
      rw [List.dropWhile_cons_of_pos (by simpa using hc), ih, value_cons, hzero]
      simp
    · rw [List.dropWhile_cons_of_neg (by simpa using hc)]

/-- A numeral that starts with no zero is at least the power of ten of its other digits. -/
theorem pow_le_value {c : CodePoint} {digits : Text} (h : c.isDigit = true) (hc : c ≠ .char '0') :
    10 ^ digits.length ≤ value (c :: digits) := by
  have hone := (digit_spec h).2 hc
  have hmul : 1 * 10 ^ digits.length ≤ digit c * 10 ^ digits.length := Nat.mul_le_mul_right _ hone
  rw [value_cons]
  omega

/-- A run of digits has few enough significant digits exactly when its value is small enough. -/
theorem length_significant_le_iff {digits : Text} (h : Digits digits) :
    (digits.dropWhile (· = .char '0')).length ≤ maxDigits ↔ value digits ≤ largest := by
  have hsub : Digits (digits.dropWhile (· = .char '0')) := fun c hc =>
    h c ((List.dropWhile_sublist _).subset hc)
  rw [← value_dropWhile_zero digits]
  cases hs : digits.dropWhile (· = .char '0') with
  | nil => simp
  | cons c rest =>
    rw [hs] at hsub
    have hc : c ≠ .char '0' := by
      have hhead := List.head?_dropWhile_not (fun c => decide (c = .char '0')) digits
      simpa only [hs, List.head?_cons, decide_eq_false_iff_not] using hhead
    constructor
    · intro hlen
      have hlt := value_lt hsub
      have hpow : 10 ^ (c :: rest).length ≤ 10 ^ maxDigits := Nat.pow_le_pow_right (by decide) hlen
      have hlargest : 10 ^ maxDigits = largest + 1 := by decide
      omega
    · intro hvalue
      by_contra hlen
      have hle : 10 ^ rest.length ≤ value (c :: rest) :=
        pow_le_value (hsub c (List.mem_cons_self ..)) hc
      have hpow : 10 ^ maxDigits ≤ 10 ^ rest.length := Nat.pow_le_pow_right (by decide) (by
        rw [List.length_cons] at hlen
        omega)
      have hlargest : 10 ^ maxDigits = largest + 1 := by decide
      omega

/-- The bounded reading of a run of digits is its value, unless that is above `largest`. -/
theorem bounded?_eq {digits : Text} (h : Digits digits) :
    bounded? digits = if value digits ≤ largest then some (value digits) else none := by
  rw [bounded?, value_dropWhile_zero]
  exact if_congr (length_significant_le_iff h) rfl rfl

/-- The bounded reading of a run of digits, empty or not and with any zeros in front, is its decimal
value below a thousand million, and gives up on every greater value. Its cut by the number of
significant digits is the comparison of the exact value with the largest number of nine digits. -/
theorem bounded?_cuts_exactly {digits : Text} (h : Digits digits) :
    let n := Nat.ofDigits 10 (digits.map digit).reverse
    (n < 10 ^ 9 → bounded? digits = some n) ∧ (10 ^ 9 ≤ n → bounded? digits = none) ∧
      (maxDigits < (digits.dropWhile (· = .char '0')).length ↔ 999999999 < n) := by
  intro n
  have hvalue : value digits = n := value_eq_ofDigits digits
  have hlargest : largest = 999999999 := rfl
  have hbounded := bounded?_eq h
  have hlength := length_significant_le_iff h
  rw [hvalue, hlargest] at hbounded hlength
  refine ⟨fun hlt => ?_, fun hle => ?_, ?_⟩
  · rw [hbounded, if_pos (by omega)]
  · rw [hbounded, if_neg (by omega)]
  · omega

/-- Nine significant digits are read and ten are not, with three zeros in front of them. -/
theorem bounded?_cuts_exactly_padded :
    let nine := Text.ofString "000999999999"
    let ten := Text.ofString "0001000000000"
    (Digits nine ∧ Digits ten) ∧ bounded? nine = some 999999999 ∧ bounded? ten = none ∧
      maxDigits < (ten.dropWhile (· = .char '0')).length := by
  intro nine ten
  have hnine : Digits nine := by decide
  have hten : Digits ten := by decide
  obtain ⟨hread, -, -⟩ := bounded?_cuts_exactly hnine
  obtain ⟨-, hgiven, hcut⟩ := bounded?_cuts_exactly hten
  have hle : 10 ^ 9 ≤ Nat.ofDigits 10 (ten.map digit).reverse := by decide
  exact ⟨⟨hnine, hten⟩, hread (by decide), hgiven hle, hcut.mpr (by omega)⟩

/-- A run of zeros is read as zero, however long it is. -/
example : bounded? (List.replicate 20 '0') = some 0 ∧ bounded? [] = some 0 := by decide

end Crontab.Numeral

namespace Crontab.Field

theorem contains_iff (field : Field) (n : Nat) :
    field.contains n = true ↔ field.least ≤ n ∧ n ≤ field.greatest := by
  simp [contains]

/-- Every number of a field can be read. -/
theorem greatest_le_largest (field : Field) : field.greatest ≤ Numeral.largest := by
  cases field <;> decide

/-- A field takes a run of digits by its exact value, however many digits there are. -/
theorem number?_eq (field : Field) {digits : Text} (h : Numeral.Digits digits) :
    field.number? digits =
      if field.contains (Numeral.value digits) then some (Numeral.value digits) else none := by
  have hgreatest := field.greatest_le_largest
  rw [number?, Numeral.bounded?_eq h]
  by_cases hcontains : field.contains (Numeral.value digits) = true
  · have hle := ((contains_iff ..).mp hcontains).2
    rw [if_pos (Nat.le_trans hle hgreatest), if_pos hcontains, Option.filter_some, if_pos hcontains]
  · rw [if_neg hcontains]
    split
    · rw [Option.filter_some, if_neg hcontains]
    · rfl

end Crontab.Field
