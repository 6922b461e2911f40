import Crontab.Proofs.Numeral
import Crontab.Proofs.Text.Pieces

/-!
# Numbers in decimal

A natural number written in decimal is a numeral, and its value is the number. A negative number has
a minus sign in front. So different numbers are written differently, and nothing but digits and the
sign is written. Numbers with anything else between them can therefore be told apart.
-/

namespace Crontab.Numeral

/-- A number in decimal. -/
def written (n : Int) : Text := .ofString (toString n)

theorem written_natCast (n : Nat) : written n = (Nat.toDigits 10 n).map CodePoint.char := by
  rw [written, Text.ofString, ← Nat.toList_repr]
  rfl

theorem digits_written (n : Nat) : Digits (written n) := by
  intro c hc
  rw [written_natCast] at hc
  obtain ⟨d, hd, rfl⟩ := List.mem_map.mp hc
  rw [CodePoint.isDigit_char]
  exact Nat.isDigit_of_mem_toDigits (by decide) (by decide) hd

/-- Reading a number that was written in decimal gives it back. -/
theorem value_written (n : Nat) : value (written n) = n := by
  rw [written_natCast, value, List.foldl_map]
  exact Nat.ofDigitChars_toDigits (by decide) (by decide)

/-- A negative number is written as a minus sign and its distance from zero. -/
theorem written_negSucc (n : Nat) : written (.negSucc n) = .char '-' :: written (n + 1 : Nat) := by
  rw [written, Int.toString_eq_repr, Int.repr, Text.ofString_append]
  rfl

theorem written_ne_nil (n : Int) : written n ≠ [] := by
  cases n with
  | ofNat n =>
    rw [Int.ofNat_eq_natCast, written_natCast, Ne, List.map_eq_nil_iff]
    exact Nat.toDigits_ne_nil
  | negSucc n =>
    rw [written_negSucc]
    exact List.cons_ne_nil _ _

/-- Nothing but digits and a minus sign is written. -/
theorem notMem_written {c : CodePoint} (hdigit : c.isDigit = false) (hminus : c ≠ .char '-')
    (n : Int) : c ∉ written n := by
  cases n with
  | ofNat n => exact (digits_written n).notMem hdigit
  | negSucc n =>
    rw [written_negSucc, List.mem_cons, not_or]
    exact ⟨hminus, (digits_written (n + 1)).notMem hdigit⟩

theorem minus_notMem_written (n : Nat) : .char '-' ∉ written n :=
  (digits_written n).notMem (by decide)

theorem minus_mem_written (n : Nat) : .char '-' ∈ written (.negSucc n) := by
  rw [written_negSucc]
  exact List.mem_cons_self ..

theorem written_natCast_inj {m n : Nat} (h : written m = written n) : m = n := by
  rw [← value_written m, h, value_written]

/-- Different numbers are written differently. -/
theorem written_inj {m n : Int} : written m = written n ↔ m = n := by
  refine ⟨fun h => ?_, congrArg written⟩
  cases m with
  | ofNat m =>
    cases n with
    | ofNat n => exact congrArg Int.ofNat (written_natCast_inj h)
    | negSucc n => exact absurd (h ▸ minus_mem_written n) (minus_notMem_written m)
  | negSucc m =>
    cases n with
    | ofNat n => exact absurd (h ▸ minus_mem_written m) (minus_notMem_written n)
    | negSucc n =>
      rw [written_negSucc, written_negSucc] at h
      exact congrArg Int.negSucc (Nat.succ.inj (written_natCast_inj (List.cons.inj h).2))

/-- Written numbers are tidy pieces for a separator that is neither a digit nor a minus sign. -/
theorem tidy_map_written {sep : CodePoint} (hdigit : sep.isDigit = false) (hminus : sep ≠ .char '-')
    (ns : List Int) : Text.Tidy sep (ns.map written) := by
  refine ⟨fun p hp => ?_, fun hne => ?_⟩
  · obtain ⟨n, _, rfl⟩ := List.mem_map.mp hp
    exact notMem_written hdigit hminus n
  · obtain ⟨n, _, hn⟩ := List.mem_map.mp (List.getLast_mem hne)
    rw [← hn]
    exact written_ne_nil n

/-- Numbers that are written with a separator between them can be told apart. -/
theorem joined_written_inj {sep : CodePoint} (hdigit : sep.isDigit = false)
    (hminus : sep ≠ .char '-') {ms ns : List Int}
    (h : Text.joined sep (ms.map written) = Text.joined sep (ns.map written)) : ms = ns := by
  have hwritten : ms.map written = ns.map written :=
    (tidy_map_written hdigit hminus ms).joined_inj (tidy_map_written hdigit hminus ns) h
  exact (List.map_inj_right fun _ _ => written_inj.mp).mp hwritten

/-- A number that is not negative is written as a numeral that has its value. -/
theorem written_of_nonneg {n : Int} (h : 0 ≤ n) :
    written n ≠ [] ∧ Digits (written n) ∧ (value (written n) : Int) = n := by
  obtain ⟨m, rfl⟩ := Int.eq_ofNat_of_zero_le h
  exact ⟨written_ne_nil m, digits_written m, congrArg Int.ofNat (value_written m)⟩

end Crontab.Numeral
