import Crontab.Proofs.Numeral.Written
import Crontab.Proofs.Term.Language

/-!
# The values of a field

Reading the terms of a field gives the values of that field and no others. A value has numbers
within the bounds of the field, or a step of at most nine digits; a list has two numbers at least,
in any order and with any repeated, and a range may run backwards. Each value can be written as a
term, and that term is read as the value.
-/

namespace Crontab

/-- The values of a field. -/
def Value.IsOf (field : Field) : Value → Prop
  | .any => True
  | .exactly n => field.least ≤ n ∧ n ≤ field.greatest
  | .anyOf ns => 2 ≤ ns.length ∧ ∀ n ∈ ns, field.least ≤ n ∧ n ≤ field.greatest
  | .range first last =>
    (field.least ≤ first ∧ first ≤ field.greatest) ∧ field.least ≤ last ∧ last ≤ field.greatest
  | .every n => 1 ≤ n ∧ n ≤ 999999999

/-- A value as a term, with its numbers in decimal. -/
def Value.term : Value → Text
  | .any => [.char '*']
  | .exactly n => Numeral.written n
  | .anyOf ns => Text.joined ',' (ns.map Numeral.written)
  | .range first last => Numeral.written first ++ .char '-' :: Numeral.written last
  | .every n => .char '*' :: .char '/' :: Numeral.written n

namespace Term

theorem IsNumberOf.bounds {field : Field} {num : Text} (h : IsNumberOf field num) :
    (field.least : Int) ≤ Numeral.value num ∧ (Numeral.value num : Int) ≤ field.greatest :=
  ⟨Int.ofNat_le.mpr h.least_le, Int.ofNat_le.mpr h.le_greatest⟩

/-- What a term stands for is a value of its field. -/
theorem Denotes.isOf {field : Field} {term : Text} {v : Value} (h : Denotes field term v) :
    v.IsOf field := by
  cases h with
  | any => trivial
  | exactly hnum => exact hnum.bounds
  | anyOf hlength hall =>
    refine ⟨by rwa [List.length_map], fun n hn => ?_⟩
    obtain ⟨num, hnum, rfl⟩ := List.mem_map.mp hn
    exact (hall num hnum).bounds
  | range hfirst hlast => exact ⟨hfirst.bounds, hlast.bounds⟩
  | every _ _ hpos hle => exact ⟨Int.ofNat_le.mpr hpos, Int.ofNat_le.mpr hle⟩

/-- A number within the bounds of a field, written in decimal, is a number of the field. -/
theorem isNumberOf_written {field : Field} {n : Int}
    (h : field.least ≤ n ∧ n ≤ field.greatest) :
    IsNumberOf field (Numeral.written n) ∧ (Numeral.value (Numeral.written n) : Int) = n := by
  obtain ⟨hne, hdigits, hvalue⟩ := Numeral.written_of_nonneg (by omega : 0 ≤ n)
  exact ⟨⟨hne, hdigits, by omega, by omega⟩, hvalue⟩

/-- The term of a value of a field stands for the value. -/
theorem denotes_term {field : Field} {v : Value} (h : v.IsOf field) :
    Denotes field v.term v := by
  cases v with
  | any => exact .any
  | exactly n =>
    obtain ⟨hnum, hvalue⟩ := isNumberOf_written h
    have hterm := Denotes.exactly hnum
    rwa [hvalue] at hterm
  | anyOf ns =>
    obtain ⟨hlength, hall⟩ := h
    have hterm : Denotes field (Text.joined ',' (ns.map Numeral.written)) _ :=
      Denotes.anyOf (by rwa [List.length_map]) fun num hnum => by
        obtain ⟨n, hn, rfl⟩ := List.mem_map.mp hnum
        exact (isNumberOf_written (hall n hn)).1
    have hvalues : (ns.map Numeral.written).map (fun num => (Numeral.value num : Int)) = ns := by
      rw [List.map_map]
      exact (List.map_congr_left fun n hn => (isNumberOf_written (hall n hn)).2).trans
        (List.map_id _)
    rwa [hvalues] at hterm
  | range first last =>
    obtain ⟨hfirst, hfirst'⟩ := isNumberOf_written h.1
    obtain ⟨hlast, hlast'⟩ := isNumberOf_written h.2
    have hterm := Denotes.range hfirst hlast
    rwa [hfirst', hlast'] at hterm
  | every n =>
    obtain ⟨hpos, hle⟩ := h
    obtain ⟨hne, hdigits, hvalue⟩ := Numeral.written_of_nonneg (by omega : 0 ≤ n)
    have hterm : Denotes field (.char '*' :: .char '/' :: Numeral.written n) _ :=
      Denotes.every hne hdigits (by omega) (by omega)
    rwa [hvalue] at hterm

/-- The values that some term of a field is read as are the values of the field, and a value is one
of the field exactly when its own term is read as it. -/
theorem exists_read_eq_iff_isOf (field : Field) (v : Value) :
    ((∃ term, read field term = .value v) ↔ v.IsOf field) ∧
      (v.IsOf field ↔ read field v.term = .value v) := by
  have hself : v.IsOf field → read field v.term = .value v := fun h => (denotes_term h).read
  have hof : ∀ term, read field term = .value v → v.IsOf field := fun _ h =>
    (Denotes.of_read h).isOf
  exact ⟨⟨fun ⟨term, h⟩ => hof term h, fun h => ⟨v.term, hself h⟩⟩, hself, hof v.term⟩

/-- A list keeps its order and its repetitions, and a range may start with the larger number. -/
example : (Value.anyOf [5, 0, 5]).term = .ofString "5,0,5" ∧
    read .month (.ofString "12-1") = .value (.range 12 1) := by
  decide

end Term

end Crontab
