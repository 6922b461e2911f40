import Crontab.Proofs.Measure
import Crontab.Proofs.Store.Held

/-!
# Columns of an open document

On every line of an open document, and on lines that it does not have, the two conversions of a
column are adjoint, whatever history has opened the document.
-/

namespace Crontab.Store

/-- On every line of every open document, whether it exists or not, and for every measure that
counts units, both conversions give an answer, and they are adjoint on the text of that line. -/
theorem columns_adjoint (source : Text) {history : List Command} {id text : Text}
    (hopen : LastWrite history id text) {measure : Measure} (hunits : measure.IsUnits)
    (line : Int) :
    let store := Step.run step (empty source) history
    ∃ found toUnits fromUnits, store.lineText id line = .ok found ∧
      (∀ char, store.toUnits measure id line char = .ok (toUnits char)) ∧
      (∀ units, store.fromUnits measure id line units = .ok (fromUnits units)) ∧
      Measure.Adjoint measure found toUnits fromUnits := by
  intro store
  have hholds := hopen.holdsText source
  exact ⟨_, _, _, hholds.lineText line, hholds.toUnits measure line, hholds.fromUnits measure line,
    hunits.adjoint _⟩

/-- In two-byte units the second line, which starts with a code point of two units, has its offset 2
at 3 units, and an offset inside that code point is found at 1. -/
theorem columns_adjoint_two_units :
    let id := Text.ofString "tab"
    let history := [Command.load id (.ofString "# top\n🎉 60")]
    LastWrite history id (.ofString "# top\n🎉 60") ∧ Encoding.utf16.measure.IsUnits ∧
      ∃ found toUnits fromUnits,
        Measure.Adjoint Encoding.utf16.measure found toUnits fromUnits ∧
        found = .ofString "🎉 60" ∧ toUnits 2 = 3 ∧ fromUnits 3 = 2 ∧ fromUnits 1 = 1 := by
  intro id history
  have hopen : LastWrite history id (.ofString "# top\n🎉 60") :=
    (lastWrite_concat [] _ _ _).mpr (Or.inl rfl)
  have hunits := Encoding.utf16.isUnits_measure
  obtain ⟨found, toUnits, fromUnits, hfound, hto, hfrom, hadjoint⟩ :=
    columns_adjoint [] hopen hunits 1
  refine ⟨hopen, hunits, found, toUnits, fromUnits, hadjoint, ?_, ?_, ?_, ?_⟩
  · exact (Except.ok.inj hfound).symm.trans (by decide)
  · exact (Except.ok.inj (hto 2)).symm.trans (by decide)
  · exact (Except.ok.inj (hfrom 3)).symm.trans (by decide)
  · exact (Except.ok.inj (hfrom 1)).symm.trans (by decide)

end Crontab.Store
