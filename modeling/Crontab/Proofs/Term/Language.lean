import Crontab.Proofs.Numeral
import Crontab.Proofs.Text.Pieces
import Crontab.Term

/-!
# The language of terms

The terms of a field are given by a grammar over exact numbers, in which no form comes before
another. Reading a term tries the forms in turn and stops at the first that fits; it gives a value
exactly when the grammar gives that value to the term.
-/

namespace Crontab.Term

/-- A numeral whose exact value is a number of the field. -/
structure IsNumberOf (field : Field) (num : Text) : Prop where
  /-- There is a digit. -/
  ne_nil : num ≠ []
  /-- There is nothing but digits. -/
  digits : Numeral.Digits num
  /-- The value is not below the bounds. -/
  least_le : field.least ≤ Numeral.value num
  /-- The value is not above the bounds. -/
  le_greatest : Numeral.value num ≤ field.greatest

/-- What the terms of a field are and what they stand for. -/
inductive Denotes (field : Field) : Text → Value → Prop where
  /-- A star stands for every number. -/
  | any : Denotes field [.char '*'] .any
  /-- A number stands for itself. -/
  | exactly {num : Text} : IsNumberOf field num →
      Denotes field num (.exactly (Numeral.value num))
  /-- Two or more numbers with single commas between them stand for all of them, in order. -/
  | anyOf {nums : List Text} : 2 ≤ nums.length → (∀ num ∈ nums, IsNumberOf field num) →
      Denotes field (Text.joined ',' nums) (.anyOf (nums.map fun num => (Numeral.value num : Int)))
  /-- Two numbers with a hyphen between them, in either order, stand for a range. -/
  | range {first last : Text} : IsNumberOf field first → IsNumberOf field last →
      Denotes field (first ++ .char '-' :: last)
        (.range (Numeral.value first) (Numeral.value last))
  /-- A star, a slash and a numeral from one to nine nines stand for a step. -/
  | every {num : Text} : num ≠ [] → Numeral.Digits num → 1 ≤ Numeral.value num →
      Numeral.value num ≤ 999999999 →
      Denotes field (.char '*' :: .char '/' :: num) (.every (Numeral.value num))

/-- A field takes a numeral exactly when its value is a number of the field. -/
theorem number?_eq_some_iff (field : Field) {num : Text} (h : Numeral.isNumeral num = true)
    (n : Nat) : field.number? num = some n ↔ IsNumberOf field num ∧ n = Numeral.value num := by
  obtain ⟨hne, hdigits⟩ := (Numeral.isNumeral_iff num).mp h
  rw [field.number?_eq hdigits]
  constructor
  · intro hsome
    split at hsome
    · next hcontains =>
      obtain ⟨hleast, hgreatest⟩ := (field.contains_iff _).mp hcontains
      exact ⟨⟨hne, hdigits, hleast, hgreatest⟩, (Option.some.inj hsome).symm⟩
    · exact absurd hsome nofun
  · rintro ⟨hnum, rfl⟩
    rw [if_pos ((field.contains_iff _).mpr ⟨hnum.least_le, hnum.le_greatest⟩)]

theorem IsNumberOf.isNumeral {field : Field} {num : Text} (h : IsNumberOf field num) :
    Numeral.isNumeral num = true :=
  (Numeral.isNumeral_iff num).mpr ⟨h.ne_nil, h.digits⟩

theorem IsNumberOf.number? {field : Field} {num : Text} (h : IsNumberOf field num) :
    field.number? num = some (Numeral.value num) :=
  (number?_eq_some_iff field h.isNumeral _).mpr ⟨h, rfl⟩

/-- A numeral is read as one number. -/
theorem readSingle_eq_value_iff (field : Field) {term : Text}
    (h : Numeral.isNumeral term = true) (v : Value) :
    readSingle field term = .value v ↔
      IsNumberOf field term ∧ v = .exactly (Numeral.value term) := by
  constructor
  · intro hread
    rw [readSingle] at hread
    split at hread
    · next n hn =>
      obtain ⟨hnum, rfl⟩ := (number?_eq_some_iff field h n).mp hn
      exact ⟨hnum, (Reading.value.inj hread).symm⟩
    · exact absurd hread nofun
  · rintro ⟨hnum, rfl⟩
    rw [readSingle, hnum.number?]

/-- A piece of a list is read exactly when it is a number of the field. -/
theorem readPiece_eq_ok_iff (field : Field) (piece : Text) (i n : Nat) :
    readPiece field piece i = .ok n ↔ IsNumberOf field piece ∧ n = Numeral.value piece := by
  constructor
  · intro hread
    rw [readPiece] at hread
    split at hread
    · next hnumeral =>
      split at hread
      · next m hm =>
        obtain ⟨hnum, rfl⟩ := (number?_eq_some_iff field hnumeral m).mp hm
        exact ⟨hnum, (Except.ok.inj hread).symm⟩
      · exact absurd hread nofun
    · exact absurd hread nofun
  · rintro ⟨hnum, rfl⟩
    rw [readPiece, if_pos hnum.isNumeral, hnum.number?]

/-- The results of reading the pieces of a list, each with its index. -/
def readPieces (field : Field) (ps : List Text) : List (Except Error Nat) :=
  ps.zipIdx.map fun (piece, i) => readPiece field piece i

theorem readPieces_of_forall {field : Field} {ps : List Text}
    (h : ∀ piece ∈ ps, IsNumberOf field piece) :
    readPieces field ps = ps.map fun piece => .ok (Numeral.value piece) := by
  have hok : ∀ e ∈ ps.zipIdx, readPiece field e.1 e.2 = .ok (Numeral.value e.1) := fun e he =>
    (readPiece_eq_ok_iff ..).mpr ⟨h e.1 (List.fst_mem_of_mem_zipIdx he), rfl⟩
  calc readPieces field ps
      = ps.zipIdx.map ((fun piece => .ok (Numeral.value piece)) ∘ Prod.fst) :=
        List.map_congr_left hok
    _ = (ps.zipIdx.map Prod.fst).map fun piece => .ok (Numeral.value piece) :=
        List.map_map.symm
    _ = ps.map fun piece => .ok (Numeral.value piece) := by rw [List.zipIdx_map_fst]

/-- No piece of a list fails exactly when all of them are numbers of the field. -/
theorem errors_readPieces_eq_nil_iff (field : Field) (ps : List Text) :
    (readPieces field ps).filterMap error? = [] ↔ ∀ piece ∈ ps, IsNumberOf field piece := by
  constructor
  · intro herrors piece hp
    obtain ⟨i, hi⟩ := List.mem_iff_getElem?.mp hp
    have hmem : readPiece field piece i ∈ readPieces field ps :=
      List.mem_map.mpr ⟨(piece, i), List.mem_zipIdx_iff_getElem?.mpr hi, rfl⟩
    have hnone := List.filterMap_eq_nil_iff.mp herrors _ hmem
    cases hread : readPiece field piece i with
    | ok n => exact ((readPiece_eq_ok_iff ..).mp hread).1
    | error e => exact absurd (hread ▸ hnone) nofun
  · intro h
    rw [readPieces_of_forall h, List.filterMap_map]
    exact List.filterMap_eq_nil_iff.mpr fun _ _ => rfl

theorem numbers_readPieces {field : Field} {ps : List Text}
    (h : ∀ piece ∈ ps, IsNumberOf field piece) :
    (readPieces field ps).filterMap number? =
      ps.map fun piece => (Numeral.value piece : Int) := by
  rw [readPieces_of_forall h, List.filterMap_map]
  exact congrFun List.filterMap_eq_map ps

/-- A list is read exactly when all its pieces are numbers of the field. -/
theorem readList_eq_value_iff (field : Field) (term : Text) (v : Value) :
    readList field term = .value v ↔
      (∀ piece ∈ Text.pieces ',' term, IsNumberOf field piece) ∧
        v = .anyOf ((Text.pieces ',' term).map fun piece => (Numeral.value piece : Int)) := by
  constructor
  · intro hread
    rw [readList] at hread
    split at hread
    · next herrors =>
      have hall := (errors_readPieces_eq_nil_iff ..).mp herrors
      refine ⟨hall, (Reading.value.inj hread).symm.trans (congrArg Value.anyOf ?_)⟩
      exact numbers_readPieces hall
    · exact absurd hread nofun
  · rintro ⟨hall, rfl⟩
    have herrors := (errors_readPieces_eq_nil_iff ..).mpr hall
    have hnumbers := numbers_readPieces hall
    rw [readPieces] at herrors hnumbers
    rw [readList, herrors, hnumbers]

/-- A range is read exactly when both its ends are numbers of the field. -/
theorem readRange_eq_value_iff (field : Field) {first last : Text}
    (hfirst : Numeral.isNumeral first = true) (hlast : Numeral.isNumeral last = true) (v : Value) :
    readRange field first last = .value v ↔
      IsNumberOf field first ∧ IsNumberOf field last ∧
        v = .range (Numeral.value first) (Numeral.value last) := by
  constructor
  · intro hread
    rw [readRange] at hread
    split at hread
    · next a b ha hb =>
      obtain ⟨hnum, rfl⟩ := (number?_eq_some_iff field hfirst a).mp ha
      obtain ⟨hnum', rfl⟩ := (number?_eq_some_iff field hlast b).mp hb
      exact ⟨hnum, hnum', (Reading.value.inj hread).symm⟩
    · exact absurd hread nofun
    · exact absurd hread nofun
    · exact absurd hread nofun
  · rintro ⟨hnum, hnum', rfl⟩
    rw [readRange, hnum.number?, hnum'.number?]

/-- A step is read exactly when its value is neither zero nor too large. -/
theorem readStep_eq_value_iff (field : Field) {num : Text} (h : Numeral.Digits num) (v : Value) :
    readStep field num = .value v ↔
      1 ≤ Numeral.value num ∧ Numeral.value num ≤ Numeral.largest ∧
        v = .every (Numeral.value num) := by
  constructor
  · intro hread
    rw [readStep, Numeral.bounded?_eq h] at hread
    split at hread
    · exact absurd hread nofun
    · exact absurd hread nofun
    · next n hne hn =>
      split at hn
      · next hle =>
        obtain rfl := Option.some.inj hn
        refine ⟨Nat.pos_of_ne_zero fun hzero => hne (by rw [hzero]), hle, ?_⟩
        exact (Reading.value.inj hread).symm
      · exact absurd hn nofun
  · rintro ⟨hpos, hle, rfl⟩
    obtain ⟨n, hn⟩ := Nat.exists_eq_succ_of_ne_zero (Nat.ne_of_gt hpos)
    rw [readStep, Numeral.bounded?_eq h, if_pos hle, hn]
    rfl

/-- A term is a range of two numerals exactly when it is them with a hyphen between. -/
theorem range?_eq_some_iff (term first last : Text) :
    range? term = some (first, last) ↔
      Numeral.isNumeral first = true ∧ Numeral.isNumeral last = true ∧
        term = first ++ .char '-' :: last := by
  have hjoined : Text.joined '-' [first, last] = first ++ .char '-' :: last := by
    rw [Text.joined_cons (List.cons_ne_nil last []), Text.joined_singleton]
  constructor
  · intro h
    rw [range?] at h
    split at h
    · next f l hpieces =>
      split at h
      · next hnumerals =>
        obtain ⟨rfl, rfl⟩ := Prod.mk.inj (Option.some.inj h)
        rw [Bool.and_eq_true] at hnumerals
        refine ⟨hnumerals.1, hnumerals.2, ?_⟩
        rw [← hjoined, ← hpieces, Text.joined_pieces]
      · exact absurd h nofun
    · exact absurd h nofun
  · rintro ⟨hfirst, hlast, rfl⟩
    have hsep : ∀ p ∈ [first, last], .char '-' ∉ p := by
      intro p hp
      have hnumeral : Numeral.isNumeral p = true := by
        rcases List.mem_pair.mp hp with rfl | rfl
        · exact hfirst
        · exact hlast
      exact ((Numeral.isNumeral_iff p).mp hnumeral).2.notMem rfl
    rw [range?, ← hjoined, Text.pieces_joined (List.cons_ne_nil first [last]) hsep]
    simp only [hfirst, hlast, Bool.and_true, if_true]

/-- A term is a step of a numeral exactly when that follows a star and a slash. -/
theorem step?_eq_some_iff (term num : Text) :
    step? term = some num ↔
      Numeral.isNumeral num = true ∧ term = .char '*' :: .char '/' :: num := by
  constructor
  · intro h
    unfold step? at h
    split at h
    · next step =>
      split at h
      · next hnumeral =>
        obtain rfl := Option.some.inj h
        exact ⟨hnumeral, rfl⟩
      · exact absurd h nofun
    · exact absurd h nofun
  · rintro ⟨hnumeral, rfl⟩
    rw [step?, if_pos hnumeral]

/-- What reading gives is what the grammar gives. -/
theorem Denotes.of_read {field : Field} {term : Text} {v : Value}
    (h : read field term = .value v) : Denotes field term v := by
  rw [read] at h
  split at h
  · next hstar =>
    obtain rfl := Reading.value.inj h
    rw [hstar]
    exact .any
  split at h
  · next hnumeral =>
    obtain ⟨hnum, rfl⟩ := (readSingle_eq_value_iff field hnumeral v).mp h
    exact .exactly hnum
  split at h
  · next hcomma =>
    obtain ⟨hall, rfl⟩ := (readList_eq_value_iff field term v).mp h
    have hlist := Denotes.anyOf (Text.two_le_length_pieces hcomma) hall
    rwa [Text.joined_pieces] at hlist
  split at h
  · next first last hrange =>
    obtain ⟨hfirst, hlast, rfl⟩ := (range?_eq_some_iff term first last).mp hrange
    obtain ⟨hnum, hnum', rfl⟩ := (readRange_eq_value_iff field hfirst hlast v).mp h
    exact .range hnum hnum'
  split at h
  · next num hstep =>
    obtain ⟨hnumeral, rfl⟩ := (step?_eq_some_iff term num).mp hstep
    obtain ⟨hne, hdigits⟩ := (Numeral.isNumeral_iff num).mp hnumeral
    obtain ⟨hpos, hle, rfl⟩ := (readStep_eq_value_iff field hdigits v).mp h
    exact .every hne hdigits hpos hle
  · exact absurd h nofun

/-- A term that holds anything but digits is no numeral. -/
theorem isNumeral_eq_false {term : Text} {c : CodePoint} (hmem : c ∈ term)
    (hc : c.isDigit = false) : ¬Numeral.isNumeral term = true := fun hnumeral =>
  ((Numeral.isNumeral_iff term).mp hnumeral).2.notMem hc hmem

/-- A term that starts with a star is no range. -/
theorem range?_star (rest : Text) : range? (.char '*' :: rest) = none := by
  cases hrange : range? (.char '*' :: rest) with
  | none => rfl
  | some ends =>
    obtain ⟨first, last⟩ := ends
    obtain ⟨hfirst, _, hterm⟩ := (range?_eq_some_iff _ first last).mp hrange
    obtain ⟨hne, hdigits⟩ := (Numeral.isNumeral_iff first).mp hfirst
    obtain ⟨c, cs, rfl⟩ := List.exists_cons_of_ne_nil hne
    rw [List.cons_append, List.cons.injEq] at hterm
    exact absurd (hdigits c (List.mem_cons_self ..)) (hterm.1 ▸ by decide)

/-- What the grammar gives is what reading gives: no earlier form fits the term. -/
theorem Denotes.read {field : Field} {term : Text} {v : Value} (h : Denotes field term v) :
    read field term = .value v := by
  cases h with
  | any => rfl
  | exactly hnum =>
    have hstar : term ≠ [.char '*'] := by
      rintro rfl
      exact isNumeral_eq_false (List.mem_singleton_self _) rfl hnum.isNumeral
    rw [Term.read, if_neg hstar, if_pos hnum.isNumeral]
    exact (readSingle_eq_value_iff field hnum.isNumeral _).mpr ⟨hnum, rfl⟩
  | @anyOf nums hlength hall =>
    have hne : nums ≠ [] := by
      rintro rfl
      exact absurd hlength (by decide)
    have hpieces : Text.pieces ',' (Text.joined ',' nums) = nums :=
      Text.pieces_joined hne fun num hnum => (hall num hnum).digits.notMem rfl
    have hcomma : .char ',' ∈ Text.joined ',' nums := Text.sep_mem_joined hlength
    have hstar : Text.joined ',' nums ≠ [.char '*'] := by
      intro heq
      rw [heq] at hcomma
      exact absurd hcomma (by decide)
    rw [Term.read, if_neg hstar, if_neg (isNumeral_eq_false hcomma rfl), if_pos hcomma,
      readList_eq_value_iff, hpieces]
    exact ⟨hall, rfl⟩
  | @range first last hfirst hlast =>
    have hhyphen : .char '-' ∈ first ++ .char '-' :: last :=
      List.mem_append_right _ (List.mem_cons_self ..)
    have hstar : first ++ .char '-' :: last ≠ [.char '*'] := by
      intro heq
      rw [heq] at hhyphen
      exact absurd hhyphen (by decide)
    have hcomma : .char ',' ∉ first ++ .char '-' :: last := by
      have hnone : .char ',' ∉ first ∧ .char ',' ∉ last :=
        ⟨hfirst.digits.notMem rfl, hlast.digits.notMem rfl⟩
      simpa using hnone
    have hrange := (range?_eq_some_iff _ first last).mpr ⟨hfirst.isNumeral, hlast.isNumeral, rfl⟩
    rw [Term.read, if_neg hstar, if_neg (isNumeral_eq_false hhyphen rfl), if_neg hcomma, hrange]
    exact (readRange_eq_value_iff field hfirst.isNumeral hlast.isNumeral _).mpr
      ⟨hfirst, hlast, rfl⟩
  | @every num hne hdigits hpos hle =>
    have hstar : .char '*' :: .char '/' :: num ≠ [.char '*'] := by simp
    have hnumeral : ¬Numeral.isNumeral (.char '*' :: .char '/' :: num) = true :=
      isNumeral_eq_false (List.mem_cons_self ..) rfl
    have hcomma : .char ',' ∉ .char '*' :: .char '/' :: num := by
      have hnone : .char ',' ∉ num := hdigits.notMem rfl
      simpa using hnone
    have hstep := (step?_eq_some_iff _ num).mpr
      ⟨(Numeral.isNumeral_iff num).mpr ⟨hne, hdigits⟩, rfl⟩
    rw [Term.read, if_neg hstar, if_neg hnumeral, if_neg hcomma, range?_star, hstep]
    exact (readStep_eq_value_iff field hdigits _).mpr ⟨hpos, hle, rfl⟩

/-- Reading a term of a field gives a value exactly when the grammar of terms gives that value to
the term, and a numeral counts by its exact value however many digits it has. -/
theorem read_eq_value_iff_denotes (field : Field) :
    (∀ term v, read field term = .value v ↔ Denotes field term v) ∧
      ∀ num, Numeral.isNumeral num = true → field.number? num =
        if field.least ≤ Numeral.value num ∧ Numeral.value num ≤ field.greatest then
          some (Numeral.value num) else none := by
  constructor
  · intro term v
    exact ⟨Denotes.of_read, Denotes.read⟩
  · intro num hnumeral
    rw [field.number?_eq ((Numeral.isNumeral_iff num).mp hnumeral).2]
    exact if_congr (field.contains_iff _) rfl rfl

/-- Zeros in front of a minute do not count towards its digits. -/
theorem read_eq_value_iff_denotes_padded_minute :
    Denotes .minute (.ofString "000000000059") (.exactly 59) ∧
      Field.minute.number? (.ofString "000000000059") = some 59 := by
  constructor
  · exact ((read_eq_value_iff_denotes .minute).1 _ _).mp (by decide)
  · rw [(read_eq_value_iff_denotes .minute).2 _ (by decide)]
    decide

end Crontab.Term
