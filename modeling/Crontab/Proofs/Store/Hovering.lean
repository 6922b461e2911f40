import Crontab.Proofs.Entry.Spacing
import Crontab.Proofs.Store.Held

/-!
# Hovering over an open document

What is shown at a position is shown at every position of the stretch that it names, except inside
the last code point of its token, where nothing is shown. Counting in other units moves the two ends
of the stretch and changes nothing else.
-/

namespace Crontab

/-- The token of a line that is found for an offset in units. -/
def Line.found? (measure : Measure) (i : Int) (line : Text) (units : Int) : Option Token :=
  (tokens i line).find? fun token => token.covers (measure.fromUnits line units)

/-- What is shown for a token of a line, with columns in units. -/
def Line.shown? (measure : Measure) (i : Int) (line : Text) (token : Token) : Option Hover :=
  (Hover.describe (tokens i line) token).map fun text =>
    { line := i
      startChar := measure.toUnits line token.span.1
      endChar := measure.toUnits line token.span.2
      text }

namespace Document

/-- The token at an offset in units is found on the line alone. -/
theorem tokenAt?_fromUnits_ofText (text : Text) (measure : Measure) (i units : Int) :
    (ofText text).tokenAt? i ((ofText text).fromUnits measure i units) =
      Line.found? measure i ((ofText text).lineText i) units := by
  rw [Line.found?, lineText, ofText, ← onLine_tokenize_nth]
  rfl

/-- What is shown at a position is read off the line alone. -/
theorem hover?_ofText (text : Text) (measure : Measure) (i units : Int) :
    (ofText text).hover? measure i units =
      (Line.found? measure i ((ofText text).lineText i) units).bind
        (Line.shown? measure i ((ofText text).lineText i)) := by
  have htokens : (ofText text).lineTokens i = Line.tokens i ((ofText text).lineText i) :=
    onLine_tokenize_nth text i
  simp only [hover?, tokenAt?_fromUnits_ofText, htokens, toUnits]
  congr 1
  funext token
  exact (Option.map_eq_bind ..).symm

end Document

namespace Measure

variable {measure : Measure}

/-- An offset in units is found at a token or behind its start when it is not before the start of
the token in units. -/
theorem IsUnits.start_le_fromUnits_iff (h : measure.IsUnits) (hspace : measure [.char ' '] = 1)
    {i : Int} {line : Text} {token : Token} (htoken : token ∈ Line.tokens i line) {units : Int}
    (hunits : 0 ≤ units) :
    token.span.1 ≤ measure.fromUnits line units ↔
      measure.toUnits line token.span.1 ≤ units := by
  rcases Line.char_eq_zero_or_isGap htoken with hzero | hgap
  · have hfrom := measure.fromUnits_nonneg line units
    simp only [Token.span, hzero, h.toUnits_zero]
    omega
  · have hwidth := h.toUnits_gap hspace hgap
    have hbefore := h.fromUnits_le_iff line units hgap.1
    rw [Int.sub_add_cancel] at hwidth
    simp only [Token.span]
    omega

/-- A token covers what is found for an offset in units from its start to the start of its last code
point. -/
theorem IsUnits.covers_fromUnits_iff (h : measure.IsUnits) (hspace : measure [.char ' '] = 1)
    {i : Int} {line : Text} {token : Token} (htoken : token ∈ Line.tokens i line)
    (hstop : 0 < token.span.2) {units : Int} (hunits : 0 ≤ units) :
    token.covers (measure.fromUnits line units) = true ↔
      measure.toUnits line token.span.1 ≤ units ∧
        units ≤ measure.toUnits line (token.span.2 - 1) := by
  rw [← h.start_le_fromUnits_iff hspace htoken hunits, ← h.fromUnits_lt_iff line units hstop]
  simp only [Token.covers, Bool.and_eq_true, decide_eq_true_eq]

end Measure

/-- What is found for an offset in units is a token of the line that covers it. -/
theorem Line.covers_of_found? {measure : Measure} {i : Int} {line : Text} {units : Int}
    {token : Token} (h : found? measure i line units = some token) :
    token ∈ tokens i line ∧ token.covers (measure.fromUnits line units) = true := by
  constructor
  · exact List.mem_of_find?_eq_some h
  · simpa using List.find?_some h

/-- A token that is found for an offset in units covers the stretch between its ends in units. Every
offset of the stretch finds the same token, except those inside its last code point, which find
nothing. -/
theorem Line.found?_covers {measure : Measure} (h : measure.IsUnits)
    (hspace : measure [.char ' '] = 1) {i : Int} {line : Text} {token : Token} {units : Int}
    (hunits : 0 ≤ units) (hfound : found? measure i line units = some token) :
    (measure.toUnits line token.span.1 ≤ units ∧ units < measure.toUnits line token.span.2) ∧
    ∀ other, measure.toUnits line token.span.1 ≤ other →
      other < measure.toUnits line token.span.2 →
        (measure.IsInside line (token.span.2 - 1) other → found? measure i line other = none) ∧
        (¬measure.IsInside line (token.span.2 - 1) other →
          found? measure i line other = some token) := by
  obtain ⟨htoken, hcovers⟩ := covers_of_found? hfound
  have hstart := (readsOff_of_mem_tokens htoken).start_nonneg
  have hspan : token.span.1 < token.span.2 := by
    simp only [Token.covers, Bool.and_eq_true, decide_eq_true_eq] at hcovers
    omega
  have hstop : 0 < token.span.2 := by omega
  have hlast : measure.toUnits line (token.span.2 - 1) < measure.toUnits line token.span.2 := by
    rw [h.toUnits_lt_iff line (by omega) hstop.le]
    omega
  have hends := (h.covers_fromUnits_iff hspace htoken hstop hunits).mp hcovers
  refine ⟨⟨hends.1, by omega⟩, ?_⟩
  intro other hlow hhigh
  constructor
  · intro hinside
    rw [found?, h.fromUnits_of_isInside hinside, Int.sub_add_cancel]
    exact find?_covers_stop_eq_none htoken
  · intro houtside
    rw [h.isInside_iff line (by omega), Int.sub_add_cancel] at houtside
    have hnonneg := (h.toUnits_nonneg line hstart).trans hlow
    refine find?_covers_eq_some htoken ?_
    rw [h.covers_fromUnits_iff hspace htoken hstop hnonneg]
    omega

/-- Code point offsets find the same token in all units. -/
theorem Line.found?_toUnits {measure : Measure} (h : measure.IsUnits) (i : Int) (line : Text)
    {char : Int} (hchar : 0 ≤ char) :
    found? measure i line (measure.toUnits line char) = found? .codePoints i line char := by
  rw [found?, found?, h.fromUnits_toUnits line hchar, Measure.fromUnits_codePoints line hchar]

/-- A stretch with both ends in other units. -/
def Hover.mapEnds (toUnits : Int → Int) (hover : Hover) : Hover :=
  { hover with startChar := toUnits hover.startChar, endChar := toUnits hover.endChar }

/-- In code points, what is shown for a token stands where the token does. -/
theorem Line.shown?_codePoints {i : Int} {line : Text} {token : Token} (h : token ∈ tokens i line) :
    shown? .codePoints i line token =
      (Hover.describe (tokens i line) token).map fun text =>
        ⟨i, token.span.1, token.span.2, text⟩ := by
  have hstart := (readsOff_of_mem_tokens h).start_nonneg
  have hstop : 0 ≤ token.span.2 := by
    simp only [Token.span] at hstart ⊢
    omega
  rw [shown?, Measure.toUnits_codePoints line hstart, Measure.toUnits_codePoints line hstop]

/-- The same is shown for a token in all units, for a stretch with its ends in those units. -/
theorem Line.shown?_eq_map (measure : Measure) {i : Int} {line : Text} {token : Token}
    (h : token ∈ tokens i line) :
    shown? measure i line token =
      (shown? .codePoints i line token).map (Hover.mapEnds (measure.toUnits line)) := by
  rw [shown?_codePoints h, shown?, Option.map_map]
  rfl

namespace Store

/-- On every line of every open document, for every measure that counts units and in which a space
takes one: hovering gives an answer, and what is shown for an offset that is not negative is shown
for a stretch that holds the offset. Every offset of the stretch shows the same, except those inside
the last code point of the token found, which show nothing. -/
theorem hover_covers (source : Text) {history : List Command} {id text : Text}
    (hopen : LastWrite history id text) {measure : Measure} (hunits : measure.IsUnits)
    (hspace : measure [.char ' '] = 1) (line : Int) {units : Int} (hnonneg : 0 ≤ units) :
    let store := Step.run step (empty source) history
    ∃ answer, store.hover measure id line units = .ok answer ∧ ∀ hover ∈ answer,
      (hover.startChar ≤ units ∧ units < hover.endChar) ∧
      ∃ found char token, store.lineText id line = .ok found ∧
        store.fromUnits measure id line units = .ok char ∧
        store.tokenAt id line char = .ok (some token) ∧
        ∀ other, hover.startChar ≤ other → other < hover.endChar →
          (measure.IsInside found (token.span.2 - 1) other →
            store.hover measure id line other = .ok none) ∧
          (¬measure.IsInside found (token.span.2 - 1) other →
            store.hover measure id line other = .ok (some hover)) := by
  intro store
  have hholds := hopen.holdsText source
  refine ⟨_, hholds.hover measure line units, ?_⟩
  intro hover hanswer
  rw [Option.mem_def, Document.hover?_ofText] at hanswer
  obtain ⟨token, hfound, hshown⟩ := Option.bind_eq_some_iff.mp hanswer
  obtain ⟨hcovers, hthroughout⟩ := Line.found?_covers hunits hspace hnonneg hfound
  obtain ⟨_, _, rfl⟩ := Option.map_eq_some_iff.mp hshown
  refine ⟨hcovers, _, _, token, hholds.lineText line, hholds.fromUnits measure line units, ?_, ?_⟩
  · rw [hholds.tokenAt, Document.tokenAt?_fromUnits_ofText, hfound]
  · intro other hlow hhigh
    obtain ⟨hinside, houtside⟩ := hthroughout other hlow hhigh
    rw [hholds.hover, Document.hover?_ofText]
    constructor
    · intro hin
      rw [hinside hin, Option.bind_none]
    · intro hout
      rw [houtside hout, Option.bind_some, hshown]

/-- A command of one code point that takes two units is shown at its start and not inside. -/
theorem hover_covers_two_units :
    let id := Text.ofString "tab"
    let text := Text.ofString "0 0 * * * 🎉"
    let store := Step.run step (empty []) [.load id text]
    (LastWrite [.load id text] id text ∧ Encoding.utf16.measure.IsUnits ∧
      Encoding.utf16.measure [.char ' '] = 1 ∧ (0 : Int) ≤ 10) ∧
    ∃ hover, store.hover Encoding.utf16.measure id 0 10 = .ok (some hover) ∧
      (hover.startChar ≤ 10 ∧ 10 < hover.endChar) ∧
      store.hover Encoding.utf16.measure id 0 11 = .ok none := by
  intro id text store
  have hopen : LastWrite [.load id text] id text := (lastWrite_concat [] _ _ _).mpr (Or.inl rfl)
  have hunits := Encoding.utf16.isUnits_measure
  have hspace := Encoding.utf16.measure_space
  have hnonneg : (0 : Int) ≤ 10 := by decide
  obtain ⟨answer, hanswer, hcovers⟩ := hover_covers [] hopen hunits hspace 0 hnonneg
  have hshown : store.hover Encoding.utf16.measure id 0 10 =
      .ok (some ⟨0, 10, 12, Hover.ofCommand (.ofString "0 0 * * *") (.ofString "🎉")⟩) := by decide
  obtain rfl := Except.ok.inj (hanswer.symm.trans hshown)
  obtain ⟨hends, found, char, token, hfound, hchar, htoken, hthroughout⟩ := hcovers _ rfl
  obtain rfl : text = found := Except.ok.inj hfound
  obtain rfl : 10 = char := Except.ok.inj hchar
  obtain rfl : Token.command 0 10 (.ofString "🎉") = token :=
    Option.some.inj (Except.ok.inj htoken)
  refine ⟨⟨hopen, hunits, hspace, hnonneg⟩, _, hshown, hends, ?_⟩
  refine (hthroughout 11 (by decide) (by decide)).1 ?_
  exact ⟨.ofString "0 0 * * * ", .char '🎉', [], by decide, by decide, by decide, by decide⟩

/-- On every line of every open document, for every measure that counts units: hovering at a code
point offset, given in units, answers as hovering there in code points does, with both ends of the
stretch in units. -/
theorem hover_toUnits (source : Text) {history : List Command} {id text : Text}
    (hopen : LastWrite history id text) {measure : Measure} (hunits : measure.IsUnits) (line : Int)
    {char : Int} (hchar : 0 ≤ char) :
    let store := Step.run step (empty source) history
    ∃ toUnits plain, (∀ n, store.toUnits measure id line n = .ok (toUnits n)) ∧
      store.hover .codePoints id line char = .ok plain ∧
      store.hover measure id line (toUnits char) = .ok (plain.map (Hover.mapEnds toUnits)) := by
  intro store
  have hholds := hopen.holdsText source
  refine ⟨_, _, hholds.toUnits measure line, hholds.hover .codePoints line char, ?_⟩
  rw [hholds.hover, Document.hover?_ofText, Document.hover?_ofText, Document.toUnits,
    Line.found?_toUnits hunits line _ hchar]
  cases hfound : Line.found? .codePoints line ((Document.ofText text).lineText line) char with
  | none => rfl
  | some token =>
    have htoken := List.mem_of_find?_eq_some hfound
    rw [Option.bind_some, Option.bind_some, Line.shown?_eq_map measure htoken]
    rfl

/-- The hour behind a term of one code point that takes two units is shown one column further. -/
theorem hover_toUnits_two_units :
    let id := Text.ofString "tab"
    let text := Text.ofString "🎉 0 * * * x"
    let store := Step.run step (empty []) [.load id text]
    (LastWrite [.load id text] id text ∧ Encoding.utf16.measure.IsUnits ∧ (0 : Int) ≤ 2) ∧
    ∃ toUnits, toUnits 2 = 3 ∧ ∃ hover, store.hover .codePoints id 0 2 = .ok (some hover) ∧
      store.hover Encoding.utf16.measure id 0 3 = .ok (some (hover.mapEnds toUnits)) := by
  intro id text store
  have hopen : LastWrite [.load id text] id text := (lastWrite_concat [] _ _ _).mpr (Or.inl rfl)
  have hunits := Encoding.utf16.isUnits_measure
  have hnonneg : (0 : Int) ≤ 2 := by decide
  obtain ⟨toUnits, plain, hto, hplain, hhover⟩ := hover_toUnits [] hopen hunits 0 hnonneg
  have hshown : store.hover .codePoints id 0 2 =
      .ok (some ⟨0, 2, 3, Hover.ofTerm .hour (.exactly 0)⟩) := by decide
  obtain rfl := Except.ok.inj (hplain.symm.trans hshown)
  have htwo : 3 = toUnits 2 := Except.ok.inj (hto 2)
  rw [← htwo] at hhover
  exact ⟨⟨hopen, hunits, hnonneg⟩, toUnits, htwo.symm, _, hshown, hhover⟩

end Store

end Crontab
