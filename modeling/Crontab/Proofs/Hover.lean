import Crontab.Hover
import Crontab.Proofs.Numeral.Written

/-!
# What the text of a hover tells

The text shown for a term is the name of its field, a colon, and a description of its value. No name
holds a colon, so the first one tells where the description starts. A description is made of words
with single blanks between them: its form is told by the first word and by how many there are, and
the words of a form that are not fixed are numbers. So the text tells the field and the value, and
nothing else than a term of that field with that value shows it.
-/

namespace Crontab

theorem Field.name_inj {field field' : Field} (h : field.name = field'.name) : field = field' :=
  Option.some.inj (by rw [← ofName?_name, h, ofName?_name])

namespace Value

open Numeral (written)

/-- The words of a description. What is listed is cut at the blanks, and so an empty list leaves one
empty word. -/
def words : Value → List Text
  | .any => [.ofString "any"]
  | .exactly n => [.ofString "at", written n]
  | .anyOf ns =>
    .ofString "at" :: .ofString "any" :: .ofString "of" ::
      Text.pieces ' ' (Text.joined ' ' (ns.map written))
  | .range first last =>
    [.ofString "from", written first, .ofString "to", written last, .ofString "(inclusive)"]
  | .every n => [.ofString "every", written n]

theorem words_ne_nil (v : Value) : v.words ≠ [] := by
  cases v <;> exact List.cons_ne_nil _ _

theorem blank_notMem_words (v : Value) : ∀ word ∈ v.words, .char ' ' ∉ word := by
  have hnumber : ∀ n, .char ' ' ∉ written n := Numeral.notMem_written (by decide) (by decide)
  cases v with
  | any => simpa [words] using (by decide)
  | exactly n => simpa [words] using ⟨by decide, hnumber n⟩
  | anyOf ns =>
    have hlist : ∀ piece ∈ Text.pieces ' ' (Text.joined ' ' (ns.map written)),
        .char ' ' ∉ piece := fun _ => Text.sep_notMem_of_mem_pieces
    simpa [words] using ⟨by decide, by decide, by decide, hlist⟩
  | range first last =>
    simpa [words] using ⟨by decide, hnumber first, by decide, hnumber last, by decide⟩
  | every n => simpa [words] using ⟨by decide, hnumber n⟩

/-- The words of a description spell it. -/
theorem joined_words (v : Value) : Text.joined ' ' v.words = .ofString v.describe := by
  cases v with
  | any => rfl
  | exactly n =>
    rw [words, describe, Text.ofString_append, Text.joined_cons (by simp), Text.joined_singleton]
    rfl
  | anyOf ns =>
    have hlist : Text.ofString (" ".intercalate (ns.map toString)) =
        Text.joined ' ' (ns.map written) := by
      rw [Text.ofString_intercalate, List.map_map]
      rfl
    have hne := Text.pieces_ne_nil ' ' (Text.joined ' ' (ns.map written))
    rw [words, describe, Text.ofString_append, hlist, Text.joined_cons (by simp),
      Text.joined_cons (by simp), Text.joined_cons hne, Text.joined_pieces]
    rfl
  | range first last =>
    rw [words, describe]
    simp only [Text.ofString_append, List.append_assoc]
    rw [Text.joined_cons (by simp), Text.joined_cons (by simp), Text.joined_cons (by simp),
      Text.joined_cons (by simp), Text.joined_singleton]
    rfl
  | every n =>
    rw [words, describe, Text.ofString_append, Text.joined_cons (by simp), Text.joined_singleton]
    rfl

/-- Cutting a description at the blanks gives its words. -/
theorem pieces_describe (v : Value) : Text.pieces ' ' (.ofString v.describe) = v.words := by
  rw [← joined_words, Text.pieces_joined v.words_ne_nil v.blank_notMem_words]

/-- Different values are described by different words. -/
theorem words_inj {v w : Value} (h : v.words = w.words) : v = w := by
  -- Two forms with the same first word have different numbers of words.
  cases v with
  | any =>
    cases w with
    | any => rfl
    | _ => simp [words] at h
  | exactly m =>
    cases w with
    | exactly n => simpa [words, Numeral.written_inj] using h
    | _ => simp [words] at h
  | anyOf ms =>
    cases w with
    | anyOf ns =>
      have hpieces : Text.pieces ' ' (Text.joined ' ' (ms.map written)) =
          Text.pieces ' ' (Text.joined ' ' (ns.map written)) := by simpa [words] using h
      have hjoined := congrArg (Text.joined ' ') hpieces
      rw [Text.joined_pieces, Text.joined_pieces] at hjoined
      exact congrArg anyOf (Numeral.joined_written_inj (by decide) (by decide) hjoined)
    | _ => simp [words] at h
  | range first last =>
    cases w with
    | range first' last' => simpa [words, Numeral.written_inj] using h
    | _ => simp [words] at h
  | every m =>
    cases w with
    | every n => simpa [words, Numeral.written_inj] using h
    | _ => simp [words] at h

/-- Different values have different descriptions. -/
theorem describe_inj {v w : Value} (h : Text.ofString v.describe = .ofString w.describe) :
    v = w := by
  apply words_inj
  rw [← pieces_describe, h, pieces_describe]

end Value

namespace Hover

/-- What stands in front of the colon in the text of a term. -/
def heading (field : Field) : Text := .ofString field.name ++ .ofString " term"

theorem colon_notMem_heading (field : Field) : .char ':' ∉ heading field := by
  cases field <;> decide

theorem heading_inj {field field' : Field} (h : heading field = heading field') :
    field = field' :=
  Field.name_inj (Text.ofString_inj.mp (List.append_cancel_right h))

/-- The text of a term is a heading and a description around a colon. -/
theorem ofTerm_eq (field : Field) (v : Value) :
    ofTerm field v = heading field ++ .char ':' :: .char ' ' :: Text.ofString v.describe := by
  rw [ofTerm, Text.ofString_append, Text.ofString_append, heading, List.append_assoc,
    List.append_assoc]
  rfl

/-- The text of a term tells its field and its value. -/
theorem ofTerm_inj {field field' : Field} {v v' : Value} :
    ofTerm field v = ofTerm field' v' ↔ field = field' ∧ v = v' := by
  constructor
  · intro h
    have hpieces := congrArg (Text.pieces ':') h
    rw [ofTerm_eq, ofTerm_eq, Text.pieces_append_cons (colon_notMem_heading field),
      Text.pieces_append_cons (colon_notMem_heading field')] at hpieces
    obtain rfl := heading_inj (List.cons.inj hpieces).1
    rw [ofTerm_eq, ofTerm_eq] at h
    have hdescribe := (List.cons.inj (List.cons.inj (List.append_cancel_left h)).2).2
    exact ⟨rfl, Value.describe_inj hdescribe⟩
  · rintro ⟨rfl, rfl⟩
    rfl

/-- The text of a command starts with a quotation mark, and no field does. -/
theorem ofTerm_ne_ofCommand (field : Field) (v : Value) (schedule content : Text) :
    ofTerm field v ≠ ofCommand schedule content := by
  intro h
  have hhead := congrArg List.head? h
  rw [ofTerm_eq, ofCommand] at hhead
  cases field <;> exact absurd hhead (by simp [heading, Text.ofString, Field.name])

/-- The text of a term is shown for the terms of its field with its value and for nothing else. -/
theorem describe_eq_ofTerm_iff (tokens : List Token) (token : Token) (field : Field) (v : Value) :
    describe tokens token = some (ofTerm field v) ↔
      ∃ line char content, token = .term line char field (.value v) content := by
  constructor
  · intro h
    cases token with
    | comment line content => exact absurd h nofun
    | term line char field' reading content =>
      obtain ⟨v', hv', hshown⟩ := Option.map_eq_some_iff.mp h
      obtain ⟨rfl, rfl⟩ := ofTerm_inj.mp hshown
      cases reading with
      | value w =>
        obtain rfl := Option.some.inj hv'
        exact ⟨line, char, content, rfl⟩
      | errors es => exact absurd hv' nofun
    | command line char content =>
      exact absurd (Option.some.inj h).symm (ofTerm_ne_ofCommand field v _ content)
  · rintro ⟨line, char, content, rfl⟩
    rfl

/-- The texts of two terms are the same exactly when the fields and the values are, and no command
has the text of a term. Among any tokens, the text of a term is shown for the terms of its field with
its value and for nothing else. -/
theorem ofTerm_identifies (field : Field) (v : Value) :
    (∀ field' v', ofTerm field v = ofTerm field' v' ↔ field = field' ∧ v = v') ∧
      (∀ schedule content, ofTerm field v ≠ ofCommand schedule content) ∧
      ∀ tokens token, describe tokens token = some (ofTerm field v) ↔
        ∃ line char content, token = .term line char field (.value v) content :=
  ⟨fun _ _ => ofTerm_inj, ofTerm_ne_ofCommand field v,
    fun tokens token => describe_eq_ofTerm_iff tokens token field v⟩

/-- A list is told from a single number even if it holds only that number or none. -/
example : (Value.anyOf []).describe = "at any of " ∧ (Value.anyOf [5]).describe = "at any of 5" ∧
    (Value.exactly 5).describe = "at 5" := by
  decide

end Hover

end Crontab
