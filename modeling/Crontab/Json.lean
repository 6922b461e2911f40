import Crontab.Decimal

/-!
# JSON values

The values that requests and answers are made of. Numbers without a fraction are exact integers; any
other number is kept as it is written. The names of an object are distinct.
-/

namespace Crontab

/-- A JSON value. -/
inductive Json where
  /-- Nothing. -/
  | null
  /-- A truth value. -/
  | bool (b : Bool)
  /-- A number without a fraction. -/
  | int (n : Int)
  /-- Any other number. -/
  | real (d : Decimal)
  /-- The word for a number beyond all others. -/
  | infinity (negative : Bool)
  /-- The word for what is no number. -/
  | nan
  /-- A text. -/
  | string (s : Text)
  /-- A list of values. -/
  | array (items : List Json)
  /-- Values under names. -/
  | object (fields : List (Text × Json))

namespace Json

/-- A string as a value. -/
def word (s : String) : Json := .string (.ofString s)

/-- The object with the given fields. -/
def named (fields : List (String × Json)) : Json :=
  .object (fields.map fun field => (.ofString field.1, field.2))

/-- The value under a name. -/
def lookup? (fields : List (Text × Json)) (name : String) : Option Json :=
  fields.lookup (.ofString name)

/-- The text of a value that is one. -/
def text? : Json → Option Text
  | .string s => some s
  | _ => none

/-- A value is a number, as which a truth value counts too. -/
def isNumber : Json → Bool
  | .bool _ | .int _ | .real _ | .infinity _ | .nan => true
  | _ => false

/-- A value says yes if it is neither null nor false nor zero nor empty. -/
def saysYes : Json → Bool
  | .null => false
  | .bool b => b
  | .int n => n ≠ 0
  | .real d => !(d.whole ++ d.fraction).all (· = .char '0')
  | .infinity _ | .nan => true
  | .string s => !s.isEmpty
  | .array items => !items.isEmpty
  | .object fields => !fields.isEmpty

/-- The values in one that holds several. Those in an object are its names. -/
def members? : Json → Option (List Json)
  | .array items => some items
  | .object fields => some (fields.map fun field => .string field.1)
  | _ => none

/-- A list of strings. -/
def words (ss : List String) : Json := .array (ss.map word)

/-- A list of numbers. -/
def ints (ns : List Int) : Json := .array (ns.map .int)

mutual

/-- Every value that is no container passes one test, and every name another. -/
def all (leaf : Json → Bool) (name : Text → Bool) : Json → Bool
  | .array items => allItems leaf name items
  | .object fields => allFields leaf name fields
  | v => leaf v

/-- Every item of a list passes the tests. -/
def allItems (leaf : Json → Bool) (name : Text → Bool) : List Json → Bool
  | [] => true
  | v :: rest => v.all leaf name && allItems leaf name rest

/-- Every field of an object passes the tests. -/
def allFields (leaf : Json → Bool) (name : Text → Bool) : List (Text × Json) → Bool
  | [] => true
  | (n, v) :: rest => name n && v.all leaf name && allFields leaf name rest

end

/-- The items of a list pass when each of them does. -/
theorem allItems_eq_all (leaf : Json → Bool) (name : Text → Bool) (items : List Json) :
    allItems leaf name items = items.all (all leaf name) := by
  induction items with
  | nil => rw [allItems, List.all_nil]
  | cons v rest ih => rw [allItems, List.all_cons, ih]

/-- The fields of an object pass when each of them does. -/
theorem allFields_eq_all (leaf : Json → Bool) (name : Text → Bool) (fields : List (Text × Json)) :
    allFields leaf name fields = fields.all fun f => name f.1 && f.2.all leaf name := by
  induction fields with
  | nil => rw [allFields, List.all_nil]
  | cons f rest ih => rw [allFields, List.all_cons, ih]

/-- No text in a value has a surrogate on its own. -/
def isSpelled : Json → Bool :=
  let leaf : Json → Bool
    | .string s => s.isSpelled
    | _ => true
  all leaf Text.isSpelled

@[simp] theorem isSpelled_null : null.isSpelled = true := rfl

@[simp] theorem isSpelled_bool (b : Bool) : (bool b).isSpelled = true := rfl

@[simp] theorem isSpelled_int (n : Int) : (int n).isSpelled = true := rfl

@[simp] theorem isSpelled_string (s : Text) : (string s).isSpelled = s.isSpelled := by
  simp [isSpelled, all]

@[simp] theorem isSpelled_word (s : String) : (word s).isSpelled = true := by
  simp [word]

@[simp] theorem isSpelled_array (items : List Json) :
    (array items).isSpelled = items.all isSpelled := by
  simp only [isSpelled, all, allItems_eq_all]

/-- The names of a given object are strings, so only its values matter. -/
@[simp] theorem isSpelled_named (fields : List (String × Json)) :
    (named fields).isSpelled = fields.all fun f => f.2.isSpelled := by
  simp [named, isSpelled, all, allFields_eq_all, List.all_map, Function.comp_def]

/-- Why a value cannot be repeated in a report. -/
inductive Obstacle where
  /-- It is nested too deep. -/
  | depth
  /-- A number in it is not one that a double can hold. -/
  | number
  /-- A text in it has a surrogate on its own. -/
  | text
  deriving DecidableEq, Repr

/-- A report leaves out the fields whose names start as those of internal state do. -/
def isReported (name : Text) : Bool := !(Text.ofString "_sa").isPrefixOf name

/-- What matters of values for repeating them in a report. They are copied first, then written in
order, and their texts are looked at last. -/
structure Extent where
  /-- How many levels they have. A value that is no container is a level of its own. -/
  levels : Nat
  /-- The most containers that are open at a time, up to a number that cannot be written. -/
  nesting : Nat
  /-- Every number can be written. -/
  isNumeric : Bool
  /-- No text has a surrogate on its own. -/
  isSpelled : Bool
  deriving DecidableEq, Repr

namespace Extent

/-- The extent of no value. -/
def empty : Extent := ⟨0, 0, true, true⟩

/-- The extent of values and of others that come after them. -/
def append (a b : Extent) : Extent where
  levels := max a.levels b.levels
  nesting := if a.isNumeric then max a.nesting b.nesting else a.nesting
  isNumeric := a.isNumeric && b.isNumeric
  isSpelled := a.isSpelled && b.isSpelled

instance : Append Extent := ⟨append⟩

/-- The extent of a container with values. -/
def held (a : Extent) : Extent := { a with levels := a.levels + 1, nesting := a.nesting + 1 }

/-- The extent of a value with its name. -/
def under (name : Text) (a : Extent) : Extent :=
  { a with isSpelled := name.isSpelled && a.isSpelled }

/-- What keeps values from being repeated, when copying can reach `levels` levels and writing can
have `nesting` containers open. -/
def obstacle? (levels nesting : Nat) (a : Extent) : Option Obstacle :=
  if levels < a.levels || nesting < a.nesting then some .depth
  else if !a.isNumeric then some .number
  else if !a.isSpelled then some .text
  else none

@[simp] theorem empty_append (a : Extent) : empty ++ a = a := by
  simp [HAppend.hAppend, Append.append, append, empty]

end Extent

mutual

/-- The extent of a value. -/
def extent : Json → Extent
  | .array items => (extentItems items).held
  | .object fields => (extentFields fields).held
  | .real d => ⟨1, 0, !d.overflows, true⟩
  | .infinity _ | .nan => ⟨1, 0, false, true⟩
  | .string s => ⟨1, 0, true, s.isSpelled⟩
  | _ => ⟨1, 0, true, true⟩

/-- The extent of the items of a list. -/
def extentItems : List Json → Extent
  | [] => .empty
  | v :: rest => v.extent ++ extentItems rest

/-- The extent of the fields of an object that are reported. -/
def extentFields : List (Text × Json) → Extent
  | [] => .empty
  | (name, v) :: rest =>
    if isReported name then v.extent.under name ++ extentFields rest else extentFields rest

end

end Json

end Crontab
