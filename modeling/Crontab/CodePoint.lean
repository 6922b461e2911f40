/-!
# Code points

What text is made of. Nearly every code point is a character. The others are surrogates: halves of
the pairs in which some notations write a character, and which such a notation can also bring alone.
A surrogate on its own belongs to no class of characters.
-/

namespace Crontab

/-- A unit of text. -/
inductive CodePoint where
  /-- A character. -/
  | char (c : Char)
  /-- A surrogate on its own, by its distance from the first one. -/
  | surrogate (n : Fin 2048)
  deriving DecidableEq, Repr

namespace CodePoint

instance : Coe Char CodePoint := ⟨.char⟩

/-- The number of the first surrogate. -/
def firstSurrogate : Nat := 0xD800

/-- The number of a code point. -/
def code : CodePoint → Nat
  | .char c => c.toNat
  | .surrogate n => firstSurrogate + n

/-- The code point of a number. -/
def ofCode (n : Nat) : CodePoint :=
  if h : firstSurrogate ≤ n ∧ n < firstSurrogate + 2048 then
    .surrogate ⟨n - firstSurrogate, by omega⟩
  else .char (Char.ofNat n)

/-- Code points are ordered by number. -/
instance : Ord CodePoint := ⟨fun a b => compare a.code b.code⟩

/-- The character that a code point is, if it is one. -/
def char? : CodePoint → Option Char
  | .char c => some c
  | .surrogate _ => none

/-- A code point is a character of a class. -/
def isIn (p : Char → Bool) (c : CodePoint) : Bool := c.char?.any p

/-- A code point is an ASCII digit. -/
def isDigit : CodePoint → Bool := isIn Char.isDigit

/-- A code point with a map of characters applied to it. A surrogate stays as it is. -/
def map (f : Char → Char) : CodePoint → CodePoint
  | .char c => .char (f c)
  | .surrogate n => .surrogate n

/-- The lower case of an ASCII letter; any other code point is its own. -/
def asciiLower : CodePoint → CodePoint := map Char.toLower

@[simp] theorem code_char (c : Char) : (char c).code = c.toNat := rfl

/-- A surrogate is found again by its number. -/
theorem ofCode_code_surrogate (n : Fin 2048) : ofCode (surrogate n).code = surrogate n := by
  have h : firstSurrogate ≤ firstSurrogate + n.val ∧
      firstSurrogate + n.val < firstSurrogate + 2048 := by omega
  simp [ofCode, code, h]

/-- A character is found again by its number. -/
theorem ofCode_code_char (c : Char) : ofCode (char c).code = char c := by
  have h : ¬(firstSurrogate ≤ c.toNat ∧ c.toNat < firstSurrogate + 2048) := by
    have valid := c.valid
    simp only [UInt32.isValidChar, Nat.isValidChar] at valid
    simp only [firstSurrogate, Char.toNat, UInt32.toNat] at *
    omega
  rw [ofCode, code, dif_neg h, Char.ofNat_toNat]

/-- Every code point is found again by its number. -/
theorem ofCode_code (c : CodePoint) : ofCode c.code = c := by
  cases c with
  | char c => exact ofCode_code_char c
  | surrogate n => exact ofCode_code_surrogate n

@[simp] theorem isDigit_char (c : Char) : (char c).isDigit = c.isDigit := rfl

@[simp] theorem isDigit_surrogate (n : Fin 2048) : (surrogate n).isDigit = false := rfl

end CodePoint

end Crontab
