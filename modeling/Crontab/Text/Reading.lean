import Crontab.Text

/-!
# Reading bytes

How a charset goes through the bytes of a file, and why they may spell no text.
-/

namespace Crontab.Text

/-- Why bytes spell no text. -/
inductive ReadFault where
  /-- Some of the bytes spell nothing. -/
  | bytes
  /-- The bytes as a whole spell nothing. -/
  | whole
  /-- A set of characters is called from a place in which it cannot be. -/
  | set
  deriving DecidableEq, Repr

/-- What reading a byte brings about. -/
structure Step (σ : Type) where
  /-- The state in which the next byte is read. -/
  state : σ
  /-- What is added to the text. -/
  text : Text
  /-- How many of the bytes after this one are used up. -/
  used : Nat

/-- Reads bytes in turn. What is read of a byte depends on a state and on the bytes after it. The
text is kept latest first. -/
def readBytes {σ : Type} (next : σ → Nat → List Nat → Except ReadFault (Step σ)) (state : σ)
    (done : Text) : List Nat → Except ReadFault Text
  | [] => .ok done.reverse
  | byte :: rest =>
    match next state byte rest with
    | .error fault => .error fault
    | .ok step => readBytes next step.state (step.text.reverseAux done) (rest.drop step.used)
termination_by bytes => bytes.length
decreasing_by simp only [List.length_drop, List.length_cons]; omega

end Crontab.Text
