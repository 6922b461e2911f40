import Crontab.Numeral
import Crontab.Web.Request

/-!
# The body limit

A request may not bring more than `maxBody` bytes. The announced length is looked at first, whatever
the method. Then the bytes are counted as they arrive, for the methods that send a body, and it is
noticed if the client goes before there are too many. The bytes of other methods are not waited for.
-/

namespace Crontab.Web.Limit

/-- The most bytes that a body may have. -/
def maxBody : Nat := 1048576

/-- The most digits that an announced length may have. -/
def maxDigits : Nat := 4300

/-- What a header says about the length of the body. -/
inductive Announced where
  /-- Nothing that looks like a number. -/
  | nothing
  /-- A number. -/
  | length (n : Nat)
  /-- Something that looks like a number and cannot be read as one. -/
  | unreadable
  deriving DecidableEq, Repr

/-- The superscripts among the first 256 characters, which look like digits. -/
def superscripts : List CodePoint := ['²', '³', '¹']

/-- A code point looks like a digit. -/
def isDigitLike (c : CodePoint) : Bool := c.isDigit || superscripts.contains c

/-- What a header says. -/
def announced (header : Text) : Announced :=
  if header.isEmpty || !header.all isDigitLike then .nothing
  else if header.all CodePoint.isDigit && header.length ≤ maxDigits then
    .length (Numeral.value header)
  else .unreadable

/-- The methods whose bodies are counted. -/
def countedMethods : List String := ["POST", "PUT", "PATCH"]

/-- Collects the chunks of a body while they fit. The chunks taken are kept latest first. -/
def collect (taken : List (List UInt8)) (total : Nat) : List (List UInt8) → Option (List UInt8)
  | [] => some taken.reverse.flatten
  | chunk :: chunks =>
    if total + chunk.length ≤ maxBody then collect (chunk :: taken) (total + chunk.length) chunks
    else none

/-- What the limit makes of a request. -/
inductive Verdict where
  /-- The body is too large. -/
  | tooLarge
  /-- The announced length cannot be read. -/
  | unreadable
  /-- The client is gone before the body is whole. -/
  | abandoned
  /-- The request may go on, with this body. -/
  | admitted (body : List UInt8)
  deriving DecidableEq, Repr

/-- Counts the body, if the method has its body counted. -/
def count (request : Request) : Verdict :=
  if countedMethods.contains request.method then
    match collect [] 0 request.arrival.chunks with
    | some body => if request.arrival.isBroken then .abandoned else .admitted body
    | none => .tooLarge
  else .admitted request.arrival.bytes

/-- What the limit makes of a request. -/
def verdict (request : Request) : Verdict :=
  match request.contentLength.map announced with
  | some .unreadable => .unreadable
  | some (.length n) => if maxBody < n then .tooLarge else count request
  | _ => count request

end Crontab.Web.Limit
