import Crontab.Text

/-!
# Requests

A request to the web service, with the parts of it that an answer can depend on.
-/

namespace Crontab.Web

/-- How the body of a request arrives. It comes in chunks, of which any may be empty. -/
inductive Arrival where
  /-- These chunks come, and with them the whole body. -/
  | whole (chunks : List (List UInt8))
  /-- These chunks come, and then the client is gone, although the body goes on. -/
  | broken (chunks : List (List UInt8))
  deriving DecidableEq, Repr

namespace Arrival

/-- The chunks that come. -/
def chunks : Arrival → List (List UInt8)
  | whole chunks | broken chunks => chunks

/-- The bytes that come. -/
def bytes (arrival : Arrival) : List UInt8 := arrival.chunks.flatten

/-- The client is gone before the body is whole. -/
def isBroken : Arrival → Bool
  | whole _ => false
  | broken _ => true

end Arrival

/-- A request. -/
structure Request where
  /-- The method. -/
  method : String
  /-- The host that was addressed. -/
  host : Text
  /-- The path, with its escapes undone. What escapes give is a text without surrogates on their own,
  so no client can send a path that has one. -/
  path : Text
  /-- The query as it was sent, without the question mark. -/
  query : Text
  /-- The media type announced for the body. -/
  contentType : Option Text
  /-- The length announced for the body. -/
  contentLength : Option Text
  /-- The body. -/
  arrival : Arrival
  deriving DecidableEq, Repr

end Crontab.Web
