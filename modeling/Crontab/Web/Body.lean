import Crontab.Web.Framework

/-!
# Bodies

What the body of a request says: it is checked for the fields that the request needs.
-/

namespace Crontab.Web

namespace Content

/-- The text in the fields of a body. -/
def textField (fields : List (Text × Json)) : Checked Text :=
  Checked.required ["body", "text"] (.object fields) Json.asText (Json.lookup? fields "text")

/-- The document id in the fields of a body, if one is given. -/
def idField (fields : List (Text × Json)) : Checked (Option Text) :=
  Checked.optional ["body", "document_id"] none (Json.orNull Json.asText)
    (Json.lookup? fields "document_id")

/-- What a request to open a document says: the text, and the id if the client has chosen one. -/
structure Opening where
  /-- The text. -/
  text : Text
  /-- The id. -/
  id : Option Text
  deriving DecidableEq, Repr

/-- The text that a body brings. -/
def text (content : Content) : Checked Text :=
  match content.fields with
  | .ok fields => textField fields
  | .failed ps => .failed ps

/-- The request to open a document that a body brings. An empty id is no choice. -/
def opening (content : Content) : Checked Opening :=
  match content.fields with
  | .ok fields =>
    (fun text id => ⟨text, id.filter (· ≠ [])⟩) <$> textField fields <*> idField fields
  | .failed ps => .failed ps

end Content

end Crontab.Web
