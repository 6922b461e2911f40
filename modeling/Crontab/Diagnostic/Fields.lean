import Crontab.Checked
import Crontab.Diagnostic

/-!
# Diagnostics from fields

A diagnostic can be given by its fields. A severity that is left out is an error.
-/

namespace Crontab.Diagnostic

/-- Reads a severity by its exact name. -/
def asSeverity : Json → Except Flaw Severity
  | .string s =>
    match Severity.ofName? s with
    | some severity => .ok severity
    | none => .error .notMember
  | _ => .error .notMember

/-- The diagnostic with the given fields. -/
def ofFields (fields : List (Text × Json)) : Checked Diagnostic :=
  let get := Json.lookup? fields
  let required {α : Type} (name : String) (read : Json → Except Flaw α) :=
    Checked.required [name] (.object fields) read (get name)
  Diagnostic.mk
    <$> required "line" Json.asInteger
    <*> required "start_char" Json.asInteger
    <*> required "end_char" Json.asInteger
    <*> Checked.optional ["severity"] .error asSeverity (get "severity")
    <*> required "message" Json.asText
    <*> required "source" Json.asText

end Crontab.Diagnostic
