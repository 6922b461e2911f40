import Crontab.Field
import Crontab.Text.Quoted

/-!
# Fields by name

Finding a field by its name, with an error that quotes a name that no field has.
-/

namespace Crontab.Field

/-- A name that no field has. -/
structure Unknown where
  /-- The name. -/
  name : Text
  deriving DecidableEq, Repr

/-- The message that reports an unknown name. -/
def Unknown.message (e : Unknown) : Text :=
  Text.Quoted.quote e.name ++ Text.ofString " is not a valid FieldKind"

/-- The field of a given name. -/
def ofName (name : Text) : Except Unknown Field :=
  match ofName? name with
  | some field => .ok field
  | none => .error ⟨name⟩

end Crontab.Field
