import Arboretum.Number.Reading
import Arboretum.Number.Scalar

/-!
Documents: texts, numbers, truth values, lists and records, as programs exchange them. Whole and
real numbers are told apart, and the fields of a record keep their order.
-/

namespace Arboretum

set_option autoImplicit false

inductive Document where
  | absent
  | text (value : String)
  | whole (value : Int)
  | real (value : Float)
  | truth (value : Bool)
  | list (items : List Document)
  | record (fields : List (String × Document))
  deriving Inhabited

namespace Document

def items : Document → List Document
  | .list items => items
  | _ => []

def fields : Document → List (String × Document)
  | .record fields => fields
  | _ => []

def hasField (document : Document) (key : String) : Bool :=
  document.fields.any fun field => field.1 == key

def field? (document : Document) (key : String) : Option Document :=
  match document.fields.find? fun field => field.1 == key with
  | some (_, .absent) => none
  | some (_, value) => some value
  | none => none

def field (document : Document) (key : String) : Document := (document.field? key).getD .absent

def item (document : Document) (index : Nat) : Document :=
  (document.items[index]?).getD .absent

def asText : Document → String
  | .text value => value
  | _ => ""

def asWhole : Document → Int
  | .whole value => value
  | .real value => Scalar.integerPart value
  | .truth value => if value then 1 else 0
  | _ => 0

def asReal : Document → Except Fault Float
  | .whole value => Scalar.ofInt value
  | .real value => .ok value
  | .truth value => .ok (if value then 1.0 else 0.0)
  | .text value => .ok ((Number.readReal? value).getD 0.0)
  | _ => .ok 0.0

def asTruth (usual : Bool) : Document → Bool
  | .truth value => value
  | _ => usual

end Document

end Arboretum
