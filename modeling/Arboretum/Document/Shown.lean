import Arboretum.Document
import Arboretum.Number.Decimal
import Arboretum.Text.Quoted

/-!
Documents as messages show them. A text stands for itself, but within a list or a
record it is put in quotation marks.
-/

namespace Arboretum.Document

set_option autoImplicit false

mutual

def shownInside : Document → String
  | .absent => "None"
  | .text value => Text.quoted value
  | .whole value => toString value
  | .real value => Number.shortestText value
  | .truth value => if value then "True" else "False"
  | .list items => "[" ++ String.intercalate ", " (shownItems items) ++ "]"
  | .record fields => "\x7b" ++ String.intercalate ", " (shownFields fields) ++ "\x7d"

def shownItems : List Document → List String
  | [] => []
  | item :: rest => shownInside item :: shownItems rest

def shownFields : List (String × Document) → List String
  | [] => []
  | (key, value) :: rest => (Text.quoted key ++ ": " ++ shownInside value) :: shownFields rest

end

def shown : Document → String
  | .text value => value
  | other => shownInside other

end Arboretum.Document
