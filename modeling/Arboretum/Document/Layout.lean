import Arboretum.Document
import Arboretum.Number.Decimal

/-!
Documents as text, either on one line or indented. Only plain characters occur in the text: any
other character is written by its code units.
-/

namespace Arboretum.Document

set_option autoImplicit false

def unitText (unit : Nat) : List Char :=
  let digits := Nat.toDigits 16 unit
  '\\' :: 'u' :: (List.replicate (4 - digits.length) '0' ++ digits)

def escaped (symbol : Char) : List Char :=
  if symbol = '"' ∨ symbol = '\\' then ['\\', symbol]
  else if symbol = '\n' then ['\\', 'n']
  else if symbol = '\r' then ['\\', 'r']
  else if symbol = '\t' then ['\\', 't']
  else if symbol.toNat = 8 then ['\\', 'b']
  else if symbol.toNat = 12 then ['\\', 'f']
  else if ' ' ≤ symbol ∧ symbol ≤ '~' then [symbol]
  else if symbol.toNat < 0x10000 then unitText symbol.toNat
  else
    let rest := symbol.toNat - 0x10000
    unitText (0xD800 + rest / 0x400) ++ unitText (0xDC00 + rest % 0x400)

def textLiteral (value : String) : String :=
  String.ofList ('"' :: value.toList.flatMap escaped ++ ['"'])

def realLiteral (value : Float) : String :=
  if value.isNaN then "NaN"
  else if value.isFinite then Number.shortestText value
  else if value < 0.0 then "-Infinity"
  else "Infinity"

def lineBreak (depth : Nat) : String := String.ofList ('\n' :: List.replicate (2 * depth) ' ')

def bracketed (opening closing : String) (items : List String) : String :=
  opening ++ String.intercalate "," items ++ closing

def block (opening closing : String) (depth : Nat) (items : List String) : String :=
  if items.isEmpty then opening ++ closing
  else
    opening ++ lineBreak (depth + 1) ++
      String.intercalate ("," ++ lineBreak (depth + 1)) items ++ lineBreak depth ++ closing

def openBrace : String := "\x7b"

def closeBrace : String := "\x7d"

mutual

def layoutAt (depth : Nat) : Document → String
  | .absent => "null"
  | .text value => textLiteral value
  | .whole value => toString value
  | .real value => realLiteral value
  | .truth value => if value then "true" else "false"
  | .list items => block "[" "]" depth (itemsAt (depth + 1) items)
  | .record fields => block openBrace closeBrace depth (fieldsAt (depth + 1) fields)

def itemsAt (depth : Nat) : List Document → List String
  | [] => []
  | item :: rest => layoutAt depth item :: itemsAt depth rest

def fieldsAt (depth : Nat) : List (String × Document) → List String
  | [] => []
  | (key, value) :: rest =>
      (textLiteral key ++ ": " ++ layoutAt depth value) :: fieldsAt depth rest

end

def layout (document : Document) : String := layoutAt 0 document

mutual

def line : Document → String
  | .absent => "null"
  | .text value => textLiteral value
  | .whole value => toString value
  | .real value => realLiteral value
  | .truth value => if value then "true" else "false"
  | .list items => bracketed "[" "]" (itemLines items)
  | .record fields => bracketed openBrace closeBrace (fieldLines fields)

def itemLines : List Document → List String
  | [] => []
  | item :: rest => line item :: itemLines rest

def fieldLines : List (String × Document) → List String
  | [] => []
  | (key, value) :: rest => (textLiteral key ++ ":" ++ line value) :: fieldLines rest

end

end Arboretum.Document
