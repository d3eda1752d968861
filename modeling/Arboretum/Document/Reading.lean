import Arboretum.Document

/-!
Documents read from text. A number with a point or an exponent is real and any other is whole; a
character may be written by its code units.
-/

namespace Arboretum.Document

set_option autoImplicit false

def afterBlanks (text : List Char) : List Char :=
  text.dropWhile fun symbol => symbol = ' ' ∨ symbol = '\t' ∨ symbol = '\n' ∨ symbol = '\r'

def hexValue (symbol : Char) : Nat :=
  if '0' ≤ symbol ∧ symbol ≤ '9' then symbol.toNat - 48
  else if 'a' ≤ symbol ∧ symbol ≤ 'f' then symbol.toNat - 87
  else if 'A' ≤ symbol ∧ symbol ≤ 'F' then symbol.toNat - 55
  else 0

def unitOf (first second third fourth : Char) : Nat :=
  ((hexValue first * 16 + hexValue second) * 16 + hexValue third) * 16 + hexValue fourth

def escapedSymbol (letter : Char) : Char :=
  if letter = 'n' then '\n'
  else if letter = 't' then '\t'
  else if letter = 'r' then '\r'
  else if letter = 'b' then Char.ofNat 8
  else if letter = 'f' then Char.ofNat 12
  else letter

def replacementSymbol : Char := Char.ofNat 0xFFFD

def symbolOfUnit (unit : Nat) : Char :=
  if 0xD800 ≤ unit ∧ unit < 0xE000 then replacementSymbol else Char.ofNat unit

/-- Reads a text up to its closing mark; `passed` are the characters read so far, the last one
first. -/
def readTextFrom (passed : List Char) : List Char → Option (String × List Char)
  | '"' :: rest => some (String.ofList passed.reverse, rest)
  | '\\' :: 'u' :: a :: b :: c :: d :: '\\' :: 'u' :: e :: f :: g :: h :: rest =>
      let unit := unitOf a b c d
      let next := unitOf e f g h
      if 0xD800 ≤ unit ∧ unit < 0xDC00 ∧ 0xDC00 ≤ next ∧ next < 0xE000 then
        readTextFrom
          (Char.ofNat (0x10000 + (unit - 0xD800) * 0x400 + (next - 0xDC00)) :: passed) rest
      else
        readTextFrom (symbolOfUnit unit :: passed) ('\\' :: 'u' :: e :: f :: g :: h :: rest)
  | '\\' :: 'u' :: a :: b :: c :: d :: rest =>
      readTextFrom (symbolOfUnit (unitOf a b c d) :: passed) rest
  | '\\' :: letter :: rest => readTextFrom (escapedSymbol letter :: passed) rest
  | symbol :: rest => readTextFrom (symbol :: passed) rest
  | [] => none
  termination_by text => text.length

def isNumberSymbol (symbol : Char) : Bool :=
  symbol.isDigit || symbol == '-' || symbol == '+' || symbol == '.' || symbol == 'e' ||
    symbol == 'E'

def readNumber? (symbols : List Char) : Option Document :=
  let text := String.ofList symbols
  if symbols.any fun symbol => symbol == '.' || symbol == 'e' || symbol == 'E' then
    (Number.readReal? text).map .real
  else
    let digits := symbols.filter Char.isDigit
    let size := Number.valueOfDigits (digits.map fun digit => digit.toNat - 48)
    if digits.isEmpty then none
    else some (.whole (Number.Binary64.signed (symbols.head? == some '-') size))

def readAtom? (text : List Char) : Option (Document × List Char) :=
  if "true".toList.isPrefixOf text then some (.truth true, text.drop 4)
  else if "false".toList.isPrefixOf text then some (.truth false, text.drop 5)
  else if "null".toList.isPrefixOf text then some (.absent, text.drop 4)
  else
    (readNumber? (text.takeWhile isNumberSymbol)).map fun number =>
      (number, text.dropWhile isNumberSymbol)

def isOpenBrace (symbol : Char) : Bool := symbol.toNat == 0x7B

def isCloseBrace (symbol : Char) : Bool := symbol.toNat == 0x7D

mutual

def readWithin : Nat → List Char → Option (Document × List Char)
  | 0, _ => none
  | fuel + 1, symbols =>
      match afterBlanks symbols with
      | '"' :: rest => (readTextFrom [] rest).map fun (value, rest) => (.text value, rest)
      | '[' :: rest =>
          match afterBlanks rest with
          | ']' :: rest => some (.list [], rest)
          | rest => readItemsWithin fuel [] rest
      | symbol :: rest =>
          if isOpenBrace symbol then
            match afterBlanks rest with
            | next :: more =>
                if isCloseBrace next then some (.record [], more)
                else readFieldsWithin fuel [] (next :: more)
            | [] => none
          else readAtom? (symbol :: rest)
      | [] => none

/-- Reads the items of a list up to its end; `passed` are those read so far, the last one first. -/
def readItemsWithin : Nat → List Document → List Char → Option (Document × List Char)
  | 0, _, _ => none
  | fuel + 1, passed, symbols =>
      match readWithin fuel symbols with
      | none => none
      | some (item, rest) =>
          match afterBlanks rest with
          | ',' :: rest => readItemsWithin fuel (item :: passed) rest
          | ']' :: rest => some (.list (item :: passed).reverse, rest)
          | _ => none

def readFieldsWithin :
    Nat → List (String × Document) → List Char → Option (Document × List Char)
  | 0, _, _ => none
  | fuel + 1, passed, symbols => do
      match afterBlanks symbols with
      | '"' :: rest =>
          let (key, rest) ← readTextFrom [] rest
          match afterBlanks rest with
          | ':' :: rest =>
              let (value, rest) ← readWithin fuel rest
              match afterBlanks rest with
              | ',' :: rest => readFieldsWithin fuel ((key, value) :: passed) rest
              | symbol :: rest =>
                  if isCloseBrace symbol then some (.record ((key, value) :: passed).reverse, rest)
                  else none
              | [] => none
          | _ => none
      | _ => none

end

def read? (text : String) : Option Document :=
  let symbols := text.toList
  (readWithin (2 * symbols.length + 2) symbols).map Prod.fst

end Arboretum.Document
