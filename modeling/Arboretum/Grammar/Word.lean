/-!
Words of a growth grammar. A word is a sequence of symbols; square brackets open and close side
branches, and `closingDepth?` follows how deep they nest.
-/

namespace Arboretum

set_option autoImplicit false

abbrev Word : Type := List Char

namespace Word

def bud : Word := ['X']

/-- How many brackets are open after a word, if `depth` of them were open before it and none
is closed that was not open. -/
def closingDepth? (depth : Nat) : Word → Option Nat
  | [] => some depth
  | '[' :: rest => closingDepth? (depth + 1) rest
  | ']' :: rest =>
      match depth with
      | 0 => none
      | depth + 1 => closingDepth? depth rest
  | _ :: rest => closingDepth? depth rest

/-- Every bracket of the word is closed within it, and none is closed that it did not open. -/
def isNested (word : Word) : Bool := closingDepth? 0 word == some 0

end Word

end Arboretum
