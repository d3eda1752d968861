/-!
Styling of text on a terminal. A control sequence starts with an escape character and an opening
square bracket, goes on with parameters and ends with a letter; text that is not meant for a
terminal leaves such sequences out.
-/

namespace Arboretum.Text

set_option autoImplicit false

def isControlParameter (symbol : Char) : Bool := symbol.isDigit || symbol == ';' || symbol == '?'

def afterControl? : (text : List Char) → Option { rest : List Char // rest.length < text.length }
  | '\x1b' :: '[' :: tail =>
      match ending : tail.dropWhile isControlParameter with
      | [] => none
      | letter :: rest =>
          if letter.isAlpha then
            some ⟨rest, by
              have bound := (List.dropWhile_suffix isControlParameter (l := tail)).length_le
              simp only [ending, List.length_cons] at bound ⊢
              omega⟩
          else none
  | _ => none

def withoutControls : List Char → List Char
  | [] => []
  | symbol :: rest =>
      match afterControl? (symbol :: rest) with
      | some after => withoutControls after.1
      | none => symbol :: withoutControls rest
termination_by text => text.length
decreasing_by
  · exact after.2
  · simp

def plain (text : String) : String := String.ofList (withoutControls text.toList)

end Arboretum.Text
