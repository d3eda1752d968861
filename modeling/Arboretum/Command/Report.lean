import Arboretum.Document.Layout
import Arboretum.Fault
import Arboretum.Journal
import Arboretum.Text.Line
import Arboretum.Text.Styling

/-!
What a command leaves behind: the remarks made while it ran, its exit code and its output.
-/

namespace Arboretum

set_option autoImplicit false

inductive CommandOutput where
  | lines (text : List String)
  | document (content : Document)

namespace CommandOutput

def printed : CommandOutput → String
  | .lines text => String.join (text.map (· ++ "\n"))
  | .document content => content.layout ++ "\n"

def plainLines (output : CommandOutput) : List String := Text.lines (Text.plain output.printed)

end CommandOutput

structure CommandReport where
  exitCode : Nat
  output : CommandOutput

/-- A command as it went: the remarks made, and the report or what went wrong. -/
structure CommandRun where
  remarks : List (Remark Float)
  outcome : Except Fault CommandReport

namespace CommandReport

def refusedCode : Nat := 1

def usageCode : Nat := 2

def refused : CommandReport := ⟨refusedCode, .lines []⟩

def done (output : CommandOutput) : CommandReport := ⟨0, output⟩

end CommandReport

/-- Goes on with a grown tree. An unknown rule set is remarked on and ends the command with its own
exit code; any other fault is passed on. -/
def CommandRun.ofGrowth {β : Type} (command : CommandName) (remarks : List (Remark Float))
    (outcome : Except Fault β) (next : β → CommandRun) : CommandRun :=
  match outcome with
  | .ok value =>
      let rest := next value
      { rest with remarks := remarks ++ rest.remarks }
  | .error (.unknownRuleSet name known) =>
      let message := (Fault.unknownRuleSet name known).message
      ⟨remarks ++ [.refused command message], .ok .refused⟩
  | .error fault => ⟨remarks, .error fault⟩

end Arboretum
