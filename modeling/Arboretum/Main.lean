import Arboretum.Command.CommandLine
import Arboretum.LogBook

/-!
The program. It hands the arguments and the environment to the command line, writes the notes where
the loggers put them, prints what comes back, and exits with the code of the report.
-/

namespace Arboretum

set_option autoImplicit false

def configuredNames : List String :=
  Configuration.integerEntries.map IntegerEntry.name ++
    Configuration.realEntries.map RealEntry.name ++
    ["CANOPY_RULE_SET", "CANOPY_RULE_SET_STRATEGY", "CANOPY_LOG_DIR", "CANOPY_LOG_TO_FILE",
      "LOG_LEVEL"]

def processEnvironment : IO Environment := do
  let mut texts : List (String × String) := []
  for name in configuredNames do
    if let some text ← IO.getEnv name then
      texts := texts ++ [(name, text)]
  return ⟨texts⟩

def entropy : IO Int := do
  let bytes ← IO.getRandomBytes 16
  return bytes.toList.foldl (fun value byte => 256 * value + byte.toNat) 0

/-- The home directories in a table of users, which holds the user's name in the first column of a
line and the directory in the sixth. -/
def homesIn (table : String) : List (String × String) :=
  (Text.lines table).filterMap fun line =>
    match line.splitOn ":" with
    | name :: _ :: _ :: _ :: _ :: home :: _ => some (name, home)
    | _ => none

def processPlaces : IO LogBook.Places := do
  let table ← try IO.FS.readFile "/etc/passwd" catch _ => pure ""
  return {
    home := (← IO.getEnv "HOME").getD "/"
    current := (← IO.currentDir).toString
    homesOfUsers := homesIn table }

/-- Adds records to the end of a log file, which exists afterwards even if there are none. -/
def appendRecords (path records : List String) : IO Unit := do
  IO.FS.createDirAll ("/" ++ String.intercalate "/" path.dropLast)
  let handle ← IO.FS.Handle.mk ("/" ++ String.intercalate "/" path) .append
  for record in records do
    handle.putStrLn record

def writeNotes (book : LogBook) (notes : List Note) : IO Unit := do
  let (records, book) := book.writeNotes notes
  for record in records do
    IO.eprintln record
  for (path, records) in book.files do
    appendRecords path records

/-- Writes the notes of a run and its output; the result is the exit code of the process. -/
def finish (book : LogBook) (run : CommandRun) : IO UInt32 := do
  writeNotes book (run.remarks.map Remark.note)
  match run.outcome with
  | .error fault =>
      IO.eprintln fault.message
      return 1
  | .ok report =>
      let output ← IO.getStdout
      let text := report.output.printed
      output.putStr (if ← output.isTty then text else Text.plain text)
      return report.exitCode.toUInt32

end Arboretum

open Arboretum in
def main (arguments : List String) : IO UInt32 := do
  let environment ← processEnvironment
  match LogBook.ofLibrary environment (← processPlaces) with
  | .error fault =>
      IO.eprintln fault.message
      return 1
  | .ok book => finish book (CommandLine.run environment (← entropy) arguments)
