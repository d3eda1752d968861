import Arboretum.Entries
import Arboretum.Environment
import Arboretum.Journal
import Arboretum.Text.Line

/-!
Where notes go. A logger that is asked for is set up from the environment: it writes to the console
and, unless that is turned off, to a file of its own. A logger that already has outlets only takes
the configured level. Loggers with dotted names have parents among the loggers that are known: a
logger without a level takes that of its nearest ancestor with one, and a logger that was not set up
here passes its notes on to the outlets of its ancestors.
-/

namespace Arboretum

set_option autoImplicit false

inductive OutletKind where
  | console
  | file (path : List String)
  | silent
  deriving DecidableEq, Repr

structure Outlet where
  kind : OutletKind
  level : Int
  deriving DecidableEq, Repr

structure LoggerState where
  level : Int
  propagates : Bool
  outlets : List Outlet
  /-- The name of the logger above; the root logger has none. -/
  parent : Option String
  deriving Repr

/-- The directories that log directories are told from. -/
structure LogBook.Places where
  home : String
  current : String
  homesOfUsers : List (String × String)

/-- Loggers by name, with the records that their files hold. The root logger has the empty name. -/
structure LogBook where
  loggers : Entries String LoggerState
  /-- Names above known loggers that nobody has asked for yet, with the loggers
  that would come below them. -/
  awaited : Entries String (List String)
  files : Entries (List String) (List String)
  deriving Repr

namespace LogBook

def levelRanks : List (String × Int) :=
  [
    ("CRITICAL", 50), ("FATAL", 50), ("ERROR", 40), ("WARNING", 30), ("WARN", 30), ("INFO", 20),
    ("DEBUG", 10), ("NOTSET", 0)
  ]

def infoRank : Int := 20

def warningRank : Int := 30

def templateName : String := "BASIC_FORMAT"

def template : String := "%(levelname)s:%(name)s:%(message)s"

def stylesName : String := "_STYLES"

/-- The list of format styles as it is written out, each style with its mark and its template. -/
def styles : String :=
  "\x7b'%': (<class 'logging.PercentStyle'>, '%(levelname)s:%(name)s:%(message)s'), " ++
    "'\x7b': (<class 'logging.StrFormatStyle'>, " ++
    "'\x7blevelname\x7d:\x7bname\x7d:\x7bmessage\x7d'), " ++
    "'$': (<class 'logging.StringTemplateStyle'>, " ++
    "'$\x7blevelname\x7d:$\x7bname\x7d:$\x7bmessage\x7d')\x7d"

/-- The rank of a level text, in any letter case; a text that names no level stands for the usual
one. -/
def rankOfText (text : String) : Except Fault Int :=
  let name := String.ofList (text.toList.flatMap Text.basicCapitals)
  if name = templateName then .error (.templateAsLevel template)
  else if name = stylesName then .error (.stylesAsLevel styles)
  else
    match levelRanks.find? fun entry => entry.1 == name with
    | some entry => .ok entry.2
    | none => .ok infoRank

def levelName (rank : Int) : String :=
  if rank = 50 then "CRITICAL"
  else if rank = 40 then "ERROR"
  else if rank = 30 then "WARNING"
  else if rank = 20 then "INFO"
  else if rank = 10 then "DEBUG"
  else "Level " ++ toString rank

def withoutDotPairs : List Char → List Char
  | '.' :: '.' :: rest => '.' :: withoutDotPairs rest
  | symbol :: rest => symbol :: withoutDotPairs rest
  | [] => []

def displayName (name : String) : String := if name.isEmpty then "root" else name

def keyOf (name : String) : String := if name = "root" then "" else name

def fileName (name : String) : String :=
  let strokesReplaced := (displayName name).toList.map fun symbol =>
    if symbol = '/' then '_' else symbol
  let dotsReplaced :=
    (withoutDotPairs strokesReplaced).map fun symbol => if symbol = '.' then '_' else symbol
  String.ofList dotsReplaced ++ ".log"

def namesOf (path : String) : List String :=
  (path.splitOn "/").filter fun name => name != "" && name != "."

def componentsOf (path : String) : List String :=
  (namesOf path).foldl
    (fun components name => if name = ".." then components.dropLast else components ++ [name]) []

def isAbsolute (path : String) : Bool := path.toList.head? == some '/'

def absolute (places : Places) (path : String) : String :=
  if isAbsolute path then path else places.current ++ "/" ++ path

/-- The directory that a name with a tilde in front stands for: the home directory, or that of a
user. -/
def homeNamed (places : Places) (name : String) : Except Fault String :=
  let home :=
    if name = "~" then if places.home.isEmpty then "/" else places.home
    else ((places.homesOfUsers.find? fun user => "~" ++ user.1 == name).map Prod.snd).getD name
  if home.toList.head? = some '~' then .error .homeUnknown else .ok home

/-- The directory of the log files when none is configured. -/
def usualDirectory : String := "~/.canopy/logs"

/-- The directory of the log files. A tilde in front of the first name of a relative path stands for
a home directory. -/
def directory (environment : Environment) (places : Places) : Except Fault (List String) := do
  let configured := (environment.text? "CANOPY_LOG_DIR").getD ""
  let path := if configured.isEmpty then usualDirectory else configured
  if isAbsolute path then return componentsOf path
  match namesOf path with
  | [] => return componentsOf (absolute places path)
  | first :: rest =>
      let start ← if first.toList.head? = some '~' then homeNamed places first else pure first
      return componentsOf (absolute places (String.intercalate "/" (start :: rest)))

def fileLogging : FlagEntry := ⟨"CANOPY_LOG_TO_FILE", true⟩

def empty : LogBook := ⟨[("", ⟨warningRank, true, [], none⟩)], [], []⟩

def logger (book : LogBook) (name : String) : LoggerState :=
  (book.loggers.find? name).getD ⟨0, true, [], some ""⟩

def setLogger (name : String) (state : LoggerState) (book : LogBook) : LogBook :=
  { book with loggers := book.loggers.put name state }

def isKnown (book : LogBook) (name : String) : Bool := (book.loggers.find? name).isSome

/-- The names above a name, both read backwards, the nearest first. A name is cut before a dot; the
character before that dot is passed over, so of two dots side by side only the second cuts. -/
def cuts : List Char → List (List Char)
  | '.' :: before :: rest => (before :: rest) :: cuts rest
  | _ :: rest => cuts rest
  | [] => []

def namesAbove (name : String) : List String :=
  (cuts name.toList.reverse).map fun cut => String.ofList cut.reverse

def await (child : String) (book : LogBook) (name : String) : LogBook :=
  { book with awaited := book.awaited.put name (((book.awaited.find? name).getD []) ++ [child]) }

/-- Puts a logger below one that has become known, unless the name of its parent begins with the new
name, so that a nearer parent stays. -/
def adopt (name : String) (book : LogBook) (child : String) : LogBook :=
  let state := book.logger child
  if name.toList.isPrefixOf (displayName (state.parent.getD "")).toList then book
  else book.setLogger child { state with parent := some name }

/-- Makes a logger known: those that waited for it come below it, and it comes below the
nearest known name above it. -/
def know (name : String) (book : LogBook) : LogBook :=
  if book.isKnown name then book
  else
    let waiting := (book.awaited.find? name).getD []
    let above := namesAbove name
    let parent := (above.find? book.isKnown).getD ""
    let book := (above.takeWhile fun other => !book.isKnown other).foldl (await name) book
    let book := waiting.foldl (adopt name) { book with awaited := book.awaited.erase name }
    book.setLogger name ⟨0, true, [], some parent⟩

def silence (name : String) (book : LogBook) : LogBook :=
  let book := book.know name
  let state := book.logger name
  book.setLogger name { state with outlets := state.outlets ++ [⟨.silent, 0⟩] }

/-- Sets a logger up from the environment. A file exists from the moment it is an outlet. -/
def setUp (environment : Environment) (places : Places) (name : String) (book : LogBook) :
    Except Fault LogBook := do
  let level ← rankOfText ((environment.text? "LOG_LEVEL").getD "INFO")
  let book := book.know name
  let state := { book.logger name with level }
  if !state.outlets.isEmpty then return book.setLogger name state
  let console : Outlet := ⟨.console, level⟩
  if environment.flag fileLogging then
    let path := (← directory environment places) ++ [fileName name]
    if path.any fun component => component.toList.contains '\x00' then throw .textWithNull
    let book :=
      { book with files := book.files.put path ((book.files.find? path).getD []) }
    return book.setLogger name
      { state with propagates := false, outlets := [console, ⟨.file path, level⟩] }
  else return book.setLogger name { state with propagates := false, outlets := [console] }

def chain (book : LogBook) : Nat → String → List LoggerState
  | 0, _ => []
  | fuel + 1, name =>
      let state := book.logger name
      state :: state.parent.elim [] (chain book fuel)

def lineage (book : LogBook) (name : String) : List LoggerState :=
  book.chain (book.loggers.length + 1) name

def effectiveLevel (book : LogBook) (name : String) : Int :=
  ((book.lineage name).find? fun state => state.level != 0).elim 0 LoggerState.level

/-- The outlets that a note of a logger reaches: those of each logger on the way up that the
one below passes notes on to. -/
def reachedOutlets : List LoggerState → List Outlet
  | [] => []
  | state :: rest => state.outlets ++ (if state.propagates then reachedOutlets rest else [])

def takes (book : LogBook) (name : String) (rank : Int) : Bool :=
  decide (0 < rank) && decide (book.effectiveLevel name ≤ rank)

/-- Writes a note: the records that the console gets, and the book with those of the files. A record
is one line, unless the message has line ends in it. -/
def write (name : String) (rank : Int) (message : String) (book : LogBook) :
    List String × LogBook :=
  if !book.takes name rank then ([], book)
  else
    let record := displayName name ++ " - " ++ levelName rank ++ " - " ++ message
    let outlets := (reachedOutlets (book.lineage name)).filter fun outlet =>
      decide (outlet.level ≤ rank)
    outlets.foldl
      (fun (records, book) outlet =>
        match outlet.kind with
        | .console => (records ++ [record], book)
        | .file path =>
            (records,
              { book with
                files := book.files.put path ((book.files.find? path).getD [] ++ [record]) })
        | .silent => (records, book))
      ([], book)

def ofLibrary (environment : Environment) (places : Places) : Except Fault LogBook :=
  Remark.loggers.foldlM (fun book name => book.setUp environment places name) empty

def linesOf (records : List String) : List String :=
  Text.lines (String.join (records.map (· ++ "\n")))

def writeNotes (notes : List Note) (book : LogBook) : List String × LogBook :=
  notes.foldl
    (fun (records, book) note =>
      let (more, book) := write note.logger note.severity.rank note.message book
      (records ++ more, book))
    ([], book)

end LogBook

end Arboretum
