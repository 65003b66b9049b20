import StorageMetrics.Environment
import StorageMetrics.Files.Making
import StorageMetrics.Logging.Record

/-
  Logging of the process: one console handler and perhaps one file handler, both at the level asked
  for, whatever was set up before. The console writes the pattern asked for; without one it writes a
  short pattern, the full one, or JSON, as two flag variables say.
-/

namespace StorageMetrics.Logging

/-- The pattern of files, and of a verbose console. -/
def fullPattern : String := "%(asctime)s - %(threadName)s - %(name)s - %(levelname)s - %(message)s"

/-- The pattern of a console that nobody chose a pattern for. -/
def shortPattern : String := "%(levelname)s %(name)s: %(message)s"

/-- The pattern of an empty choice. -/
def barePattern : String := "%(message)s"

def verboseVariable : String := "ROCKSMETRICS_VERBOSE_CONSOLE"
def jsonVariable : String := "ROCKSMETRICS_JSON_LOGS"

/-- Loggers of others, heard only from warnings on. -/
def suppressedLoggers : List String := ["urllib3", "prometheus_client"]

def warningLevel : Int := 30
def errorLevel : Int := 40
def standardLevel : Int := 20

inductive Form where
  | pattern (text : String)
  | json
deriving DecidableEq, Inhabited

inductive Output where
  | console
  | file (place : Place)
deriving DecidableEq, Inhabited

structure Handler where
  output : Output
  level : Int
  form : Form
deriving DecidableEq, Inhabited

structure State where
  level : Int := warningLevel
  handlers : List Handler := []
  /-- The level of the suppressed loggers; at zero they follow the root. -/
  suppressed : Int := 0
  /-- The loggers that were asked for, by name. -/
  loggers : List String := suppressedLoggers
  /-- What loggers decided, by level, since levels were last set. -/
  decisions : OrderedMap (String × Int) Bool := {}
  console : String := ""
  files : Files := {}
  /-- The moment at which reports of its own are made. -/
  now : Moment := {}
deriving Inhabited

/-- Why logging cannot be set up. -/
inductive SetupError where
  /-- The level is no text. -/
  | levelNotText
  /-- The level's word means something that is no level. -/
  | unknownLevel (meaning : String)
  /-- A level word, a pattern or a path of the wrong kind. -/
  | wrongKind
  /-- The path of the file is none. -/
  | nullByte
  | invalidPattern (pattern : String)
deriving DecidableEq, Inhabited

def SetupError.message : SetupError → Option String
  | levelNotText => none
  | unknownLevel m => some ("Unknown level: " ++ Text.quoted m)
  | wrongKind => none
  | nullByte => some FileError.nullByte.message
  | invalidPattern p => some ("Invalid format '" ++ p ++ "' for '%' style")

/-- The capitals of a character, as far as they are ASCII. Some letters beyond ASCII have such
capitals, joined letters more than one. -/
def capitals (c : Char) : List Char :=
  match c with
  | 'ı' => ['I']
  | 'ſ' => ['S']
  | 'ß' => ['S', 'S']
  | 'ﬀ' => ['F', 'F']
  | 'ﬁ' => ['F', 'I']
  | 'ﬂ' => ['F', 'L']
  | 'ﬃ' => ['F', 'F', 'I']
  | 'ﬄ' => ['F', 'F', 'L']
  | 'ﬅ' | 'ﬆ' => ['S', 'T']
  | c => [c.toUpper]

/-- The level that a word stands for; a word that means nothing stands for the standard level. -/
def levelOfWord (word : String) : Except SetupError Int :=
  match String.ofList (word.toList.flatMap capitals) with
  | "CRITICAL" | "FATAL" => .ok 50
  | "ERROR" => .ok 40
  | "WARNING" | "WARN" => .ok 30
  | "INFO" => .ok 20
  | "DEBUG" => .ok 10
  | "NOTSET" => .ok 0
  | "BASIC_FORMAT" => .error (.unknownLevel "%(levelname)s:%(name)s:%(message)s")
  | "_STYLES" => .error .wrongKind
  | _ => .ok standardLevel

def levelOf (v : Value) : Except SetupError Int :=
  match v with
  | .str word => levelOfWord word
  | _ => .error .levelNotText

/-- A pattern that can be used: an absent one writes the bare message, any other names a field. -/
def usablePattern (v : Value) : Except SetupError String :=
  match v with
  | .str s =>
    if s = "" then .ok barePattern
    else if Pattern.namesField s.toList then .ok s
    else .error (.invalidPattern s)
  | v => if v.isPresent then .error .wrongKind else .ok barePattern

/-- The pattern of the console: the one asked for, unless that is the full pattern, which leaves the
choice to the verbose flag. -/
def consolePattern (env : Environment) (asked : Value) : Value :=
  match asked with
  | .str s =>
    if s ≠ fullPattern then asked
    else if env.isOn verboseVariable "" then .str fullPattern
    else .str shortPattern
  | _ => asked

/-- JSON, when its flag is on; else the console's pattern. -/
def consoleForm (env : Environment) (asked : Value) : Except SetupError Form :=
  if env.isOn jsonVariable "" then .ok .json
  else (usablePattern (consolePattern env asked)).map .pattern

/-! ## Writing -/

def Form.text (f : Form) (r : Record) : Option String :=
  match f with
  | .pattern p => r.patternText p
  | .json => r.jsonText

/-- Writes a record to one handler, when the handler's level lets it through. -/
def Handler.write (h : Handler) (r : Record) (s : State) : State :=
  if r.level < h.level then s
  else match h.form.text r with
    | none => s
    | some text =>
      match h.output with
      | .console => { s with console := s.console ++ text ++ "\n" }
      | .file place => { s with files := s.files.append place (text ++ "\n") }

/-- The names that a logger's name, given from its end, can stand below, the longest first: the name
up to each of its points, but the character before a point is passed over, be it another point. -/
def namesAbove : List Char → List String
  | [] => []
  | '.' :: c :: rest => String.ofList (c :: rest).reverse :: namesAbove rest
  | _ :: rest => namesAbove rest

theorem length_lt_of_mem_namesAbove {reversed : List Char} {name : String}
    (h : name ∈ namesAbove reversed) : name.length < reversed.length := by
  fun_induction namesAbove reversed with
  | case1 => simp at h
  | case2 c rest ih =>
    rcases List.mem_cons.1 h with rfl | h
    · simp
    · have := ih h
      simp only [List.length_cons]; omega
  | case3 _ _ _ ih => exact Nat.lt_succ_of_lt (ih h)

/-- The logger that the name is below: the nearest that was asked for. -/
def State.loggerAbove? (s : State) (name : String) : Option String :=
  (namesAbove name.toList.reverse).find? (· ∈ s.loggers)

/-- The level from which a logger is heard: its own, or that of the logger above it. -/
def State.levelFor (s : State) (name : String) : Int :=
  if name ∈ suppressedLoggers && s.suppressed ≠ 0 then s.suppressed
  else match _above : s.loggerAbove? name with
    | some logger => s.levelFor logger
    | none => s.level
termination_by name.length
decreasing_by simpa [String.length_toList] using length_lt_of_mem_namesAbove (List.mem_of_find?_eq_some _above)

/-- A level that is no level is never heard. -/
def State.isHeard (s : State) (name : String) (level : Int) : Bool :=
  0 < level && s.levelFor name ≤ level

/-- Asks a logger whether it lets a level through. It remembers what it decided, even if other
loggers come between it and the one above it. -/
def State.ask (s : State) (name : String) (level : Int) : Bool × State :=
  let s := { s with loggers := if name ∈ s.loggers then s.loggers else name :: s.loggers }
  match s.decisions.get? (name, level) with
  | some heard => (heard, s)
  | none =>
    let heard := s.isHeard name level
    (heard, { s with decisions := s.decisions.insert (name, level) heard })

def State.writeAll (s : State) (r : Record) : State := s.handlers.foldl (fun s h => h.write r s) s

/-- Sends a record: the logger's level lets it through or not, then each handler's does. -/
def State.send (s : State) (r : Record) : State :=
  let (heard, s) := s.ask (r.logger.text?.getD "") r.level
  if heard then s.writeAll r else s

/-! ## Setting up -/

/-- Where the report of a file that cannot be opened is made. -/
def setupOrigin : Origin where
  path := "/logging_utils.py"
  file := "logging_utils.py"
  unit := "logging_utils"
  line := 79
  function := .str "setup_logging"

/-- The report of a file that cannot be opened, sent through what is set up so far. -/
def fileFailure (now : Moment) (path : String) (e : FileError) : Record :=
  { now with
    logger := .str "root", level := errorLevel
    message := .str "Failed to create log file handler for %s: %s"
    args := .row [.str path, .other e.kindName e.shown e.message], origin := setupOrigin }

/-- Adds the file handler, when a path is given. A file that the file system refuses is reported. -/
def State.addFile (s : State) (level : Int) (path : Value) : Except SetupError Unit × State :=
  if !path.isPresent then (.ok (), s)
  else match path with
    | .str p =>
      match Files.openEnd p s.files with
      | .ok place files =>
        let handler : Handler := ⟨.file place, level, .pattern fullPattern⟩
        (.ok (), { s with files := files, handlers := s.handlers ++ [handler] })
      | .error .nullByte files => (.error .nullByte, { s with files := files })
      | .error e files => (.ok (), { s with files := files }.send (fileFailure s.now p e))
    | _ => (.error .wrongKind, s)

/-- Sets logging up. The level is settled first, then the old handlers go, then the console's form
is settled; what was done before a failure stays done. -/
def State.setup (s : State) (env : Environment) (level file pattern : Value) :
    Except SetupError Unit × State :=
  match levelOf level with
  | .error e => (.error e, s)
  | .ok level =>
    let s := { s with level := level, handlers := [], decisions := {} }
    match consoleForm env pattern with
    | .error e => (.error e, s)
    | .ok form =>
      let s := { s with handlers := [⟨.console, level, form⟩] }
      match s.addFile level file with
      | (.error e, s) => (.error e, s)
      | (.ok (), s) => (.ok (), { s with suppressed := warningLevel, decisions := {} })

end StorageMetrics.Logging
