import StorageMetrics.Logging.Pattern
import StorageMetrics.Text.Json

/-
  Log records and their two written forms: a pattern filled with the record's fields, or one JSON
  object per line. A record whose message or pattern cannot be filled is not written. Dates are those
  of local time: each record knows how far that is ahead of UTC.
-/

namespace StorageMetrics.Logging

/-- How an exception got to where it was caught: the text that stands for this, and its lines. -/
structure Trace where
  shown : String
  lines : String
deriving DecidableEq, Inhabited

/-- An exception that a record carries: its class and its text, and its trace if it was raised. -/
structure ExceptionInfo where
  kind : String
  text : String
  trace : Option Trace := none
deriving DecidableEq, Inhabited

/-- The name of a level that has a name of its own. -/
def levelName? (level : Int) : Option String :=
  match level with
  | 0 => some "NOTSET"
  | 10 => some "DEBUG"
  | 20 => some "INFO"
  | 30 => some "WARNING"
  | 40 => some "ERROR"
  | 50 => some "CRITICAL"
  | _ => none

/-- Where in a program a record was made. -/
structure Origin where
  path : String := ""
  file : String := ""
  unit : String := ""
  line : Nat := 0
  function : Value := .none
deriving Inhabited

/-- When a record was made, and by which thread of which process. -/
structure Moment where
  created : Value := .float 0
  milliseconds : Value := .int 0
  /-- The milliseconds since logging was loaded. -/
  sinceStart : Value := .float 0
  /-- How far local time is ahead of UTC then, in seconds. -/
  offset : Int := 0
  thread : Value := .str "MainThread"
  threadNumber : Value := .int 0
  process : Value := .str "MainProcess"
  processNumber : Value := .int 0
deriving Inhabited

/-- The names of the fields that every record has, or is given when it is written. -/
def takenNames : List String :=
  ["name", "msg", "args", "levelname", "levelno", "pathname", "filename", "module", "exc_info",
   "exc_text", "stack_info", "lineno", "funcName", "created", "msecs", "relativeCreated", "thread",
   "threadName", "processName", "process", "message", "asctime"]

/-- Fields that are added to a record, under names that are not taken. -/
structure Added where
  entries : List (String × Value)
  distinct : (entries.map (·.1)).Nodup
  free : ∀ e ∈ entries, e.1 ∉ takenNames

namespace Added

def nothing : Added := ⟨[], List.nodup_nil, List.forall_mem_nil _⟩

instance : Inhabited Added := ⟨nothing⟩

theorem event_not_mem_takenNames : "event" ∉ takenNames := by decide

/-- The name of what happened, for those who read records by machine. -/
def ofEvent (event : Value) : Added where
  entries := [("event", event)]
  distinct := List.nodup_cons.mpr ⟨List.not_mem_nil, List.nodup_nil⟩
  free := List.forall_mem_cons.mpr ⟨event_not_mem_takenNames, List.forall_mem_nil _⟩

end Added

structure Record extends Moment where
  /-- The logger's name; without one it is the logger that all others are below. -/
  logger : Value
  level : Int
  /-- The name that the level goes by; some levels have two. -/
  levelName : String := (levelName? level).getD ("Level " ++ toString level)
  /-- The message, which is written in its plain text. -/
  message : Value
  args : Arguments := .row []
  exception : Option ExceptionInfo := none
  /-- The calls that led to where the record was made. -/
  stack : Option String := none
  origin : Origin := {}
  added : Added := .nothing
deriving Inhabited

def Record.event (r : Record) : Option Value := r.added.entries.lookup "event"

namespace ExceptionInfo

/-- The text as the exception tells it; a key that was not found is quoted. -/
def plain (e : ExceptionInfo) : String := if e.kind = "KeyError" then Text.quoted e.text else e.text

/-- The line that stands for an exception. -/
def line (e : ExceptionInfo) : String :=
  if e.plain = "" then e.kind else e.kind ++ ": " ++ e.plain

/-- The exception with its trace above it. -/
def report (e : ExceptionInfo) : String := (e.trace.map (·.lines)).getD "" ++ e.line

/-- Class, exception and trace. -/
def value (e : ExceptionInfo) : Value :=
  let kind := "<class '" ++ e.kind ++ "'>"
  let trace := (e.trace.map fun t => Value.other "traceback" t.shown t.shown).getD .none
  .tuple [.other "type" kind kind, .other e.kind (e.kind ++ "(" ++ Text.quoted e.text ++ ")") e.plain,
    trace]

end ExceptionInfo

/-! ## Times -/

/-- The date of a day, counted from the first day of 1970: eras of 400 years, years from March. -/
def civilDate (day : Int) : Int × Nat × Nat :=
  let z := day + 719468
  let era := Int.fdiv z 146097
  let dayOfEra := (z - era * 146097).toNat
  let yearOfEra := (dayOfEra - dayOfEra / 1460 + dayOfEra / 36524 - dayOfEra / 146096) / 365
  let dayOfYear := dayOfEra - (365 * yearOfEra + yearOfEra / 4 - yearOfEra / 100)
  let monthFromMarch := (5 * dayOfYear + 2) / 153
  let month := if monthFromMarch < 10 then monthFromMarch + 3 else monthFromMarch - 9
  (yearOfEra + era * 400 + (if month ≤ 2 then 1 else 0), month,
    dayOfYear - (153 * monthFromMarch + 2) / 5 + 1)

def twoDigits (n : Nat) : String := if n < 10 then "0" ++ toString n else toString n

/-- The whole seconds of a time, rounded down. -/
def wholeSeconds (time : Value) : Option Int :=
  match time.number? with
  | some (.int n) => some n
  | some (.float x) =>
    match Magnitude.ofFloat x with
    | .finite units => some (Int.fdiv units Magnitude.one)
    | _ => none
  | none => none

/-- The years that a date can have: those that fit 32 bits, also when counted from 1900. -/
def isYear (year : Int) : Bool := 1900 - (Nat.pow 2 31 : Int) ≤ year && year < (Nat.pow 2 31 : Int)

/-- Date and time of day, for the times that have a date. -/
def timeText (seconds : Int) : Option String :=
  let day := Int.fdiv seconds 86400
  let inDay := (seconds - day * 86400).toNat
  let (year, month, dayOfMonth) := civilDate day
  if !isYear year then none else some <|
  toString year ++ "-" ++ twoDigits month ++ "-" ++ twoDigits dayOfMonth ++ " " ++
    twoDigits (inDay / 3600) ++ ":" ++ twoDigits (inDay / 60 % 60) ++ ":" ++ twoDigits (inDay % 60)

/-- The local time with milliseconds in three digits. -/
def Record.timeText (r : Record) : Option String := do
  let seconds ← wholeSeconds r.created
  let ms ← Pattern.integerOf true r.milliseconds
  let digits ← Pattern.message "%03d" (.row [.int ms])
  return (← Logging.timeText (seconds + r.offset)) ++ "," ++ digits

/-! ## The two forms -/

/-- The record's message, its values filled in. -/
def Record.text (r : Record) : Option String :=
  if r.message.isWritable then Pattern.message r.message.plain r.args else none

/-- A pattern that mentions the time, be it only in a text that looks like its field. -/
def mentionsTime : List Char → Bool
  | [] => false
  | c :: rest => "%(asctime)".toList.isPrefixOf (c :: rest) || mentionsTime rest

/-- The fields that a pattern can name, in order. -/
def Record.fields (r : Record) (text : String) (time : Option String) : List (String × Value) :=
  [("name", r.logger), ("msg", r.message), ("args", r.args.value), ("levelname", .str r.levelName),
   ("levelno", .int r.level), ("pathname", .str r.origin.path), ("filename", .str r.origin.file),
   ("module", .str r.origin.unit), ("exc_info", (r.exception.map (·.value)).getD .none),
   ("exc_text", .none), ("stack_info", (r.stack.map Value.str).getD .none),
   ("lineno", .int r.origin.line), ("funcName", r.origin.function), ("created", r.created),
   ("msecs", r.milliseconds), ("relativeCreated", r.sinceStart), ("thread", r.threadNumber),
   ("threadName", r.thread), ("processName", r.process), ("process", r.processNumber)] ++
    r.added.entries ++ [("message", .str text)] ++ time.toList.map fun t => ("asctime", .str t)

/-- Puts a text on lines of its own below another one. -/
def below (upper lower : String) : String :=
  upper ++ (if upper.toList.getLast? = some '\n' then "" else "\n") ++ lower

/-- What is written below a filled pattern: the exception and the stack, where they have a text. -/
def Record.details (r : Record) : List String :=
  ((r.exception.map (·.report)).toList ++ r.stack.toList).filter (· ≠ "")

/-- The filled pattern with the details below it. Message and time are settled first, whether the
pattern uses them or not; the time is a field only where the pattern mentions it. -/
def Record.patternText (r : Record) (pattern : String) : Option String := do
  let text ← r.text
  let time ← if mentionsTime pattern.toList then r.timeText.map some else some none
  let body ← (Pattern.parse pattern).bind (Pattern.fillFields (r.fields text time))
  return r.details.foldl below (String.ofList body)

/-- The fields of a record's JSON object, in order. -/
def Record.jsonFields (r : Record) (text : String) : List (String × Value) :=
  [("ts", r.created), ("level", .str r.levelName), ("logger", r.logger),
   ("thread", r.thread), ("msg", .str text), ("event", r.event.getD .none)] ++
    (match r.exception with
    | some e => [("exc_info", .str e.report)]
    | none => [])

/-- The record's JSON object on one line. An integer in it that is too long to write out, or a key
that is no name, keeps the whole record from being written. -/
def Record.jsonText (r : Record) : Option String := do
  let text ← r.text
  let fields := r.jsonFields text
  if (Value.record fields).isWritable && Text.Json.hasNames (.record fields) then
    return Text.Json.object fields
  else none

end StorageMetrics.Logging
