import StorageMetrics.Journal

/-
  Settings from the environment, after an optional env file. Each of the three values is decided by
  its own variable. A malformed variable is reported and replaced by the default, or, under strict
  settings, the first one in the order levels, export name, window is refused.
-/

namespace StorageMetrics.Settings

def maxLevelsVariable : String := "ROCKSMETRICS_MAX_LEVELS"
def exportNameVariable : String := "ROCKSMETRICS_NAMESPACE"
def windowVariable : String := "ROCKSMETRICS_THROUGHPUT_WINDOW_SECONDS"
def strictVariable : String := "ROCKSMETRICS_STRICT"

/-- A variable that cannot be used, and the default in its place. -/
structure Rejection where
  reason : SettingError
  variableName : String
  fallback : Value
deriving Inhabited

namespace Rejection

/-- What was wrong with the variable. -/
def found (r : Rejection) : String :=
  match r.reason with
  | .unreadable _ e => " error=" ++ e.message.getD ""
  | .invalid _ v => " value=" ++ v.shown
  | _ => ""

/-- The report of a variable that was replaced by its default. -/
def entry (r : Rejection) : JournalEntry :=
  { severity := .warning, reporter := .settings
    text := "config.invalid_value name=" ++ r.variableName ++
      (r.found ++ "; using default " ++ r.fallback.shown) }

end Rejection

/-- The value of a variable, or why the default takes its place. -/
abbrev Reading (α : Type) := Except Rejection α

/-- A value that reads and is in range. -/
def Reading.ofResult (name : String) (fallback : Value) (toValue : α → Value) (inRange : α → Bool) :
    Except NumberError α → Reading α
  | .error e => .error ⟨.unreadable name e, name, fallback⟩
  | .ok v => if inRange v then .ok v else .error ⟨.invalid name (toValue v), name, fallback⟩

/-! Each variable has a getter, which gives the default for a variable that is not set. -/

def givenMaxLevels (env : Environment) : Except NumberError Int :=
  env.number maxLevelsVariable defaultMaxLevels Decimal.readInt

def givenExportName (env : Environment) : Except NumberError String :=
  .ok (env.text exportNameVariable defaultExportName id)

def givenWindow (env : Environment) : Except NumberError Float :=
  env.number windowVariable defaultWindowSeconds Decimal.readFloat

/-! Each of them has a range. -/

def isLevelCount (levels : Int) : Bool := 1 ≤ levels

def isWindow (seconds : Float) : Bool := Number.int 0 < .float seconds

def readMaxLevels (env : Environment) : Reading Int :=
  .ofResult maxLevelsVariable (.int defaultMaxLevels) .int isLevelCount (givenMaxLevels env)

def readExportName (env : Environment) : Reading String :=
  .ofResult exportNameVariable (.str defaultExportName) .str isExportName (givenExportName env)

def readWindow (env : Environment) : Reading Float :=
  .ofResult windowVariable (.float defaultWindowSeconds) .float isWindow (givenWindow env)

def Reading.rejections : Reading α → List Rejection
  | .ok _ => []
  | .error r => [r]

/-- The rejected variables, in the order in which they are read. -/
def rejections (env : Environment) : List Rejection :=
  (readMaxLevels env).rejections ++ (readExportName env).rejections ++ (readWindow env).rejections

/-- The settings that the variables give, defaults standing in for rejected ones. They are checked
once more, like any others. -/
def ofReadings (env : Environment) (strict : Bool) : Except SettingError Settings :=
  ofValues (.int ((readMaxLevels env).toOption.getD defaultMaxLevels))
    (.str ((readExportName env).toOption.getD defaultExportName))
    (.float ((readWindow env).toOption.getD defaultWindowSeconds)) (.bool strict)

def loadedEntry (s : Settings) : JournalEntry :=
  { severity := .debug, reporter := .settings, text := "config.loaded " ++ s.shown }

/-- Settings from the environment as it stands, and the reports on the way. -/
def read (env : Environment) : Except SettingError Settings × Journal :=
  let strict := env.isOn strictVariable ""
  match strict, rejections env with
  | true, r :: _ => (.error r.reason, [])
  | _, rs =>
    let warnings := rs.map Rejection.entry
    match ofReadings env strict with
    | .ok s => (.ok s, warnings ++ [loadedEntry s])
    | .error e => (.error e, warnings)

/-- What loading leaves behind. -/
structure Loaded where
  outcome : Except Fault Settings
  environment : Environment
  journal : Journal

def fileMissingEntry (path : Value) : JournalEntry :=
  { severity := .debug, reporter := .settings, text := "config.env_file_missing path=" ++ path.plain }

/-- Numbers of open files are below this, in either direction. -/
def fileNumberLimit : Int := Nat.pow 2 31

/-- The text of an env file; a missing file has none. A whole number stands for no file, and what
can stand for none is refused. -/
def fileText (files : Files) (path : Value) : Except Fault String :=
  match path with
  | .str p => ((files.find p).map (·.getD "")).mapError .file
  | .int n =>
    if -fileNumberLimit ≤ n ∧ n < fileNumberLimit then .ok "" else .error (.number .overflow)
  | .bool _ => .ok ""
  | _ => .error (.number .wrongKind)

/-- What an env file assigns; one that is switched off assigns nothing. -/
def assigned (env : Environment) (files : Files) (path : Value) :
    Except Fault (OrderedMap String (Option String)) :=
  if EnvFile.isSwitchedOff env then .ok {}
  else (fileText files path).map fun text => EnvFile.resolve env (EnvFile.parse text)

/-- An environment that an env file was put into, and how far that came. -/
structure Prepared where
  outcome : Except Fault Unit
  environment : Environment
  journal : Journal

/-- The environment after an env file. A file without any assignment is reported like a missing one,
and an absent path stands for no file. -/
def prepare (env : Environment) (files : Files) (path : Value) : Prepared :=
  if !path.isPresent then ⟨.ok (), env, []⟩
  else match assigned env files path with
    | .error e => ⟨.error e, env, []⟩
    | .ok assigned =>
      let notice := if assigned.entries.isEmpty then [fileMissingEntry path] else []
      let (outcome, env) := EnvFile.setMissing assigned.entries env
      ⟨outcome.mapError .envFile, env, notice⟩

/-- Settings after an env file: the file's assignments reach the environment first. -/
def load (env : Environment) (files : Files) (path : Value) : Loaded :=
  let prepared := prepare env files path
  match prepared.outcome with
  | .error e => ⟨.error e, prepared.environment, prepared.journal⟩
  | .ok () =>
    let result := read prepared.environment
    ⟨result.1.mapError .setting, prepared.environment, prepared.journal ++ result.2⟩

end StorageMetrics.Settings
