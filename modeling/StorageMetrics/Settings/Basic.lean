import StorageMetrics.Label
import StorageMetrics.Value.Text

/-
  Settings: how many compaction levels are exported, under which name, over which throughput
  window, and whether malformed variables are refused. Values of a usable settings record have
  been checked when it was made.
-/

namespace StorageMetrics

/-- Why settings are refused. -/
inductive SettingError where
  /-- A number is compared with a value that holds none, or a name with a value that is no text. -/
  | wrongKind
  | levelsBelowOne (levels : Value)
  | badExportName (name : String)
  | windowNotPositive (seconds : Value)
  /-- A setting that does not exist. -/
  | unknownField (name : String)
  /-- A variable does not read as a number. -/
  | unreadable (name : String) (reason : NumberError)
  /-- A variable reads, but its value is out of range. -/
  | invalid (name : String) (value : Value)
deriving Inhabited

def SettingError.message : SettingError → Option String
  | wrongKind => none
  | unknownField _ => none
  | levelsBelowOne v => some ("max_levels must be >= 1 (got " ++ v.plain ++ ")")
  | badExportName s =>
    some ("namespace must be a metric-safe identifier (got " ++ Text.quoted s ++ ")")
  | windowNotPositive v => some ("throughput_window_seconds must be > 0 (got " ++ v.plain ++ ")")
  | unreadable name reason => some (name ++ ": " ++ reason.message.getD "")
  | invalid name v => some (name ++ ": invalid value " ++ v.shown)

/-- A letter or an underscore, then letters, digits and underscores. -/
def isIdentifier : List Char → Bool
  | [] => false
  | c :: rest => Label.isWord c && !Label.isNumeral c && rest.all Label.isWord

/-- A name that exported families can start with; one line end after it does not count. -/
def isExportName (s : String) : Bool := isIdentifier (Label.dropLineEnd s.toList)

structure Settings where
  maxLevels : Value
  exportName : String
  windowSeconds : Value
  strict : Value
deriving Inhabited

namespace Settings

def defaultMaxLevels : Int := 7

def defaultExportName : String := "cassandra_rocksdb"

def defaultWindowSeconds : Float := 10

/-- What holds when nothing is set. -/
def standard : Settings :=
  ⟨.int defaultMaxLevels, defaultExportName, .float defaultWindowSeconds, .bool false⟩

/-- Settings from any values: at least one level, an export name, a window above zero. A NaN is
neither below one nor at most zero, so it passes. -/
def ofValues (maxLevels exportName windowSeconds strict : Value) : Except SettingError Settings :=
  match maxLevels.number? with
  | none => .error .wrongKind
  | some levels =>
    if levels < .int 1 then .error (.levelsBelowOne maxLevels)
    else match exportName.text? with
      | none => .error .wrongKind
      | some name =>
        if !isExportName name then .error (.badExportName name)
        else match windowSeconds.number? with
          | none => .error .wrongKind
          | some window =>
            if window ≤ .int 0 then .error (.windowNotPositive windowSeconds)
            else .ok ⟨maxLevels, name, windowSeconds, strict⟩

/-- The names that settings are given under. -/
def fieldNames : List String := ["max_levels", "namespace", "throughput_window_seconds", "strict"]

/-- Settings from named values; what is not named is standard. -/
def ofFields (given : List (String × Value)) : Except SettingError Settings :=
  match given.find? (·.1 ∉ fieldNames) with
  | some field => .error (.unknownField field.1)
  | none =>
    let value (name : String) (fallback : Value) : Value := (given.lookup name).getD fallback
    ofValues (value "max_levels" standard.maxLevels) (value "namespace" (.str standard.exportName))
      (value "throughput_window_seconds" standard.windowSeconds) (value "strict" standard.strict)

/-- The settings with another value under a name, whatever it is; only a text can be an export name. -/
def withField? (s : Settings) (name : String) (v : Value) : Option Settings :=
  match name, v with
  | "max_levels", v => some { s with maxLevels := v }
  | "namespace", .str exportName => some { s with exportName := exportName }
  | "throughput_window_seconds", v => some { s with windowSeconds := v }
  | "strict", v => some { s with strict := v }
  | _, _ => none

/-- How messages show the settings. -/
def shown (s : Settings) : String :=
  "RocksMetricsSettings(max_levels=" ++ s.maxLevels.shown ++ ", namespace=" ++
    Text.quoted s.exportName ++ ", throughput_window_seconds=" ++ s.windowSeconds.shown ++
    ", strict=" ++ s.strict.shown ++ ")"

end Settings

end StorageMetrics
