import StorageMetrics.Value.Members
import StorageMetrics.Value.Text

/-
  Engine properties: what the storage engine answers about one table, found by the table's id.
  Queries fail while the engine has no handle of the table, or while a level is being compacted.
-/

namespace StorageMetrics

/-- Why the engine does not answer. -/
inductive EngineError where
  | noHandle (table : Value)
  | levelUnavailable (level : Nat)
  /-- A list or a mapping cannot be looked up. -/
  | noKey
deriving Inhabited

def EngineError.message : EngineError → Option String
  | noHandle t => some ("no engine handle for table " ++ t.shown)
  | levelUnavailable k => some ("level " ++ toString k ++ " unavailable")
  | noKey => none

/-- Answers by key, the keys told apart as values. -/
abbrev Answers := List (Value × Value)

namespace Answers

def find (k : Value) : Answers → Option Value
  | [] => none
  | (k', v) :: rest => if k'.same k then some v else find k rest

def put (k v : Value) : Answers → Answers
  | [] => [(k, v)]
  | (k', v') :: rest => if k'.same k then (k', v) :: rest else (k', v') :: put k v rest

end Answers

structure Engine where
  /-- Table files by level, then by table. -/
  levelFiles : List (Value × Answers) := []
  pending : Answers := []
  live : Answers := []
  failingLevels : List Value := []
  /-- No query is answered while this is present. -/
  failing : Value := .bool false
deriving Inhabited

namespace Engine

def levelAnswers (level : Value) : List (Value × Answers) → Answers
  | [] => []
  | (k, a) :: rest => if k.same level then a else levelAnswers level rest

def putLevel (table level count : Value) : List (Value × Answers) → List (Value × Answers)
  | [] => [(level, [(table, count)])]
  | (k, a) :: rest =>
    if k.same level then (k, a.put table count) :: rest
    else (k, a) :: putLevel table level count rest

def setLevelFiles (e : Engine) (table level count : Value) : Except EngineError Engine :=
  if table.isKey && level.isKey then .ok { e with levelFiles := putLevel table level count e.levelFiles }
  else .error .noKey

def setPending (e : Engine) (table bytes : Value) : Except EngineError Engine :=
  if table.isKey then .ok { e with pending := e.pending.put table bytes } else .error .noKey

def setLive (e : Engine) (table bytes : Value) : Except EngineError Engine :=
  if table.isKey then .ok { e with live := e.live.put table bytes } else .error .noKey

def setFailingLevels (e : Engine) (levels : List Value) : Except EngineError Engine :=
  if levels.all Value.isKey then .ok { e with failingLevels := Value.distinct levels } else .error .noKey

/-- The answer for a table, zero where none was given. -/
def answer (answers : Answers) (table : Value) : Except EngineError Value :=
  if table.isKey then .ok ((answers.find table).getD (.int 0)) else .error .noKey

/-- The number of table files on a level. -/
def levelCount (e : Engine) (table : Value) (level : Nat) : Except EngineError Value :=
  if e.failing.isPresent then .error (.noHandle table)
  else if e.failingLevels.any (·.same (.int level)) then .error (.levelUnavailable level)
  else answer (levelAnswers (.int level) e.levelFiles) table

/-- The engine refuses, whatever it keeps. -/
def refuses (answer : Except EngineError Value) : Bool :=
  match answer with
  | .error (.noHandle _) | .error (.levelUnavailable _) => true
  | _ => false

/-- Bytes that compaction has still to process. -/
def pendingBytes (e : Engine) (table : Value) : Except EngineError Value :=
  if e.failing.isPresent then .error (.noHandle table) else answer e.pending table

/-- The estimated size of live data. -/
def liveBytes (e : Engine) (table : Value) : Except EngineError Value :=
  if e.failing.isPresent then .error (.noHandle table) else answer e.live table

end Engine

end StorageMetrics
