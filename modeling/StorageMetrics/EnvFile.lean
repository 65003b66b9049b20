import StorageMetrics.Environment
import StorageMetrics.Text.Hex
import StorageMetrics.Text.LineEnd

/-
  Env files: lines `KEY=value` with comments, an optional `export`, quoted keys and values, and
  `${NAME:-default}` inside values. A line that does not parse is skipped. Assignments reach the
  environment only where it has no value yet, so the process environment always wins.
-/

namespace StorageMetrics.EnvFile

open StorageMetrics.Text

/-- A key, and its value when the line has an equals sign. -/
structure Assignment where
  key : String
  value : Option String
deriving DecidableEq

/-- A blank that ends no line. -/
def isSpace (c : Char) : Bool := isBlank c && c ≠ '\n' && c ≠ '\r'

def dropSpaces (cs : List Char) : List Char := cs.dropWhile isSpace

def endsLine (c : Char) : Bool := c = '\n' || c = '\r'

/-- `export` counts only with a blank after it. -/
def dropExport (cs : List Char) : List Char :=
  match cs with
  | 'e' :: 'x' :: 'p' :: 'o' :: 'r' :: 't' :: c :: rest =>
    if isSpace c then dropSpaces rest else cs
  | _ => cs

/-- A character of a bare key. -/
def isKeyChar (c : Char) : Bool := c ≠ '=' && c ≠ '#' && !isBlank c

/-- The key of a line. A line that starts with a hash has none, which is no failure; `none` is. -/
def key : List Char → Option (Option String × List Char)
  | '#' :: rest => some (none, '#' :: rest)
  | '\'' :: rest =>
    match rest.span (· ≠ '\'') with
    | (name, '\'' :: rest) => if name.isEmpty then none else some (some (String.ofList name), rest)
    | _ => none
  | cs =>
    let name := cs.takeWhile isKeyChar
    if name.isEmpty then none else some (some (String.ofList name), cs.dropWhile isKeyChar)

/-- The inside of a quoted value, up to the closing quote; a backslash keeps the next character in. -/
def quotedBody (quote : Char) : List Char → Option (List Char × List Char)
  | [] => none
  | '\\' :: c :: rest => (quotedBody quote rest).map fun r => ('\\' :: c :: r.1, r.2)
  | c :: rest =>
    if c = quote then some ([], rest)
    else (quotedBody quote rest).map fun r => (c :: r.1, r.2)

/-- Escapes of single quotes. -/
def singleEscape? (c : Char) : Option Char :=
  if c = '\\' || c = '\'' then some c else none

/-- Escapes of double quotes. -/
def doubleEscape? (c : Char) : Option Char :=
  match c with
  | '\\' | '\'' | '"' => some c
  | 'a' => some '\x07'
  | 'b' => some '\x08'
  | 'f' => some '\x0c'
  | 'n' => some '\n'
  | 'r' => some '\r'
  | 't' => some '\t'
  | 'v' => some '\x0b'
  | _ => none

/-- Replaces escapes; a backslash before any other character stands for itself. -/
def unescape (escape? : Char → Option Char) : List Char → List Char
  | '\\' :: c :: rest =>
    match escape? c with
    | some d => d :: unescape escape? rest
    | none => '\\' :: unescape escape? (c :: rest)
  | c :: rest => c :: unescape escape? rest
  | [] => []
termination_by cs => cs.length

/-- A bare value ends before the first blanks that a hash follows. -/
def cutComment : List Char → List Char
  | [] => []
  | c :: rest =>
    if isBlank c && (rest.dropWhile isBlank).head? = some '#' then [] else c :: cutComment rest

/-- The value after the equals sign; `spaced` tells that blanks followed the sign. -/
def value (spaced : Bool) : List Char → Option (String × List Char)
  | '\'' :: rest => (quotedBody '\'' rest).map fun r => (String.ofList (unescape singleEscape? r.1), r.2)
  | '"' :: rest => (quotedBody '"' rest).map fun r => (String.ofList (unescape doubleEscape? r.1), r.2)
  | cs =>
    if spaced && cs.head? = some '#' then some ("", cs)
    else
      let line := cs.takeWhile fun c => !endsLine c
      some (String.ofList (dropEndBlanks (cutComment line)), cs.dropWhile fun c => !endsLine c)

/-- Blanks and a comment, when a hash starts one. -/
def dropComment (cs : List Char) : List Char :=
  match dropSpaces cs with
  | '#' :: rest => rest.dropWhile fun c => !endsLine c
  | _ => cs

/-- The end of the line, or of the text. -/
def lineEnd (cs : List Char) : Option (List Char) :=
  match dropSpaces cs with
  | [] => some []
  | '\r' :: '\n' :: rest => some rest
  | c :: rest => if endsLine c then some rest else none

/-- What is left of a line that does not parse is skipped. -/
def skipLine (cs : List Char) : List Char := (cs.dropWhile fun c => !endsLine c).drop 1

/-- One line: its assignment when it has one, and the text after it. -/
def line (cs : List Char) : Option Assignment × List Char :=
  let cs := cs.dropWhile isBlank
  if cs.isEmpty then (none, [])
  else
    let cs := dropExport cs
    match key cs with
    | none => (none, skipLine cs)
    | some (name, afterKey) =>
      let finish (text : Option String) (rest : List Char) : Option Assignment × List Char :=
        match lineEnd (dropComment rest) with
        | some rest => (name.map (⟨·, text⟩), rest)
        | none => (none, skipLine (dropComment rest))
      match dropSpaces afterKey with
      | '=' :: rest =>
        let afterSign := dropSpaces rest
        match value (afterSign.length < rest.length) afterSign with
        | some (text, rest) => finish (some text) rest
        | none => (none, skipLine afterSign)
      | rest => finish none rest

/-- All lines; each takes at least one character, so the length of the text is fuel enough. -/
def lines : Nat → List Char → List Assignment
  | 0, _ => []
  | _ + 1, [] => []
  | fuel + 1, cs =>
    match line cs with
    | (some a, rest) => a :: lines fuel rest
    | (none, rest) => lines fuel rest

/-- The byte-order mark at the start of a file is no part of its text. -/
def dropMark : List Char → List Char
  | '\ufeff' :: rest => rest
  | cs => cs

def parse (text : String) : List Assignment :=
  let cs := plainLineEnds (dropMark text.toList)
  lines cs.length cs

/-! ## Expansion -/

/-- The name and the default of `${NAME:-default}`, after the opening brace. -/
def reference? (cs : List Char) : Option (String × Option String × List Char) :=
  let isName : Char → Bool := fun c => c ≠ '}' && c ≠ ':'
  let name := String.ofList (cs.takeWhile isName)
  match cs.dropWhile isName with
  | '}' :: rest => some (name, none, rest)
  | ':' :: '-' :: rest =>
    match rest.span (· ≠ '}') with
    | (default, '}' :: rest) => some (name, some (String.ofList default), rest)
    | _ => none
  | _ => none

/-- Replaces each reference by what `lookup` gives, else by its default; `fuel` bounds the length. -/
def expandChars (lookup : String → Option String) : Nat → List Char → List Char
  | 0, cs => cs
  | _ + 1, [] => []
  | fuel + 1, '$' :: '\x7b' :: rest =>
    match reference? rest with
    | some (name, default, rest) =>
      ((lookup name).getD (default.getD "")).toList ++ expandChars lookup fuel rest
    | none => '$' :: expandChars lookup fuel ('\x7b' :: rest)
  | fuel + 1, c :: rest => c :: expandChars lookup fuel rest

/-- A reference finds the process environment first, then what the file has set so far; a key that
the file names without a value stands for the empty text. -/
def expand (env : Environment) (sofar : OrderedMap String (Option String)) (text : String) : String :=
  let lookup (name : String) : Option String :=
    match env.get? name with
    | some s => some s
    | none => (sofar.get? name).map (·.getD "")
  String.ofList (expandChars lookup text.length text.toList)

/-- The assignments of a file in order, expanded; the last one of a key counts. -/
def resolve (env : Environment) (assignments : List Assignment) : OrderedMap String (Option String) :=
  assignments.foldl (fun sofar a => sofar.insert a.key (a.value.map (expand env sofar))) ⟨[]⟩

/-! ## The environment afterwards -/

/-- The variable that keeps env files from being read. -/
def switchVariable : String := "PYTHON_DOTENV_DISABLED"

/-- A word without its case; the long `s` has the same lower case as the round one. -/
def foldCase (word : String) : String :=
  String.ofList (word.toList.map fun c => if c = 'ſ' then 's' else c.toLower)

/-- Env files are switched off by a word that says yes; blanks around it count. -/
def isSwitchedOff (env : Environment) : Bool :=
  match env.get? switchVariable with
  | some word => foldCase word ∈ ["1", "true", "t", "yes", "y"]
  | none => false

/-- Why a variable cannot be set. -/
inductive SetError where
  | nul
  | equalsInName
deriving DecidableEq

def SetError.message : SetError → String
  | nul => "embedded null byte"
  | equalsInName => "illegal environment variable name"

/-- A variable's name holds no equals sign, and neither name nor value holds a NUL. -/
def setVariable (env : Environment) (name value : String) : Except SetError Environment :=
  if '\x00' ∈ name.toList ∨ '\x00' ∈ value.toList then .error .nul
  else if '=' ∈ name.toList then .error .equalsInName
  else .ok (env.insert name value)

/-- Sets what the environment does not hold yet, in order; a failure keeps what was set before it. -/
def setMissing : List (String × Option String) → Environment → Except SetError Unit × Environment
  | [], env => (.ok (), env)
  | (_, none) :: rest, env => setMissing rest env
  | (name, some value) :: rest, env =>
    if env.contains name then setMissing rest env
    else match setVariable env name value with
      | .ok env => setMissing rest env
      | .error e => (.error e, env)

end StorageMetrics.EnvFile
