import StorageMetrics.Files.Path
import StorageMetrics.Text.LineEnd
import StorageMetrics.Text.Quoted

/-
  The file tree: directories, and files with their texts. A path is looked up part by part, each in
  the directory that the parts before it lead to, so a path through something that is missing or no
  directory leads nowhere, even if a later part would lead back.
-/

namespace StorageMetrics

/-- Why the file system refuses a path. -/
inductive FileProblem where
  | missing
  | exists
  | notADirectory
  | isADirectory
  | nameTooLong
deriving DecidableEq, Inhabited

namespace FileProblem

/-- The system's number of a problem. -/
def number : FileProblem → Nat
  | missing => 2
  | .exists => 17
  | notADirectory => 20
  | isADirectory => 21
  | nameTooLong => 36

/-- The system's words for a problem. -/
def words : FileProblem → String
  | missing => "No such file or directory"
  | .exists => "File exists"
  | notADirectory => "Not a directory"
  | isADirectory => "Is a directory"
  | nameTooLong => "File name too long"

/-- The name of the kind of refusal; some problems have none of their own. -/
def kindName : FileProblem → String
  | missing => "FileNotFoundError"
  | .exists => "FileExistsError"
  | notADirectory => "NotADirectoryError"
  | isADirectory => "IsADirectoryError"
  | nameTooLong => "OSError"

end FileProblem

/-- Why a file or a directory cannot be had. -/
inductive FileError where
  /-- The file system refuses the path, which is shown as it was given. -/
  | refused (problem : FileProblem) (path : String)
  /-- The path is none. -/
  | nullByte
deriving DecidableEq, Inhabited

namespace FileError

def message : FileError → String
  | refused problem path =>
    "[Errno " ++ toString problem.number ++ "] " ++ problem.words ++ ": " ++ Text.quoted path
  | nullByte => "embedded null byte"

def kindName : FileError → String
  | refused problem _ => problem.kindName
  | nullByte => "ValueError"

/-- What went wrong without the path. -/
def shown : FileError → String
  | refused problem _ =>
    problem.kindName ++ "(" ++ toString problem.number ++ ", " ++ Text.quoted problem.words ++ ")"
  | nullByte => "ValueError(" ++ Text.quoted nullByte.message ++ ")"

end FileError

/-- A file with its text, or a directory with its entries by name. -/
inductive Node where
  | file (text : String)
  /-- A file that stays empty, whatever is written to it. -/
  | sink
  | directory (entries : List (String × Node))
deriving Inhabited

namespace Node

/-- What stands at a place below a node. -/
def get? : Node → Place → Option Node
  | n, [] => some n
  | file _, _ :: _ => none
  | sink, _ :: _ => none
  | directory entries, name :: rest =>
    match entries.lookup name with
    | some n => n.get? rest
    | none => none

/-- Puts a node at a place; the directories on the way have to be there. -/
def put (new : Node) : Place → Node → Node
  | [], _ => new
  | name :: rest, directory entries =>
    match entries.lookup name with
    | some n => directory (entries.map fun e => if e.1 = name then (name, put new rest n) else e)
    | none => directory (if rest.isEmpty then entries ++ [(name, new)] else entries)
  | _, file text => file text
  | _, sink => sink

theorem lookup_map_self {entries : List (String × Node)} {name : String} {new : Node}
    (h : (entries.lookup name).isSome) :
    (entries.map fun e => if e.1 = name then (name, new) else e).lookup name = some new := by
  induction entries with
  | nil => simp at h
  | cons e rest ih =>
    obtain ⟨key, n⟩ := e
    by_cases same : key = name
    · simp [same]
    · have differs : (name == key) = false := by simp [Ne.symm same]
      simp only [List.lookup_cons, differs] at h
      simp only [List.map_cons, if_neg same, List.lookup_cons, differs]
      exact ih h

/-- What was put at a place where something stood already is there afterwards. -/
theorem get?_put_self {n : Node} {p : Place} (new : Node) (h : (n.get? p).isSome) :
    (put new p n).get? p = some new := by
  induction p generalizing n with
  | nil => simp [put, get?]
  | cons name rest ih =>
    cases n with
    | file text => simp [get?] at h
    | sink => simp [get?] at h
    | directory entries =>
      cases found : entries.lookup name with
      | none => simp [get?, found] at h
      | some m =>
        simp only [get?, found] at h
        simp only [put, found, get?, lookup_map_self (found ▸ rfl : (entries.lookup name).isSome)]
        exact ih h

end Node

/-- The file tree. The working directory, those above it and the null device are there from the
start. -/
structure Files where
  root : Node := .directory
    [("dev", .directory [("null", .sink)]), ("tmp", .directory [("work", .directory [])])]
deriving Inhabited

namespace Files

/-- The working directory. -/
def home : Place := ["tmp", "work"]

/-- A name has at most so many bytes, and a whole path fewer than `pathLimit`. -/
def nameLimit : Nat := 255
def pathLimit : Nat := 4096

/-- The text of the file at a place. -/
def text? (f : Files) (p : Place) : Option String :=
  match f.root.get? p with
  | some (.file text) => some text
  | some .sink => some ""
  | _ => none

/-- What a path leads to: a directory, a file, or a free name in a directory. -/
inductive Spot where
  | directory (place : Place)
  | file (place : Place)
  | vacant (place : Place)
deriving DecidableEq, Inhabited

/-- What a name stands for in a directory. -/
def look (f : Files) (place : Place) (name : String) : Except FileProblem Spot :=
  if Path.isDot name then .ok (.directory (Path.next place name))
  else if nameLimit < name.utf8ByteSize then .error .nameTooLong
  else
    let p := place ++ [name]
    match f.root.get? p with
    | some (.directory _) => .ok (.directory p)
    | some (.file _) | some .sink => .ok (.file p)
    | none => .ok (.vacant p)

/-- The directory that names lead to, one after the other. -/
def enter (f : Files) (place : Place) : List String → Except FileProblem Place
  | [] => .ok place
  | name :: rest =>
    match f.look place name with
    | .ok (.directory p) => f.enter p rest
    | .ok (.file _) => .error .notADirectory
    | .ok (.vacant _) => .error .missing
    | .error e => .error e

/-- The directory in which the last part of a path is looked up, and that part. The root is its own
last part. -/
def approach (f : Files) (path : String) : Except FileProblem (Place × String) :=
  if path = "" then .error .missing
  else if pathLimit ≤ path.utf8ByteSize then .error .nameTooLong
  else
    let parts := Path.parts path
    (f.enter (if Path.isAbsolute path then [] else home) parts.dropLast).map fun place =>
      (place, parts.getLast?.getD Path.own)

def locate (f : Files) (path : String) : Except FileProblem Spot := do
  let (place, name) ← f.approach path
  if Path.endsInSlash path then return .directory (← f.enter place [name])
  else f.look place name

/-- A path that leads to a file or a directory. -/
def isThere (f : Files) (path : String) : Bool :=
  !Path.holdsNull path &&
    match f.locate path with
    | .ok (.directory _) | .ok (.file _) => true
    | _ => false

def leadsToDirectory (f : Files) (path : String) : Bool :=
  match f.locate path with
  | .ok (.directory _) => true
  | _ => false

/-- The text of the file that a path leads to. -/
def read? (f : Files) (path : String) : Option String :=
  if Path.holdsNull path then none
  else
    match f.locate path with
    | .ok (.file p) => f.text? p
    | _ => none

/-- The text of a file as a reader of lines sees it. -/
def lineText (f : Files) (path : String) : Except FileError String :=
  if Path.holdsNull path then .error .nullByte
  else
    match f.locate path with
    | .ok (.file p) => .ok (String.ofList (Text.plainLineEnds ((f.text? p).getD "").toList))
    | .ok (.directory _) => .error (.refused .isADirectory path)
    | .ok (.vacant _) => .error (.refused .missing path)
    | .error e => .error (.refused e path)

/-- The text of a file that may be missing; only a path with a null character is refused. -/
def find (f : Files) (path : String) : Except FileError (Option String) :=
  if Path.holdsNull path then .error .nullByte else .ok (f.read? path)

/-- The second half of a way starts where the first one ends. -/
theorem enter_append (f : Files) (place : Place) (xs ys : List String) :
    f.enter place (xs ++ ys) = (f.enter place xs).bind fun p => f.enter p ys := by
  induction xs generalizing place with
  | nil => rfl
  | cons x xs ih =>
    simp only [List.cons_append, enter]
    match f.look place x with
    | .ok (.directory p) => exact ih p
    | .ok (.file _) | .ok (.vacant _) | .error _ => rfl

end Files

end StorageMetrics
