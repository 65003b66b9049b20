import StorageMetrics.Files.Basic

/-
  Making directories and files. What was made before a refusal stays: an action on the tree keeps
  the tree as it stands then.
-/

namespace StorageMetrics

/-- A computation over the file tree that may be refused. -/
abbrev Filing := EStateM FileError Files

namespace Files

def put (f : Files) (new : Node) (p : Place) : Files := { f with root := Node.put new p f.root }

/-- Gives the file at a place a text; a sink takes none. -/
def setText (f : Files) (p : Place) (text : String) : Files :=
  match f.root.get? p with
  | some .sink => f
  | _ => f.put (.file text) p

def refuse (problem : FileProblem) (path : String) : Filing α := throw (.refused problem path)

/-- Makes one directory, whose name has to be free. -/
def makeOne (path : String) : Filing Unit := fun f =>
  if Path.holdsNull path then .error .nullByte f
  else
    match f.approach path with
    | .error e => refuse e path f
    | .ok (place, name) =>
      match f.look place name with
      | .error e => refuse e path f
      | .ok (.vacant p) => .ok () (f.put (.directory []) p)
      | .ok _ => refuse .exists path f

/-- Makes one directory; one that is there already is fine. -/
def ensureOne (path : String) : Filing Unit := do
  try makeOne path
  catch
    | .nullByte => throw .nullByte
    | e => if (← get).leadsToDirectory path then return () else throw e

/-- Makes a directory, those above it first. A name above that is taken is passed over, since what
has to be made below it is refused next. -/
def ensure (path : List Char) : Filing Unit := fun f =>
  let above := (Path.cut path).1
  if _missing : (Path.cut path).2 ≠ [] ∧ above ≠ [] ∧ f.isThere (String.ofList above) = false then
    match ensure above f with
    | .ok () f | .error (.refused .exists _) f =>
      if (Path.cut path).2 = Path.own.toList then .ok () f else ensureOne (String.ofList path) f
    | .error e f => .error e f
  else ensureOne (String.ofList path) f
termination_by path.length
decreasing_by exact Path.length_cut_lt _missing.1

/-- Makes sure that the directory above a path is there. -/
def ensureParent (path : String) : Filing Unit :=
  let above := Path.parent path.toList
  if above = [] then return () else ensure above

/-- The place of a file that can be written under a path. -/
def writable (path : String) : Filing Place := do
  if Path.holdsNull path then throw .nullByte
  match (← get).locate path with
  | .error e => refuse e path
  | .ok (.directory _) => refuse .isADirectory path
  | .ok (.file p) | .ok (.vacant p) => return p

/-- Replaces the text of a file. -/
def write (path text : String) : Filing Unit := do
  let p ← writable path
  modify fun f => f.setText p text

/-- Opens a file that texts will be added to, in a directory that is made where it is missing. The
file is made at once. Gives its place. -/
def openEnd (path : String) : Filing Place := do
  ensureParent path
  let p ← writable (Path.rootText path ++ "/".intercalate (Path.normal home path))
  modify fun f => if (f.text? p).isSome then f else f.setText p ""
  return p

/-- Adds to the end of a file. -/
def append (f : Files) (p : Place) (text : String) : Files :=
  f.setText p ((f.text? p).getD "" ++ text)

/-- The files of a list, each in its directory; a file that cannot be had is left out. -/
def ofList (xs : List (String × String)) : Files :=
  xs.foldl (fun f x =>
    match (do ensureParent x.1; write x.1 x.2 : Filing Unit) f with
    | .ok _ f | .error _ f => f) {}

end Files

end StorageMetrics
