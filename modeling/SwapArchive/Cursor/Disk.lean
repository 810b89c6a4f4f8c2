/-!
# A disk of files and directories

`Disk` is a finite tree of directories and files under one top directory, addressed by
slash-separated paths whose first part names the top. Its calls fail as POSIX calls do, with texts
`<call> <path>: <reason>`: a path through a missing directory or through a file, reading a
directory, renaming onto a directory. `mkdirAll` makes each missing directory from the top down;
writing a file creates it or empties it first. `PathText.clean` reduces a path to its shortest
equivalent: no empty or `.` parts, each `..` cancelling the part before it.
-/

namespace SwapArchive

namespace PathText

/-- Reduces the parts of a path: empty and `.` parts go, `..` cancels the part before it (and is
kept at the start of a relative path, dropped at the start of a rooted one). -/
def reduce (rooted : Bool) : List String → List String → List String
  | acc, [] => acc.reverse
  | acc, p :: ps =>
    if p = "" ∨ p = "." then reduce rooted acc ps
    else if p = ".." then
      match acc with
      | q :: qs => if q = ".." then reduce rooted (p :: acc) ps else reduce rooted qs ps
      | [] => if rooted then reduce rooted [] ps else reduce rooted [p] ps
    else reduce rooted (p :: acc) ps

/-- The parts of a path between its slashes, in order; a path with no slash is one part. -/
def parts (s : String) : List String := (s.toList.splitOn '/').map String.ofList

/-- The shortest path naming the same file. -/
def clean (s : String) : String :=
  if s = "" then "."
  else
    let rooted := s.startsWith "/"
    let body := "/".intercalate (reduce rooted [] (parts s))
    if rooted then "/" ++ body else if body = "" then "." else body

/-- Joins two paths with a slash and cleans the result; an empty part is left out. -/
def join (a b : String) : String :=
  if a = "" then (if b = "" then "" else clean b)
  else if b = "" then clean a
  else clean (a ++ "/" ++ b)

/-- The directory part of a path, as a directory walk finds it: trailing slashes dropped, then
everything from the last slash on. -/
def parentOf (s : String) : String :=
  let cs := s.toList.reverse.dropWhile (· = '/')
  let rest := cs.dropWhile (· ≠ '/')
  String.ofList (rest.drop 1).reverse

end PathText

/-- Why a disk call failed. -/
inductive Errno where
  | noEntry
  | notDir
  | isDir
  | exists
  deriving DecidableEq, Repr

namespace Errno

/-- The reason's text. -/
def text : Errno → String
  | .noEntry => "no such file or directory"
  | .notDir => "not a directory"
  | .isDir => "is a directory"
  | .exists => "file exists"

end Errno

/-- A failed disk call: its full text, and whether it failed because the file does not exist. -/
structure OsError where
  text : String
  notExist : Bool
  deriving DecidableEq, Repr

/-- What sits at a path. -/
inductive Node where
  | dir
  | file (content : String)
  deriving DecidableEq, Repr

/-- A tree of directories and files below a top directory named `top`. -/
structure Disk where
  top : String
  nodes : List (List String × Node) := []
  deriving Inhabited

namespace Disk

/-- The parts of a path below the top, none if the path is not below the top. -/
def parts (d : Disk) (path : String) : Option (List String) :=
  match PathText.parts (PathText.clean path) with
  | t :: ps => if t = d.top then some ps else none
  | [] => none

/-- What sits at the parts of a path below the top. -/
def nodeAt (d : Disk) (ps : List String) : Option Node :=
  if ps = [] then some .dir else (d.nodes.find? fun e => e.1 = ps).map Prod.snd

/-- Walks to a path: a failure if a directory on the way is missing or a file, else what sits at
the end, if anything. -/
def resolve (d : Disk) (path : String) : Except Errno (Option Node) :=
  match d.parts path with
  | none => .error .noEntry
  | some ps =>
    let walk := (List.range ps.length).foldl (fun (acc : Except Errno Unit) i =>
      match acc with
      | .error e => .error e
      | .ok () =>
        if i = 0 then .ok ()
        else match d.nodeAt (ps.take i) with
          | some .dir => .ok ()
          | some (.file _) => .error .notDir
          | none => .error .noEntry) (.ok ())
    match walk with
    | .error e => .error e
    | .ok () => .ok (d.nodeAt ps)

/-- Puts a node at a path below the top. -/
def put (d : Disk) (ps : List String) (n : Node) : Disk :=
  if d.nodes.any (fun e => e.1 = ps) then
    { d with nodes := d.nodes.map fun e => if e.1 = ps then (ps, n) else e }
  else { d with nodes := d.nodes ++ [(ps, n)] }

/-- The failure `<call> <path>: <reason>`. -/
def fail (call path : String) (e : Errno) : OsError := ⟨call ++ " " ++ path ++ ": " ++ e.text, e = .noEntry⟩

/-- Reads a file. -/
def readFile (d : Disk) (path : String) : Except OsError String :=
  match d.resolve path with
  | .error e => .error (fail "open" path e)
  | .ok none => .error (fail "open" path .noEntry)
  | .ok (some .dir) => .error (fail "read" path .isDir)
  | .ok (some (.file c)) => .ok c

/-- Makes one directory whose parent exists. -/
def mkdir (d : Disk) (path : String) : Except OsError Disk :=
  match d.resolve path, d.parts path with
  | .error e, _ => .error (fail "mkdir" path e)
  | .ok none, some ps => .ok (d.put ps .dir)
  | .ok none, none => .error (fail "mkdir" path .noEntry)
  | .ok (some .dir), _ => .ok d
  | .ok (some (.file _)), _ => .error (fail "mkdir" path .exists)

/-- Makes a directory and every missing directory above it. -/
def mkdirAllFuel : Nat → Disk → String → Except OsError Disk
  | 0, d, path => d.mkdir path
  | fuel + 1, d, path =>
    match d.resolve path with
    | .ok (some .dir) => .ok d
    | .ok (some (.file _)) => .error (fail "mkdir" path .notDir)
    | _ =>
      let parent := PathText.parentOf path
      let made := if parent = "" then .ok d else mkdirAllFuel fuel d parent
      match made with
      | .error e => .error e
      | .ok d => d.mkdir path

/-- Makes a directory and every missing directory above it. -/
def mkdirAll (d : Disk) (path : String) : Except OsError Disk := mkdirAllFuel path.length d path

/-- Opens a file for writing: creates it, or empties it. -/
def create (d : Disk) (path : String) : Except OsError Disk :=
  match d.resolve path, d.parts path with
  | .error e, _ => .error (fail "open" path e)
  | .ok (some .dir), _ => .error (fail "open" path .isDir)
  | .ok _, some ps => .ok (d.put ps (.file ""))
  | .ok _, none => .error (fail "open" path .noEntry)

/-- Appends text to a file. -/
def append (d : Disk) (path : String) (s : String) : Except OsError Disk :=
  match d.resolve path, d.parts path with
  | .ok (some (.file c)), some ps => .ok (d.put ps (.file (c ++ s)))
  | .ok (some .dir), _ => .error (fail "write" path .isDir)
  | .error e, _ => .error (fail "write" path e)
  | _, _ => .error (fail "write" path .noEntry)

/-- Writes a file: creates or empties it, then writes the text. -/
def writeFile (d : Disk) (path : String) (s : String) : Except OsError Disk := do
  let d ← d.create path
  d.append path s

/-- The failure of a rename: `rename <old> <new>: <reason>`. -/
def renameFail (old new : String) (e : Errno) : OsError :=
  ⟨"rename " ++ old ++ " " ++ new ++ ": " ++ e.text, e = .noEntry⟩

/-- Moves a file to a new path, replacing a file there; a directory there is refused. -/
def rename (d : Disk) (old new : String) : Except OsError Disk :=
  match d.resolve new with
  | .ok (some .dir) =>
    match d.resolve old with
    | .error e => .error (renameFail old new e)
    | .ok none => .error (renameFail old new .noEntry)
    | .ok (some _) => .error (renameFail old new .exists)
  | .error e => .error (renameFail old new e)
  | .ok _ =>
    match d.resolve old, d.parts old, d.parts new with
    | .ok (some n), some po, some pn =>
      let d := { d with nodes := d.nodes.filter fun e => e.1 ≠ po }
      .ok (d.put pn n)
    | .error e, _, _ => .error (renameFail old new e)
    | _, _, _ => .error (renameFail old new .noEntry)

/-- Removes a path and everything below it; a missing path is no failure. -/
def removeAll (d : Disk) (path : String) : Disk :=
  match d.parts path with
  | none => d
  | some ps => { d with nodes := d.nodes.filter fun e => !(ps.isPrefixOf e.1) }

/-- Every file below the top with its content, by path relative to the top. -/
def files (d : Disk) : List (String × String) :=
  let fs := d.nodes.filterMap fun e => match e.2 with
    | .file c => some ("/".intercalate e.1, c)
    | .dir => none
  fs.mergeSort fun a b => decide (a.1 ≤ b.1)

end Disk

end SwapArchive
