import SwapArchive.Cursor.Basic
import SwapArchive.Cursor.Disk
import SwapArchive.Text.Clean

/-!
# The cursor store

Cursors are kept one per file, `<root>/<source>_<direction>_page_token.txt`. Reading gives the
file's text without surrounding blanks, a missing file the empty cursor, and any other failure a
`read` failure of the file. Writing never leaves a half-written file: the text goes to
`<file>.tmp`, which is flushed, closed and renamed over the file, the root made first if need be;
a failure names its step (`write`, `sync` or `rename`) and the file. The store runs over any
`FileOps`; `Disk.ops` are those of a `Disk`.
-/

namespace SwapArchive

/-- The file calls the cursor store makes, as transitions of a file system `φ`. -/
structure FileOps (φ : Type) where
  readFile : String → φ → Except OsError String
  mkdirAll : String → φ → Except OsError Unit × φ
  /-- Opens a file for writing, creating or emptying it. -/
  create : String → φ → Except OsError Unit × φ
  write : String → String → φ → Except OsError Unit × φ
  sync : String → φ → Except OsError Unit × φ
  close : String → φ → Except OsError Unit × φ
  rename : String → String → φ → Except OsError Unit × φ

namespace Disk

/-- Lifts a disk change that may fail to a transition. -/
def step (f : Disk → Except OsError Disk) (d : Disk) : Except OsError Unit × Disk :=
  match f d with
  | .ok d' => (.ok (), d')
  | .error e => (.error e, d)

/-- The file calls of a disk; flushing and closing never fail on it. -/
def ops : FileOps Disk where
  readFile := fun p d => d.readFile p
  mkdirAll := fun p => step fun d => d.mkdirAll p
  create := fun p => step fun d => d.create p
  write := fun p s => step fun d => d.append p s
  sync := fun _ d => (.ok (), d)
  close := fun _ d => (.ok (), d)
  rename := fun a b => step fun d => d.rename a b

end Disk

namespace CursorStore

variable {φ : Type}

/-- The file of a source and direction under a root. -/
def path (root source dir : String) : String := PathText.join root (Cursor.fileName source dir)

/-- Reads a cursor: the file's text without surrounding blanks, empty if there is no file. -/
def read (fs : FileOps φ) (root source dir : String) (x : φ) : Except FileError String :=
  let p := path root source dir
  match fs.readFile p x with
  | .ok s => .ok (Clean.trim s)
  | .error e => if e.notExist then .ok "" else .error ⟨p, "read", e.text⟩

/-- Writes a cursor through a temporary file renamed over the cursor file. -/
def write (fs : FileOps φ) (root source dir cursor : String) (x : φ) : Except FileError Unit × φ :=
  let p := path root source dir
  let tmp := p ++ ".tmp"
  let failed := fun (op : String) (e : OsError) (x : φ) =>
    ((.error ⟨p, op, e.text⟩ : Except FileError Unit), x)
  match fs.mkdirAll root x with
  | (.error e, x) => failed "write" e x
  | (.ok (), x) =>
  match fs.create tmp x with
  | (.error e, x) => failed "write" e x
  | (.ok (), x) =>
  match fs.write tmp cursor x with
  | (.error e, x) => failed "write" e (fs.close tmp x).2
  | (.ok (), x) =>
  match fs.sync tmp x with
  | (.error e, x) => failed "sync" e (fs.close tmp x).2
  | (.ok (), x) =>
  match fs.close tmp x with
  | (.error e, x) => failed "write" e x
  | (.ok (), x) =>
  match fs.rename tmp p x with
  | (.error e, x) => failed "rename" e x
  | (.ok (), x) => (.ok (), x)

end CursorStore

end SwapArchive
