import SwapArchive.Text.Bytes

/-!
# Slash-separated paths

A path is a list of bytes whose names are separated by `/`. `SlashPath.clean` gives the shortest
path naming the same place by lexical processing alone: empty names and `.` are dropped; `..`
drops the name before it, is dropped at the root, and is kept in a relative path with nothing
left to drop; a rooted path stays rooted, and a path left with no names is `/` when rooted and
`.` otherwise. `SlashPath.dir` is the part of a path up to and including its last `/`.
-/

namespace SwapArchive

namespace SlashPath

/-- The byte of `/`. -/
def slash : UInt8 := 47

/-- The byte of `.`. -/
def dot : UInt8 := 46

/-- Takes in one name, given the kept names in reverse order. -/
def step (rooted : Bool) (kept : List (List UInt8)) (name : List UInt8) : List (List UInt8) :=
  if name = [] ∨ name = [dot] then kept
  else if name = [dot, dot] then
    match kept with
    | top :: rest => if top = [dot, dot] then name :: kept else rest
    | [] => if rooted then [] else [name]
  else name :: kept

/-- The shortest path naming the same place. -/
def clean (p : List UInt8) : List UInt8 :=
  let rooted := p.head? = some slash
  let names := ((p.splitOn slash).foldl (step rooted) []).reverse
  let body := slash :: [] |>.intercalate names
  if rooted then slash :: body else if body = [] then [dot] else body

/-- A text path, cleaned. -/
def cleanText (s : String) : String := Bytes.toText (clean (Bytes.ofString s))

/-- The part of a path up to and including its last `/`. -/
def dir (p : List UInt8) : List UInt8 :=
  (p.reverse.dropWhile (· ≠ slash)).reverse

end SlashPath

end SwapArchive
