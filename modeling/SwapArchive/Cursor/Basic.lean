/-!
# Page cursors

A pass that walks a feed page by page saves the cursor of where it stands, one cursor per source
and direction, so that a later run resumes there. Walking towards older pages uses the `prev`
direction, towards newer pages the `next` direction. Each cursor lives in a file named
`<source>_<direction>_page_token.txt`.
-/

namespace SwapArchive

/-- The direction a feed is walked in. -/
inductive Direction where
  | next
  | prev
  deriving DecidableEq, Repr, Inhabited

namespace Direction

/-- The direction's name. -/
def text : Direction → String
  | .next => "next"
  | .prev => "prev"

end Direction

namespace Cursor

/-- The name of the file that holds the cursor of a source and direction (by its name). -/
def fileName (source dir : String) : String :=
  source ++ "_" ++ dir ++ "_page_token.txt"

end Cursor

/-- A cursor file operation that failed: the operation, the path and the text of the cause. -/
structure FileError where
  path : String
  op : String
  cause : String
  deriving DecidableEq, Repr

namespace FileError

/-- `checkpoint <op> <path>: <cause>`. -/
def message (e : FileError) : String :=
  "checkpoint " ++ e.op ++ " " ++ e.path ++ ": " ++ e.cause

end FileError

end SwapArchive
