import SwapArchive.Number.FloatRead
import SwapArchive.Number.FloatText
import SwapArchive.Text.Quoted

/-!
# Values crossing the database boundary

A `DbValue` is an argument of a statement or a field of a result row: nothing, a boolean, a 64-bit
integer, a double or text. Reading one into a column converts it by the column's type: text as it
is or a value's text (`true`, `42`, `1e+21`); an integer as it is or a text read as a decimal
integer; a double as it is or a text read as a double. A failed reading names the value's type,
its text and the reason, as in `converting driver.Value type string ("x") to a int64: invalid
syntax`. Nothing reads as absent where a column may hold nothing, and fails elsewhere.
-/

namespace SwapArchive

/-- A value sent to or read from the database. -/
inductive DbValue where
  | null
  | bool (b : Bool)
  | int (i : Int)
  | float (x : Float)
  | text (s : String)
  deriving Inhabited

namespace DbValue

/-- The name of the value's type, as conversion failures show it. -/
def typeName : DbValue → String
  | .null => "<nil>"
  | .bool _ => "bool"
  | .int _ => "int64"
  | .float _ => "float64"
  | .text _ => "string"

/-- The value's text, through which it is read into a column of another type. -/
def asText : DbValue → String
  | .null => "<nil>"
  | .bool b => if b then "true" else "false"
  | .int i => toString i
  | .float x => FloatText.general x
  | .text s => s

/-- The failure of reading the text `s` of a value into a column of type `ty`. -/
def convertFailure (v : DbValue) (ty : String) (f : NumFailure) : String :=
  "converting driver.Value type " ++ v.typeName ++ " (" ++ Quoted.quote v.asText ++ ") to a " ++ ty ++
    ": " ++ FloatRead.failureText f

/-- Reads a value into an integer column. -/
def toInt64 : DbValue → Except String Int
  | .null => .error "converting NULL to int64 is unsupported"
  | .int i => .ok i
  | v => match IntText.parse "ParseInt" 64 v.asText with
    | .ok i => .ok i
    | .error e => .error (v.convertFailure "int64" e.failure)

/-- Reads a value into a double column. -/
def toFloat64 : DbValue → Except String Float
  | .null => .error "converting NULL to float64 is unsupported"
  | .float x => .ok x
  | v => match FloatRead.parse v.asText with
    | .ok x => .ok x
    | .error f => .error (v.convertFailure "float64" f)

/-- Reads a value into a text column. -/
def toText : DbValue → Except String String
  | .null => .error "converting NULL to string is unsupported"
  | v => .ok v.asText

/-- Reads a value into a column that may hold nothing: nothing reads as absent. -/
def optional {α : Type} (read : DbValue → Except String α) : DbValue → Except String (Option α)
  | .null => .ok none
  | v => (read v).map some

end DbValue

end SwapArchive
