import SwapArchive.Database.Connection
import SwapArchive.Store.Layout

/-!
# Reading result rows

A result row is read column by column into a layout's blank row. Unknown columns are skipped,
unless the result has that one column only: it is then read into the row as a whole, which no
value can be. The first column that cannot be read fails the row, naming its index and name:
`sql: Scan error on column index 0, name "timestamp": …`. Reading many rows reads every one and,
when some fail, joins the failures with `; ` and keeps no row; reading one row fails with `record
not found` when there is none. A nullable integer (the newest timestamp) and a one-column list of
texts (the ids a table holds) have reads of their own.
-/

namespace SwapArchive

namespace Scan

variable {α : Type}

/-- The failure of reading a column. -/
def columnFailure (index : Nat) (name reason : String) : String :=
  "sql: Scan error on column index " ++ toString index ++ ", name " ++ Quoted.quote name ++ ": " ++ reason

/-- Reads the values of a row column by column into a row. -/
def readColumns (l : RowLayout α) : Nat → List String → List DbValue → α → Except String α
  | _, [], _, r => .ok r
  | i, c :: cs, vs, r =>
    let v := vs.headD .null
    match l.lookup c with
    | none => readColumns l (i + 1) cs vs.tail r
    | some f =>
      match f.put v r with
      | .error e => .error (columnFailure i c e)
      | .ok r => readColumns l (i + 1) cs vs.tail r

/-- Reads one result row into a row of the layout. -/
def row (l : RowLayout α) (columns : List String) (values : List DbValue) : Except String α :=
  match columns with
  | [c] =>
    if (l.lookup c).isNone then
      let v := values.headD .null
      .error (columnFailure 0 c ("unsupported Scan, storing driver.Value type " ++ v.typeName ++
        " into type " ++ l.typeName))
    else readColumns l 0 columns values l.blank
  | _ => readColumns l 0 columns values l.blank

/-- The rows read, or the failures among them joined with `; `. -/
def collect (read : List (Except String α)) : Except String (List α) :=
  let failures := read.filterMap fun | .error e => some e | .ok _ => none
  if failures.isEmpty then .ok (read.filterMap fun | .ok r => some r | .error _ => none)
  else .error ("; ".intercalate failures)

/-- Reads every row of a result. -/
def all (l : RowLayout α) (rs : ResultSet) : Except String (List α) :=
  collect (rs.rows.map (row l rs.columns))

/-- The failure of reading one row from an empty result. -/
def notFound : String := "record not found"

/-- Reads the first row of a result. -/
def first (l : RowLayout α) (rs : ResultSet) : Except String α :=
  match rs.rows with
  | [] => .error notFound
  | values :: _ => row l rs.columns values

/-- Reads a single integer that may be nothing from the first row of a one-column result. -/
def optionalInt (rs : ResultSet) : Except String (Option Int) :=
  match rs.rows with
  | [] => .error "sql: no rows in result set"
  | values :: _ =>
    match rs.columns with
    | [c] =>
      match DbValue.optional DbValue.toInt64 (values.headD .null) with
      | .ok v => .ok v
      | .error e => .error (columnFailure 0 c e)
    | cs => .error ("sql: expected " ++ toString cs.length ++ " destination arguments in Scan, not 1")

/-- Reads the one column of every row as text. A result with no column gives empty texts; one
with several columns has no place to read them into. -/
def texts (rs : ResultSet) : Except String (List String) :=
  collect <| rs.rows.map fun values =>
    match rs.columns with
    | [] => .ok ""
    | [c] => match DbValue.toText (values.headD .null) with
      | .ok s => .ok s
      | .error e => .error (columnFailure 0 c e)
    | c :: _ => .error (columnFailure 0 c "destination not a pointer")

end Scan

end SwapArchive
