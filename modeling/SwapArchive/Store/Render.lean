import SwapArchive.Database.Value
import SwapArchive.Store.Quote
import SwapArchive.Text.Case

/-!
# Writing statements

Statements are text with numbered placeholders `$1`, `$2`, … and their arguments in order. A
`Condition` is a text with `?` where its arguments go: a value is one placeholder, a list a
parenthesised list of them, or `(NULL)` when empty. Conditions are joined with `AND`, one that
holds `AND` or `OR` put in parentheses when there are several. `Select` writes `SELECT ... FROM
... [WHERE ...] [ORDER BY ...] [LIMIT $n] [OFFSET $m]`; `Insert` writes `INSERT INTO <table>
(<columns>) VALUES (...) ON CONFLICT (<key>)` and `DO NOTHING`, or `DO UPDATE SET
"c"="excluded"."c",...` for the columns taken from the new row.
-/

namespace SwapArchive

/-- Statement text and its arguments, one per placeholder. -/
structure SqlText where
  text : String := ""
  args : List DbValue := []
  deriving Inhabited

namespace SqlText

/-- Appends text. -/
def write (t : SqlText) (s : String) : SqlText := { t with text := t.text ++ s }

/-- Appends a placeholder for a value. -/
def bind (t : SqlText) (v : DbValue) : SqlText :=
  { text := t.text ++ "$" ++ toString (t.args.length + 1), args := t.args ++ [v] }

/-- Appends a parenthesised list of placeholders, `(NULL)` for no value. -/
def bindList (t : SqlText) : List DbValue → SqlText
  | [] => t.write "(NULL)"
  | v :: vs => (vs.foldl (fun t v => (t.write ",").bind v) ((t.write "(").bind v)).write ")"

end SqlText

/-- An argument of a condition: one value, or a list. -/
inductive Arg where
  | one (v : DbValue)
  | many (vs : List DbValue)

/-- A condition with `?` where its arguments go. -/
structure Condition where
  sql : String
  args : List Arg

namespace Condition

/-- Writes a condition's text, each `?` taking the next argument while there is one. -/
def writeChars : SqlText → List Char → List Arg → SqlText
  | t, [], _ => t
  | t, '?' :: cs, a :: as =>
    let t := match a with
      | .one v => t.bind v
      | .many vs => t.bindList vs
    writeChars t cs as
  | t, c :: cs, as => writeChars (t.write (String.singleton c)) cs as

/-- Does the text hold the word `w` between blanks, in any case? -/
def holdsWord (sql w : String) : Bool :=
  ((Case.upperText sql).splitOn (" " ++ w ++ " ")).length > 1

/-- Does the condition need parentheses among others? -/
def compound (c : Condition) : Bool := holdsWord c.sql "AND" || holdsWord c.sql "OR"

/-- Writes a condition. -/
def write (t : SqlText) (c : Condition) : SqlText := writeChars t c.sql.toList c.args

/-- Writes conditions joined with `AND`, compound ones parenthesised when there are several. -/
def writeAll (t : SqlText) (cs : List Condition) : SqlText :=
  let several := cs.length > 1
  let one := fun (t : SqlText) (c : Condition) =>
    if several ∧ c.compound then (write (t.write "(") c).write ")" else write t c
  match cs with
  | [] => t
  | c :: rest => rest.foldl (fun t c => one (t.write " AND ") c) (one t c)

end Condition

/-- A query. -/
structure Select where
  /-- The column list as written: `*`, a quoted column or an expression. -/
  columns : String := "*"
  table : TableRef
  conditions : List Condition := []
  /-- The ordering as written, such as `"timestamp" DESC`. -/
  order : Option String := none
  limit : Option Int := none
  offset : Option Int := none

namespace Select

/-- The text of a query. -/
def render (q : Select) : SqlText :=
  let t : SqlText := { text := "SELECT " ++ q.columns ++ " FROM " ++ q.table.expr }
  let t := if q.conditions.isEmpty then t else Condition.writeAll (t.write " WHERE ") q.conditions
  let t := match q.order with
    | some o => t.write (" ORDER BY " ++ o)
    | none => t
  let t := match q.limit with
    | some n => (t.write " LIMIT ").bind (.int n)
    | none => t
  match q.offset with
  | some n => (t.write " OFFSET ").bind (.int n)
  | none => t

end Select

/-- The ordering text of a column, descending or not. -/
def orderBy (column : String) (desc : Bool) : String :=
  Ident.quote column ++ (if desc then " DESC" else "")

/-- An insert of rows, with what to do when a row's key is already held. -/
structure Insert where
  table : TableRef
  columns : List String
  rows : List (List DbValue)
  key : List String
  /-- The columns taken from the new row when its key is held; none means the row is dropped. -/
  updates : List String

namespace Insert

/-- Names joined with commas, each quoted. -/
def quotedList (names : List String) : String := ",".intercalate (names.map Ident.quote)

/-- Writes one row of placeholders. -/
def writeRow (t : SqlText) (row : List DbValue) : SqlText :=
  match row with
  | [] => t.write "()"
  | v :: vs => (vs.foldl (fun t v => (t.write ",").bind v) ((t.write "(").bind v)).write ")"

/-- The text of an insert. -/
def render (i : Insert) : SqlText :=
  let t : SqlText :=
    { text := "INSERT INTO " ++ i.table.expr ++ " (" ++ quotedList i.columns ++ ") VALUES " }
  let t := match i.rows with
    | [] => t
    | r :: rs => rs.foldl (fun t r => writeRow (t.write ",") r) (writeRow t r)
  let t := t.write (" ON CONFLICT (" ++ quotedList i.key ++ ") ")
  if i.updates.isEmpty then t.write "DO NOTHING"
  else
    t.write ("DO UPDATE SET " ++ ",".intercalate
      (i.updates.map fun c => Ident.quote c ++ "=" ++ Ident.quote "excluded" ++ "." ++ Ident.quote c))

end Insert

end SwapArchive
