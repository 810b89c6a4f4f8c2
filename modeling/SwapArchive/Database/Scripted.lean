import SwapArchive.Database.Connection

/-!
# A scripted database

`ScriptedDb` answers every call from a `DbScript` chosen in advance and logs every statement it
receives, failed ones included. The n-th query answers the n-th scripted result (no columns and
no rows once they run out), failing with the result's failure text if it has one. Statements that
return no rows are counted over the database's life and fail, with the script's exec failure
text, when their number is listed or a text argument equals a listed text. Opening and committing
fail with the scripted text when there is one; rolling back never fails. A ping is refused with
the scripted text, or goes unanswered when the script says so.
-/

namespace SwapArchive

/-- One scripted query answer. -/
structure QueryScript where
  columns : List String := []
  rows : List (List DbValue) := []
  error : String := ""
  deriving Inhabited

/-- What a scripted database answers. -/
structure DbScript where
  results : List QueryScript := []
  failExecNth : List Nat := []
  failExecArg : List String := []
  execError : String := "exec failed"
  beginError : String := ""
  commitError : String := ""
  pingError : String := ""
  pingHang : Bool := false
  deriving Inhabited

/-- A scripted database: its script, how many queries and statements it has run, and its log. -/
structure ScriptedDb where
  script : DbScript := {}
  queries : Nat := 0
  execs : Nat := 0
  log : List Statement := []
  deriving Inhabited

namespace ScriptedDb

/-- Logs a statement. -/
def record (d : ScriptedDb) (s : Statement) : ScriptedDb := { d with log := d.log ++ [s] }

/-- Fails with `text` when it is not empty. -/
def failWith (text : String) : Except String Unit := if text = "" then .ok () else .error text

/-- Does a statement's argument list hold one of the failing texts? -/
def hasFailingArg (d : ScriptedDb) (args : List DbValue) : Bool :=
  args.any fun
    | .text s => s ∈ d.script.failExecArg
    | _ => false

/-- Runs a statement that returns no rows. -/
def exec (sql : String) (args : List DbValue) (d : ScriptedDb) : Except String Unit × ScriptedDb :=
  let n := d.execs + 1
  let d := { d.record (.exec sql args) with execs := n }
  if d.script.failExecNth.contains n || d.hasFailingArg args then (.error d.script.execError, d)
  else (.ok (), d)

/-- Runs a query. -/
def query (sql : String) (args : List DbValue) (d : ScriptedDb) : Except String ResultSet × ScriptedDb :=
  let answer := d.script.results[d.queries]?
  let d := { d.record (.query sql args) with queries := d.queries + 1 }
  match answer with
  | none => (.ok {}, d)
  | some q => if q.error = "" then (.ok ⟨q.columns, q.rows⟩, d) else (.error q.error, d)

/-- The calls of a scripted database. -/
def ops : DbOps ScriptedDb where
  begin := fun d => (failWith d.script.beginError, d.record .begin)
  commit := fun d => (failWith d.script.commitError, d.record .commit)
  rollback := fun d => d.record .rollback
  exec := exec
  query := query
  ping := fun d =>
    let d := d.record .ping
    if d.script.pingError ≠ "" then (.refused d.script.pingError, d)
    else if d.script.pingHang then (.silent, d)
    else (.answered, d)

/-- A scripted database that has run nothing yet. -/
def ofScript (s : DbScript) : ScriptedDb := { script := s }

end ScriptedDb

end SwapArchive
