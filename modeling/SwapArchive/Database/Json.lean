import SwapArchive.Database.Scripted
import SwapArchive.Json.Decode
import SwapArchive.Swap.Record

/-!
# JSON forms of database values, scripts and statements

A row value is `null`, a boolean, a text or a number: a number written as a decimal integer in the
64-bit range is an integer, any other a float (so `2.0`, `1e3` and `-0.0` are floats). A script is `{query_results: [{columns, rows, error}],
fail_exec_nth, fail_exec_arg, exec_error, begin_error, commit_error, ping_error, ping_hang}`; an
empty `exec_error` keeps the default text. A statement is `{kind}`, with `sql` and `args` for
execs and queries.
-/

namespace SwapArchive

namespace DbValue

/-- Reads a row value. -/
def ofJson : Json → Except String DbValue
  | .null => .ok .null
  | .bool b => .ok (.bool b)
  | .str s => .ok (.text s)
  | j@(.num lit) =>
    match IntText.parseInt64 lit with
    | .ok i => .ok (.int i)
    | .error _ => do pure (.float (← Json.readFloat j))
  | _ => .error "unsupported row value"

/-- The JSON form of a value. -/
def toJson : DbValue → Json
  | .null => .null
  | .bool b => .bool b
  | .int i => Json.ofInt i
  | .float x => Json.ofFloat x
  | .text s => .str s

end DbValue

/-- Reads a query's scripted answer. -/
def QueryScript.ofJson (j : Json) : Except String QueryScript := do
  Json.expectObject "query result" j
  pure { columns := ← j.field "columns" (Json.readList Json.readString) []
         rows := ← j.field "rows" (Json.readList (Json.readList DbValue.ofJson)) []
         error := ← j.field "error" Json.readString "" }

/-- Reads a database script. -/
def DbScript.ofJson (j : Json) : Except String DbScript := do
  Json.expectObject "db" j
  let str := fun (k : String) => j.field k Json.readString ""
  let execError ← str "exec_error"
  pure { results := ← j.field "query_results" (Json.readList QueryScript.ofJson) []
         failExecNth := (← j.field "fail_exec_nth" (Json.readList Json.readInt) []).map Int.toNat
         failExecArg := ← j.field "fail_exec_arg" (Json.readList Json.readString) []
         execError := if execError = "" then "exec failed" else execError
         beginError := ← str "begin_error", commitError := ← str "commit_error"
         pingError := ← str "ping_error", pingHang := ← j.field "ping_hang" Json.readBool false }

/-- The JSON form of a statement. -/
def Statement.toJson : Statement → Json
  | .begin => .obj [("kind", .str "begin")]
  | .commit => .obj [("kind", .str "commit")]
  | .rollback => .obj [("kind", .str "rollback")]
  | .ping => .obj [("kind", .str "ping")]
  | .exec sql args => .obj [("kind", .str "exec"), ("sql", .str sql), ("args", .arr (args.map DbValue.toJson))]
  | .query sql args => .obj [("kind", .str "query"), ("sql", .str sql), ("args", .arr (args.map DbValue.toJson))]

end SwapArchive
