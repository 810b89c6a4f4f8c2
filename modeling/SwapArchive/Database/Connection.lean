import SwapArchive.Database.Value

/-!
# Talking to a database

`DbOps δ` are the calls a store makes on a database `δ`: open, commit and roll back a
transaction, run a statement (`exec`) or a query, and check that the database answers (`ping`).
Each is a transition of `δ`, so a store written over `DbOps` works on any database, `ScriptedDb`
included. A `Handle` adds the caller's side: once the caller has given up, every call that would
reach the database fails with `context canceled` before it is sent. `Statement` is what reaches
the database, in the order sent.
-/

namespace SwapArchive

/-- What reaches the database. -/
inductive Statement where
  | begin
  | commit
  | rollback
  | ping
  | exec (sql : String) (args : List DbValue)
  | query (sql : String) (args : List DbValue)
  deriving Inhabited

/-- The rows a query answers: the column names and, per row, one value per column. -/
structure ResultSet where
  columns : List String := []
  rows : List (List DbValue) := []
  deriving Inhabited

/-- How a ping ends: answered, refused with a reason, or not answered at all. -/
inductive PingEnd where
  | answered
  | refused (reason : String)
  | silent
  deriving DecidableEq, Inhabited

/-- The calls a store makes on a database `δ`. -/
structure DbOps (δ : Type) where
  begin : δ → Except String Unit × δ
  commit : δ → Except String Unit × δ
  rollback : δ → δ
  exec : String → List DbValue → δ → Except String Unit × δ
  query : String → List DbValue → δ → Except String ResultSet × δ
  ping : δ → PingEnd × δ

/-- The calls of a caller: the database's, and whether the caller has given up already. -/
structure Handle (δ : Type) where
  ops : DbOps δ
  cancelled : Bool := false

namespace Handle

variable {δ : Type}

/-- The failure of a call made after the caller gave up. -/
def canceledText : String := "context canceled"

/-- Runs a call unless the caller has given up. -/
def guard {α : Type} (h : Handle δ) (call : δ → Except String α × δ) (d : δ) : Except String α × δ :=
  if h.cancelled then (.error canceledText, d) else call d

/-- Opens a transaction. -/
def begin (h : Handle δ) : δ → Except String Unit × δ := h.guard h.ops.begin

/-- Commits the open transaction. -/
def commit (h : Handle δ) : δ → Except String Unit × δ := h.ops.commit

/-- Rolls the open transaction back. -/
def rollback (h : Handle δ) : δ → δ := h.ops.rollback

/-- Runs a statement that returns no rows. -/
def exec (h : Handle δ) (sql : String) (args : List DbValue) : δ → Except String Unit × δ :=
  h.guard (h.ops.exec sql args)

/-- Runs a query. -/
def query (h : Handle δ) (sql : String) (args : List DbValue) : δ → Except String ResultSet × δ :=
  h.guard (h.ops.query sql args)

/-- Checks that the database answers; a caller that gave up is refused before asking. -/
def ping (h : Handle δ) (d : δ) : PingEnd × δ :=
  if h.cancelled then (.refused canceledText, d) else h.ops.ping d

end Handle

end SwapArchive
