import Mathlib
import SwapArchive.Store.Load

/-!
# A database that keeps what it receives

`DbOps.recording o` answers every call as `o` does and keeps, beside `o`'s state, every statement
it receives, in order, with the failure text of those it refused. Running a store's call over it
from an empty log shows exactly the statements the call sent (`sent`), whatever the database
answered; `o` being arbitrary, so is the pattern of its answers and failures.

The `Handle` lemmas below say what one call of a caller does to the log: nothing when the caller
has given up (the call fails before it is sent), else one entry.
-/

namespace SwapArchive

/-- The failure text of an answer, when it is a failure. -/
def failureOf {α : Type} : Except String α → Option String
  | .ok _ => none
  | .error e => some e

@[simp] theorem failureOf_ok {α : Type} (a : α) : failureOf (.ok a : Except String α) = none := rfl

@[simp] theorem failureOf_error {α : Type} (e : String) : failureOf (.error e : Except String α) = some e := rfl

namespace Statement

/-- The text of a statement that carries one. -/
def sql? : Statement → Option String
  | .exec s _ | .query s _ => some s
  | _ => none

/-- The values a statement binds to its placeholders. -/
def values : Statement → List DbValue
  | .exec _ vs | .query _ vs => vs
  | _ => []

end Statement

/-- What a recording database keeps: each statement received, with its failure text if refused. -/
abbrev Received := List (Statement × Option String)

namespace DbOps

variable {δ : Type}

/-- The database `o`, keeping every statement it receives. -/
def recording (o : DbOps δ) : DbOps (δ × Received) where
  begin := fun p => ((o.begin p.1).1, (o.begin p.1).2, p.2 ++ [(.begin, failureOf (o.begin p.1).1)])
  commit := fun p => ((o.commit p.1).1, (o.commit p.1).2, p.2 ++ [(.commit, failureOf (o.commit p.1).1)])
  rollback := fun p => (o.rollback p.1, p.2 ++ [(.rollback, none)])
  exec := fun s vs p =>
    ((o.exec s vs p.1).1, (o.exec s vs p.1).2, p.2 ++ [(.exec s vs, failureOf (o.exec s vs p.1).1)])
  query := fun s vs p =>
    ((o.query s vs p.1).1, (o.query s vs p.1).2, p.2 ++ [(.query s vs, failureOf (o.query s vs p.1).1)])
  ping := fun p => ((o.ping p.1).1, (o.ping p.1).2, p.2 ++ [(.ping, none)])

end DbOps

/-- The statements a call sent, run on a recording database from the state `d` and an empty log. -/
def sent {δ β : Type} (call : δ × Received → β × (δ × Received)) (d : δ) : List Statement :=
  (call (d, [])).2.2.map Prod.fst

namespace Handle

variable {δ : Type} (o : DbOps δ) (c : Bool) (d : δ) (log : Received)

@[simp] theorem begin_recording :
    Handle.begin ⟨o.recording, c⟩ (d, log) =
      if c then (.error canceledText, (d, log))
      else ((o.begin d).1, (o.begin d).2, log ++ [(.begin, failureOf (o.begin d).1)]) := rfl

@[simp] theorem commit_recording :
    Handle.commit ⟨o.recording, c⟩ (d, log) =
      ((o.commit d).1, (o.commit d).2, log ++ [(.commit, failureOf (o.commit d).1)]) := rfl

@[simp] theorem rollback_recording :
    Handle.rollback ⟨o.recording, c⟩ (d, log) = (o.rollback d, log ++ [(.rollback, none)]) := rfl

@[simp] theorem exec_recording (s : String) (vs : List DbValue) :
    Handle.exec ⟨o.recording, c⟩ s vs (d, log) =
      if c then (.error canceledText, (d, log))
      else ((o.exec s vs d).1, (o.exec s vs d).2, log ++ [(.exec s vs, failureOf (o.exec s vs d).1)]) := rfl

@[simp] theorem query_recording (s : String) (vs : List DbValue) :
    Handle.query ⟨o.recording, c⟩ s vs (d, log) =
      if c then (.error canceledText, (d, log))
      else ((o.query s vs d).1, (o.query s vs d).2, log ++ [(.query s vs, failureOf (o.query s vs d).1)]) := rfl

end Handle

end SwapArchive
