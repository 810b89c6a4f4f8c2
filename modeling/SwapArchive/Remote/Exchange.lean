import SwapArchive.Feed.Failure
import SwapArchive.Text.Clean
import SwapArchive.Json.Parse
import SwapArchive.Text.Case

/-!
# Exchanges with a remote server

A client sends an `Outbound` request; the server (a `Transport`) answers, closes the connection
without answering, or is never reached. Time is milliseconds on a `Session`'s clock, which moves
only while a client waits. A call runs under a `CallContext`, given up before it began or with a
deadline; `Session.send` fails a request whose context has ended before it leaves, and no server
sees it, nor a refused one. Failures name the request as `Get "<url>": <cause>`; only a successful
answer of a JSON content type is read (`decodeAnswer`). A `Gate` starts each request of a client
at least its interval after the previous one; `Gate.enter` fails at once when the context has
ended or the start it would allow lies past the deadline.
-/

namespace SwapArchive

/-- A request as it leaves a client. -/
structure Outbound where
  method : String
  /-- The whole URL, as failures name it. -/
  url : String
  body : String := ""
  headers : List (String × String) := []
  deriving Inhabited, Repr

/-- How an exchange with the server ended. -/
inductive Exchange where
  /-- The server answered with a status, a content type and a body. -/
  | answered (status : Nat) (contentType body : String)
  /-- The server took the request and closed the connection without answering. -/
  | dropped
  /-- The request never reached the server. -/
  | refused (reason : String)
  deriving Inhabited, Repr

/-- What the server makes of each request. -/
def Transport : Type := Outbound → Exchange

/-- A server that cannot be reached: nothing listens where the clients send. -/
def Transport.unreachable : Transport := fun _ => .refused "connect: connection refused"

/-- The context a call runs under. -/
structure CallContext where
  /-- Was the call given up before it began? -/
  cancelled : Bool := false
  /-- The time the call must end by, on the session clock. -/
  deadline : Option Nat := none
  deriving Inhabited, Repr

/-- Why the context has ended at time `now`, if it has; cancellation is told first. -/
def CallContext.ended (c : CallContext) (now : Nat) : Option Failure :=
  if c.cancelled then some .canceled
  else match c.deadline with
    | some d => if d ≤ now then some .deadline else none
    | none => none

/-- A gate in front of a client's requests. -/
structure Gate where
  /-- The least time between the starts of two requests; zero lets every request through. -/
  interval : Nat := 0
  /-- The earliest start of the next request. -/
  freeAt : Nat := 0
  deriving Inhabited, Repr

namespace Gate

/-- The failure of a wait that would outlast the deadline. -/
def tooLate : Failure := .plain "rate: Wait(n=1) would exceed context deadline"

/-- Lets a request in at time `now`: the time it starts and the gate after it. -/
def enter (g : Gate) (c : CallContext) (now : Nat) : Except Failure (Nat × Gate) :=
  match c.ended now with
  | some e => .error e
  | none =>
    if g.interval = 0 then .ok (now, g)
    else
      let start := max now g.freeAt
      if c.deadline.any (· < start) then .error tooLate
      else .ok (start, { g with freeAt := start + g.interval })

end Gate

/-- The state of a client session. -/
structure Session where
  /-- The clock, in milliseconds. -/
  now : Nat := 0
  gate : Gate := {}
  /-- The requests the server received, oldest first. -/
  received : List Outbound := []
  /-- Prices fetched so far, by key. -/
  prices : List (String × Float) := []
  /-- The token of the secret store, once logged in. -/
  vaultToken : String := ""
  deriving Inhabited

/-- A method as failures name it: the first letter kept, the rest in lower case. -/
def methodWord (m : String) : String :=
  match m.toList with
  | [] => ""
  | c :: cs => String.ofList (c :: cs.map Char.toLower)

/-- The body of an answer as clients quote it: blanks at either end dropped. -/
def quotedBody (b : String) : String := Clean.trim b

namespace Session

/-- Sends a request under a context: its status, content type and body, or why it failed. -/
def send (t : Transport) (c : CallContext) (req : Outbound) (s : Session) :
    Except Failure (Nat × String × String) × Session :=
  let lead := methodWord req.method ++ " \"" ++ req.url ++ "\": "
  match c.ended s.now with
  | some e => (.error (.wrapped lead e), s)
  | none =>
    match t req with
    | .refused r => (.error (.wrapped lead (.plain r)), s)
    | .dropped => (.error (.wrapped lead (.plain "EOF")), { s with received := s.received ++ [req] })
    | .answered st ct b => (.ok (st, ct, b), { s with received := s.received ++ [req] })

/-- Passes the gate, waiting on the clock until the request may start. -/
def pass (c : CallContext) (s : Session) : Except Failure Unit × Session :=
  match s.gate.enter c s.now with
  | .error e => (.error e, s)
  | .ok (start, g) => (.ok (), { s with now := start, gate := g })

end Session

/-- Does a content type name JSON? -/
def jsonContent (ct : String) : Bool :=
  let t := Case.lowerText ((ct.splitOn ";").headD "")
  let t := Clean.trim t
  (t.startsWith "application/" ∨ t.startsWith "text/") ∧ (t.splitOn "json").length > 1

/-- Reads the body of a successful JSON answer; any other answer leaves the result at `empty`. -/
def decodeAnswer {α : Type} (read : Json → Except String α) (empty : α) (status : Nat)
    (contentType body : String) : Except String α :=
  if 200 ≤ status ∧ status < 300 ∧ jsonContent contentType ∧ body ≠ "" then Json.parse body >>= read
  else .ok empty

end SwapArchive
