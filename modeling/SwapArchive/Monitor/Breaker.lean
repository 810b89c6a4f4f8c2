import SwapArchive.Feed.Failure
import SwapArchive.Time.Duration
import SwapArchive.Number.FloatText

/-!
# Circuit breakers

A breaker is **closed** at first, counting failures in a row; at the threshold it **opens** and
refuses calls (`circuit breaker is open`) until its timeout has passed; then it is **half-open**,
letting `maxRequests` calls through (`too many requests` beyond), opening again on one failure and
closing after `maxRequests` successes in a row. A closed breaker with a positive interval forgets
its counts each interval. Each change of state starts a new generation; a call ending in a later
generation than it started in is not counted, and one whose caller gave up counts as a success. A
breaker changes state only when looked at (`Breaker.refresh`). `Guard.call` wraps one call and
records it in `ApiMetrics`; a body that answers does so at once, a hung one lasts the timeout.
-/

namespace SwapArchive

/-- The settings of a breaker: calls let through when half-open, the interval after which a
closed breaker forgets its counts, how long it stays open (both in nanoseconds), and the
failures in a row that open it. -/
structure BreakerConfig where
  maxRequests : Nat
  interval : Int
  timeout : Int
  threshold : Int
  deriving DecidableEq, Repr, Inhabited

namespace BreakerConfig

/-- Nanoseconds in a second. -/
def second : Int := 1000000000

/-- The settings of the Midgard breakers. -/
def midgard : BreakerConfig := ⟨3, 60 * second, 120 * second, 5⟩

/-- The settings of the Chainflip breaker. -/
def chainflip : BreakerConfig := ⟨2, 120 * second, 300 * second, 3⟩

/-- The settings per remote service. -/
def defaults : List (String × BreakerConfig) := [("midgard", midgard), ("chainflip", chainflip)]

/-- Are the settings usable: some calls let through, a positive threshold, no negative time? -/
def valid (c : BreakerConfig) : Bool :=
  c.maxRequests ≠ 0 ∧ c.threshold > 0 ∧ c.timeout ≥ 0 ∧ c.interval ≥ 0

/-- The settings for a name among `configs`: its own when present and usable, else Midgard's. -/
def lookup (configs : List (String × BreakerConfig)) (name : String) : BreakerConfig :=
  let find := fun (n : String) => (configs.find? (·.1 = n)).map (·.2)
  match find name with
  | some c => if c.valid then c else (find "midgard").getD midgard
  | none => (find "midgard").getD midgard

end BreakerConfig

/-- The state of a breaker. -/
inductive BreakerState where
  | closed
  | halfOpen
  | open_
  deriving DecidableEq, Repr, Inhabited

namespace BreakerState

/-- The name of a state. -/
def text : BreakerState → String
  | .closed => "closed"
  | .halfOpen => "half-open"
  | .open_ => "open"

/-- The gauge value of a state. -/
def gauge : BreakerState → Int
  | .closed => 0
  | .halfOpen => 1
  | .open_ => 2

end BreakerState

/-- The counts of the current generation. -/
structure BreakerCounts where
  requests : Nat := 0
  successes : Nat := 0
  failures : Nat := 0
  successesInRow : Nat := 0
  failuresInRow : Nat := 0
  deriving DecidableEq, Repr, Inhabited

/-- A breaker. -/
structure Breaker where
  name : String
  maxRequests : Nat
  interval : Int
  timeout : Int
  /-- Failures in a row that open the breaker. -/
  tripAt : Nat
  state : BreakerState := .closed
  generation : Nat := 0
  counts : BreakerCounts := {}
  /-- When the state lapses; `none` for never. -/
  expiry : Option Int := none
  deriving DecidableEq, Repr, Inhabited

namespace Breaker

/-- Default time a breaker stays open when its settings give none: a minute. -/
def defaultTimeout : Int := 60 * BreakerConfig.second

/-- Starts a new generation at `now`: the counts are cleared and the state's expiry set. -/
def renew (b : Breaker) (now : Int) : Breaker :=
  { b with generation := b.generation + 1, counts := {}
           expiry := match b.state with
             | .closed => if b.interval = 0 then none else some (now + b.interval)
             | .open_ => some (now + b.timeout)
             | .halfOpen => none }

/-- A closed breaker named `name` with the given settings, at `now`. -/
def create (name : String) (c : BreakerConfig) (now : Int) : Breaker :=
  renew { name := name, maxRequests := if c.maxRequests = 0 then 1 else c.maxRequests
          interval := if c.interval ≤ 0 then 0 else c.interval
          timeout := if c.timeout ≤ 0 then defaultTimeout else c.timeout
          tripAt := (c.threshold % Int.pow 2 32).toNat } now

/-- Moves to a state, starting a new generation; the state entered, if it changed. -/
def setState (b : Breaker) (st : BreakerState) (now : Int) : Breaker × Option BreakerState :=
  if b.state = st then (b, none) else (renew { b with state := st } now, some st)

/-- The breaker as it stands at `now`: a lapsed closed breaker starts a new generation, a lapsed
open one turns half-open. -/
def refresh (b : Breaker) (now : Int) : Breaker × Option BreakerState :=
  match b.state, b.expiry with
  | .closed, some e => if e < now then (renew b now, none) else (b, none)
  | .open_, some e => if e < now then b.setState .halfOpen now else (b, none)
  | _, _ => (b, none)

/-- Why a breaker refused a call. -/
def refusal (st : BreakerState) : Failure :=
  .plain (if st = .open_ then "circuit breaker is open" else "too many requests")

/-- Asks to let a call through at `now`: the generation it runs in, or the refusal. -/
def letThrough (b : Breaker) (now : Int) : Except Failure Nat × Breaker × Option BreakerState :=
  let (b, change) := b.refresh now
  if b.state = .open_ then (.error (refusal .open_), b, change)
  else if b.state = .halfOpen ∧ b.counts.requests ≥ b.maxRequests then (.error (refusal .halfOpen), b, change)
  else (.ok b.generation, { b with counts := { b.counts with requests := b.counts.requests + 1 } }, change)

/-- Counts how a call of generation `gen` went, at `now`. -/
def settle (b : Breaker) (gen : Nat) (success : Bool) (now : Int) : Breaker × List BreakerState :=
  let (b, change) := b.refresh now
  if b.generation ≠ gen then (b, change.toList)
  else
    let c := b.counts
    if success then
      let c := { c with successes := c.successes + 1, successesInRow := c.successesInRow + 1, failuresInRow := 0 }
      match b.state with
      | .closed => ({ b with counts := c }, change.toList)
      | .halfOpen =>
        let b := { b with counts := c }
        if c.successesInRow ≥ b.maxRequests then
          let (b, ch) := b.setState .closed now
          (b, change.toList ++ ch.toList)
        else (b, change.toList)
      | .open_ => (b, change.toList)
    else
      match b.state with
      | .closed =>
        let c := { c with failures := c.failures + 1, failuresInRow := c.failuresInRow + 1, successesInRow := 0 }
        let b := { b with counts := c }
        if c.failuresInRow ≥ b.tripAt then
          let (b, ch) := b.setState .open_ now
          (b, change.toList ++ ch.toList)
        else (b, change.toList)
      | .halfOpen =>
        let (b, ch) := b.setState .open_ now
        (b, change.toList ++ ch.toList)
      | .open_ => (b, change.toList)

end Breaker

/-- The remote call metrics: durations and calls by status, timeouts, and breaker states. -/
structure ApiMetrics where
  durations : List ((String × String × String) × Nat) := []
  calls : List ((String × String) × Nat) := []
  states : List (String × Int) := []
  timeouts : List ((String × String) × Nat) := []
  deriving Inhabited

namespace ApiMetrics

/-- Adds one to the count of a key, creating it first. -/
def bump {κ : Type} [DecidableEq κ] (xs : List (κ × Nat)) (k : κ) : List (κ × Nat) :=
  match xs.find? (fun e => e.1 = k) with
  | some _ => xs.map fun e => if e.1 = k then (e.1, e.2 + 1) else e
  | none => xs ++ [(k, 1)]

/-- Records the state a breaker entered. -/
def stateChanged (m : ApiMetrics) (api : String) (st : BreakerState) : ApiMetrics :=
  { m with states := (m.states.filter (·.1 ≠ api)) ++ [(api, st.gauge)] }

/-- Records the states a breaker entered, in order. -/
def statesChanged (m : ApiMetrics) (api : String) (sts : List BreakerState) : ApiMetrics :=
  sts.foldl (fun m st => m.stateChanged api st) m

/-- Records a call of an endpoint with its status. -/
def called (m : ApiMetrics) (api endpoint status : String) : ApiMetrics :=
  { m with durations := bump m.durations (api, endpoint, status), calls := bump m.calls (api, status) }

/-- Records a timeout of an endpoint. -/
def timedOut (m : ApiMetrics) (api endpoint : String) : ApiMetrics :=
  { m with timeouts := bump m.timeouts (api, endpoint) }

/-- The metric lines, `name{label=value,...} value`, durations as their count only, in byte
order. -/
def lines (m : ApiMetrics) : List String :=
  let all :=
    m.states.map (fun e => "swap_ingestor_circuit_breaker_state\x7bapi_name=" ++ e.1 ++ "\x7d " ++
      FloatText.general (Float.ofInt e.2)) ++
    m.calls.map (fun e => "swap_ingestor_external_api_calls_total\x7bapi_name=" ++ e.1.1 ++ ",status=" ++
      e.1.2 ++ "\x7d " ++ toString e.2) ++
    m.durations.map (fun e => "swap_ingestor_external_api_duration_seconds\x7bapi_name=" ++ e.1.1 ++
      ",endpoint=" ++ e.1.2.1 ++ ",status=" ++ e.1.2.2 ++ "\x7d count " ++ toString e.2) ++
    m.timeouts.map (fun e => "swap_ingestor_external_api_timeouts_total\x7bapi_name=" ++ e.1.1 ++
      ",endpoint=" ++ e.1.2 ++ "\x7d " ++ toString e.2)
  all.mergeSort (fun a b => decide (a ≤ b))

end ApiMetrics

/-- How a guarded call's body ends. -/
inductive CallEnd where
  | done
  | failed (f : Failure)
  /-- The caller had given up before the call. -/
  | callerGone
  /-- The remote service never answers. -/
  | hung
  deriving Repr

/-- A breaker and the metrics it records into. -/
structure Guard where
  breaker : Breaker
  metrics : ApiMetrics := {}
  deriving Inhabited

namespace Guard

/-- A new closed breaker, its state recorded. -/
def create (name : String) (c : BreakerConfig) (now : Int) : Guard :=
  ⟨Breaker.create name c now, ({} : ApiMetrics).stateChanged name .closed⟩

/-- The breaker's state at `now`. -/
def state (g : Guard) (now : Int) : BreakerState × Guard :=
  let (b, ch) := g.breaker.refresh now
  (b.state, { breaker := b, metrics := g.metrics.statesChanged b.name ch.toList })

/-- Makes a call of `endpoint` at `now` through the breaker, under `requestTimeout` nanoseconds
(none when 0), its body ending with `e`: the failure if any, the guard after, and the clock
after (a hung call lasts the whole request timeout). -/
def call (g : Guard) (endpoint : String) (requestTimeout : Int) (e : CallEnd) (now : Int) :
    Option Failure × Guard × Int :=
  let name := g.breaker.name
  match g.breaker.letThrough now with
  | (.error f, b, ch) =>
    (some f, { breaker := b, metrics := (g.metrics.statesChanged name ch.toList).called name endpoint "rejected" }, now)
  | (.ok gen, b, ch) =>
    let m := g.metrics.statesChanged name ch.toList
    let (failure, m, now) : Option Failure × ApiMetrics × Int := match e with
      | .done => (none, m, now)
      | .failed f => (some f, m, now)
      | .callerGone => (some .canceled, m, now)
      | .hung =>
        if requestTimeout > 0 then
          (some (.wrapped ("timeout after " ++ Duration.text requestTimeout ++ ": ") .deadline),
            m.timedOut name endpoint, now + requestTimeout)
        else (some .deadline, m, now)
    let success := match failure with
      | none => true
      | some f => f.reachesCanceled
    let (b, chs) := b.settle gen success now
    let m := m.statesChanged name chs
    (failure, { breaker := b, metrics := m.called name endpoint (if failure.isSome then "error" else "success") }, now)

end Guard

end SwapArchive
