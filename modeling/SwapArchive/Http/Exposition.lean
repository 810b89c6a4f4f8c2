import SwapArchive.Number.FloatText

/-!
# Request metrics and their exposition

`HttpMetrics` counts what the server answered: requests by method, route and status, the sizes of
answers with a body, the requests in flight, and the reads of swap history by operation, outcome
and table. `HttpMetrics.exposition` writes them in the text exposition format, family by family
in name order under `# HELP` and `# TYPE`, series in the order of their labels, empty families
left out. Duration histograms show only their `_count`, and so do the answer sizes of the health
endpoints, whose bodies carry the time of the check; other answer sizes show buckets (100 bytes
times powers of 4, up to 1638400), sum and count.
-/

namespace SwapArchive

/-- The request metrics. -/
structure HttpMetrics where
  /-- Answered requests by method, route and status. -/
  requests : List ((String × String × String) × Nat) := []
  /-- Sizes of answers with a body, by method, route and status. -/
  sizes : List ((String × String × String) × List Nat) := []
  /-- Requests being answered, by method and route. -/
  inFlight : List ((String × String) × Int) := []
  /-- Reads of swap history by operation, outcome and table. -/
  queries : List ((String × String × String) × Nat) := []
  deriving Inhabited

namespace HttpMetrics

/-- Adds `d` to the value of a key, creating it at zero first. -/
def shift {κ : Type} [DecidableEq κ] (xs : List (κ × Int)) (k : κ) (d : Int) : List (κ × Int) :=
  match xs.find? (fun e => e.1 = k) with
  | some _ => xs.map fun e => if e.1 = k then (e.1, e.2 + d) else e
  | none => xs ++ [(k, d)]

/-- Adds one to the count of a key. -/
def bump {κ : Type} [DecidableEq κ] (xs : List (κ × Nat)) (k : κ) : List (κ × Nat) :=
  match xs.find? (fun e => e.1 = k) with
  | some _ => xs.map fun e => if e.1 = k then (e.1, e.2 + 1) else e
  | none => xs ++ [(k, 1)]

/-- A request starts being answered. -/
def enter (m : HttpMetrics) (method route : String) : HttpMetrics :=
  { m with inFlight := shift m.inFlight (method, route) 1 }

/-- A request has been answered with a status and a body of `size` bytes. -/
def leave (m : HttpMetrics) (method route status : String) (size : Nat) : HttpMetrics :=
  let key := (method, route, status)
  let sizes := if size = 0 then m.sizes else
    match m.sizes.find? (·.1 = key) with
    | some _ => m.sizes.map fun e => if e.1 = key then (e.1, e.2 ++ [size]) else e
    | none => m.sizes ++ [(key, [size])]
  { m with inFlight := shift m.inFlight (method, route) (-1), requests := bump m.requests key, sizes := sizes }

/-- A read of swap history. -/
def query (m : HttpMetrics) (operation status table : String) : HttpMetrics :=
  { m with queries := bump m.queries (operation, status, table) }

/-- A label value, escaped for the exposition. -/
def escape (s : String) : String :=
  String.join (s.toList.map fun c =>
    if c = '\\' then "\\\\" else if c = '"' then "\\\"" else if c = '\n' then "\\n" else c.toString)

/-- The labels of a series. -/
def labels (names : List String) (values : List String) : String :=
  "\x7b" ++ ",".intercalate ((names.zip values).map fun (n, v) => n ++ "=\"" ++ escape v ++ "\"") ++ "\x7d"

/-- Orders label values. -/
def before (a b : List String) : Bool := decide (a < b)

/-- A number as the exposition writes it. -/
def number (x : Float) : String := FloatText.general x

/-- The upper bounds of the answer size buckets. -/
def sizeBounds : List Nat := (List.range 8).map fun i => 100 * Nat.pow 4 i

/-- One family: its help and type lines, then its series; nothing without series. -/
def family (name help type : String) (series : List String) : List String :=
  if series.isEmpty then [] else ["# HELP " ++ name ++ " " ++ help, "# TYPE " ++ name ++ " " ++ type] ++ series

/-- Three-label counts in label order, as lines with a name suffix. -/
def countLines (name : String) (names : List String) (xs : List ((String × String × String) × Nat)) :
    List String :=
  let rows := xs.map fun e => ([e.1.1, e.1.2.1, e.1.2.2], e.2)
  (rows.mergeSort fun a b => before a.1 b.1).map fun r => name ++ labels names r.1 ++ " " ++ toString r.2

/-- The lines of one answer size series. -/
def sizeLines (vals : List String) (obs : List Nat) : List String :=
  let name := "swap_ingestor_http_response_size_bytes"
  let names := ["method", "path", "status"]
  let count := name ++ "_count" ++ labels names vals ++ " " ++ toString obs.length
  if ((vals.getD 1 "").splitOn "/health").length > 1 then [count]
  else
    let bucket := fun (le : String) (n : Nat) =>
      name ++ "_bucket" ++ labels (names ++ ["le"]) (vals ++ [le]) ++ " " ++ toString n
    sizeBounds.map (fun b => bucket (number (Float.ofNat b)) (obs.filter (· ≤ b)).length) ++
      [bucket "+Inf" obs.length, name ++ "_sum" ++ labels names vals ++ " " ++ number (Float.ofNat (obs.foldl (· + ·) 0)), count]

/-- The exposition of the request metrics. -/
def exposition (m : HttpMetrics) : List String :=
  let methodPathStatus := ["method", "path", "status"]
  let flight := (m.inFlight.map fun e => ([e.1.1, e.1.2], e.2)).mergeSort fun a b => before a.1 b.1
  let sizes := (m.sizes.map fun e => ([e.1.1, e.1.2.1, e.1.2.2], e.2)).mergeSort fun a b => before a.1 b.1
  family "swap_ingestor_http_request_duration_seconds" "Duration of HTTP requests in seconds" "histogram"
    (countLines "swap_ingestor_http_request_duration_seconds_count" methodPathStatus m.requests) ++
  family "swap_ingestor_http_requests_in_flight" "Current number of HTTP requests being served" "gauge"
    (flight.map fun r => "swap_ingestor_http_requests_in_flight" ++ labels ["method", "path"] r.1 ++ " " ++
      number (Float.ofInt r.2)) ++
  family "swap_ingestor_http_requests_total" "Total number of HTTP requests" "counter"
    (countLines "swap_ingestor_http_requests_total" methodPathStatus m.requests) ++
  family "swap_ingestor_http_response_size_bytes" "Size of HTTP responses in bytes" "histogram"
    (sizes.flatMap fun r => sizeLines r.1 r.2) ++
  family "swap_ingestor_query_duration_seconds" "Duration of swap history reads in seconds" "histogram"
    (countLines "swap_ingestor_query_duration_seconds_count" ["operation", "status", "table"] m.queries) ++
  family "swap_ingestor_query_operations_total" "Swap history reads by table and outcome" "counter"
    (countLines "swap_ingestor_query_operations_total" ["operation", "status", "table"] m.queries)

end HttpMetrics

end SwapArchive
