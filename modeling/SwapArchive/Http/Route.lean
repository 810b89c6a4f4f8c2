/-!
# Routes

The server answers `GET /swagger/*any` (documentation), `GET /metrics`, `POST /api/v1/swaps`,
`GET /api/v1/closing-prices/:date`, `GET /api/v1/health/db`, `/external` and `/jobs`, and
`GET /healthz`. `Route.find` matches a decoded path: `:date` matches one non-empty segment,
`*any` the rest of the path from its slash on. A path with no route for its method, but one with
a trailing slash added or dropped, is redirected (a final slash after an empty `:date` counts
too); any other is not found. `Route.pattern` labels the request in the metrics, `unmatched` when
nothing matched.
-/

namespace SwapArchive

/-- An endpoint of the server. -/
inductive Endpoint where
  /-- The API documentation. -/
  | docs
  | metrics
  | listSwaps
  | closingPrice (date : String)
  | healthDb
  | healthExternal
  | healthJobs
  | healthBasic
  deriving DecidableEq, Repr

/-- How a request path matched. -/
inductive RouteMatch where
  | found (e : Endpoint)
  /-- The path has a route once a final slash is dropped, or one is added. -/
  | redirect
  | notFound
  deriving DecidableEq, Repr

namespace Route

/-- The prefix of a closing price path. -/
def pricePrefix : String := "/api/v1/closing-prices/"

/-- The endpoint of a method and path, if a route matches; `:date` matches an empty segment only
when `emptyDate` is set. -/
def matching (emptyDate : Bool) (method path : String) : Option Endpoint :=
  if method = "POST" then
    if path = "/api/v1/swaps" then some .listSwaps else none
  else if method = "GET" then
    if path.startsWith "/swagger/" then some .docs
    else if path = "/metrics" then some .metrics
    else if path = "/api/v1/health/db" then some .healthDb
    else if path = "/api/v1/health/external" then some .healthExternal
    else if path = "/api/v1/health/jobs" then some .healthJobs
    else if path = "/healthz" then some .healthBasic
    else if path.startsWith pricePrefix then
      let date := (path.drop pricePrefix.length).toString
      if (emptyDate ∨ date ≠ "") ∧ ¬date.contains '/' then some (.closingPrice date) else none
    else none
  else none

/-- The endpoint of a method and path, if a route matches exactly. -/
def exact (method path : String) : Option Endpoint := matching false method path

/-- Matches a request. A path whose `:date` segment is empty and followed by a final slash is
redirected to the path without that slash, though the path it names has no route. -/
def find (method path : String) : RouteMatch :=
  match exact method path with
  | some e => .found e
  | none =>
    if path = "/" then .notFound
    else if path.endsWith "/" ∧ (matching true method (path.dropEnd 1).toString).isSome then .redirect
    else if (exact method (path ++ "/")).isSome then .redirect
    else .notFound

/-- The pattern of an endpoint, as requests are labelled in the metrics. -/
def pattern : Endpoint → String
  | .docs => "/swagger/*any"
  | .metrics => "/metrics"
  | .listSwaps => "/api/v1/swaps"
  | .closingPrice _ => "/api/v1/closing-prices/:date"
  | .healthDb => "/api/v1/health/db"
  | .healthExternal => "/api/v1/health/external"
  | .healthJobs => "/api/v1/health/jobs"
  | .healthBasic => "/healthz"

end Route

end SwapArchive
