import SwapArchive.Text.Clean
import SwapArchive.Text.Case

/-!
# Cross-origin requests

With allowed origins configured (a `;`-separated list), a request without `Origin`, or from its
own host, passes; one from an origin not allowed is refused with 403 and an empty answer; a
preflight (`OPTIONS`) from an allowed origin is answered at once with 204, the allowed methods and
headers and `Vary`; any other allowed request goes on, its answer carrying `Vary: Origin`.
Origins are compared trimmed and lower-cased; `*` allows every origin and is then named instead
of it. A configured origin that neither starts with `http://` or `https://` nor holds a `*` stops
the server's set-up.
-/

namespace SwapArchive

/-- The cross-origin settings. -/
structure CorsPolicy where
  origins : List String
  anyOrigin : Bool
  deriving DecidableEq, Repr

/-- What the cross-origin check makes of a request. -/
inductive CorsVerdict where
  /-- The request goes on; its answer carries these headers. -/
  | pass (headers : List (String × String))
  /-- Refused with 403. -/
  | forbid
  /-- A preflight, answered with 204 and these headers. -/
  | preflight (headers : List (String × String))
  deriving DecidableEq, Repr

namespace CorsPolicy

/-- The methods allowed across origins. -/
def methods : List String := ["GET", "POST", "OPTIONS", "HEAD"]

/-- The request headers allowed across origins. -/
def headers : List String :=
  ["Origin", "Host", "Content-Type", "Content-Length", "Accept-Encoding", "Accept-Language", "Accept",
    "X-Requested-With"]

/-- Trims and lower-cases the configured origins, keeping the first of each. -/
def normalize (xs : List String) : List String :=
  (xs.map fun s => Case.lowerText (Clean.trim s)).foldl (fun acc x => if x ∈ acc then acc else acc ++ [x]) []

/-- The policy for a `;`-separated list of origins, or why it is refused. -/
def ofSetting (setting : String) : Except String CorsPolicy :=
  let given := setting.splitOn ";"
  match given.find? fun o => ¬o.contains '*' ∧ ¬o.startsWith "http://" ∧ ¬o.startsWith "https://" with
  | some _ => .error "bad origin: origins must contain '*' or include http://,https://"
  | none => .ok { origins := normalize given, anyOrigin := given.contains "*" }

/-- The headers of an answer to a preflight, before the origin. -/
def preflightHeaders (p : CorsPolicy) : List (String × String) :=
  [("Access-Control-Allow-Methods", ",".intercalate methods),
    ("Access-Control-Allow-Headers", ",".intercalate headers)] ++
  (if p.anyOrigin then [("Access-Control-Allow-Origin", "*")]
   else [("Vary", "Origin, Access-Control-Request-Method, Access-Control-Request-Headers")])

/-- Checks a request by its method, `Origin` header (empty when absent) and host. -/
def check (p : CorsPolicy) (method origin host : String) : CorsVerdict :=
  if origin = "" ∨ origin = "http://" ++ host ∨ origin = "https://" ++ host then .pass []
  else if ¬(p.anyOrigin ∨ origin ∈ p.origins) then .forbid
  else
    let named := if p.anyOrigin then [] else [("Access-Control-Allow-Origin", origin)]
    if method = "OPTIONS" then .preflight (p.preflightHeaders ++ named)
    else .pass ((if p.anyOrigin then [("Access-Control-Allow-Origin", "*")] else [("Vary", "Origin")]) ++ named)

end CorsPolicy

end SwapArchive
