import SwapArchive.Http.Route
import SwapArchive.Http.Cors
import SwapArchive.Http.Exposition
import SwapArchive.Http.Swaps
import SwapArchive.Http.Health
import SwapArchive.Http.Redirect

/-!
# The read server

`Server.serve` answers one request. Its target's decoded path is matched (`Route.find`); a
redirect is answered at once, uncounted: 301 for `GET` with a small HTML body, 307 otherwise. The
request is counted in flight under its route, checked against the cross-origin policy when there
is one (403 refused, 204 preflight), answered by its endpoint (404 `404 page not found` when
unmatched, written after counting, so its size is not counted), and counted as answered with its
status and body size. The metrics endpoint shows the metrics as they stand while it answers.
`Server.docs` serves the documentation page (3728 bytes) and files by the raw target, and fails
on `doc.json`, for which no document is registered.
-/

namespace SwapArchive

/-- A request to the server. -/
structure ServerRequest where
  method : String := "GET"
  path : String := "/"
  body : String := ""
  headers : List (String × String) := []
  deriving Inhabited

/-- The body of an answer. -/
inductive AnswerBody where
  | json (j : Json)
  | text (s : String)
  /-- The metrics exposition, line by line. -/
  | exposition (lines : List String)
  /-- A page or file of the documentation, whose bytes are not kept. -/
  | file

/-- An answer of the server: status, headers, body, and the bytes of the body written. -/
structure ServerAnswer where
  status : Nat
  headers : List (String × String) := []
  body : AnswerBody := .text ""
  size : Nat := 0

/-- What the server answers from: the configured sources, the cross-origin policy, the reads of
swap history, the database ping, the remote breakers, the job board, the pending-set sizes and
the time it answers at, in nanoseconds. -/
structure Server (σ : Type) where
  sources : List Source
  cors : Option CorsPolicy := none
  reader : SwapReader σ
  ping : Option (σ → PingEnd × σ) := none
  breakers : List (String × Option BreakerState) := []
  board : JobBoard := {}
  pending : Option (List (String × Nat)) := none
  clock : Int := 0

namespace Server

variable {σ : Type}

/-- The content type of JSON answers. -/
def jsonType : String := "application/json; charset=utf-8"

/-- The content type of the metrics exposition. -/
def expositionType : String := "text/plain; version=0.0.4; charset=utf-8; escaping=underscores"

/-- A JSON answer. -/
def ofResponse (r : HttpResponse) : ServerAnswer :=
  { status := r.status, headers := [("Content-Type", jsonType)], body := .json r.body
    size := r.text.utf8ByteSize }

/-- The size of the documentation page. -/
def indexSize : Nat := 3728

/-- The names the documentation endpoint looks for in a request target, in the order it tries
them at one place. -/
def docNames : List String :=
  ["index.html", "doc.json", "favicon-16x16.png", "favicon-32x32.png", "/oauth2-redirect.html",
    "swagger-ui.css", "swagger-ui.css.map", "swagger-ui.js", "swagger-ui.js.map", "swagger-ui-bundle.js",
    "swagger-ui-bundle.js.map", "swagger-ui-standalone-preset.js", "swagger-ui-standalone-preset.js.map"]

/-- The files the documentation endpoint serves. -/
def docFiles : List String :=
  ["favicon-16x16.png", "favicon-32x32.png", "index.css", "index.html", "oauth2-redirect.html",
    "swagger-initializer.js", "swagger-ui-bundle.js", "swagger-ui-bundle.js.map", "swagger-ui-es-bundle-core.js",
    "swagger-ui-es-bundle-core.js.map", "swagger-ui-es-bundle.js", "swagger-ui-es-bundle.js.map",
    "swagger-ui-standalone-preset.js", "swagger-ui-standalone-preset.js.map", "swagger-ui.css", "swagger-ui.css.map",
    "swagger-ui.js", "swagger-ui.js.map"]

/-- The last place in a request target where one of `docNames` starts, with the first of them
that starts there. -/
def docName (target : String) : Option (Nat × String) :=
  let cs := target.toList
  (List.range (cs.length + 1)).reverse.findSome? fun i =>
    (docNames.find? fun n => (cs.drop i).take n.length = n.toList).map (i, ·)

/-- The content type of a documentation name, by its extension. -/
def docType (name : String) : String :=
  if name.endsWith ".html" then "text/html; charset=utf-8"
  else if name.endsWith ".css" then "text/css; charset=utf-8"
  else if name.endsWith ".js" then "application/javascript"
  else if name.endsWith ".png" then "image/png"
  else jsonType

/-- A plain answer with a status text as its body. -/
def statusText (status : Nat) (text : String) (headers : List (String × String)) : ServerAnswer :=
  { status, headers, body := .text text, size := text.utf8ByteSize }

/-- The answer of the documentation endpoint, from the request target as sent and its decoded
path. The target must hold one of `docNames`; the last place where one starts decides, and the
content type follows its extension. `index.html` is the page and `doc.json` fails, for no
document is registered. Any other name is served from the documentation files: the decoded path
must start with the target's text before the name, and what follows names the file. -/
def docs (target path : String) : ServerAnswer :=
  match docName target with
  | none => statusText 404 "Not Found" [("Content-Type", "text/plain; charset=utf-8")]
  | some (i, name) =>
    let ct := [("Content-Type", docType name)]
    if name = "index.html" then { status := 200, headers := ct, body := .file, size := indexSize }
    else if name = "doc.json" then { status := 500, headers := ct, body := .json .null }
    else
      let pre := String.ofList (target.toList.take i)
      if ¬path.startsWith pre then statusText 404 "Not Found" ct
      else
        let file := SlashPath.cleanText ("/" ++ (path.drop pre.length).toString)
        if file = "/" then statusText 405 "Method Not Allowed" ct
        else if (file.drop 1).toString ∈ docFiles then { status := 200, headers := ct, body := .file }
        else statusText 404 "Not Found" ct

/-- The reads of swap history, counting each in the request metrics. -/
def countedReader (rd : SwapReader σ) : SwapReader (σ × HttpMetrics) where
  findRecords := fun t q s => let (r, w) := rd.findRecords t q s.1; (r, (w, s.2))
  findSwaps := fun t q s => let (r, w) := rd.findSwaps t q s.1; (r, (w, s.2))
  priceOn := fun c d s => let (r, w) := rd.priceOn c d s.1; (r, (w, s.2))
  record := fun q s =>
    let m := match q with
      | .swap table status => s.2.query "swap_query" status table
      | .closingPrice status => s.2.query "closing_price" status "closing_prices"
    (rd.record q s.1, m)

/-- The answer of an endpoint to a request, whose decoded path is `path`. -/
def answer (srv : Server σ) (req : ServerRequest) (path : String) (e : Endpoint) (s : σ × HttpMetrics) :
    ServerAnswer × σ × HttpMetrics :=
  match e with
  | .docs => (docs req.path path, s)
  | .metrics =>
    let lines := s.2.exposition
    ({ status := 200, headers := [("Content-Type", expositionType)], body := .exposition lines
       size := (String.join (lines.map (· ++ "\n"))).utf8ByteSize }, s)
  | .listSwaps =>
    let (r, s) := listSwaps (countedReader srv.reader) srv.sources req.body s
    (ofResponse r, s)
  | .closingPrice d =>
    let (r, s) := closingPrice (countedReader srv.reader) d s
    (ofResponse r, s)
  | .healthDb =>
    let (r, w) := Health.database srv.ping s.1
    (ofResponse r, w, s.2)
  | .healthExternal => (ofResponse (Health.external srv.breakers), s)
  | .healthJobs => (ofResponse (Health.jobs (some srv.board) srv.pending srv.clock), s)
  | .healthBasic => (ofResponse Health.basic, s)

/-- The value of a request header, by name in any case. -/
def header (req : ServerRequest) (name : String) : String :=
  ((req.headers.find? fun h => h.1.toLower = name.toLower).map (·.2)).getD ""

/-- The host a request is addressed to when its target names none. -/
def defaultHost : String := "example.com"

/-- Answers a request, whose target reads as `target`. -/
def serve (srv : Server σ) (req : ServerRequest) (target : Url) (s : σ × HttpMetrics) :
    ServerAnswer × σ × HttpMetrics :=
  let query := (req.path.dropWhile (· ≠ '?')).toString
  let bytes := Url.unescapedBytes target.path
  let path := Bytes.toText bytes
  let host := if target.host = "" then defaultHost else Bytes.toText (Url.unescapedBytes target.host)
  match Route.find req.method path with
  | .redirect =>
    let ref := Redirect.reference (Url.origin target) bytes query (header req "X-Forwarded-Prefix")
    let get := req.method = "GET"
    let html := if get ∨ req.method = "HEAD" then [("Content-Type", "text/html; charset=utf-8")] else []
    ({ status := if get then 301 else 307, headers := [("Location", Redirect.location ref)] ++ html
       body := .text (if get then Redirect.body ref else "") }, s)
  | found =>
    let route := match found with
      | .found e => Route.pattern e
      | _ => "unmatched"
    let s := (s.1, s.2.enter req.method route)
    let verdict := match srv.cors with
      | some p => p.check req.method (header req "Origin") host
      | none => .pass []
    let (a, s) : ServerAnswer × σ × HttpMetrics := match verdict, found with
      | .forbid, _ => ({ status := 403 }, s)
      | .preflight hs, _ => ({ status := 204, headers := hs }, s)
      | .pass hs, .found e =>
        let (a, s) := srv.answer req path e s
        ({ a with headers := hs ++ a.headers }, s)
      | .pass hs, _ =>
        ({ status := 404, headers := hs ++ [("Content-Type", "text/plain")], body := .text "404 page not found" }, s)
    (a, s.1, s.2.leave req.method route (toString a.status) a.size)

end Server

end SwapArchive
