import SwapArchive.Remote.Retry
import SwapArchive.Http.Escape
import SwapArchive.Ingest.Services
import SwapArchive.Config.Source
import SwapArchive.Time.Layout

/-!
# The feed clients

Three clients read the remote feeds under the retries of `Retry.run`. `MidgardClient.fetch` asks
for a page of swap actions (`GET <base>/actions`), each attempt passing the client's gate; a page
without an action list fails. `ChainflipClient.fetchSwaps` posts one GraphQL query through the
gate (a page size of zero or less falls back to the client's, then 30), failing with an answer's
first error or on an answer without data. `PriceClient.fetchUsdPrice` asks for a coin's USD price
on the UTC day of a Unix time, up to three attempts two seconds apart, and keeps each price by
coin and day. In all three, status 400 or more is an unexpected status carrying the body, and a
failed request is named by a text put in front of its failure.
-/

namespace SwapArchive

/-- The client of one Midgard feed. -/
structure MidgardClient where
  /-- The feed, as failures name it. -/
  source : String
  baseUrl : String
  /-- `trade` for feeds that name assets in trade notation, else `notrade`. -/
  assetFilter : String
  policy : RetryPolicy
  deriving Inhabited, Repr

namespace MidgardClient

/-- The client of a configured source. -/
def ofSource (src : Source) (policy : RetryPolicy) : MidgardClient :=
  { source := src.kind, baseUrl := src.baseUrl, policy
    assetFilter := if src.nameStyle = "trade" then "trade" else "notrade" }

/-- The operation name and the query pairs of a page request. -/
def params : PageRequest → String × List (String × String)
  | .latest t => ("FetchLatest", [("fromTimestamp", toString t)])
  | .next tok => ("FetchNextPage", if tok = "" then [] else [("nextPageToken", tok)])
  | .prev tok => ("FetchPrevPage", [("prevPageToken", tok)])
  | .byTx id => ("FetchByTxID", [("txid", id)])

/-- The text put in front of a failed request. -/
def requestFailed : String := "failed to request actions: "

/-- What an answer gives. -/
def readPage (status : Nat) (ct body : String) : Except Failure ActionsPage :=
  if status ≥ 400 then .error (.status status (quotedBody body))
  else match decodeAnswer ActionsPage.ofJson ⟨none, "", ""⟩ status ct body with
    | .error msg => .error (.wrapped requestFailed (.plain msg))
    | .ok p => if p.actions.isNone then .error (.plain "failed to decode actions response") else .ok p

/-- One attempt: through the gate, then the request. -/
def attempt (t : Transport) (m : MidgardClient) (c : CallContext) (query : List (String × String))
    (s : Session) : Except Failure ActionsPage × Session :=
  match s.pass c with
  | (.error e, s) => (.error e, s)
  | (.ok (), s) =>
    match s.send t c { method := "GET", url := m.baseUrl ++ "/actions?" ++ Escape.query query } with
    | (.error e, s) => (.error (.wrapped requestFailed e), s)
    | (.ok (st, ct, body), s) => (readPage st ct body, s)

/-- Fetches a page. -/
def fetch (t : Transport) (m : MidgardClient) (c : CallContext) (r : PageRequest) (s : Session) :
    Except Failure ActionsPage × Session :=
  let (op, ps) := params r
  Retry.run m.source op m.policy c (attempt t m c (ps ++ [("type", "swap"), ("asset", m.assetFilter)])) s

end MidgardClient

/-- The client of the Chainflip explorer. -/
structure ChainflipClient where
  url : String
  pageSize : Int
  policy : RetryPolicy
  deriving Inhabited, Repr

namespace ChainflipClient

/-- The GraphQL query of a page of swap requests, newest request first, internal ones left out. -/
def swapsQuery : String :=
  "\n".intercalate ["", "query GetAllSwaps($first: Int, $offset: Int) \x7b", "  allSwapRequests(",
    "    orderBy: [SWAP_REQUEST_NATIVE_ID_DESC]", "    offset: $offset", "    first: $first",
    "    filter: \x7bisInternal: \x7bequalTo: false\x7d\x7d", "  ) \x7b", "    pageInfo \x7b",
    "      hasPreviousPage", "      startCursor", "      hasNextPage", "      endCursor", "    \x7d",
    "    edges \x7b", "      node \x7b", "        id", "        swapRequestNativeId", "        sourceAsset",
    "        destAsset", "        ingressAmount", "        ingressValueUsd", "        egressAmount",
    "        egressValueUsd", "        destinationAddress", "        refundAddress", "        status",
    "        isInProgress", "        startedBlockTimestamp", "        completedBlockTimestamp", "      \x7d",
    "    \x7d", "    totalCount", "  \x7d", "\x7d"]

/-- The body posted for a page. -/
def requestBody (first offset : Int) : String :=
  Json.toBody (.obj [("query", .str swapsQuery),
    ("variables", .obj [("first", Json.ofInt first), ("offset", Json.ofInt offset)]),
    ("operationName", .str "GetAllSwaps")])

/-- Reads an answer: the message of its first error, and its page when it has data. -/
def readAnswer (j : Json) : Except String (Option String × Option SwapRequests) := do
  Json.expectObject "SwapsResponse" j
  let errors ← j.field "errors" (Json.readList fun e => do
    Json.expectObject "GraphQLError" e
    e.field "message" Json.readString "") []
  let data ← j.field? "data" fun d => do
    Json.expectObject "SwapsData" d
    SwapRequests.ofJson ((d.get? "allSwapRequests").getD (.obj []))
  pure (errors.head?, data)

/-- The text put in front of a failed request. -/
def requestFailed : String := "failed to query swap requests: "

/-- What an answer gives. -/
def readPage (status : Nat) (ct body : String) : Except Failure SwapRequests :=
  if status ≥ 400 then .error (.status status (quotedBody body))
  else match decodeAnswer readAnswer (none, none) status ct body with
    | .error msg => .error (.wrapped requestFailed (.plain msg))
    | .ok (some m, _) => .error (.plain ("graphql error: " ++ m))
    | .ok (none, none) => .error (.plain "failed to decode swap requests response")
    | .ok (none, some p) => .ok p

/-- One attempt: through the gate, then the request. -/
def attempt (t : Transport) (cf : ChainflipClient) (c : CallContext) (body : String) (s : Session) :
    Except Failure SwapRequests × Session :=
  match s.pass c with
  | (.error e, s) => (.error e, s)
  | (.ok (), s) =>
    let req := { method := "POST", url := cf.url, body, headers := [("Content-Type", "application/json")] }
    match s.send t c req with
    | (.error e, s) => (.error (.wrapped requestFailed e), s)
    | (.ok (st, ct, b), s) => (readPage st ct b, s)

/-- Fetches `first` swap requests after skipping `offset`. -/
def fetchSwaps (t : Transport) (cf : ChainflipClient) (c : CallContext) (first offset : Int)
    (s : Session) : Except Failure SwapRequests × Session :=
  let first := if first ≤ 0 then cf.pageSize else first
  let first := if first ≤ 0 then 30 else first
  Retry.run "chainflip" "FetchSwaps" cf.policy c (attempt t cf c (requestBody first offset)) s

end ChainflipClient

/-- The client of the price feed. -/
structure PriceClient where
  baseUrl : String
  /-- The key sent with every request, if any. -/
  apiKey : String := ""
  deriving Inhabited, Repr

namespace PriceClient

/-- Three attempts, two seconds apart. -/
def policy : RetryPolicy := ⟨3, 2000⟩

/-- Reads an answer: the USD price, when it has market data. -/
def readAnswer (j : Json) : Except String (Option Float) := do
  Json.expectObject "historyResponse" j
  for k in ["id", "name", "symbol"] do
    let _ ← j.field k Json.readString ""
  j.field? "market_data" fun m => do
    Json.expectObject "marketData" m
    let usd ← m.field? "current_price" fun p => do
      Json.expectObject "currentPrice" p
      p.field "usd" Json.readFloat 0
    pure (usd.getD 0)

/-- The text put in front of a failed request. -/
def requestFailed : String := "failed to request coin history: "

/-- What an answer gives for a coin on a day. -/
def readPrice (coin day : String) (status : Nat) (ct body : String) : Except Failure Float :=
  if status ≥ 400 then .error (.status status (quotedBody body))
  else match decodeAnswer readAnswer none status ct body with
    | .error msg => .error (.wrapped requestFailed (.plain msg))
    | .ok none => .error (.plain ("no market data for " ++ coin ++ " on " ++ day))
    | .ok (some p) => .ok p

/-- The request for a coin on a day. -/
def request (pc : PriceClient) (coin day : String) : Outbound :=
  { method := "GET", url := pc.baseUrl ++ "/coins/" ++ Escape.segment coin ++ "/history?" ++ Escape.query [("date", day)]
    headers := [("Accept", "application/json")] ++ (if pc.apiKey = "" then [] else [("X-Cg-Demo-Api-Key", pc.apiKey)]) }

/-- The USD price of a coin on the UTC day of a Unix time. -/
def fetchUsdPrice (t : Transport) (pc : PriceClient) (c : CallContext) (coin : String) (unix : Int)
    (s : Session) : Except Failure Float × Session :=
  let day := TimeText.dayMonthYear (Civil.ofInstant ⟨unix, 0⟩ 0)
  let key := "price:" ++ coin ++ ":" ++ day
  match s.prices.lookup key with
  | some p => (.ok p, s)
  | none =>
    let attempt := fun (s : Session) =>
      match s.send t c (pc.request coin day) with
      | (.error e, s) => (.error (.wrapped requestFailed e), s)
      | (.ok (st, ct, body), s) => (readPrice coin day st ct body, s)
    match Retry.run "coingecko" "FetchUSDPrice" policy c attempt s with
    | (.ok p, s) => (.ok p, { s with prices := s.prices ++ [(key, p)] })
    | (.error e, s) => (.error e, s)

end PriceClient

end SwapArchive
