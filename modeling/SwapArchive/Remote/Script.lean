import SwapArchive.Remote.Feeds
import SwapArchive.Remote.Vault
import SwapArchive.Config.Json
import SwapArchive.Swap.Record

/-!
# Scripted client sessions

A `ClientScript` names one remote client and its calls, in order, each given up before it begins
or with a deadline some milliseconds on. `ClientScript.run` makes them in one session, so the
gate, the clock, the price cache and the store's token carry over, and records for each call the
requests the server received and the call's value or failure. An uptime ping (`Session.ping`)
sends one `GET`, whose outcome is only logged; an empty URL sends nothing. `ClientScript.ofJson`
reads a script for the server at `server` with its token file in `dir`, refusing a client or call
it does not know.
-/

namespace SwapArchive

/-- Pings an uptime monitor. -/
def Session.ping (t : Transport) (c : CallContext) (url : String) (s : Session) : Session :=
  if url = "" then s else (s.send t c { method := "GET", url }).2

/-- The client a script talks through. -/
inductive RemoteClient where
  | midgard (c : MidgardClient)
  | chainflip (c : ChainflipClient)
  | prices (c : PriceClient)
  | uptime
  /-- The secret store, the content of the token file if it exists, and the secrets it may override. -/
  | vault (c : VaultClient) (token : Option String) (given : ConfigSecrets)
  deriving Inhabited

/-- One call through a client. -/
inductive RemoteCall where
  | page (r : PageRequest)
  | swaps (first offset : Int)
  | usdPrice (coin : String) (unix : Int)
  | ping (url : String)
  | login
  | secrets
  | applySecrets
  deriving Inhabited

/-- A call with its context. -/
structure ScriptCall where
  call : RemoteCall
  /-- The deadline, in milliseconds after the call begins. -/
  timeoutMs : Option Nat := none
  cancelled : Bool := false
  deriving Inhabited

/-- A client and the calls made through it. -/
structure ClientScript where
  client : RemoteClient
  /-- The least time between two gated requests, in milliseconds. -/
  gateInterval : Nat := 0
  calls : List ScriptCall
  deriving Inhabited

/-- What one call gave: the requests the server received during it, and its value or failure. -/
structure CallRecord where
  received : List Outbound
  result : Except Failure Json

/-- A value of a call, in its JSON form. -/
def mapValue {α : Type} (f : α → Json) : Except Failure α × Session → Except Failure Json × Session
  | (r, s) => (r.map f, s)

namespace RemoteClient

/-- Makes one call through the client; a call of another client fails. -/
def call (t : Transport) : RemoteClient → RemoteCall → CallContext → Session → Except Failure Json × Session
  | .midgard m, .page r, c, s => mapValue ActionsPage.toJson (m.fetch t c r s)
  | .chainflip cf, .swaps first offset, c, s => mapValue SwapRequests.toJson (cf.fetchSwaps t c first offset s)
  | .prices pc, .usdPrice coin unix, c, s => mapValue Json.ofFloat (pc.fetchUsdPrice t c coin unix s)
  | .uptime, .ping url, c, s => (.ok .null, s.ping t c url)
  | .vault v tok _, .login, c, s => mapValue (fun _ => Json.null) (v.login t c tok s)
  | .vault v _ _, .secrets, c, s => mapValue (fun m => .obj (m.map fun (k, x) => (k, .str x))) (v.secrets t c s)
  | .vault v tok given, .applySecrets, c, s =>
    mapValue (fun g => .obj [("db_pass", .str g.dbPass), ("coingecko_api_key", .str g.coingeckoApiKey)])
      (v.apply t c tok given s)
  | _, _, _, s => (.error (.plain "the client has no such call"), s)

end RemoteClient

namespace ClientScript

/-- Makes the calls in one session. -/
def run (t : Transport) (sc : ClientScript) : List CallRecord :=
  let step := fun (acc : List CallRecord × Session) (k : ScriptCall) =>
    let s := { acc.2 with received := [] }
    let c : CallContext := { cancelled := k.cancelled, deadline := k.timeoutMs.map (s.now + ·) }
    let (r, s) := sc.client.call t k.call c s
    (acc.1 ++ [⟨s.received, r⟩], s)
  (sc.calls.foldl step ([], { gate := { interval := sc.gateInterval } })).1

/-- Reads a count of milliseconds; zero or less is none. -/
def readMillis (j : Json) (k : String) : Except String (Option Nat) := do
  let n ← j.field k Json.readInt 0
  pure (if n > 0 then some n.toNat else none)

/-- Reads a script. -/
def ofJson (server dir : String) (j : Json) : Except String ClientScript := do
  let str := fun (k : String) => j.field k Json.readString ""
  let client ← match ← str "client" with
    | "midgard" => do
      let src ← Source.ofJson ((j.get? "source").getD (.obj []))
      let src := { src with baseUrl := server ++ (← str "base_path") }
      pure (RemoteClient.midgard (MidgardClient.ofSource src ⟨← j.field "max_attempts" Json.readInt 0, 0⟩))
    | "chainflip" => pure (.chainflip ⟨server, ← j.field "page_size" Json.readInt 0, ⟨1, 500⟩⟩)
    | "coingecko" => pure (.prices ⟨server, ← str "api_key"⟩)
    | "webhook" => pure .uptime
    | "vault" =>
      pure (.vault ⟨server, ← str "kv_path", ← str "role", dir ++ "/token"⟩ (← j.field? "token" Json.readString)
        ⟨"env-pass", "env-key"⟩)
    | other => throw ("unknown client " ++ other)
  let calls ← j.field "calls" (Json.readList fun k => do
    let str := fun (f : String) => k.field f Json.readString ""
    let call ← match client, ← str "call" with
      | .midgard _, "fetch_latest" => pure (RemoteCall.page (.latest (← k.field "ts" Json.readInt 0)))
      | .midgard _, "fetch_next_page" => pure (.page (.next (← str "token")))
      | .midgard _, "fetch_prev_page" => pure (.page (.prev (← str "token")))
      | .midgard _, "fetch_by_tx_id" => pure (.page (.byTx (← str "token")))
      | .chainflip _, "fetch_swaps" => pure (.swaps (← k.field "first" Json.readInt 0) (← k.field "offset" Json.readInt 0))
      | .prices _, "fetch_usd_price" => pure (.usdPrice (← str "coin") (← k.field "unix" Json.readInt 0))
      | .uptime, "webhook" => do
        let url ← str "url"
        pure (.ping (if url.startsWith "/" then server ++ url else url))
      | .vault .., "vault_login" => pure .login
      | .vault .., "vault_secrets" => pure .secrets
      | .vault .., "vault_apply" => pure .applySecrets
      | _, other => throw ("unknown call " ++ other)
    pure { call, timeoutMs := ← readMillis k "timeout_ms", cancelled := ← k.field "cancelled" Json.readBool false }) []
  pure { client, calls, gateInterval := ((← readMillis j "gate_interval_ms").getD 0) }

end ClientScript

namespace Outbound

/-- The headers a received request is shown with, in this order. -/
def shownHeaders : List String := ["Content-Type", "Accept", "X-Vault-Token", "X-Cg-Demo-Api-Key"]

/-- The query of a URL, each key with its values in order, keys sorted. -/
def queryOf (url : String) : List (String × List String) :=
  match url.splitOn "?" with
  | _ :: rest :: _ =>
    let pairs := (rest.splitOn "&").filter (· ≠ "") |>.map fun kv =>
      match kv.splitOn "=" with
      | k :: v => (Escape.unquery k, Escape.unquery ("=".intercalate v))
      | [] => ("", "")
    let keys := (pairs.map (·.1)).foldl (fun acc k => if k ∈ acc then acc else acc ++ [k]) []
    (keys.mergeSort fun a b => decide (a ≤ b)).map fun k => (k, (pairs.filter (·.1 = k)).map (·.2))
  | _ => []

/-- A received request as the server saw it: method, path under the server, query, body (read as
JSON when it is, as text otherwise, `null` when empty) and the shown headers it carries. -/
def toJson (server : String) (o : Outbound) : Json :=
  let target := if o.url.startsWith server then (o.url.drop server.length).toString else o.url
  let body := if o.body = "" then Json.null else match Json.parse o.body with
    | .ok j => j
    | .error _ => .str o.body
  .obj [("method", .str o.method), ("path", .str ((target.splitOn "?").headD "")),
    ("query", .obj ((queryOf o.url).map fun (k, vs) => (k, Json.ofStrings vs))), ("body", body),
    ("headers", .obj (shownHeaders.filterMap fun h => (o.headers.lookup h).map fun v => (h, .str v)))]

end Outbound

end SwapArchive
