import SwapArchive.Remote.Exchange
import SwapArchive.Json.Print
import SwapArchive.Json.Decode

/-!
# The secret store

`VaultClient.login` exchanges the service account token from its file for a store token (`POST
<addr>/v1/auth/kubernetes/login`); a missing file fails before any request, an answer other than
200 or without a token fails. `VaultClient.secrets` reads every secret under the configured path;
an answer other than 200, without the nested data, or with a secret that is not a text fails,
naming the first such secret in key order. `VaultClient.apply` logs in, reads the secrets and
takes the database password and price feed key from them where present. Each failed request is
named by a text put in front of it; no call is retried.
-/

namespace SwapArchive

/-- The client of the secret store. -/
structure VaultClient where
  addr : String
  /-- The path of the secrets, under `/v1/`. -/
  kvPath : String
  role : String
  /-- Where the service account token is read from. -/
  tokenPath : String
  deriving Inhabited, Repr

/-- Secrets that override the configuration. -/
structure ConfigSecrets where
  dbPass : String
  coingeckoApiKey : String
  deriving Inhabited, DecidableEq, Repr

namespace VaultClient

/-- Reads a login answer: its token, when it has one. -/
def readToken (j : Json) : Except String (Option String) := do
  Json.expectObject "loginResponse" j
  j.field? "auth" fun a => do
    Json.expectObject "auth" a
    a.field "client_token" Json.readString ""

/-- Logs in with the content of the token file, if the file exists. -/
def login (t : Transport) (v : VaultClient) (c : CallContext) (jwt : Option String) (s : Session) :
    Except Failure Unit × Session :=
  match jwt with
  | none =>
    (.error (.wrapped "failed to read service account token: "
      (.plain ("open " ++ v.tokenPath ++ ": no such file or directory"))), s)
  | some jwt =>
    let req := { method := "POST", url := v.addr ++ "/v1/auth/kubernetes/login"
                 body := Json.toBody (.obj [("jwt", .str jwt), ("role", .str v.role)])
                 headers := [("Content-Type", "application/json")] }
    let empty : Except Failure Unit := .error (.plain "vault returned empty client_token")
    match s.send t c req with
    | (.error e, s) => (.error (.wrapped "vault login: " e), s)
    | (.ok (st, ct, body), s) =>
      if st ≠ 200 then
        (.error (.plain ("vault authentication failed with status " ++ toString st ++ ": " ++ quotedBody body)), s)
      else match decodeAnswer readToken none st ct body with
        | .error msg => (.error (.wrapped "vault login: " (.plain msg)), s)
        | .ok (some tok) => if tok = "" then (empty, s) else (.ok (), { s with vaultToken := tok })
        | .ok none => (empty, s)

/-- Reads a secrets answer: the nested data, when it is there. -/
def readData (j : Json) : Except String (Option (List (String × Json))) := do
  Json.expectObject "kvResponse" j
  let outer ← j.field? "data" fun d => do
    Json.expectObject "data" d
    d.field? "data" (Json.readMap Json.readAny)
  pure (Option.join outer)

/-- The secrets as texts, in key order, or the first key whose value is not a text. -/
def texts (m : List (String × Json)) : Except Failure (List (String × String)) :=
  (m.mergeSort fun a b => decide (a.1 ≤ b.1)).mapM fun (k, v) =>
    match v with
    | .str s => .ok (k, s)
    | _ => .error (.plain ("secret value for key '" ++ k ++ "' is not a string"))

/-- Reads every secret under the configured path. -/
def secrets (t : Transport) (v : VaultClient) (c : CallContext) (s : Session) :
    Except Failure (List (String × String)) × Session :=
  let req := { method := "GET", url := v.addr ++ "/v1/" ++ v.kvPath, headers := [("X-Vault-Token", s.vaultToken)] }
  match s.send t c req with
  | (.error e, s) => (.error (.wrapped "vault kv get: " e), s)
  | (.ok (st, ct, body), s) =>
    if st ≠ 200 then
      (.error (.plain ("vault KV get failed with status " ++ toString st ++ ": " ++ quotedBody body)), s)
    else match decodeAnswer readData none st ct body with
      | .error msg => (.error (.wrapped "vault kv get: " (.plain msg)), s)
      | .ok none => (.error (.plain "vault response missing nested 'data' field"), s)
      | .ok (some m) => (texts m, s)

/-- Logs in, reads the secrets and lets them override the given ones. -/
def apply (t : Transport) (v : VaultClient) (c : CallContext) (jwt : Option String)
    (given : ConfigSecrets) (s : Session) : Except Failure ConfigSecrets × Session :=
  match v.login t c jwt s with
  | (.error e, s) => (.error e, s)
  | (.ok (), s) =>
    match v.secrets t c s with
    | (.error e, s) => (.error e, s)
    | (.ok m, s) =>
      (.ok { dbPass := (m.lookup "DB_PASS").getD given.dbPass
             coingeckoApiKey := (m.lookup "COINGECKO_API_KEY").getD given.coingeckoApiKey }, s)

end VaultClient

end SwapArchive
