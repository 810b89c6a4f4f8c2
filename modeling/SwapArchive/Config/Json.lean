import SwapArchive.Config.App
import SwapArchive.Json.Decode

/-!
# JSON forms of the configuration

A source is `{kind, table, base_url, conflict, settlement_asset, decimals, notation, reconcile,
enrich}`; the per-pass settings are `{live_tail, pending_retry, backfill, reconcile,
chainflip_sync, closing_price}`. The whole configuration groups its settings as `api_server`,
`postgres`, `midgard`, `chainflip`, `coingecko`, `ingestion`, `schedule`, `uptime_webhooks`,
`vault`, `sources` and `log_file`, durations in nanoseconds under names ending in `_ns`.
-/

namespace SwapArchive

namespace Source

/-- Reads a source; a missing field takes its empty value. -/
def ofJson (j : Json) : Except String Source := do
  Json.expectObject "source" j
  let str := fun (k : String) => j.field k Json.readString ""
  pure { kind := ← str "kind", table := ← str "table", baseUrl := ← str "base_url"
         conflict := ← str "conflict", settlementAsset := ← str "settlement_asset"
         decimals := ← j.field "decimals" Json.readInt32 0, nameStyle := ← str "notation"
         reconcile := ← j.field "reconcile" Json.readBool false, enrich := ← j.field "enrich" Json.readBool false }

/-- The JSON form of a source. -/
def toJson (s : Source) : Json :=
  .obj [("kind", .str s.kind), ("table", .str s.table), ("base_url", .str s.baseUrl),
    ("conflict", .str s.conflict), ("settlement_asset", .str s.settlementAsset),
    ("decimals", Json.ofInt s.decimals), ("notation", .str s.nameStyle),
    ("reconcile", .bool s.reconcile), ("enrich", .bool s.enrich)]

end Source

namespace PassSettings

/-- Reads per-pass settings; a missing pass takes the empty text. -/
def ofJson (j : Json) : Except String PassSettings := do
  Json.expectObject "passes" j
  let str := fun (k : String) => j.field k Json.readString ""
  pure { liveTail := ← str "live_tail", pendingRetry := ← str "pending_retry", backfill := ← str "backfill"
         reconcile := ← str "reconcile", chainflipSync := ← str "chainflip_sync"
         closingPrice := ← str "closing_price" }

/-- The JSON form of per-pass settings. -/
def toJson (p : PassSettings) : Json :=
  .obj [("live_tail", .str p.liveTail), ("pending_retry", .str p.pendingRetry),
    ("backfill", .str p.backfill), ("reconcile", .str p.reconcile),
    ("chainflip_sync", .str p.chainflipSync), ("closing_price", .str p.closingPrice)]

end PassSettings

namespace AppConfig

/-- The JSON form of a configuration. -/
def toJson (c : AppConfig) : Json :=
  .obj [("environment", .str c.environment),
    ("api_server", .obj [("allowed_origins", .str c.server.allowedOrigins), ("port", .str c.server.listenPort)]),
    ("postgres", .obj [("host", .str c.postgres.host), ("port", .str c.postgres.tcpPort),
      ("user", .str c.postgres.user), ("name", .str c.postgres.name), ("pass", .str c.postgres.pass),
      ("ssl_mode", .str c.postgres.sslMode)]),
    ("midgard", .obj [("native_base_url", .str c.midgard.nativeBaseUrl),
      ("trade_base_url", .str c.midgard.tradeBaseUrl), ("timeout_ns", Json.ofInt c.midgard.timeout),
      ("max_attempts", Json.ofInt c.midgard.maxAttempts), ("retry_delay_ns", Json.ofInt c.midgard.retryDelay),
      ("min_request_interval_ns", Json.ofInt c.midgard.minRequestInterval)]),
    ("chainflip", .obj [("graphql_url", .str c.chainflip.graphqlUrl),
      ("page_size", Json.ofInt c.chainflip.pageSize), ("max_attempts", Json.ofInt c.chainflip.maxAttempts),
      ("timeout_ns", Json.ofInt c.chainflip.timeout),
      ("min_request_interval_ns", Json.ofInt c.chainflip.minRequestInterval)]),
    ("coingecko", .obj [("base_url", .str c.priceFeed.baseUrl), ("api_key", .str c.priceFeed.apiKey)]),
    ("ingestion", .obj [("checkpoint_dir", .str c.ingestion.checkpointDir),
      ("backfill_start_timestamp", Json.ofInt c.ingestion.backfillStartTimestamp),
      ("backfill_flush_pages", Json.ofInt c.ingestion.backfillFlushPages),
      ("max_pages_per_pass", Json.ofInt c.ingestion.maxPagesPerPass),
      ("forward_history_on_start", .bool c.ingestion.forwardHistoryOnStart),
      ("backfill_on_start", .bool c.ingestion.backfillOnStart), ("timezone", .str c.ingestion.timezone)]),
    ("schedule", c.schedule.toJson), ("uptime_webhooks", c.webhooks.toJson),
    ("vault", .obj [("addr", .str c.vault.addr), ("kv_secret_path", .str c.vault.kvSecretPath),
      ("role", .str c.vault.role), ("token_path", .str c.vault.tokenPath)]),
    ("sources", .arr (c.sources.map Source.toJson)), ("log_file", .str c.logFile)]

end AppConfig

end SwapArchive
