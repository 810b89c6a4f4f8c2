import SwapArchive.Config.Source

/-!
# The service configuration

`AppConfig` gathers every setting of the service: environment, HTTP server, database, the
Midgard, Chainflip and price feeds, ingestion limits, the schedules and webhooks of the recurring
passes, the secret store, the sources and the log file. Durations are counts of nanoseconds.

`defaultSources` are native and trade swaps from Midgard, whose final rows never change (`ignore`
on a repeated key), and Chainflip swaps, revised at their source (`overwrite`).
-/

namespace SwapArchive

/-- The HTTP server. -/
structure ServerSettings where
  allowedOrigins : String := ""
  listenPort : String := ""
  deriving Inhabited, DecidableEq, Repr

/-- The database connection. -/
structure PostgresSettings where
  host : String := ""
  tcpPort : String := ""
  user : String := ""
  name : String := ""
  pass : String := ""
  sslMode : String := ""
  deriving Inhabited, DecidableEq, Repr

/-- The Midgard feeds. -/
structure MidgardSettings where
  nativeBaseUrl : String := ""
  tradeBaseUrl : String := ""
  timeout : Int := 0
  maxAttempts : Int := 0
  retryDelay : Int := 0
  minRequestInterval : Int := 0
  deriving Inhabited, DecidableEq, Repr

/-- The Chainflip explorer. -/
structure ChainflipSettings where
  graphqlUrl : String := ""
  pageSize : Int := 0
  maxAttempts : Int := 0
  timeout : Int := 0
  minRequestInterval : Int := 0
  deriving Inhabited, DecidableEq, Repr

/-- The price feed. -/
structure PriceFeedSettings where
  baseUrl : String := ""
  apiKey : String := ""
  deriving Inhabited, DecidableEq, Repr

/-- The ingestion limits and start-up passes. -/
structure IngestionSettings where
  checkpointDir : String := ""
  backfillStartTimestamp : Int := 0
  backfillFlushPages : Int := 0
  maxPagesPerPass : Int := 0
  forwardHistoryOnStart : Bool := false
  backfillOnStart : Bool := false
  timezone : String := ""
  deriving Inhabited, DecidableEq, Repr

/-- One text per recurring pass: its schedule or its health-check webhook. -/
structure PassSettings where
  liveTail : String := ""
  pendingRetry : String := ""
  backfill : String := ""
  reconcile : String := ""
  chainflipSync : String := ""
  closingPrice : String := ""
  deriving Inhabited, DecidableEq, Repr

/-- The secret store. -/
structure VaultSettings where
  addr : String := ""
  kvSecretPath : String := ""
  role : String := ""
  tokenPath : String := ""
  deriving Inhabited, DecidableEq, Repr

/-- Every setting of the service. -/
structure AppConfig where
  environment : String := ""
  server : ServerSettings := {}
  postgres : PostgresSettings := {}
  midgard : MidgardSettings := {}
  chainflip : ChainflipSettings := {}
  priceFeed : PriceFeedSettings := {}
  ingestion : IngestionSettings := {}
  schedule : PassSettings := {}
  webhooks : PassSettings := {}
  vault : VaultSettings := {}
  sources : List Source := []
  logFile : String := ""
  deriving Inhabited, DecidableEq, Repr

namespace AppConfig

/-- The value of a setting, or its default when the setting is empty. -/
def orDefault (value fallback : String) : String := if value = "" then fallback else value

/-- The sources the service runs with; `setting` reads a named setting, empty when unset. -/
def defaultSources (setting : String → String) (c : AppConfig) : List Source :=
  [{ kind := Source.native, table := orDefault (setting "NATIVE_SWAPS_TABLE") "native_swaps"
     baseUrl := c.midgard.nativeBaseUrl, conflict := Source.conflictIgnore
     settlementAsset := Source.nativeSettlementAsset, decimals := Source.thorchainDecimals
     nameStyle := Source.stylePool, enrich := setting "NATIVE_SWAPS_ENRICH_USD" = "true"
     reconcile := true },
   { kind := Source.trade, table := orDefault (setting "TRADE_SWAPS_TABLE") "trade_swaps"
     baseUrl := c.midgard.tradeBaseUrl, conflict := Source.conflictIgnore
     settlementAsset := Source.nativeSettlementAsset, decimals := Source.thorchainDecimals
     nameStyle := Source.styleTrade },
   { kind := Source.chainflip, table := orDefault (setting "CHAINFLIP_SWAPS_TABLE") "chainflip_swaps"
     baseUrl := c.chainflip.graphqlUrl, conflict := Source.conflictOverwrite }]

/-- The first source of a kind. -/
def source? (c : AppConfig) (kind : String) : Option Source := Source.find? c.sources kind

/-- The least time between two requests to a source's remote service, in nanoseconds. -/
def requestInterval (c : AppConfig) (kind : String) : Int :=
  if kind = Source.chainflip then c.chainflip.minRequestInterval else c.midgard.minRequestInterval

end AppConfig

end SwapArchive
