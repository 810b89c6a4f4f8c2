import SwapArchive.Config.App
import SwapArchive.Time.Duration
import SwapArchive.Number.IntText

/-!
# The configuration from the environment

`AppConfig.fromEnv` reads the settings from environment variables (`env` gives "" when unset);
an empty variable leaves its default, and the environment defaults to `development`. Durations are
read as duration texts and counts as machine integers; the first malformed one, in the order the
settings are listed, stops the start-up with the reader's message. `FORWARD_HISTORY_ON_START` is
on only when `true`, `BACKFILL_ON_START` unless `false`. The sources are the default ones.
-/

namespace SwapArchive

namespace EnvSetting

/-- A text setting, or its default. -/
def text (env : String → String) (name fallback : String) : String :=
  AppConfig.orDefault (env name) fallback

/-- A duration setting in nanoseconds, or its default. -/
def duration (env : String → String) (name : String) (fallback : Int) : Except String Int :=
  if env name = "" then .ok fallback else Duration.parse (env name)

/-- A count setting, or its default. -/
def count (env : String → String) (name : String) (fallback : Int) : Except String Int :=
  if env name = "" then .ok fallback else (IntText.atoi (env name)).mapError NumError.message

/-- A nanosecond count of milliseconds. -/
def millis (n : Int) : Int := n * 1000000

/-- A nanosecond count of seconds. -/
def seconds (n : Int) : Int := n * 1000000000

end EnvSetting

namespace AppConfig

/-- The first day of history the backfill reaches, in seconds. -/
def backfillStart : Int := 1700357476

/-- The pages a backfill reads between two flushes. -/
def backfillFlush : Int := 20

/-- Builds the configuration from the environment, or the message of the first malformed
setting. -/
def fromEnv (env : String → String) : Except String AppConfig := do
  let text := EnvSetting.text env
  let duration := EnvSetting.duration env
  let count := EnvSetting.count env
  let c : AppConfig := {
    environment := text "APP_ENV" "development"
    server := { allowedOrigins := env "ALLOWED_ORIGINS", listenPort := text "PORT" "3000" }
    postgres := { host := env "DB_HOST", tcpPort := env "DB_PORT", user := env "DB_USER"
                  name := env "DB_NAME", pass := env "DB_PASS", sslMode := env "DB_SSL_MODE" }
    midgard := { nativeBaseUrl := text "MIDGARD_NATIVE_BASE_URL" "https://vanaheimex.com"
                 tradeBaseUrl := text "MIDGARD_TRADE_BASE_URL" "https://vanaheimex.com"
                 timeout := ← duration "MIDGARD_TIMEOUT" (EnvSetting.seconds 5)
                 maxAttempts := ← count "MIDGARD_MAX_ATTEMPTS" 3
                 retryDelay := ← duration "MIDGARD_RETRY_DELAY" (EnvSetting.millis 500)
                 minRequestInterval := ← duration "MIDGARD_MIN_REQUEST_INTERVAL" (EnvSetting.millis 200) }
    chainflip := { graphqlUrl := text "CHAINFLIP_GRAPHQL_URL" "https://explorer-service-processor.chainflip.io/graphql"
                   pageSize := ← count "CHAINFLIP_PAGE_SIZE" 30
                   maxAttempts := ← count "CHAINFLIP_MAX_ATTEMPTS" 10
                   timeout := ← duration "CHAINFLIP_TIMEOUT" (EnvSetting.seconds 15)
                   minRequestInterval := ← duration "CHAINFLIP_MIN_REQUEST_INTERVAL" (EnvSetting.millis 500) }
    priceFeed := { baseUrl := text "COINGECKO_BASE_URL" "https://api.coingecko.com/api/v3"
                   apiKey := env "COINGECKO_API_KEY" }
    ingestion := { checkpointDir := text "CHECKPOINT_DIR" "checkpoints"
                   backfillStartTimestamp := ← count "BACKFILL_START_TIMESTAMP" backfillStart
                   backfillFlushPages := ← count "BACKFILL_FLUSH_PAGES" backfillFlush
                   maxPagesPerPass := ← count "MAX_PAGES_PER_PASS" 500
                   forwardHistoryOnStart := env "FORWARD_HISTORY_ON_START" = "true"
                   backfillOnStart := env "BACKFILL_ON_START" ≠ "false"
                   timezone := text "INGESTION_TIMEZONE" "UTC" }
    schedule := { liveTail := text "SCHEDULE_LIVE_TAIL" "@every 5m"
                  pendingRetry := text "SCHEDULE_PENDING_RETRY" "@every 5m"
                  backfill := text "SCHEDULE_BACKFILL" "@every 1h"
                  reconcile := text "SCHEDULE_RECONCILE" "55 11,23 * * *"
                  chainflipSync := text "SCHEDULE_CHAINFLIP_SYNC" "@every 15m"
                  closingPrice := text "SCHEDULE_CLOSING_PRICE" "5 0 * * *" }
    webhooks := { liveTail := env "UPTIME_WEBHOOK_LIVE_TAIL_URL"
                  pendingRetry := env "UPTIME_WEBHOOK_PENDING_RETRY_URL"
                  backfill := env "UPTIME_WEBHOOK_BACKFILL_URL"
                  reconcile := env "UPTIME_WEBHOOK_RECONCILE_URL"
                  chainflipSync := env "UPTIME_WEBHOOK_CHAINFLIP_SYNC_URL"
                  closingPrice := env "UPTIME_WEBHOOK_CLOSING_PRICE_URL" }
    vault := { addr := env "VAULT_ADDR", kvSecretPath := env "VAULT_KV_SECRET_PATH", role := env "VAULT_ROLE"
               tokenPath := text "VAULT_K8S_TOKEN_PATH" "/var/run/secrets/kubernetes.io/serviceaccount/token" }
    logFile := env "LOG_FILE" }
  pure { c with sources := defaultSources env c }

end AppConfig

end SwapArchive
