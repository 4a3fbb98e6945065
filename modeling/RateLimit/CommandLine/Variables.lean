/-!
# The environment variables

The list of environment variables that the command line shows on request.
-/

namespace RateLimit.CommandLine

/-- The lines of the list of environment variables. -/
def variableLines : List String := [
  "limitcrab Environment Variables",
  "===============================",
  "",
  "All environment variables use the LIMITCRAB_ prefix.",
  "CLI arguments take precedence over environment variables.",
  "",
  "Server Connection:",
  "  LIMITCRAB_HOST=<host>                 Server host [default: 127.0.0.1]",
  "  LIMITCRAB_PORT=<port>                 Server port [default: 6379]",
  "  LIMITCRAB_SOCKET=<path>               Unix socket path (overrides host and port)",
  "  LIMITCRAB_CONNECT_TIMEOUT_MS=<ms>     Connect timeout [default: 1000]",
  "  LIMITCRAB_USERNAME=<name>             Username for AUTH",
  "  LIMITCRAB_PASSWORD=<password>         Password for AUTH",
  "",
  "Bucket Configuration:",
  "  LIMITCRAB_TOKENS=<n>                  Bucket size [default: 1]",
  "  LIMITCRAB_INTERVAL_MS=<ms>            Time to refill a full bucket [default: 1000]",
  "  LIMITCRAB_TTL=<secs>                  Key expiry, 0 = ten intervals [default: 0]",
  "",
  "Pool Configuration:",
  "  LIMITCRAB_INITIAL_POOL_SIZE=<n>       Connections opened up front [default: 5]",
  "  LIMITCRAB_MAX_POOL_SIZE=<n>           Maximum live connections [default: 100]",
  "  LIMITCRAB_FAILURE_MODE=<mode>         fail-open or fail-closed [default: fail-closed]",
  "",
  "Run Configuration:",
  "  LIMITCRAB_KEY=<key>                   Key to take tokens from",
  "  LIMITCRAB_COUNT=<n>                   Number of takes [default: 1]",
  "  LIMITCRAB_PAUSE_MS=<ms>               Pause between takes [default: 0]",
  "  LIMITCRAB_LOG_LEVEL=<level>           Log level: error, warn, info, debug, trace [default: warn]",
  "",
  "Examples:",
  "  # Allow 100 takes per minute, keep serving if the server is down",
  "  export LIMITCRAB_TOKENS=100",
  "  export LIMITCRAB_INTERVAL_MS=60000",
  "  export LIMITCRAB_FAILURE_MODE=fail-open",
  "",
  "  # Run (CLI args override env vars)",
  "  limitcrab --tokens 10 user:123  # Uses 10 tokens, not 100"]

end RateLimit.CommandLine
