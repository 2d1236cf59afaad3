/-!
# Texts about the program
-/

namespace NodeCoverage.CommandLine

/-- The help. -/
def helpText : String :=
  "Usage: covwatch_cli [OPTIONS]\n" ++
  "\n" ++
  "Options:\n" ++
  "  -c, --config-file <CONFIG_FILE>              \n" ++
  "  -l, --listen-addr <LISTEN_ADDR>              Address the observer service binds to\n" ++
  "  -w, --workers <WORKERS>                      Worker threads serving requests\n" ++
  "      --proxy-command <PROXY_COMMAND>          Companion proxy executable\n" ++
  "      --proxy-listen-addr <PROXY_LISTEN_ADDR>  Address the companion proxy listens on\n" ++
  "      --no-proxy                               Run without launching the companion proxy\n" ++
  "  -h, --help                                   Print help\n" ++
  "  -V, --version                                Print version\n"

/-- The version. -/
def versionText : String :=
  "covwatch_cli 0.1.0\n"

end NodeCoverage.CommandLine
