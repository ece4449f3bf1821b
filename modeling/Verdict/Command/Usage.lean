/-!
# What the command says about itself
-/

namespace Verdict.Command

/-- The answer to a question for the version. -/
def versionText : String :=
  "verity 0.1.0\n"

/-- The line that shows how the command is called. -/
def usageLine : String :=
  "Usage: verity [OPTIONS] <RULE> [DATA]...\n"

/-- The short answer to a question for help. -/
def shortHelp : String :=
  "Evaluates a rule against JSON documents and prints one result per document\n\n"
    ++ usageLine
    ++ "\nArguments:\n"
    ++ "  <RULE>     The rule to evaluate, e.g. \"$.age >= 18 && $.active\"\n"
    ++ "  [DATA]...  JSON files to evaluate. Reads standard input when omitted\n"
    ++ "\nOptions:\n"
    ++ "      --lines            Treat inputs as JSON Lines (one document per line)\n"
    ++ "      --config <CONFIG>  Engine configuration file (JSON)\n"
    ++ "  -v, --verbose...       Increase log verbosity (-v for debug, -vv for trace)\n"
    ++ "  -h, --help             Print help (see more with '--help')\n"
    ++ "  -V, --version          Print version\n"

/-- The long answer to a question for help. -/
def longHelp : String :=
  "Evaluates a rule against JSON documents and prints one result per document.\n\n"
    ++ "Exits with 0 when every document matches, 1 when any does not, and 2 on error.\n\n"
    ++ usageLine
    ++ "\nArguments:\n"
    ++ "  <RULE>\n          The rule to evaluate, e.g. \"$.age >= 18 && $.active\"\n\n"
    ++ "  [DATA]...\n          JSON files to evaluate. Reads standard input when omitted\n"
    ++ "\nOptions:\n"
    ++ "      --lines\n          Treat inputs as JSON Lines (one document per line)\n\n"
    ++ "      --config <CONFIG>\n          Engine configuration file (JSON)\n\n"
    ++ "  -v, --verbose...\n          Increase log verbosity (-v for debug, -vv for trace)\n\n"
    ++ "  -h, --help\n          Print help (see a summary with '-h')\n\n"
    ++ "  -V, --version\n          Print version\n"

end Verdict.Command
