import Fastboot.Simulator.Session

/-!
# A run of the simulator

`run` reads the arguments of the command line and does what they ask for. Settings are documents in the
format at hand.
-/

namespace Fastboot.Simulator

def versionText : String :=
  "fbgadget-cli 0.1.0\n"

def helpText : String :=
  "Fastboot gadget simulator\n\n" ++
  "Usage: fbgadget-sim [OPTIONS] [COMMANDS]...\n\n" ++
  "Arguments:\n" ++
  "  [COMMANDS]...  Commands to run before the script\n\n" ++
  "Options:\n" ++
  "      --config <CONFIG>              Engine configuration (TOML)\n" ++
  "      --script <SCRIPT>              " ++
  "Command script, one command per line (stdin when omitted)\n" ++
  "      --chunk <CHUNK>                " ++
  "Largest transfer the simulated host sends at once\n" ++
  "      --write-config <WRITE_CONFIG>  " ++
  "Write the effective configuration to this file and exit\n" ++
  "  -v, --verbose                      Enable verbose logging\n" ++
  "  -h, --help                         Print help\n" ++
  "  -V, --version                      Print version\n"

/-- Do what the command line asks for. -/
def run {m : Type → Type} [Monad m] (files : Files m) (arguments : List String) : m Outcome :=
  match Request.ofArguments arguments with
  | .run a => runArguments Document.format files a
  | .version => return { output := versionText }
  | .help => return { output := helpText }
  | .misuse => return { code := 2 }

end Fastboot.Simulator
