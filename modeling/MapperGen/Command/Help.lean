import MapperGen.Command.Arguments

/-!
# Help

The texts that explain the arguments.
-/

namespace MapperGen

/-- The lines that explain the settings and flags of a scope. -/
def Scope.help (s : Scope) : List String :=
  let settings := s.settings.map fun
    | .output => "  -o, --output <OUTPUT>  Output file, relative to the input file's directory"
    | .input => "  -i, --input <INPUT>    Annotated input file"
    | .config => "  -c, --config <CONFIG>  Configuration file"
  let flags := s.flags.map fun
    | .verbose => "  -v, --verbose...       Raise the log level (repeat for more detail)"
    | .help => "  -h, --help             Print help"
    | .version => "  -V, --version          Print version"
  "" :: "Options:" :: (settings ++ flags)

def Topic.lines : Topic → List String
  | program =>
    ["Generate mapper implementations from annotated Rust traits", "",
      "Usage: mapwright [OPTIONS] <COMMAND>", "", "Commands:",
      "  gen   Generate mapper implementations",
      "  spec  Print the assembled mapper spec as JSON",
      "  help  Print this message or the help of a command"] ++ Scope.program.help
  | generate =>
    ["Generate mapper implementations", "",
      "Usage: mapwright gen [OPTIONS] --output <OUTPUT>"] ++ Scope.generate.help
  | spec =>
    ["Print the assembled mapper spec as JSON", "", "Usage: mapwright spec [OPTIONS]"] ++
      Scope.spec.help
  | help =>
    ["Print this message or the help of a command", "", "Usage: mapwright help [COMMAND]"]

def Topic.text (t : Topic) : Text := t.lines.flatMap fun line => line.toList ++ ['\n']

end MapperGen
