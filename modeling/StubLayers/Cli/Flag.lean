import StubLayers.Config.Basic

/-!
The commands of the program and the flags that each of them knows.
-/

namespace StubLayers.Cli

inductive Flag where
  | help
  | verbose
  | quiet
  | logFile
  | shimDir
  | generatedDir
  | baseDir
  | basePathPrefix
  | baseUrl
  | jobs
deriving DecidableEq, Inhabited

namespace Flag

/-- The spellings of a flag. -/
def names : Flag → List String
  | help => ["-h", "--help"]
  | verbose => ["-v", "--verbose"]
  | quiet => ["-q", "--quiet"]
  | logFile => ["--log-file"]
  | shimDir => ["--shim-dir"]
  | generatedDir => ["--generated-dir"]
  | baseDir => ["--base-dir"]
  | basePathPrefix => ["--base-path-prefix"]
  | baseUrl => ["--base-url"]
  | jobs => ["-j", "--jobs"]

def takesValue : Flag → Bool
  | help | verbose | quiet => false
  | _ => true

/-- A flag in messages. -/
def label (f : Flag) : String := "/".intercalate f.names

end Flag

inductive Command where
  | main
  | check
deriving DecidableEq, Inhabited

namespace Command

def title : Command → String
  | main => "shimcheck"
  | check => "shimcheck check"

def flags : Command → List Flag
  | main => [.help, .verbose, .quiet, .logFile]
  | check =>
    [.help, .verbose, .quiet, .shimDir, .generatedDir, .baseDir, .basePathPrefix, .baseUrl, .jobs]

/-- All spellings of a command's flags. -/
def spellings (c : Command) : List (String × Flag) :=
  c.flags.flatMap fun flag => flag.names.map fun name => (name, flag)

/-- The flag with exactly this spelling. -/
def flag? (c : Command) (name : String) : Option Flag := c.spellings.lookup name

def usage : Command → String
  | main => "usage: shimcheck [-h] [-v | -q] [--log-file LOG_FILE] \x7bcheck\x7d ...\n"
  | check =>
    "usage: shimcheck check [-h] [-v | -q] [--shim-dir SHIM_DIR]\n" ++
    "                       [--generated-dir GENERATED_DIRS] [--base-dir BASE_DIR]\n" ++
    "                       [--base-path-prefix BASE_PATH_PREFIX]\n" ++
    "                       [--base-url BASE_URL] [-j JOBS]\n" ++
    "                       [path]\n"

def help (c : Command) : String :=
  c.usage ++
  match c with
  | main =>
    "\nDetect shim stubs that duplicate base or generated declarations.\n\n" ++
    "positional arguments:\n" ++
    "  \x7bcheck\x7d\n" ++
    "    check              Report shim declarations already provided by another\n" ++
    "                       layer.\n\n" ++
    "options:\n" ++
    "  -h, --help           show this help message and exit\n" ++
    "  -v, --verbose        Increase log verbosity for troubleshooting.\n" ++
    "  -q, --quiet          Only log warnings and errors.\n" ++
    "  --log-file LOG_FILE  Also write debug logs to this file.\n"
  | check =>
    "\npositional arguments:\n" ++
    "  path                  Project root holding .shimcheck.yml (defaults to\n" ++
    "                        current directory).\n\n" ++
    "options:\n" ++
    "  -h, --help            show this help message and exit\n" ++
    "  -v, --verbose         Increase log verbosity for troubleshooting.\n" ++
    "  -q, --quiet           Only log warnings and errors.\n" ++
    "  --shim-dir SHIM_DIR   Directory of hand-written shim stubs.\n" ++
    "  --generated-dir GENERATED_DIRS\n" ++
    "                        Directory of generated stubs; repeat for several\n" ++
    "                        layers.\n" ++
    "  --base-dir BASE_DIR   Local copy of the canonical base stubs.\n" ++
    "  --base-path-prefix BASE_PATH_PREFIX\n" ++
    "                        Path prefix of base stubs to replace with --base-url\n" ++
    "                        in reports.\n" ++
    "  --base-url BASE_URL   Published location of the base stubs (defaults to\n" ++
    "                        typeshed's stdlib).\n" ++
    "  -j JOBS, --jobs JOBS  Parse stub files with this many worker threads.\n"

end Command

end StubLayers.Cli
