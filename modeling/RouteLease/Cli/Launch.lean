import RouteLease.Cli.Args
import RouteLease.Config.Load

/-!
# Starting the daemon from the command line

A run reads its arguments, loads the configuration file (the defaults when there is none), lets
`--interface` name the managed interface, and checks the result. Only then would the daemon
start; everything before that ends the run with an exit code:

* 0 after printing the help or the version;
* 2 when the arguments are refused, with the refusal on the error stream;
* 1 when the configuration cannot be loaded or is not valid, with a report on the error stream.

The report names what was being done, then the chain of causes, one error wrapping the next: one
cause is indented by four spaces, several are numbered from 0, and the lines of a cause after its
first are indented to line up with it.
-/

namespace RouteLease

/-- The texts of an error and of the errors it wraps, outermost first: a socket or input-output
failure wraps the operating-system error, a message failure wraps the cause. -/
def DaemonError.chain (e : DaemonError) : List String :=
  match e with
  | .netlink _ errno => [e.message, Errno.report errno]
  | .codec cause => [e.message, cause.message]
  | .io errno => [e.message, Errno.report errno]
  | _ => [e.message]

namespace Cli

/-- A number right-aligned in five columns. -/
def padNumber (n : Nat) : String :=
  let s := toString n
  String.ofList (List.replicate (5 - s.length) ' ') ++ s

/-- A text whose lines after the first are indented by `indent`. -/
def indentLines (indent text : String) : String :=
  ("\n" ++ indent).intercalate (text.splitOn "\n")

/-- The report of a failed run: what was being done, and the causes, outermost first. -/
def failureReport (context : String) (causes : List String) : String :=
  let body := match causes with
    | [] => ""
    | [cause] => "\n\nCaused by:\n    " ++ indentLines "    " cause
    | _ => "\n\nCaused by:" ++ String.join (causes.zipIdx.map fun (cause, n) =>
        "\n" ++ padNumber n ++ ": " ++ indentLines "       " cause)
  "Error: " ++ context ++ body ++ "\n"

/-- How a run of the command line goes. -/
inductive Launch where
  /-- The run ends with an exit code, having written these texts to its output and error
  streams. -/
  | exit (code : Nat) (stdout stderr : String)
  /-- The daemon starts with this configuration, asked for these routes. -/
  | start (config : Config.DaemonConfig) (routes : List (IpAddress × Nat))

/-- A run that fails with a report on the error stream. -/
def Launch.failure (context : String) (causes : List String) : Launch :=
  .exit 1 "" (failureReport context causes)

/-- Sets the managed interface's name. -/
def withInterface (c : Config.DaemonConfig) : Option String → Config.DaemonConfig
  | some name => { c with interface := { c.interface with name := name } }
  | none => c

/-- What a run with these options does, `read` telling what reading a path gives. -/
def launchWith (read : String → Config.FileEntry) (opts : Options) : Launch :=
  match Config.loadOrDefault opts.config (read opts.config) with
  | .error e => .failure ("loading " ++ opts.config) e.chain
  | .ok config =>
    let config := withInterface config opts.interface
    match config.validate with
    | .error e => .failure "invalid configuration" e.chain
    | .ok () => .start config opts.routes

/-- What a run with these arguments does, `read` telling what reading a path gives. -/
def launch (read : String → Config.FileEntry) (args : List String) : Launch :=
  match parseArgs args with
  | .help => .exit 0 helpText ""
  | .version => .exit 0 versionText ""
  | .refuse e => .exit 2 "" e.render
  | .run opts => launchWith read opts

end Cli

end RouteLease
