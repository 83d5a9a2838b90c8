import RouteLease.Cli.Launch

/-!
# The daemon's command line

Reads the arguments and the configuration file and answers as the daemon does up to its start.
Starting the daemon needs a routing socket to the kernel, which this program does not open: a
command line that would start it is answered with a note on the error stream and exit code 1.
-/

namespace RouteLease

namespace Cli

/-- The code field of a failed file operation. -/
def rawCode : IO.Error → Option UInt32
  | .alreadyExists _ code _ | .otherError code _ | .resourceBusy code _
  | .resourceVanished code _ | .unsupportedOperation code _ | .hardwareFault code _
  | .unsatisfiedConstraints code _ | .illegalOperation code _ | .protocolError code _
  | .timeExpired code _ | .interrupted _ code _ | .noFileOrDirectory _ code _
  | .invalidArgument _ code _ | .permissionDenied _ code _ | .resourceExhausted _ code _
  | .inappropriateType _ code _ | .noSuchThing _ code _ => some code
  | .unexpectedEof | .userError _ => none

/-- The error number carried by a failed file operation, when it carries one; some operations
carry it negated. -/
def osCode (e : IO.Error) : Option Nat :=
  (rawCode e).map fun code =>
    let n := code.toNat
    if n ≥ Nat.pow 2 31 then Nat.pow 2 32 - n else n

/-- The text of a file whose bytes are not UTF-8, as an input-output failure reads. -/
def invalidTextMessage : String := "stream did not contain valid UTF-8"

/-- What reading the configuration file gives: the entry, or the causes of a failure that no error
number describes. -/
def readConfigFile (path : String) : IO (Except (List String) Config.FileEntry) := do
  try
    let bytes ← IO.FS.readBinFile path
    match String.fromUTF8? bytes with
    | some text => pure (.ok (.file text))
    | none => pure (.error ["IO error: " ++ invalidTextMessage, invalidTextMessage])
  catch e =>
    match e, osCode e with
    | .noFileOrDirectory .., _ => pure (.ok .missing)
    | _, some code => pure (.ok (.unreadable code))
    | _, none => pure (.error ["IO error: " ++ toString e, toString e])

/-- Writes a run's texts and gives its exit code. -/
def finish (code : Nat) (out err : String) : IO UInt32 := do
  IO.print out
  IO.eprint err
  pure code.toUInt32

end Cli

end RouteLease

open RouteLease RouteLease.Cli

/-- Runs the command line. -/
def main (args : List String) : IO UInt32 := do
  match parseArgs args with
  | .help => finish 0 helpText ""
  | .version => finish 0 versionText ""
  | .refuse e => finish 2 "" e.render
  | .run opts =>
    match ← readConfigFile opts.config with
    | .error causes => finish 1 "" (failureReport ("loading " ++ opts.config) causes)
    | .ok entry =>
      match launchWith (fun _ => entry) opts with
      | .exit code out err => finish code out err
      | .start config _ =>
        finish 1 "" ("dnsrouted: the configuration is valid; managing interface " ++
          config.interface.name ++ " needs a routing socket, which this program does not open\n")
