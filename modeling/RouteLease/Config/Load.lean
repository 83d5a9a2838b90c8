import RouteLease.Config.Schema
import RouteLease.Config.Toml.Table

/-!
# Loading the configuration

A configuration file is read as TOML. When it cannot be read as a configuration, the report
points at the place: the line and column of the error (columns count characters), the line itself,
and carets under the offending text, one at least, never running past the end of the line.

A file that does not exist gives the defaults; a path that cannot be read as a file (a directory,
or a path through a file) is an operating-system error.
-/

namespace RouteLease

namespace Config

/-- Why a text is not a configuration. -/
inductive ReadError where
  /-- The text is not TOML. -/
  | malformed (e : Toml.TomlError)
  /-- A value does not fit the configuration. -/
  | field (e : FieldError)

namespace ReadError

/-- The text of the error alone. -/
def message : ReadError → String
  | .malformed e => e.message
  | .field e => e.cause.message

/-- Where the error is. -/
def span : ReadError → Option Span
  | .malformed e => some e.span
  | .field e => e.span

end ReadError

/-- Reads a configuration from TOML text. -/
def readToml (text : String) : Except ReadError DaemonConfig :=
  match Toml.parseDocument text with
  | .error e => .error (.malformed e)
  | .ok doc =>
    match DaemonConfig.decode Dialect.toml doc with
    | .error e => .error (.field e)
    | .ok c => .ok c

/-- The line and column, both from 0, of a byte offset: the line counts line feeds before the
offset, and the column counts characters from the start of the line (bytes, if the offset falls
inside a character). An offset at or past the end is placed after the last byte. -/
def position (bytes : List UInt8) (index : Nat) : Nat × Nat :=
  if bytes.isEmpty then (0, index)
  else
    let safe := min index (bytes.length - 1)
    let beyond := index - safe
    let before := bytes.take safe
    let lineStart := match (before.zipIdx.filter fun (b, _) => b == 10).getLast? with
      | some (_, i) => i + 1
      | none => 0
    let line := (bytes.take lineStart).count 10
    let slice := (bytes.drop lineStart).take (safe + 1 - lineStart)
    let column := match String.fromUTF8? ⟨slice.toArray⟩ with
      | some s => s.length - 1
      | none => safe - lineStart
    (line, column + beyond)

/-- The report of an error in a source text: the place with the line and carets, then the
message; without a place, the message alone. Every line ends with a line feed. -/
def report (source : String) (e : ReadError) : String :=
  match e.span with
  | none => e.message ++ "\n"
  | some sp =>
    let (line, column) := position source.toUTF8.toList sp.start
    let lineNum := line + 1
    let gutter := (toString lineNum).length
    let content := (source.splitOn "\n").getD line ""
    let highlight := min (sp.stop - sp.start) (content.utf8ByteSize - column)
    let pad (n : Nat) := String.ofList (List.replicate n ' ')
    "TOML parse error at line " ++ toString lineNum ++ ", column " ++ toString (column + 1) ++ "\n" ++
      pad (gutter + 1) ++ "|\n" ++
      toString lineNum ++ " | " ++ content ++ "\n" ++
      pad (gutter + 1) ++ "|" ++ pad (column + 1) ++ "^" ++
        String.ofList (List.replicate (highlight - 1) '^') ++ "\n" ++
      e.message ++ "\n"

/-- What reading a path gives. -/
inductive FileEntry where
  /-- Nothing is there. -/
  | missing
  /-- Reading fails with error number `errno`. -/
  | unreadable (errno : Int)
  /-- A file with this text. -/
  | file (content : String)

/-- The error number of reading a directory as a file. -/
def isDirectoryErrno : Int := 21

/-- The error number of reading a path that goes through a file. -/
def notDirectoryErrno : Int := 20

/-- Loads the configuration at `path`: the defaults when nothing is there. -/
def loadOrDefault (path : String) : FileEntry → Except DaemonError DaemonConfig
  | .missing => .ok {}
  | .unreadable errno => .error (.io errno)
  | .file content =>
    match readToml content with
    | .ok c => .ok c
    | .error e =>
      .error (.config ("Failed to parse config file " ++ path ++ ": " ++ report content e))

end Config

end RouteLease
