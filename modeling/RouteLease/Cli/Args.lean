import RouteLease.Address.Text
import RouteLease.Text.Quoted

/-!
# Command-line arguments

The daemon takes these options, each at most once except `--route`:

* `-c`, `--config <CONFIG>`: the configuration file;
* `-i`, `--interface <INTERFACE>`: the managed interface, over the configuration's;
* `--log-level <LOG_LEVEL>`: the default log level;
* `--route <ROUTES>`: a route to request at startup, `ADDRESS:TTL`, repeatable;
* `-h`, `--help` and `-V`, `--version`.

Arguments are read from left to right. A long option takes its value after `=` or as the next
argument; a short one takes the rest of its argument (after an optional `=`) or the next argument,
and short flags may be grouped. After `--` every argument is unexpected, as are arguments that are
no option at all.

A value given as the next argument is not checked when it is read: the option stays *pending*
until the next option is met or the arguments end, and only then is it recorded, so an error in it
(a missing value, a second use, a value its reader rejects) is reported there. An unknown argument
is reported before a pending option is checked, and what the pending option would have said is
dropped. Help and version are answered when met, after the pending option is recorded.

An unknown long option is answered with the known option most like it, if one is like enough:
likeness is the Jaro similarity of the names, which must exceed 0.7. The usage line of that answer
names the options given so far: help and version by name, the settings as one group.
-/

namespace RouteLease

namespace Cli

/-- The configuration file used when none is named. -/
def defaultConfigPath : String := "/etc/dnsroute/dnsrouted.toml"

/-- The options of a run. -/
structure Options where
  config : String := defaultConfigPath
  interface : Option String := none
  logLevel : String := "info"
  routes : List (IpAddress × Nat) := []

/-- The options of the command line. -/
inductive Opt where
  | config
  | interface
  | logLevel
  | route
  | help
  | version
  deriving DecidableEq

namespace Opt

/-- Whether the option takes a value. -/
def takesValue : Opt → Bool
  | .help | .version => false
  | _ => true

/-- How an option is shown in messages: its long name and the name of its value. -/
def display : Opt → String
  | .config => "--config <CONFIG>"
  | .interface => "--interface <INTERFACE>"
  | .logLevel => "--log-level <LOG_LEVEL>"
  | .route => "--route <ROUTES>"
  | .help => "--help"
  | .version => "--version"

/-- The long name of an option. -/
def longName : Opt → String
  | .config => "config"
  | .interface => "interface"
  | .logLevel => "log-level"
  | .route => "route"
  | .help => "help"
  | .version => "version"

/-- Every option, in the order they are declared. -/
def all : List Opt := [.config, .interface, .logLevel, .route, .help, .version]

/-- The option of a long name. -/
def ofLong (name : String) : Option Opt :=
  all.find? (·.longName == name)

/-- The option of a short name. -/
def ofShort : Char → Option Opt
  | 'c' => some .config
  | 'i' => some .interface
  | 'h' => some .help
  | 'V' => some .version
  | _ => none

end Opt

/-- The usage line. -/
def usage : String := "Usage: dnsrouted [OPTIONS]"

/-- Whether an option is one of the settings of a run (every option but help and version); the
settings are shown together, as one group, in a usage line. -/
def Opt.isSetting (o : Opt) : Bool :=
  o != .help && o != .version

/-- The group of the settings in a usage line: each of them, in the order they are declared. -/
def settingsGroup : String :=
  "<" ++ "|".intercalate ((Opt.all.filter Opt.isSetting).map Opt.display) ++ ">"

/-- The usage line that names the options given: the plain line when there are none. Options
that are no setting are named once each, in the order given; then, if any setting was given, the
group of the settings. -/
def usageWith : List Opt → String
  | [] => usage
  | used =>
    let others := (used.filter fun o => !o.isSetting).eraseDups.map Opt.display
    let group := if used.any Opt.isSetting then [settingsGroup] else []
    "Usage: dnsrouted" ++ String.join ((others ++ group).map (" " ++ ·))

/-- Why the arguments were refused. -/
inductive ArgError where
  /-- An argument that is no option, with the known option most like it and the usage line. -/
  | unexpected (arg : String) (similar : Option String) (usage : String)
  /-- A value attached to a flag that takes none, with the usage line. -/
  | unneededValue (opt : Opt) (value : String) (usage : String)
  /-- An option without its value. -/
  | missingValue (opt : Opt)
  /-- An option's value that its reader rejected, for the reason given. -/
  | invalidValue (opt : Opt) (value reason : String)
  /-- An option given twice. -/
  | repeated (opt : Opt)

/-- The closing line of every refusal. -/
def tryHelp : String := "\n\nFor more information, try '--help'.\n"

/-- The text of a refusal, as written to the error stream. -/
def ArgError.render : ArgError → String
  | .unexpected arg similar use =>
    let tip := match similar with
      | some s => "\n\n  tip: a similar argument exists: '--" ++ s ++ "'"
      | none => ""
    "error: unexpected argument '" ++ arg ++ "' found" ++ tip ++ "\n\n" ++ use ++ tryHelp
  | .unneededValue opt value use =>
    "error: unexpected value '" ++ value ++ "' for '" ++ opt.display ++
      "' found; no more were expected\n\n" ++ use ++ tryHelp
  | .missingValue opt =>
    "error: a value is required for '" ++ opt.display ++ "' but none was supplied" ++ tryHelp
  | .invalidValue opt value reason =>
    "error: invalid value '" ++ value ++ "' for '" ++ opt.display ++ "': " ++ reason ++ tryHelp
  | .repeated opt =>
    "error: the argument '" ++ opt.display ++ "' cannot be used multiple times\n\n" ++ usage ++
      tryHelp

/-- The help text. -/
def helpText : String :=
  "DNS-driven route lifecycle daemon\n\n" ++ usage ++ "\n\nOptions:\n" ++
  "  -c, --config <CONFIG>        Configuration file [default: /etc/dnsroute/dnsrouted.toml]\n" ++
  "  -i, --interface <INTERFACE>  Managed interface, overrides the configuration file\n" ++
  "      --log-level <LOG_LEVEL>  Default log level, RUST_LOG takes precedence [default: info]\n" ++
  "      --route <ROUTES>         Route to request at startup as ADDRESS:TTL, may be repeated\n" ++
  "  -h, --help                   Print help\n" ++
  "  -V, --version                Print version\n"

/-- The version text. -/
def versionText : String := "dnsrouted 0.1.0\n"

/-- What the arguments ask for. -/
inductive Request where
  | run (opts : Options)
  | help
  | version
  | refuse (e : ArgError)

/-! ## Reading values -/

/-- Why a text is not an unsigned 32-bit number. -/
inductive NumberError where
  | empty
  | invalidDigit
  | overflow
  deriving DecidableEq

/-- The text of a number error. -/
def NumberError.message : NumberError → String
  | .empty => "cannot parse integer from empty string"
  | .invalidDigit => "invalid digit found in string"
  | .overflow => "number too large to fit in target type"

/-- Reads decimal digits from left to right below `bound`: the first non-digit, or the first
digit that takes the number to `bound` or beyond, is the error. -/
def readDigits (bound : Nat) : List Char → Nat → Except NumberError Nat
  | [], acc => .ok acc
  | c :: rest, acc =>
    if !c.isDigit then .error .invalidDigit
    else
      let next := acc * 10 + (c.toNat - '0'.toNat)
      if next ≥ bound then .error .overflow else readDigits bound rest next

/-- Reads an unsigned 32-bit number: decimal digits with an optional leading `+`. -/
def readU32 (s : String) : Except NumberError Nat :=
  match s.toList with
  | [] => .error .empty
  | ['+'] => .error .invalidDigit
  | '+' :: rest => readDigits (Nat.pow 2 32) rest 0
  | cs => readDigits (Nat.pow 2 32) cs 0

/-- Splits a text at its last colon. -/
def splitLastColon (s : String) : Option (String × String) :=
  let cs := s.toList
  match (cs.zipIdx.filter fun (c, _) => c == ':').getLast? with
  | some (_, i) => some (String.ofList (cs.take i), String.ofList (cs.drop (i + 1)))
  | none => none

/-- A text without the opening brackets at its start and the closing ones at its end. -/
def stripBrackets (s : String) : String :=
  String.ofList ((s.toList.dropWhile (· == '[')).reverse.dropWhile (· == ']')).reverse

/-- Reads a startup route `ADDRESS:TTL`: the address is what stands before the last colon,
without the brackets around it, and is read first. -/
def readRoute (value : String) : Except String (IpAddress × Nat) :=
  match splitLastColon value with
  | none => .error ("expected ADDRESS:TTL, got " ++ quoted value)
  | some (addr, ttl) =>
    match IpAddress.parse (stripBrackets addr) with
    | .error e => .error e.message
    | .ok ip =>
      match readU32 ttl with
      | .error e => .error ("invalid ttl: " ++ e.message)
      | .ok n => .ok (ip, n)

/-! ## Likeness of option names -/

/-- The characters of `a` that match one of `b`, in order, and the positions in `b` they took:
each character takes the first untaken equal character of `b` no further than `range` away. -/
def jaroMatches (range : Nat) (a b : List Char) : List Char × List Nat :=
  a.zipIdx.foldl (fun (acc : List Char × List Nat) (c, i) =>
    let lo := i - range
    let hi := min b.length (i + range + 1)
    match b.zipIdx.find? (fun (d, j) => lo ≤ j && j < hi && d == c && !acc.2.contains j) with
    | some (_, j) => (acc.1 ++ [c], acc.2 ++ [j])
    | none => acc) ([], [])

/-- The Jaro similarity of two texts, in double precision: the mean of the matched share of
each text and of the matches that stand in the same order in both. -/
def jaro (a b : List Char) : Float :=
  if a.isEmpty && b.isEmpty then 1
  else if a.isEmpty || b.isEmpty then 0
  else
    let (aMatched, taken) := jaroMatches (max a.length b.length / 2 - 1) a b
    let m := aMatched.length
    if m = 0 then 0
    else
      let bMatched := (b.zipIdx.filter fun (_, j) => taken.contains j).map Prod.fst
      let t := ((aMatched.zip bMatched).filter fun (x, y) => x != y).length / 2
      (m.toFloat / a.length.toFloat + m.toFloat / b.length.toFloat +
        (m - t).toFloat / m.toFloat) / 3

/-- The option whose long name is most like `name`, if one is like enough; of equally like names
the last declared. -/
def similarLong (name : String) : Option Opt :=
  let scored := Opt.all.filterMap fun o =>
    let score := jaro name.toList o.longName.toList
    if score > 0.7 then some (o, score) else none
  let best := scored.foldl (fun (acc : Option (Opt × Float)) x =>
    match acc with
    | some (_, s) => if x.2 ≥ s then some x else acc
    | none => some x) none
  best.map Prod.fst

/-! ## Reading the arguments -/

/-- An option met without an attached value: its value, once the next argument gave one. -/
structure Pending where
  opt : Opt
  value : Option String

/-- Where the reading stands: the options so far, those recorded (in the order first recorded),
the pending option, and whether `--` was met. -/
structure Reading where
  opts : Options := {}
  recorded : List Opt := []
  pending : Option Pending := none
  trailing : Bool := false

/-- Records an option with its values, checking the number of values, then a second use, then
the value itself. An option that passed the first two checks is recorded even when its value is
rejected; a second use drops the first. -/
def record (r : Reading) (opt : Opt) (values : List String) : Reading × Option ArgError :=
  match values with
  | [] => (r, some (.missingValue opt))
  | value :: _ =>
    if opt != .route && r.recorded.contains opt then
      ({ r with recorded := r.recorded.erase opt }, some (.repeated opt))
    else
      let r := if r.recorded.contains opt then r else { r with recorded := r.recorded ++ [opt] }
      let o := r.opts
      match opt with
      | .config =>
        if value.isEmpty then (r, some (.missingValue opt))
        else ({ r with opts := { o with config := value } }, none)
      | .interface => ({ r with opts := { o with interface := some value } }, none)
      | .logLevel => ({ r with opts := { o with logLevel := value } }, none)
      | .route =>
        match readRoute value with
        | .ok route => ({ r with opts := { o with routes := o.routes ++ [route] } }, none)
        | .error reason => (r, some (.invalidValue opt value reason))
      | _ => (r, none)

/-- Records the pending option, if there is one. -/
def settle (r : Reading) : Reading × Option ArgError :=
  match r.pending with
  | none => (r, none)
  | some p => record { r with pending := none } p.opt p.value.toList

/-- What one argument leaves: the reading goes on, or the request is settled. -/
inductive Step where
  | next (r : Reading)
  | done (q : Request)

/-- Meets an option, after recording the pending one: help and version are answered, a value
option with an attached value is recorded, and one without becomes pending. -/
def meetOption (r : Reading) (opt : Opt) (attached : Option String) : Step :=
  match settle r with
  | (_, some e) => .done (.refuse e)
  | (r, none) =>
    if opt == .help then .done .help
    else if opt == .version then .done .version
    else
      match attached with
      | some v =>
        match record r opt [v] with
        | (_, some e) => .done (.refuse e)
        | (r, none) => .next r
      | none => .next { r with pending := some ⟨opt, none⟩ }

/-- Refuses an unknown argument: the pending option is recorded first and its error dropped. A
long option's usage line names the options recorded and the one suggested. -/
def unknown (r : Reading) (arg : String) (similar : Option Opt) (isLong : Bool) : Step :=
  let r := (settle r).1
  let use :=
    if isLong then
      match similar with
      | some o => usageWith (if r.recorded.contains o then r.recorded else r.recorded ++ [o])
      | none => usageWith r.recorded
    else usage
  .done (.refuse (.unexpected arg (similar.map Opt.longName) use))

/-- Reads a long option, the text after `--`: its name, and its value after the first `=`. -/
def readLong (r : Reading) (body : String) : Step :=
  let (name, attached) : String × Option String := match body.splitOn "=" with
    | n :: v :: vs => (n, some ("=".intercalate (v :: vs)))
    | _ => (body, none)
  match Opt.ofLong name with
  | some opt =>
    match attached with
    | some v =>
      if opt.takesValue then meetOption r opt (some v)
      else .done (.refuse (.unneededValue opt v (usageWith (r.recorded ++ [opt]))))
    | none => meetOption r opt none
  | none => unknown r ("--" ++ name) (similarLong name) true

/-- Reads a group of short flags, the characters after a single dash: a value option takes the
rest of the group as its value, after an optional `=`. -/
def readShort (r : Reading) : List Char → Step
  | [] => .next r
  | c :: cs =>
    match Opt.ofShort c with
    | some opt =>
      if !opt.takesValue || cs.isEmpty then
        match meetOption r opt none with
        | .next r => readShort r cs
        | q => q
      else
        let value := match cs with
          | '=' :: more => more
          | more => more
        meetOption r opt (some (String.ofList value))
    | none => unknown r ("-" ++ String.singleton c) none false

/-- Whether the pending option still waits for its value. -/
def Reading.awaiting (r : Reading) : Bool :=
  match r.pending with
  | some ⟨_, none⟩ => true
  | _ => false

/-- Reads one argument. -/
def readArg (r : Reading) (arg : String) : Step :=
  if r.trailing then unknown r arg none false
  else if arg == "--" then .next { r with trailing := true }
  else if arg.startsWith "--" then readLong r (arg.drop 2).toString
  else if arg.startsWith "-" && arg != "-" then readShort r (arg.drop 1).toString.toList
  else if r.awaiting then
    .next { r with pending := r.pending.map fun p => { p with value := some arg } }
  else unknown r arg none false

/-- Reads the arguments from left to right; at their end the pending option is recorded. -/
def readArgs (r : Reading) : List String → Request
  | [] =>
    match settle r with
    | (_, some e) => .refuse e
    | (r, none) => .run r.opts
  | arg :: rest =>
    match readArg r arg with
    | .next r => readArgs r rest
    | .done q => q

/-- What a command line asks for. -/
def parseArgs (args : List String) : Request :=
  readArgs {} args

end Cli

end RouteLease
