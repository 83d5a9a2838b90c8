import RouteLease.Config.Toml.Token
import RouteLease.Config.Toml.Error

/-!
# TOML syntax

The second step of reading TOML checks the shape of the document and groups its tokens: every
line is blank, a table header `[key]` or `[[key]]`, or a key-value pair `key = value`, each
optionally followed by a comment. A value is a string, a scalar written without quotes, an array
in brackets or an inline table in braces; an inline table may span lines, hold comments and end
with a comma.

A scalar written without quotes is an atom together with the dots and atoms right after it, and
with a blank run when an atom follows it: `1979-05-27 07:32:00`, `1.5` and `1 2` are each one
scalar. What a scalar says is read in the next step, and so is every key.

Where a key or a value is left out, this step puts an empty one in its place and leaves the
complaint to the next step: `= 1`, `a. = 1` and `[a.]` have an empty key, and `a =` an empty
value. Comments may hold only tabs and visible characters, and a carriage return must begin a
line end.

The first error found, in reading order, is the result. It comes before any error of the next
step.
-/

namespace RouteLease

namespace Config.Toml

/-- A value as written, before its contents are read. -/
inductive RawValue where
  /-- A string token, or a scalar written without quotes (empty where a value is missing). -/
  | scalar (kind : TokenKind) (text : List Char) (start stop : Nat)
  | array (start stop : Nat) (items : List RawValue)
  | inlineTable (start stop : Nat) (entries : List (List Token × RawValue))

/-- The span of a value as written. -/
def RawValue.span : RawValue → Span
  | .scalar _ _ start stop => ⟨start, stop⟩
  | .array start stop _ => ⟨start, stop⟩
  | .inlineTable start stop _ => ⟨start, stop⟩

/-- A line of a document that says something. -/
inductive Expression where
  /-- A table header, `[key]`, or `[[key]]` for the next table of an array of tables. -/
  | header (key : List Token) (arrayOfTables : Bool) (start stop : Nat)
  /-- A key-value pair. -/
  | keyValue (key : List Token) (value : RawValue)

/-- A parsing step: the result and the tokens after it. -/
abbrev Step (α : Type) := Except TomlError (α × List Token)

/-- Drops blanks. -/
def skipBlank (ts : List Token) : List Token :=
  ts.dropWhile fun t => t.kind == .whitespace

/-- Whether a token can be a simple key. -/
def isKeyToken (t : Token) : Bool :=
  t.kind == .atom || t.kind.isString

/-- The empty key put where a key is missing, at byte offset `pos`. -/
def emptyKey (pos : Nat) : Token :=
  ⟨.atom, [], pos, pos⟩

/-- The empty scalar put where a value is missing, at byte offset `pos`. -/
def emptyScalar (pos : Nat) : RawValue :=
  .scalar .atom [] pos pos

/-- Checks a line end: a carriage return must be followed by a line feed. -/
def checkNewline (t : Token) : Except TomlError Unit :=
  if t.text == ['\r'] then
    failAt "carriage return must be followed by newline" (some [.literal "\n"]) t.stop t.stop
  else .ok ()

/-- Whether a character may stand in a comment: a tab, a visible ASCII character or a blank, or
any character beyond ASCII. -/
def isCommentChar (c : Char) : Bool :=
  c == '\t' || (' ' ≤ c && c ≤ '~') || c.toNat ≥ 0x80

/-- Checks the characters of a comment starting at byte offset `pos`. -/
def checkCommentFrom : List Char → Nat → Except TomlError Unit
  | [], _ => .ok ()
  | c :: rest, pos =>
    if isCommentChar c then checkCommentFrom rest (pos + c.utf8Size)
    else failAt "invalid comment character" (some [.description "printable characters"]) pos pos

/-- Checks a comment token. -/
def checkComment (t : Token) : Except TomlError Unit :=
  checkCommentFrom t.text t.start

/-- Checks a token that carries no meaning: comments and line ends are checked, blanks pass. -/
def checkTrivia (t : Token) : Except TomlError Unit :=
  if t.kind == .comment then checkComment t
  else if t.kind == .newline then checkNewline t
  else .ok ()

/-- The rest of a dotted key after a part, in reverse order onto `acc`, with the end of the last
token taken. Blanks may stand around each dot; a dot must be followed by a key part, and where
none follows, an empty key is put in its place and the key ends there, marked as cut short. -/
def dottedRest : (fuel : Nat) → List Token → Nat → List Token →
    List Token × Bool × Nat × List Token
  | 0, acc, last, ts => (acc.reverse, true, last, ts)
  | fuel + 1, acc, last, ts =>
    match skipBlank ts with
    | d :: rest =>
      if d.kind == .dot then
        match skipBlank rest with
        | k :: rest' =>
          if isKeyToken k then dottedRest fuel (k :: acc) k.stop rest'
          else ((emptyKey k.start :: acc).reverse, false, d.stop, k :: rest')
        | [] => ((emptyKey d.stop :: acc).reverse, false, d.stop, [])
      else (acc.reverse, true, last, ts)
    | [] => (acc.reverse, true, last, ts)

/-- A dotted key from its first part on. -/
def dottedKey (first : Token) (ts : List Token) : List Token × Bool × Nat × List Token :=
  dottedRest (ts.length + 1) [first] first.stop ts

/-- A scalar written without quotes: the atom or dot `first`, then every dot and atom right
after it, and a blank run followed by an atom. Returns the text, where it ends and the rest. -/
def scalarRun (text : List Char) (stop : Nat) : List Token → List Char × Nat × List Token
  | [] => (text, stop, [])
  | t :: rest =>
    if t.kind == .dot || t.kind == .atom then scalarRun (text ++ t.text) t.stop rest
    else if t.kind == .whitespace then
      match rest with
      | a :: rest' =>
        if a.kind == .atom then scalarRun (text ++ t.text ++ a.text) a.stop rest'
        else (text, stop, t :: rest)
      | [] => (text, stop, t :: rest)
    else (text, stop, t :: rest)

/-- What an inline table needs next. -/
inductive InlineState where
  | needsKey
  | needsEquals
  | needsValue
  | needsComma
  deriving DecidableEq

/-- What would be accepted in each state of an inline table. -/
def InlineState.expected : InlineState → List Expected
  | .needsKey => [.description "key"]
  | .needsEquals => [.literal "="]
  | .needsValue => [.description "value"]
  | .needsComma => [.literal ","]

mutual

/-- A value at the front of the tokens, after `=` and its blanks. A comment, a comma, a line end
or the end of the text means the value is missing: an empty scalar stands for it. -/
def value : (fuel : Nat) → List Token → Step RawValue
  | 0, ts => .ok (emptyScalar 0, ts)
  | fuel + 1, ts =>
    match ts with
    | [] => .ok (emptyScalar 0, [])
    | t :: rest =>
      match t.kind with
      | .comment | .comma | .newline | .eof => .ok (emptyScalar t.start, t :: rest)
      | .equals => failAt "extra `=`" (some []) t.start t.stop
      | .leftBrace =>
        match inlineBody fuel t.stop .needsKey [] t.stop t.stop [] rest with
        | .ok ((entries, stop), rest') => .ok (.inlineTable t.start stop entries, rest')
        | .error e => .error e
      | .rightBrace => failAt "missing inline table opening" (some [.literal "\x7b"]) t.start t.start
      | .leftBracket =>
        match arrayBody fuel false t.stop [] rest with
        | .ok ((items, stop), rest') => .ok (.array t.start stop items, rest')
        | .error e => .error e
      | .rightBracket => failAt "missing array opening" (some [.literal "["]) t.start t.start
      | .dot | .atom =>
        let (text, stop, rest') := scalarRun t.text t.stop rest
        .ok (.scalar .atom text t.start stop, rest')
      | .whitespace => value fuel rest
      | kind => .ok (.scalar kind t.text t.start t.stop, rest)

/-- The items of an array after its opening bracket, in reverse order onto `acc`, and where the
closing bracket ends. Blanks, line ends and comments may stand anywhere between items, and a comma
may follow the last item. `last` is where the last token that says something ends: an array left
open is reported there. -/
def arrayBody : (fuel : Nat) → (needsComma : Bool) → (last : Nat) → List RawValue → List Token →
    Step (List RawValue × Nat)
  | 0, _, last, _, _ => failAt "unclosed array" (some [.literal "]"]) last last
  | fuel + 1, needsComma, last, acc, ts =>
    match ts with
    | [] => failAt "unclosed array" (some [.literal "]"]) last last
    | t :: rest =>
      match t.kind with
      | .whitespace | .newline | .comment =>
        match checkTrivia t with
        | .error e => .error e
        | .ok () => arrayBody fuel needsComma last acc rest
      | .eof => failAt "unclosed array" (some [.literal "]"]) last last
      | .comma =>
        if needsComma then arrayBody fuel false t.stop acc rest
        else failAt "extra comma in array" (some [.description "value"]) t.start t.stop
      | .equals =>
        failAt "unexpected `=` in array" (some [.description "value", .literal "]"]) t.start t.stop
      | .rightBracket => .ok ((acc.reverse, t.stop), rest)
      | _ =>
        if needsComma then
          failAt "missing comma between array elements" (some [.literal ","]) t.start t.start
        else
          match value fuel (t :: rest) with
          | .ok (v, rest') => arrayBody fuel true v.span.stop (v :: acc) rest'
          | .error e => .error e

/-- The entries of an inline table after its opening brace, in reverse order onto `acc`, and
where the closing brace ends. `state` says what is needed next, `key` is the key waiting for its
value, `last` is where the last token that says something ends, and `gap` is where a missing value
would stand. Blanks, line ends and comments may stand anywhere, and a comma may follow the last
entry. -/
def inlineBody : (fuel : Nat) → (openStop : Nat) → InlineState → List Token → (last gap : Nat) →
    List (List Token × RawValue) → List Token → Step (List (List Token × RawValue) × Nat)
  | 0, _, _, _, last, _, _, _ => failAt "unclosed inline table" (some [.literal "\x7d"]) last last
  | fuel + 1, openStop, state, key, last, gap, acc, ts =>
    match ts with
    | [] => failAt "unclosed inline table" (some [.literal "\x7d"]) last last
    | t :: rest =>
      match t.kind with
      | .whitespace | .newline | .comment =>
        match checkTrivia t with
        | .error e => .error e
        | .ok () => inlineBody fuel openStop state key last gap acc rest
      | .eof => failAt "unclosed inline table" (some [.literal "\x7d"]) last last
      | .comma =>
        if state == .needsComma then inlineBody fuel openStop .needsKey [] t.stop gap acc rest
        else failAt "extra comma in inline table" (some state.expected) t.start t.start
      | .equals =>
        match state with
        | .needsKey => inlineBody fuel openStop .needsValue [emptyKey t.start] t.stop t.stop acc rest
        | .needsEquals => inlineBody fuel openStop .needsValue key t.stop t.stop acc rest
        | _ =>
          failAt "extra assignment between key-value pairs" (some state.expected) t.start t.start
      | .rightBrace =>
        match state with
        | .needsEquals | .needsValue =>
          .ok ((((key, emptyScalar gap) :: acc).reverse, t.stop), rest)
        | _ => .ok ((acc.reverse, t.stop), rest)
      | .rightBracket =>
        failAt "invalid inline table element" (some state.expected) t.start t.start
      | kind =>
        match state with
        | .needsKey =>
          if kind == .leftBrace || kind == .leftBracket then
            failAt "missing key for inline table element" (some state.expected) t.start t.start
          else
            let (parts, _, stop, rest') :=
              if kind == .dot then
                let (ps, ok, s, r) := dottedKey (emptyKey t.start) (t :: rest)
                (ps, ok, s, r)
              else dottedKey t rest
            inlineBody fuel openStop .needsEquals parts stop stop acc rest'
        | .needsEquals =>
          failAt "missing assignment between key-value pairs" (some state.expected) t.start t.start
        | .needsComma =>
          failAt "missing comma between key-value pairs" (some state.expected) t.start t.start
        | .needsValue =>
          match value fuel (t :: rest) with
          | .ok (v, rest') =>
            inlineBody fuel openStop .needsComma [] v.span.stop gap ((key, v) :: acc) rest'
          | .error e => .error e

end

/-- The end of an expression's line: blanks, then an optional comment, then a line end or the end
of the text. Anything else on the line is an error at its start. -/
def lineEnd (ts : List Token) : Except TomlError (List Token) :=
  match skipBlank ts with
  | [] => .ok []
  | t :: rest =>
    if t.kind == .newline then do checkNewline t; .ok rest
    else if t.kind == .eof then .ok (t :: rest)
    else if t.kind == .comment then do
      checkComment t
      match rest with
      | n :: rest' => if n.kind == .newline then do checkNewline n; .ok rest' else .ok (n :: rest')
      | [] => .ok []
    else failAt "unexpected key or value" (some lineEndings) t.start t.start

/-- The key of a table header, at the front of the tokens after its blanks: its parts, whether it
is whole, where its last token ends and the rest. A header whose key is missing gets an empty
key, and so does a leading dot; such a key is not whole. -/
def headerKey : (fuel : Nat) → List Token → Nat → List Token →
    List Token × Bool × Nat × List Token
  | 0, acc, last, ts => ((emptyKey last :: acc).reverse, false, last, ts)
  | fuel + 1, acc, last, ts =>
    match ts with
    | [] => ((emptyKey last :: acc).reverse, false, last, [])
    | t :: rest =>
      if t.kind == .whitespace then headerKey fuel acc last rest
      else if t.kind == .dot then headerKey fuel (emptyKey t.start :: acc) t.stop rest
      else if isKeyToken t then
        let (parts, whole, stop, rest') := dottedKey t rest
        (acc.reverse ++ parts, whole, stop, rest')
      else ((emptyKey t.start :: acc).reverse, false, last, t :: rest)

/-- Skips the rest of a line whose error is left to the next step, up to its line end or the end
of the text; comments on the way are still checked. -/
def skipLine : List Token → Except TomlError (List Token)
  | [] => .ok []
  | t :: rest =>
    if t.kind == .newline || t.kind == .eof then .ok (t :: rest)
    else do
      if t.kind == .comment then checkComment t
      skipLine rest

/-- A table header from its opening bracket on. A header left open is an error after its key,
when the key is whole; `[[key]` is an error after its first closing bracket. A header whose key
is not whole is kept, its empty key left to the next step, and the rest of its line is
skipped. -/
def header (openTok : Token) (ts : List Token) : Step Expression :=
  let (arrayOfTables, ts) : Bool × List Token := match ts with
    | t :: rest => if t.kind == TokenKind.leftBracket then (true, rest) else (false, t :: rest)
    | [] => (false, [])
  let (key, whole, lastStop, rest) := headerKey (ts.length + 1) [] openTok.stop (skipBlank ts)
  match skipBlank rest with
  | c :: rest' =>
    if c.kind == .rightBracket then
      if arrayOfTables then
        match rest' with
        | c2 :: rest'' =>
          if c2.kind == .rightBracket then
            .ok (.header key true openTok.start c2.stop, rest'')
          else failAt "unclosed array table" (some [.literal "]"]) c.stop c.stop
        | [] => failAt "unclosed array table" (some [.literal "]"]) c.stop c.stop
      else .ok (.header key false openTok.start c.stop, rest')
    else if whole then
      if arrayOfTables then failAt "unclosed array table" (some [.literal "]]"]) lastStop lastStop
      else failAt "unclosed table" (some [.literal "]"]) lastStop lastStop
    else
      match skipLine (c :: rest') with
      | .error e => .error e
      | .ok rest'' => .ok (.header key arrayOfTables openTok.start lastStop, rest'')
  | [] => .ok (.header key arrayOfTables openTok.start lastStop, [])

/-- A key-value pair from its key on: `parts` and the tokens after them. -/
def keyValue (parts : List Token) (ts : List Token) : Step Expression :=
  match skipBlank ts with
  | [] => failAt "key with no value" (some [.literal "="]) 0 0
  | e :: rest =>
    if e.kind != .equals then failAt "key with no value" (some [.literal "="]) e.start e.start
    else
      match value (2 * rest.length + 2) (skipBlank rest) with
      | .error err => .error err
      | .ok (v, rest') => .ok (.keyValue parts v, rest')

/-- The expression starting at a token at the start of a line. -/
def expression (t : Token) (rest : List Token) : Step Expression :=
  match t.kind with
  | .leftBracket => header t rest
  | .rightBracket => failAt "missing table open" (some [.literal "["]) t.start t.start
  | .equals => keyValue [emptyKey t.start] (t :: rest)
  | .dot =>
    let (parts, _, _, rest') := dottedKey (emptyKey t.start) (t :: rest)
    keyValue parts rest'
  | .comma | .leftBrace | .rightBrace =>
    failAt "invalid key-value pair" (some [.description "key"]) t.start t.start
  | _ =>
    let (parts, _, _, rest') := dottedKey t rest
    keyValue parts rest'

/-- The expressions of a document, in reverse order onto `acc`. -/
def expressions : (fuel : Nat) → List Expression → List Token → Except TomlError (List Expression)
  | 0, acc, _ => .ok acc.reverse
  | fuel + 1, acc, ts =>
    match ts with
    | [] => .ok acc.reverse
    | t :: rest =>
      if t.kind == .whitespace || t.kind == .newline || t.kind == .comment then do
        checkTrivia t
        expressions fuel acc rest
      else if t.kind == .eof then .ok acc.reverse
      else
        match expression t rest with
        | .error e => .error e
        | .ok (x, rest') =>
          match lineEnd rest' with
          | .error e => .error e
          | .ok rest'' => expressions fuel (x :: acc) rest''

/-- The expressions of a TOML text, or its first error of shape. -/
def parseExpressions (s : String) : Except TomlError (List Expression) :=
  let ts := tokenize s
  expressions (ts.length + 1) [] ts

end Config.Toml

end RouteLease
