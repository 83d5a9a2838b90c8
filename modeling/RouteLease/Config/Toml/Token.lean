/-!
# TOML tokens

The first step of reading TOML cuts the text into tokens: the punctuation `[ ] { } = , .`, runs of
blanks, line ends, comments, the four kinds of string, and atoms, which are the runs of any other
characters (bare keys, numbers, booleans, dates). An atom ends only at punctuation, a blank, a
comment or a line end: a quote inside it belongs to it, so that a string missing its opening
quote is seen whole.

A comment runs up to a carriage return or a line feed. A carriage return followed by a line feed
is one line end, and a carriage return alone is a line end too (rejected later). A one-line string
ends at its closing quote or before the next line feed; a multi-line string at its closing quotes
or the end of the text. A string that is not closed is still one token; it is rejected later,
when its contents are read.

Every token carries its byte span in the source, which error reports point at. The last token is
always the end of the text.
-/

namespace RouteLease

namespace Config.Toml

/-- The kinds of token. -/
inductive TokenKind where
  | leftBracket
  | rightBracket
  | leftBrace
  | rightBrace
  | equals
  | comma
  | dot
  | whitespace
  | newline
  | comment
  | basicString
  | literalString
  | mlBasicString
  | mlLiteralString
  | atom
  | eof
  deriving DecidableEq, Repr

/-- Whether a token kind is one of the four kinds of string. -/
def TokenKind.isString : TokenKind → Bool
  | .basicString | .literalString | .mlBasicString | .mlLiteralString => true
  | _ => false

/-- A token: its kind, its characters and its byte span in the source. -/
structure Token where
  kind : TokenKind
  text : List Char
  start : Nat
  stop : Nat

/-- The number of bytes that characters take in UTF-8. -/
def byteLength (cs : List Char) : Nat :=
  cs.foldl (fun n c => n + c.utf8Size) 0

/-- Characters that end an atom because they start another token. Quotes do not: they only
start a string at the start of a token. -/
def endsAtom (c : Char) : Bool :=
  c == '.' || c == '=' || c == ',' || c == '[' || c == ']' || c == '{' || c == '}' ||
    c == ' ' || c == '\t' || c == '#' || c == '\r' || c == '\n'

/-- The text of a comment: up to a carriage return or a line feed. -/
def untilLineEnd (cs : List Char) : List Char × List Char :=
  cs.span fun c => c != '\r' && c != '\n'

/-- The body of a one-line string after its opening quote: up to and including the closing
`quote`, or up to the next line feed. In a basic string a backslash takes a backslash or a quote
right after it along, so that neither ends the string. -/
def lineStringBody (quote : Char) (escapes : Bool) : List Char → List Char × List Char
  | [] => ([], [])
  | '\\' :: tail@(d :: rest) =>
    if escapes && (d == '\\' || d == '"') then
      let (body, r) := lineStringBody quote escapes rest
      ('\\' :: d :: body, r)
    else
      let (body, r) := lineStringBody quote escapes tail
      ('\\' :: body, r)
  | c :: rest =>
    if c = '\n' then ([], c :: rest)
    else if c = quote then ([c], rest)
    else
      let (body, r) := lineStringBody quote escapes rest
      (c :: body, r)

/-- The length of the run of `quote` at the front of the text. -/
def quoteRun (quote : Char) : List Char → Nat
  | c :: rest => if c = quote then quoteRun quote rest + 1 else 0
  | [] => 0

/-- The body of a multi-line string after its three opening quotes: up to and including the
closing three quotes, where up to two more quotes just before them belong to the contents, or to
the end of the text. A backslash in a basic string keeps the next character. -/
def mlStringBody (quote : Char) (escapes : Bool) : List Char → List Char × List Char
  | [] => ([], [])
  | c :: rest =>
    if c = quote then
      let run := quoteRun quote (c :: rest)
      if run ≥ 3 then
        let taken := min run 5
        ((c :: rest).take taken, (c :: rest).drop taken)
      else
        let (body, r) := mlStringBody quote escapes rest
        (c :: body, r)
    else if escapes && c == '\\' then
      match rest with
      | d :: rest' => let (body, r) := mlStringBody quote escapes rest'; (c :: d :: body, r)
      | [] => ([c], [])
    else
      let (body, r) := mlStringBody quote escapes rest
      (c :: body, r)

/-- Cuts the first token off a nonempty text: its kind, its characters and the rest. -/
def cut : List Char → TokenKind × List Char × List Char
  | [] => (.eof, [], [])
  | c :: rest =>
    match c with
    | '[' => (.leftBracket, [c], rest)
    | ']' => (.rightBracket, [c], rest)
    | '{' => (.leftBrace, [c], rest)
    | '}' => (.rightBrace, [c], rest)
    | '=' => (.equals, [c], rest)
    | ',' => (.comma, [c], rest)
    | '.' => (.dot, [c], rest)
    | '\n' => (.newline, [c], rest)
    | '\r' =>
      match rest with
      | '\n' :: rest' => (.newline, ['\r', '\n'], rest')
      | _ => (.newline, [c], rest)
    | '#' => let (body, r) := untilLineEnd rest; (.comment, c :: body, r)
    | '"' =>
      match rest with
      | '"' :: '"' :: rest' =>
        let (body, r) := mlStringBody '"' true rest'
        (.mlBasicString, ['"', '"', '"'] ++ body, r)
      | _ => let (body, r) := lineStringBody '"' true rest; (.basicString, c :: body, r)
    | '\'' =>
      match rest with
      | '\'' :: '\'' :: rest' =>
        let (body, r) := mlStringBody '\'' false rest'
        (.mlLiteralString, ['\'', '\'', '\''] ++ body, r)
      | _ => let (body, r) := lineStringBody '\'' false rest; (.literalString, c :: body, r)
    | ' ' | '\t' =>
      let (body, r) := rest.span fun d => d == ' ' || d == '\t'
      (.whitespace, c :: body, r)
    | _ =>
      let (body, r) := rest.span fun d => !endsAtom d
      (.atom, c :: body, r)

/-- Cuts tokens off the text at byte offset `pos`, at most `fuel` of them, and ends with the
end-of-text token. Every cut takes at least one character, so the length of the text is enough
fuel. -/
def tokensFrom : (fuel : Nat) → List Char → Nat → List Token
  | 0, _, pos => [⟨.eof, [], pos, pos⟩]
  | fuel + 1, cs, pos =>
    match cs with
    | [] => [⟨.eof, [], pos, pos⟩]
    | _ :: _ =>
      let (kind, text, rest) := cut cs
      let stop := pos + byteLength text
      ⟨kind, text, pos, stop⟩ :: tokensFrom fuel rest stop

/-- The tokens of a TOML text. A byte order mark at the start is skipped; offsets still count its
three bytes. -/
def tokenize (s : String) : List Token :=
  match s.toList with
  | '\uFEFF' :: rest => tokensFrom (s.length + 1) rest 3
  | cs => tokensFrom (s.length + 1) cs 0

end Config.Toml

end RouteLease
