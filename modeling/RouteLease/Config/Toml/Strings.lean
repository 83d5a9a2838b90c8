import RouteLease.Config.Toml.Token
import RouteLease.Config.Toml.Error

/-!
# TOML strings and keys

Reading what a string token or a key says.

* A basic string is `"…"`: blanks and visible characters other than `"` and `\` stand for
  themselves, and a backslash starts an escape: `\b \e \f \n \r \t \\ \"`, or `\xHH`, `\uHHHH`,
  `\UHHHHHHHH` for the character of that code point.
* A literal string is `'…'`, taken as written; it may hold tabs and visible characters.
* A multi-line string, `"""…"""` or `'''…'''`, drops a line end right after its opening quotes
  and reads every line end as a line feed; a carriage return must be followed by a line feed. In a
  basic one, a backslash at the end of a line drops the line end and every blank and line end
  after it; only blanks may stand between such a backslash and its line end.
* A bare key is letters, digits, `-` and `_`, at least one of them; a quoted key is a one-line
  string.

Every error points at the place that shows it: the end of a string missing its closing quote, the
run of characters a string may not hold, the escape that is not one.
-/

namespace RouteLease

namespace Config.Toml

/-- Whether a character stands for itself in a basic string: a blank, a visible ASCII character
other than `"` and `\`, or any character beyond ASCII. -/
def isBasicChar (c : Char) : Bool :=
  c == ' ' || c == '\t' || c == '!' || ('#' ≤ c && c ≤ '[') || (']' ≤ c && c ≤ '~') ||
    c.toNat ≥ 0x80

/-- Whether a character may stand in a literal string: a tab, a visible ASCII character or a
blank other than `'`, or any character beyond ASCII. -/
def isLiteralChar (c : Char) : Bool :=
  c == '\t' || (' ' ≤ c && c ≤ '&') || ('(' ≤ c && c ≤ '~') || c.toNat ≥ 0x80

/-- Whether a character stands for itself in a multi-line basic string: as in a basic string,
and quotes and line feeds too. -/
def isMlBasicChar (c : Char) : Bool :=
  isBasicChar c || c == '"' || c == '\n'

/-- The value of a hexadecimal digit. -/
def hexDigit? (c : Char) : Option Nat :=
  if c.isDigit then some (c.toNat - '0'.toNat)
  else if 'a' ≤ c ∧ c ≤ 'f' then some (c.toNat - 'a'.toNat + 10)
  else if 'A' ≤ c ∧ c ≤ 'F' then some (c.toNat - 'A'.toNat + 10)
  else none

/-- Whether a character is a hexadecimal digit. -/
def isHexDigit (c : Char) : Bool :=
  (hexDigit? c).isSome

/-- The number written by hexadecimal digits. -/
def hexValue (cs : List Char) : Nat :=
  cs.foldl (fun acc c => acc * 16 + (hexDigit? c).getD 0) 0

/-- A character from a code point, if it is a Unicode scalar value. -/
def scalarChar? (n : Nat) : Option Char :=
  if n < 0xD800 ∨ (0xDFFF < n ∧ n < 0x110000) then some (Char.ofNat n) else none

/-- What may follow a backslash in a basic string, as errors list it. -/
def escapeCharacters : List Expected :=
  ["b", "e", "f", "n", "r", "\\", "\"", "x", "u", "U"].map .literal

/-- What an escape by code point needs. -/
def codePointExpected : List Expected :=
  [.description "unicode hexadecimal value"]

/-- Reads the `width` hexadecimal digits of an escape by code point, which start at byte offset
`pos`: the character, the rest and the offset after the digits. -/
def hexEscape (width : Nat) (cs : List Char) (pos : Nat) :
    Except TomlError (Char × List Char × Nat) :=
  let digits := (cs.take width).takeWhile isHexDigit
  if digits.length < width then
    failAt "too few unicode value digits" (some codePointExpected)
      (pos + digits.length) (pos + digits.length)
  else
    match scalarChar? (hexValue digits) with
    | some c => .ok (c, cs.drop width, pos + width)
    | none => failAt "invalid value" (some codePointExpected) pos pos

/-- Reads an escape from the character after its backslash, at byte offset `pos`: the character
it stands for, the rest and the offset after it. -/
def escape (cs : List Char) (pos : Nat) : Except TomlError (Char × List Char × Nat) :=
  match cs with
  | 'b' :: rest => .ok ('\x08', rest, pos + 1)
  | 'e' :: rest => .ok ('\x1b', rest, pos + 1)
  | 'f' :: rest => .ok ('\x0c', rest, pos + 1)
  | 'n' :: rest => .ok ('\n', rest, pos + 1)
  | 'r' :: rest => .ok ('\r', rest, pos + 1)
  | 't' :: rest => .ok ('\t', rest, pos + 1)
  | '\\' :: rest => .ok ('\\', rest, pos + 1)
  | '"' :: rest => .ok ('"', rest, pos + 1)
  | 'x' :: rest => hexEscape 2 rest (pos + 1)
  | 'u' :: rest => hexEscape 4 rest (pos + 1)
  | 'U' :: rest => hexEscape 8 rest (pos + 1)
  | _ => failAt "missing escaped value" (some escapeCharacters) pos pos

/-- Reads the body of a basic string from byte offset `pos`, onto `acc` (last first). -/
def basicBody : (fuel : Nat) → List Char → Nat → List Char → Except TomlError String
  | 0, _, _, acc => .ok (String.ofList acc.reverse)
  | _ + 1, [], _, acc => .ok (String.ofList acc.reverse)
  | fuel + 1, c :: rest, pos, acc =>
    if c == '\\' then
      match escape rest (pos + 1) with
      | .ok (d, rest', pos') => basicBody fuel rest' pos' (d :: acc)
      | .error e => .error e
    else if isBasicChar c then basicBody fuel rest (pos + c.utf8Size) (c :: acc)
    else
      let run := (c :: rest).takeWhile fun d => !isBasicChar d && d != '\\'
      failAt "invalid basic string"
        (some [.description "non-double-quote visible characters", .literal "\\"])
        pos (pos + byteLength run)

/-- Skips blanks and line ends, from byte offset `pos`. -/
def skipBlankLines : List Char → Nat → List Char × Nat
  | ' ' :: rest, pos => skipBlankLines rest (pos + 1)
  | '\t' :: rest, pos => skipBlankLines rest (pos + 1)
  | '\n' :: rest, pos => skipBlankLines rest (pos + 1)
  | '\r' :: '\n' :: rest, pos => skipBlankLines rest (pos + 2)
  | cs, pos => (cs, pos)

/-- The error of a carriage return that does not begin a line end; `pos` is right after it. -/
def strayCarriageReturn {α : Type} (pos : Nat) : Except TomlError α :=
  failAt "carriage return must be followed by newline" (some [.literal "\n"]) pos pos

/-- Reads the body of a multi-line basic string from byte offset `pos`, onto `acc` (last
first). -/
def mlBasicBody : (fuel : Nat) → List Char → Nat → List Char → Except TomlError String
  | 0, _, _, acc => .ok (String.ofList acc.reverse)
  | _ + 1, [], _, acc => .ok (String.ofList acc.reverse)
  | fuel + 1, c :: rest, pos, acc =>
    if c == '\\' then
      match rest with
      | d :: _ =>
        if d == ' ' || d == '\t' || d == '\r' || d == '\n' then
          let blanks := rest.takeWhile fun e => e == ' ' || e == '\t'
          let after := rest.drop blanks.length
          let here := pos + 1 + blanks.length
          match after with
          | '\n' :: more =>
            let (more', pos') := skipBlankLines more (here + 1)
            mlBasicBody fuel more' pos' acc
          | '\r' :: '\n' :: more =>
            let (more', pos') := skipBlankLines more (here + 2)
            mlBasicBody fuel more' pos' acc
          | _ => failAt "invalid multi-line basic string" (some [.literal "\n"]) here here
        else
          match escape rest (pos + 1) with
          | .ok (e, rest', pos') => mlBasicBody fuel rest' pos' (e :: acc)
          | .error err => .error err
      | [] => failAt "missing escaped value" (some escapeCharacters) (pos + 1) (pos + 1)
    else if c == '\r' then
      match rest with
      | '\n' :: more => mlBasicBody fuel more (pos + 2) ('\n' :: acc)
      | _ => strayCarriageReturn (pos + 1)
    else if isMlBasicChar c then mlBasicBody fuel rest (pos + c.utf8Size) (c :: acc)
    else
      let run := (c :: rest).takeWhile fun d => !isMlBasicChar d && d != '\\' && d != '\r'
      failAt "invalid multi-line basic string" (some [.literal "\\", .description "characters"])
        pos (pos + byteLength run)

/-- Reads the body of a literal string from byte offset `pos`, onto `acc` (last first); a
multi-line one may also hold quotes and line ends. -/
def literalBody (multiline : Bool) : List Char → Nat → List Char → Except TomlError String
  | [], _, acc => .ok (String.ofList acc.reverse)
  | c :: rest, pos, acc =>
    if multiline && c == '\r' then
      match rest with
      | '\n' :: more => literalBody multiline more (pos + 2) ('\n' :: acc)
      | _ => strayCarriageReturn (pos + 1)
    else if isLiteralChar c || (multiline && (c == '\'' || c == '\n')) then
      literalBody multiline rest (pos + c.utf8Size) (c :: acc)
    else if multiline then
      failAt "invalid multi-line literal string" (some [.description "characters"]) pos pos
    else
      failAt "invalid literal string" (some [.description "non-single-quote visible characters"])
        pos pos

/-- Drops a line end right at the start of a multi-line string, from byte offset `pos`. -/
def dropFirstLineEnd : List Char → Nat → List Char × Nat
  | '\n' :: rest, pos => (rest, pos + 1)
  | '\r' :: '\n' :: rest, pos => (rest, pos + 2)
  | cs, pos => (cs, pos)

/-- Whether `suffix` ends the characters. -/
def endsWith (cs suffix : List Char) : Bool :=
  suffix.length ≤ cs.length && cs.drop (cs.length - suffix.length) == suffix

/-- The contents of a string token spanning the bytes from `start` to `stop`. A string missing
its opening quotes (possible only for an atom read as one) or its closing quotes is reported at
its start or its end. -/
def decodeString (kind : TokenKind) (text : List Char) (start stop : Nat) :
    Except TomlError String :=
  match kind with
  | .basicString =>
    let fail {α : Type} (pos : Nat) : Except TomlError α :=
      failAt "invalid basic string" (some [.literal "\""]) pos pos
    match text with
    | '"' :: body =>
      if endsWith body ['"'] then basicBody body.length body.dropLast (start + 1) []
      else fail stop
    | _ => fail start
  | .literalString =>
    let fail {α : Type} (pos : Nat) : Except TomlError α :=
      failAt "invalid literal string" (some [.literal "'"]) pos pos
    match text with
    | '\'' :: body =>
      if endsWith body ['\''] then literalBody false body.dropLast (start + 1) []
      else fail stop
    | _ => fail start
  | .mlBasicString =>
    let fail {α : Type} (pos : Nat) : Except TomlError α :=
      failAt "invalid multi-line basic string" (some [.literal "\""]) pos pos
    match text with
    | '"' :: '"' :: '"' :: body =>
      let (body, pos) := dropFirstLineEnd body (start + 3)
      if endsWith body ['"', '"', '"'] then
        mlBasicBody body.length (body.take (body.length - 3)) pos []
      else fail stop
    | _ => fail start
  | .mlLiteralString =>
    let fail {α : Type} (pos : Nat) : Except TomlError α :=
      failAt "invalid multi-line literal string" (some [.literal "'"]) pos pos
    match text with
    | '\'' :: '\'' :: '\'' :: body =>
      let (body, pos) := dropFirstLineEnd body (start + 3)
      if endsWith body ['\'', '\'', '\''] then
        literalBody true (body.take (body.length - 3)) pos []
      else fail stop
    | _ => fail start
  | _ => .ok (String.ofList text)

/-- Whether a character may stand in a bare key. -/
def isBareKeyChar (c : Char) : Bool :=
  c.isAlphanum || c == '-' || c == '_'

/-- Checks a bare key from byte offset `pos`: the first character that may not stand in one is
reported, the whole character. -/
def checkBareKey : List Char → Nat → Except TomlError Unit
  | [], _ => .ok ()
  | c :: rest, pos =>
    if isBareKeyChar c then checkBareKey rest (pos + c.utf8Size)
    else failAt "invalid unquoted key" (some keyCharacters) pos (pos + c.utf8Size)

/-- What a key part says, with its span. A multi-line string cannot be a key. -/
def decodeKey (t : Token) : Except TomlError (String × Span) :=
  let span : Span := ⟨t.start, t.stop⟩
  let multiline (what : String) : Except TomlError (String × Span) :=
    failAt ("keys cannot be multi-line " ++ what ++ " strings")
      (some [.description "basic string", .description "literal string"]) t.start t.stop
  match t.kind with
  | .atom =>
    if t.text.isEmpty then
      failAt "unquoted keys cannot be empty" (some keyCharacters) t.start t.stop
    else (checkBareKey t.text t.start).map fun _ => (String.ofList t.text, span)
  | .mlBasicString => multiline "basic"
  | .mlLiteralString => multiline "literal"
  | kind => (decodeString kind t.text t.start t.stop).map fun s => (s, span)

end Config.Toml

end RouteLease
