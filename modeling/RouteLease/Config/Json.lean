import RouteLease.Config.Document

/-!
# JSON documents

Reads JSON text into a configuration document. A number keeps the class its text gives it: one
written without a fraction or an exponent is an integer when it fits a 64-bit word (unsigned, or
signed when negative) and a binary64 value otherwise; one written with a fraction or an exponent
is always a binary64 value, so `1e+16` is not an integer and `-0.0` keeps its sign. An object keeps
one entry per key, the last one written, in ascending order of keys. Strings may use every JSON
escape, a surrogate pair in `\u` escapes standing for one character.

The reader is total: every step consumes at least one character, and the text's length bounds the
steps (`fuel`).
-/

namespace RouteLease

namespace Config

namespace Json

/-- Skips JSON whitespace. -/
def skipSpace (cs : List Char) : List Char :=
  cs.dropWhile fun c => c = ' ' || c = '\t' || c = '\n' || c = '\r'

/-- The value of a hexadecimal digit. -/
def hexDigit (c : Char) : Option Nat :=
  if '0' ≤ c && c ≤ '9' then some (c.toNat - '0'.toNat)
  else if 'a' ≤ c && c ≤ 'f' then some (c.toNat - 'a'.toNat + 10)
  else if 'A' ≤ c && c ≤ 'F' then some (c.toNat - 'A'.toNat + 10)
  else none

/-- Four hexadecimal digits and what follows them. -/
def hex4 : List Char → Option (Nat × List Char)
  | a :: b :: c :: d :: rest => do
    let n ← [a, b, c, d].foldlM (fun acc x => (hexDigit x).map (acc * 16 + ·)) 0
    pure (n, rest)
  | _ => none

/-- The character of a simple escape (the letter after the backslash). -/
def simpleEscape : Char → Option Char
  | '"' => some '"'
  | '\\' => some '\\'
  | '/' => some '/'
  | 'b' => some '\x08'
  | 'f' => some '\x0c'
  | 'n' => some '\n'
  | 'r' => some '\r'
  | 't' => some '\t'
  | _ => none

/-- Reads the rest of a string after its opening quote; `acc` holds the characters read, last
first. -/
def readString : (fuel : Nat) → List Char → List Char → Except String (String × List Char)
  | 0, _, _ => .error "string too long"
  | _, [], _ => .error "unterminated string"
  | fuel + 1, c :: rest, acc =>
    if c = '"' then .ok (String.ofList acc.reverse, rest)
    else if c = '\\' then
      match rest with
      | 'u' :: more =>
        match hex4 more with
        | none => .error "invalid unicode escape"
        | some (hi, after) =>
          if 0xDC00 ≤ hi && hi < 0xE000 then .error "lone trailing surrogate"
          else if 0xD800 ≤ hi && hi < 0xDC00 then
            match after with
            | '\\' :: 'u' :: more' =>
              match hex4 more' with
              | some (lo, after') =>
                if 0xDC00 ≤ lo && lo < 0xE000 then
                  readString fuel after' (Char.ofNat (0x10000 + (hi - 0xD800) * 0x400 + (lo - 0xDC00)) :: acc)
                else .error "lone leading surrogate"
              | none => .error "invalid unicode escape"
            | _ => .error "lone leading surrogate"
          else readString fuel after (Char.ofNat hi :: acc)
      | e :: more =>
        match simpleEscape e with
        | some x => readString fuel more (x :: acc)
        | none => .error "invalid escape"
      | [] => .error "unterminated string"
    else if c.toNat < 0x20 then .error "control character in string"
    else readString fuel rest (c :: acc)

/-- The decimal value of a list of digits. -/
def digitValue (ds : List Char) : Nat :=
  ds.foldl (fun acc d => acc * 10 + (d.toNat - '0'.toNat)) 0

/-- The largest exponent a number's text may give before it is read as a bound: far beyond the
range of binary64 values whatever the digits. -/
def exponentBound : Nat := 100000

/-- Reads a number. -/
def readNumber (cs : List Char) : Except String (Value × List Char) := do
  let (negative, cs) := match cs with
    | '-' :: rest => (true, rest)
    | _ => (false, cs)
  let whole := cs.takeWhile Char.isDigit
  let cs := cs.drop whole.length
  if whole.isEmpty then throw "invalid number"
  if whole.length > 1 && whole.head? = some '0' then throw "invalid number"
  let (fraction, cs) ← match cs with
    | '.' :: rest =>
      let ds := rest.takeWhile Char.isDigit
      if ds.isEmpty then throw "invalid number" else pure (some ds, rest.drop ds.length)
    | _ => pure (none, cs)
  let (exponent, cs) ← match cs with
    | e :: rest =>
      if e = 'e' || e = 'E' then
        let (sign, rest) := match rest with
          | '+' :: r => (1, r)
          | '-' :: r => (-1, r)
          | _ => (1, rest)
        let ds := rest.takeWhile Char.isDigit
        if ds.isEmpty then throw "invalid number"
        pure (some (sign * (min (digitValue ds) exponentBound : Int)), rest.drop ds.length)
      else pure (none, cs)
    | [] => pure (none, cs)
  match fraction, exponent with
  | none, none =>
    let n := digitValue whole
    if negative then
      if n ≤ Nat.pow 2 63 then pure (.int none (-(n : Int)), cs)
      else pure (.float none (Decimal.Binary64.ofDecimal true n 0), cs)
    else if n < Nat.pow 2 64 then pure (.int none n, cs)
    else pure (.float none (Decimal.Binary64.ofDecimal false n 0), cs)
  | _, _ =>
    let ds := fraction.getD []
    let mantissa := digitValue (whole ++ ds)
    let e := exponent.getD 0 - ds.length
    pure (.float none (Decimal.Binary64.ofDecimal negative mantissa e), cs)

/-- One entry per key, the last one written, in ascending order of keys. -/
def normalizeEntries (entries : List (String × Value)) : List (String × Value) :=
  let last := entries.foldl (fun acc (k, v) => (acc.filter fun e => e.1 ≠ k) ++ [(k, v)]) []
  last.mergeSort fun a b => a.1 ≤ b.1

mutual

/-- Reads a value after optional whitespace. -/
def readValue : (fuel : Nat) → List Char → Except String (Value × List Char)
  | 0, _ => .error "nesting too deep"
  | fuel + 1, cs =>
    match skipSpace cs with
    | 'n' :: 'u' :: 'l' :: 'l' :: rest => .ok (.null none, rest)
    | 't' :: 'r' :: 'u' :: 'e' :: rest => .ok (.bool none true, rest)
    | 'f' :: 'a' :: 'l' :: 's' :: 'e' :: rest => .ok (.bool none false, rest)
    | '"' :: rest => (readString (rest.length + 1) rest []).map fun (s, r) => (.string none s, r)
    | '[' :: rest =>
      match skipSpace rest with
      | ']' :: r => .ok (.array none [], r)
      | _ => (readItems fuel rest []).map fun (xs, r) => (.array none xs, r)
    | '{' :: rest =>
      match skipSpace rest with
      | '}' :: r => .ok (.table none [], r)
      | _ => (readEntries fuel rest []).map fun (es, r) => (.table none (normalizeEntries es), r)
    | c :: rest =>
      if c = '-' || c.isDigit then readNumber (c :: rest) else .error "expected value"
    | [] => .error "expected value"

/-- Reads the items of an array after its opening bracket; `acc` holds the items read, last
first. -/
def readItems : (fuel : Nat) → List Char → List Value → Except String (List Value × List Char)
  | 0, _, _ => .error "nesting too deep"
  | fuel + 1, cs, acc => do
    let (v, rest) ← readValue fuel cs
    match skipSpace rest with
    | ',' :: r => readItems fuel r (v :: acc)
    | ']' :: r => pure ((v :: acc).reverse, r)
    | _ => throw "expected `,` or `]`"

/-- Reads the entries of an object after its opening brace; `acc` holds the entries read, last
first. -/
def readEntries : (fuel : Nat) → List Char → List (String × Value) →
    Except String (List (String × Value) × List Char)
  | 0, _, _ => .error "nesting too deep"
  | fuel + 1, cs, acc => do
    let (key, rest) ← match skipSpace cs with
      | '"' :: r => readString (r.length + 1) r []
      | _ => throw "expected key"
    let rest ← match skipSpace rest with
      | ':' :: r => pure r
      | _ => throw "expected `:`"
    let (v, rest) ← readValue fuel rest
    match skipSpace rest with
    | ',' :: r => readEntries fuel r ((key, v) :: acc)
    | '}' :: r => pure (((key, v) :: acc).reverse, r)
    | _ => throw "expected `,` or `\x7d`"

end

/-- Reads a JSON text holding one value, with nothing but whitespace after it. -/
def read (s : String) : Except String Value := do
  let cs := s.toList
  let (v, rest) ← readValue (2 * cs.length + 2) cs
  if (skipSpace rest).isEmpty then pure v else throw "trailing characters"

end Json

end Config

end RouteLease
