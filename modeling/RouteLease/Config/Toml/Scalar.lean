import RouteLease.Config.Toml.Strings
import RouteLease.Config.Toml.Datetime
import RouteLease.Config.Document

/-!
# TOML scalars written without quotes

What a scalar written without quotes is, decided by its first character:

* a sign starts a signed number (or `+inf`, `-nan`); a second sign is redundant, and an integer
  with a radix cannot be signed;
* `0` starts zero itself, an integer with a radix (`0x`, `0o`, `0b`, lowercase only), or a
  number or a date whose leading zero is then reported;
* a digit or `_` starts an integer (only digits, or an underscore after the leading digits), a
  date or time (a `-` or `:` after the leading digits), or a floating-point number (a `.`, `e`
  or `E` after them); anything else there is a string missing its quotes;
* `.` starts a floating-point number missing its integer part;
* `t`, `f`, `i` and `n` in either case start `true`, `false`, `inf` and `nan`, and must be exactly
  those;
* anything else is a string missing its quotes.

A decimal integer or the integer part of a floating-point number has no leading zero; a
floating-point number has digits before and after its point and in its exponent; underscores may
only stand between digits. The first rule broken is the error, at the place that breaks it.

The value read is an integer of any size or a binary64 number: an integer beyond the 128-bit
words, or a floating-point text other than `inf` that rounds to infinity, is kept as an overflow,
which is an error only when the value is used.
-/

namespace RouteLease

namespace Config.Toml

/-- What a scalar written without quotes was read as. -/
inductive ScalarKind where
  | boolean (b : Bool)
  /-- An integer in a radix: 2, 8, 10 or 16. -/
  | integer (radix : Nat)
  | float
  | datetime
  deriving DecidableEq

/-- The result of reading a scalar: its kind and its text, underscores dropped. -/
abbrev ScalarRead := Except TomlError (ScalarKind × List Char)

/-- The error of a scalar that is nothing else: a string missing its opening quote, when it ends
with one, or else missing its quotes. -/
def invalidScalar {α : Type} (raw : List Char) (start stop : Nat) : Except TomlError α :=
  let missingOpen (q : String) : Except TomlError α :=
    failAt "missing opening quote" (some [.literal q]) start start
  if endsWith raw "'''".toList then missingOpen "'''"
  else if endsWith raw "\"\"\"".toList then missingOpen "\"\"\""
  else if endsWith raw ['\''] then missingOpen "'"
  else if endsWith raw ['"'] then missingOpen "\""
  else failAt "string values must be quoted" (some [.description "literal string"]) start stop

/-- A scalar that must be exactly `word`: any other text is an error over the whole scalar,
except a text with a blank, which is a string missing its quotes. -/
def symbol (raw : List Char) (start stop : Nat) (word : String) (kind : ScalarKind)
    (description : String) : ScalarRead :=
  if raw == word.toList then .ok (kind, raw)
  else if raw.contains ' ' then invalidScalar raw start stop
  else failAt description (some [.literal word]) start stop

/-- The error of a leading zero at byte offset `pos`. -/
def leadingZero {α : Type} (pos : Nat) : Except TomlError α :=
  failAt "unexpected leading zero" (some []) pos (pos + 1)

/-- Checks a run of digits and underscores from byte offset `pos`: it must hold a digit (else
`description` is the error), and more than one digit only without a leading zero, unless
`zeroPrefixed`. Returns the rest and its offset. -/
def ensureDigits (description : String) (zeroPrefixed : Bool) (cs : List Char) (pos : Nat) :
    Except TomlError (List Char × Nat) :=
  let run := cs.takeWhile fun c => c.isDigit || c == '_'
  let digits := run.countP Char.isDigit
  if digits == 0 then failAt description (some [.description "digits"]) pos pos
  else if digits ≥ 2 && cs.head? == some '0' && !zeroPrefixed then leadingZero pos
  else .ok (cs.drop run.length, pos + run.length)

/-- Checks the shape of a floating-point number from byte offset `pos` up to `stop`: a mantissa,
then an optional fraction, then an optional exponent with an optional sign, then nothing. -/
def ensureFloat (cs : List Char) (pos stop : Nat) : Except TomlError Unit := do
  let (cs, pos) ← ensureDigits "invalid mantissa" false cs pos
  let (cs, pos) ← match cs with
    | '.' :: rest => ensureDigits "invalid fraction" true rest (pos + 1)
    | _ => pure (cs, pos)
  let (cs, pos) ← match cs with
    | e :: rest =>
      if e == 'e' || e == 'E' then
        match rest with
        | s :: more =>
          if s == '+' || s == '-' then ensureDigits "invalid exponent" true more (pos + 2)
          else ensureDigits "invalid exponent" true rest (pos + 1)
        | [] => ensureDigits "invalid exponent" true rest (pos + 1)
      else pure (cs, pos)
    | [] => pure (cs, pos)
  if cs.isEmpty then pure () else failAt "invalid float" (some []) pos stop

/-- The error of digits that do not belong to a radix. -/
def radixDescription : Nat → String
  | 16 => "invalid hexadecimal number"
  | 8 => "invalid octal number"
  | 2 => "invalid binary number"
  | _ => "invalid integer number"

/-- Whether a character is a digit of a radix. -/
def isRadixDigit (radix : Nat) (c : Char) : Bool :=
  match hexDigit? c with
  | some v => v < radix
  | none => false

/-- Checks the digits of an integer with a radix, from byte offset `pos`: no sign, and only digits
of the radix and underscores. -/
def ensureRadixed (radix : Nat) (cs : List Char) (pos : Nat) : Except TomlError Unit :=
  let check (cs : List Char) (pos : Nat) : Except TomlError Unit :=
    let good := cs.takeWhile fun c => isRadixDigit radix c || c == '_'
    if good.length == cs.length then .ok ()
    else
      let p := pos + byteLength good
      failAt (radixDescription radix) none p p
  match cs with
  | c :: _ =>
    if c == '+' || c == '-' then failAt "unexpected sign" (some []) pos (pos + 1)
    else check cs pos
  | [] => .ok ()

/-- Cuts characters at every underscore: each part with its byte offset; `acc` holds the part
being read, last first, which starts at `partStart`. -/
def splitUnderscores : List Char → (partStart pos : Nat) → List Char → List (List Char × Nat)
  | [], partStart, _, acc => [(acc.reverse, partStart)]
  | c :: rest, partStart, pos, acc =>
    if c == '_' then (acc.reverse, partStart) :: splitUnderscores rest (pos + 1) (pos + 1) []
    else splitUnderscores rest partStart (pos + c.utf8Size) (c :: acc)

/-- Whether a character may stand next to an underscore in a number of this kind: a decimal
digit in a floating-point number, a hexadecimal one in an integer. -/
def isNumberDigit (kind : ScalarKind) (c : Char) : Bool :=
  if kind == .float then c.isDigit else isHexDigit c

/-- The error of an underscore that is not between digits. -/
def strayUnderscore {α : Type} (pos : Nat) : Except TomlError α :=
  failAt "`_` may only go between digits" (some []) pos (pos + 1)

/-- Checks the underscores of a number whose digits start at byte offset `pos`, in a scalar over
the bytes from `start` to `stop`, and drops them. -/
def numberDigits (kind : ScalarKind) (start stop : Nat) (cs : List Char) (pos : Nat) : ScalarRead :=
  if !cs.contains '_' then .ok (kind, cs)
  else if cs.head? == some '_' then strayUnderscore start
  else if byteLength cs > 1 && cs.getLast? == some '_' then strayUnderscore (stop - 1)
  else do
    let parts := splitUnderscores cs pos pos []
    parts.forM fun (part, p) => do
      let partStop := p + byteLength part
      if p > start && !isNumberDigit kind (part.head?.getD '0') then strayUnderscore (p - 1)
      if byteLength part > 1 && partStop < stop && !isNumberDigit kind (part.getLast?.getD '0') then
        strayUnderscore partStop
      if part.isEmpty && p != start && partStop != stop then strayUnderscore p
    pure (kind, parts.flatMap Prod.fst)

/-- Reads a scalar that starts with a digit or an underscore, its digits from byte offset `pos`:
an integer, a date or time, or a floating-point number. -/
def datetimeFloatOrInteger (raw : List Char) (start stop : Nat) (cs : List Char) (pos : Nat) :
    ScalarRead :=
  let rest := cs.dropWhile Char.isDigit
  match rest with
  | [] => do
    if cs.head? == some '0' then leadingZero pos
    numberDigits (.integer 10) start stop raw start
  | c :: _ =>
    if c == '-' || c == ':' then .ok (.datetime, raw)
    else if rest.contains ' ' then invalidScalar raw start stop
    else if rest.any (fun d => d == '.' || d == 'e' || d == 'E') then do
      ensureFloat cs pos stop
      numberDigits .float start stop raw start
    else if c == '_' then do
      if cs.head? == some '0' then leadingZero pos
      numberDigits (.integer 10) start stop raw start
    else invalidScalar raw start stop

/-- Reads a scalar whose digits, from byte offset `pos`, start with `0`: zero, an integer with a
radix, or a number or date. -/
def zeroPrefix (raw : List Char) (start stop : Nat) (cs : List Char) (pos : Nat) (signed : Bool) :
    ScalarRead :=
  match cs with
  | _ :: r :: more =>
    let lower := r.toLower
    let radix := if lower == 'x' then 16 else if lower == 'o' then 8 else if lower == 'b' then 2
      else 0
    if radix != 0 then do
      if signed then failAt "integers with a radix cannot be signed" (some []) start (start + 1)
      if r != lower then
        failAt "radix must be lowercase" (some [.literal (String.ofList ['0', lower])]) pos (pos + 2)
      ensureRadixed radix more (pos + 2)
      numberDigits (.integer radix) start stop more (pos + 2)
    else if lower == 'd' then do
      if signed then failAt "integers with a radix cannot be signed" (some []) start (start + 1)
      failAt "redundant integer number prefix" (some []) pos (pos + 2)
    else datetimeFloatOrInteger raw start stop cs pos
  | _ => numberDigits (.integer 10) start stop raw start

/-- Reads a signed scalar from its text after the sign, at byte offset `pos`. -/
def signPrefix (raw : List Char) (start stop : Nat) (cs : List Char) (pos : Nat) : ScalarRead :=
  match cs with
  | [] => invalidScalar raw start stop
  | c :: _ =>
    if c == '+' || c == '-' then failAt "redundant numeric sign" (some []) pos (pos + 1)
    else if c == '_' || ('1' ≤ c && c ≤ '9') then datetimeFloatOrInteger raw start stop cs pos
    else if c == '0' then zeroPrefix raw start stop cs pos true
    else if c == '.' then do
      ensureFloat cs pos stop
      numberDigits .float start stop raw start
    else if c == 'i' || c == 'I' then
      if cs == "inf".toList then .ok (.float, raw)
      else failAt "invalid float" (some [.literal "inf"]) pos stop
    else if c == 'n' || c == 'N' then
      if cs == "nan".toList then .ok (.float, raw)
      else failAt "invalid float" (some [.literal "nan"]) pos stop
    else invalidScalar raw start stop

/-- Reads a scalar written without quotes, spanning the bytes from `start` to `stop`. -/
def readScalar (raw : List Char) (start stop : Nat) : ScalarRead :=
  match raw with
  | [] => invalidScalar raw start stop
  | c :: rest =>
    if c == '+' || c == '-' then signPrefix raw start stop rest (start + 1)
    else if c == '0' then zeroPrefix raw start stop raw start false
    else if c == '_' || ('1' ≤ c && c ≤ '9') then datetimeFloatOrInteger raw start stop raw start
    else if c == '.' then do
      ensureFloat raw start stop
      numberDigits .float start stop raw start
    else if c == 't' || c == 'T' then symbol raw start stop "true" (.boolean true) "invalid boolean"
    else if c == 'f' || c == 'F' then
      symbol raw start stop "false" (.boolean false) "invalid boolean"
    else if c == 'i' || c == 'I' then symbol raw start stop "inf" .float "invalid float"
    else if c == 'n' || c == 'N' then symbol raw start stop "nan" .float "invalid float"
    else invalidScalar raw start stop

/-- The number written by digits in a radix, if they all are digits of it and there is one. -/
def radixValue (radix : Nat) (cs : List Char) : Option Nat :=
  if cs.isEmpty then none
  else cs.foldlM (fun acc c => (hexDigit? c).bind fun v => if v < radix then some (acc * radix + v) else none) 0

/-- The value of an integer's text: digits in the radix, in base ten with an optional sign. A
text that is not an integer of the 128-bit words is an overflow. -/
def integerValue (span : Option Span) (radix : Nat) (cs : List Char) : Value :=
  let (negative, digits) := match radix, cs with
    | 10, '+' :: rest => (false, rest)
    | 10, '-' :: rest => (true, rest)
    | _, _ => (false, cs)
  match radixValue radix digits with
  | some n =>
    let v : Int := if negative then -(n : Int) else n
    if i128Min ≤ v ∧ v ≤ u128Max then .int span v else .overflow span false
  | none => .overflow span false

/-- The largest exponent kept when reading a floating-point text: far beyond the range of
binary64 values whatever the digits. -/
def exponentCap : Nat := 100000

/-- The value of a floating-point text: an optional sign, then `inf`, `nan`, or digits with an
optional fraction and exponent. A text that rounds to infinity without saying `inf` is an
overflow. -/
def floatValue (span : Option Span) (cs : List Char) : Value :=
  let (negative, body) := match cs with
    | '+' :: rest => (false, rest)
    | '-' :: rest => (true, rest)
    | _ => (false, cs)
  if body == "inf".toList then .float span (.infinite negative)
  else if body == "nan".toList then .float span .nan
  else
    let whole := body.takeWhile Char.isDigit
    let afterWhole := body.drop whole.length
    let fraction := match afterWhole with
      | '.' :: more => more.takeWhile Char.isDigit
      | _ => []
    let afterFraction := match afterWhole with
      | '.' :: more => more.drop fraction.length
      | _ => afterWhole
    let exponent : Int := match afterFraction with
      | _ :: more =>
        let (eNegative, eDigits) := match more with
          | '+' :: r => (false, r)
          | '-' :: r => (true, r)
          | _ => (false, more)
        let e := min (decimalValue eDigits) exponentCap
        if eNegative then -(e : Int) else e
      | [] => 0
    let x := Decimal.Binary64.ofDecimal negative (decimalValue (whole ++ fraction))
      (exponent - fraction.length)
    match x with
    | .infinite _ => .overflow span true
    | _ => .float span x

/-- The value of a scalar written without quotes, spanning the bytes from `start` to `stop`. A
date or time that is out of range is an error over the whole scalar. -/
def scalarValue (raw : List Char) (start stop : Nat) : Except TomlError Value := do
  let span : Option Span := some ⟨start, stop⟩
  let (kind, text) ← readScalar raw start stop
  match kind with
  | .boolean b => pure (.bool span b)
  | .datetime =>
    match checkDatetime text with
    | .ok () => pure (.datetime span (String.ofList text))
    | .error message => failAt message none start stop
  | .integer radix => pure (integerValue span radix text)
  | .float => pure (floatValue span text)

end Config.Toml

end RouteLease
