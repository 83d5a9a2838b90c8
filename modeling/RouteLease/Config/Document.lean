import RouteLease.Decimal.Shortest
import RouteLease.Text.Quoted

/-!
# Configuration documents

A configuration arrives as a document: a tree of tables, arrays and scalars, read from TOML or
from JSON. Each value remembers where it was written (a byte span of the source text), so that a
value of the wrong shape can be pointed at.

When a value has the wrong shape, the error names what was found and what was expected:
`invalid type: integer 5, expected a string` for a value of the wrong kind, `invalid value: ...`
for one of the right kind but out of range. How a found value is named depends on the source
format only in two places, the text of a floating-point number and of JSON's null; those, and
whether a sequence read as a record may be longer than the record, make up a `Dialect`.
-/

namespace RouteLease

namespace Config

/-- Where a value stands in its source: byte offsets, the end excluded. -/
structure Span where
  start : Nat
  stop : Nat
  deriving DecidableEq, Inhabited

/-- A value of a configuration document, with its span when it was read from text. -/
inductive Value where
  | null (span : Option Span)
  | bool (span : Option Span) (b : Bool)
  | int (span : Option Span) (n : Int)
  | float (span : Option Span) (x : Decimal.Binary64)
  | string (span : Option Span) (s : String)
  | datetime (span : Option Span) (text : String)
  | array (span : Option Span) (items : List Value)
  | table (span : Option Span) (entries : List (String × Value))
  /-- A number of the source that no machine number holds: an integer beyond the 128-bit words
  (`float` false), or a floating-point text other than `inf` that rounds to infinity. Reading it
  as anything fails. -/
  | overflow (span : Option Span) (float : Bool)

namespace Value

/-- The default value is a null without a position. -/
instance : Inhabited Value := ⟨.null none⟩

/-- The span of a value. -/
def span : Value → Option Span
  | null s => s
  | bool s _ => s
  | int s _ => s
  | float s _ => s
  | string s _ => s
  | datetime s _ => s
  | array s _ => s
  | table s _ => s
  | overflow s _ => s

/-- The error of reading an overflowed number. -/
def overflowMessage (isFloat : Bool) : String :=
  if isFloat then "floating-point number overflowed" else "integer number overflowed"

mutual

/-- The first overflowed number in a value, in reading order, with its span. -/
def firstOverflow : Value → Option (Option Span × Bool)
  | overflow s f => some (s, f)
  | array _ items => firstOverflowIn items
  | table _ entries => firstOverflowAmong entries
  | _ => none

/-- The first overflowed number in a list of values. -/
def firstOverflowIn : List Value → Option (Option Span × Bool)
  | [] => none
  | v :: rest => (firstOverflow v).orElse fun _ => firstOverflowIn rest

/-- The first overflowed number among the entries of a table. -/
def firstOverflowAmong : List (String × Value) → Option (Option Span × Bool)
  | [] => none
  | (_, v) :: rest => (firstOverflow v).orElse fun _ => firstOverflowAmong rest

end

end Value

/-- How a source format names the values it found (the text of a floating-point number, and the
name of null), and whether a record read from a sequence refuses elements beyond its fields. -/
structure Dialect where
  floatText : Decimal.Binary64 → String
  nullName : String
  refusesExtraElements : Bool

/-- The largest 64-bit word. -/
def u64Max : Int := Int.pow 2 64 - 1
/-- The smallest signed 64-bit word. -/
def i64Min : Int := -Int.pow 2 63
/-- The smallest signed 128-bit word. -/
def i128Min : Int := -Int.pow 2 127
/-- The largest signed 128-bit word. -/
def i128Max : Int := Int.pow 2 127 - 1
/-- The largest 128-bit word. -/
def u128Max : Int := Int.pow 2 128 - 1

/-- How an integer is named: plainly within the 64-bit words, with the wider word it was read as
beyond them. -/
def integerName (n : Int) : String :=
  if i64Min ≤ n ∧ n ≤ u64Max then "integer `" ++ toString n ++ "`"
  else if i128Min ≤ n ∧ n ≤ i128Max then "integer `" ++ toString n ++ "` as i128"
  else "integer `" ++ toString n ++ "` as u128"

/-- How a found value is named in an error. -/
def Value.describe (d : Dialect) : Value → String
  | .null _ => d.nullName
  | .bool _ b => "boolean `" ++ toString b ++ "`"
  | .int _ n => integerName n
  | .float _ x => "floating point `" ++ d.floatText x ++ "`"
  | .string _ s => "string " ++ quoted s
  | .datetime _ _ => "map"
  | .array _ _ => "sequence"
  | .table _ _ => "map"
  | .overflow _ isFloat => if isFloat then "floating point" else "integer"

/-- Why a value does not fit where it stands. -/
inductive Mismatch where
  /-- A value of the wrong kind: what was found and what was expected. -/
  | invalidType (found expected : String)
  /-- A value of the right kind that is not acceptable. -/
  | invalidValue (found expected : String)
  /-- A sequence of the wrong length. -/
  | invalidLength (length : Nat) (expected : String)
  /-- A value that its type rejects, for the reason given. -/
  | rejected (reason : String)
  deriving DecidableEq

/-- The text of a mismatch. -/
def Mismatch.message : Mismatch → String
  | .invalidType found expected => "invalid type: " ++ found ++ ", expected " ++ expected
  | .invalidValue found expected => "invalid value: " ++ found ++ ", expected " ++ expected
  | .invalidLength n expected => "invalid length " ++ toString n ++ ", expected " ++ expected
  | .rejected reason => reason

/-- A mismatch at the value where it arose. -/
structure FieldError where
  cause : Mismatch
  span : Option Span

/-- The result of reading a value into a type. -/
abbrev Decoded (α : Type) := Except FieldError α

/-- Fails at a value. -/
def fail {α : Type} (v : Value) (cause : Mismatch) : Decoded α :=
  .error ⟨cause, v.span⟩

/-- Fails because the value is of the wrong kind for `expected`; an overflowed number fails as
such, whatever was expected. -/
def wrongType {α : Type} (d : Dialect) (v : Value) (expected : String) : Decoded α :=
  match v with
  | .overflow _ isFloat => fail v (.rejected (Value.overflowMessage isFloat))
  | _ => fail v (.invalidType (v.describe d) expected)

/-- Checks a value that is read only to be ignored: an overflowed number in it is still an
error. -/
def checkIgnored (v : Value) : Decoded Unit :=
  match v.firstOverflow with
  | some (span, isFloat) => .error ⟨.rejected (Value.overflowMessage isFloat), span⟩
  | none => .ok ()

/-- Reads an unsigned integer of `bits` bits, named `name`. -/
def decodeUnsigned (d : Dialect) (bits : Nat) (name : String) (v : Value) : Decoded Nat :=
  match v with
  | .int _ n =>
    if 0 ≤ n ∧ n < Int.pow 2 bits then .ok n.toNat else fail v (.invalidValue (integerName n) name)
  | _ => wrongType d v name

/-- Reads a string. -/
def decodeString (d : Dialect) (v : Value) : Decoded String :=
  match v with
  | .string _ s => .ok s
  | _ => wrongType d v "a string"

end Config

end RouteLease
