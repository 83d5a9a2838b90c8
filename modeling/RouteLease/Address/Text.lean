import RouteLease.Address.Basic

/-!
# Address text

Printing and reading addresses in the standard notations.

* IPv4 is the dotted quad of decimal octets.
* IPv6 is eight groups of lowercase hexadecimal without leading zeros. The longest run of two or
  more zero groups becomes `::`, the first run winning a tie. An IPv4-mapped address
  (`::ffff:0:0/96`) ends in a dotted quad instead; an IPv4-compatible one stays hexadecimal.
* The invalid address prints as `invalid`.

Reading accepts exactly the strict grammar: four decimal octets of at most three digits without a
leading zero, or up to eight hexadecimal groups of at most four digits with at most one `::` and
an optional dotted quad in the last two groups. No zone, bracket, `:number` suffix, blank or
non-ASCII digit is accepted, and the whole text must be used.
-/

namespace RouteLease

/-- Why a text is not an address. -/
inductive ParseError where
  | invalidIpAddress (text : String)
  deriving DecidableEq

/-- The text of a parse error. -/
def ParseError.message : ParseError → String
  | .invalidIpAddress s => "invalid IP address format: " ++ s

namespace IpAddress

/-! ## Printing -/

/-- The dotted-quad text of four octets. -/
def dotted (o : List UInt8) : String :=
  ".".intercalate (o.map fun b => toString b.toNat)

/-- Lowercase hexadecimal without leading zeros. -/
def hex (n : Nat) : String :=
  String.ofList (Nat.toDigits 16 n)

/-- Scans groups for runs of zeros, carrying the current run and the longest run so far as
(start, length); a later run replaces the best only when strictly longer. -/
def zeroRunFrom : List Nat → (i start len bestStart bestLen : Nat) → Nat × Nat
  | [], _, _, _, bs, bl => (bs, bl)
  | g :: gs, i, s, l, bs, bl =>
    if g = 0 then
      let s' := if l = 0 then i else s
      if l + 1 > bl then zeroRunFrom gs (i + 1) s' (l + 1) s' (l + 1)
      else zeroRunFrom gs (i + 1) s' (l + 1) bs bl
    else zeroRunFrom gs (i + 1) 0 0 bs bl

/-- The first longest run of zero groups, as (start, length). -/
def longestZeroRun (gs : List Nat) : Nat × Nat :=
  zeroRunFrom gs 0 0 0 0 0

/-- Groups joined by colons, in hexadecimal. -/
def joinGroups (gs : List Nat) : String :=
  ":".intercalate (gs.map hex)

/-- The text of an IPv6 address given by its sixteen octets. -/
def showV6 (o : List UInt8) : String :=
  let gs := groups o
  if gs.take 6 = [0, 0, 0, 0, 0, 0xffff] then "::ffff:" ++ dotted (o.drop 12)
  else
    let (s, l) := longestZeroRun gs
    if l > 1 then joinGroups (gs.take s) ++ "::" ++ joinGroups (gs.drop (s + l))
    else joinGroups gs

/-- The text of an address. -/
def display : IpAddress → String
  | invalid => "invalid"
  | v4 o => dotted o.toList
  | v6 o => showV6 o.toList

/-- An address prints as its display text. -/
instance : ToString IpAddress := ⟨display⟩

/-! ## Reading -/

/-- The value of an ASCII digit or letter in `radix` (up to 36), if it is a digit there. -/
def digitValue (radix : Nat) (c : Char) : Option Nat :=
  let v :=
    if '0' ≤ c ∧ c ≤ '9' then some (c.toNat - '0'.toNat)
    else if 'a' ≤ c ∧ c ≤ 'z' then some (c.toNat - 'a'.toNat + 10)
    else if 'A' ≤ c ∧ c ≤ 'Z' then some (c.toNat - 'A'.toNat + 10)
    else none
  v.filter fun d => d < radix

/-- Splits off the longest prefix of digits of `radix`, as their values. -/
def digitRun (radix : Nat) : List Char → List Nat × List Char
  | [] => ([], [])
  | c :: cs =>
    match digitValue radix c with
    | some d => let (ds, rest) := digitRun radix cs; (d :: ds, rest)
    | none => ([], c :: cs)

/-- The number written by digit values in `radix`, most significant first. -/
def valueOf (radix : Nat) (ds : List Nat) : Nat :=
  ds.foldl (fun acc d => acc * radix + d) 0

/-- Reads a number of one to `maxDigits` digits and at most `max`. Without `zeroPrefix` a leading
zero is allowed only in the number zero itself. -/
def readNumber (radix maxDigits max : Nat) (zeroPrefix : Bool) (cs : List Char) :
    Option (Nat × List Char) :=
  let (ds, rest) := digitRun radix cs
  let v := valueOf radix ds
  if ds.isEmpty || decide (ds.length > maxDigits) || decide (v > max)
      || (!zeroPrefix && ds.head? == some 0 && decide (ds.length > 1)) then none
  else some (v, rest)

/-- Consumes the character `c`. -/
def expect (c : Char) : List Char → Option (List Char)
  | d :: rest => if d = c then some rest else none
  | [] => none

/-- Reads one decimal octet of a dotted quad. -/
def readOctet (cs : List Char) : Option (UInt8 × List Char) :=
  (readNumber 10 3 255 false cs).map fun (v, rest) => (v.toUInt8, rest)

/-- Reads a dotted quad at the start of the text. -/
def readIpv4 (cs : List Char) : Option (List UInt8 × List Char) := do
  let (a, r) ← readOctet cs
  let (b, r) ← readOctet (← expect '.' r)
  let (c, r) ← readOctet (← expect '.' r)
  let (d, r) ← readOctet (← expect '.' r)
  pure ([a, b, c, d], r)

/-- Consumes the colon before every group but the first. -/
def separator (first : Bool) (cs : List Char) : Option (List Char) :=
  if first then some cs else expect ':' cs

/-- Reads colon-separated groups into at most `n` slots. A dotted quad may fill the last two
slots of those that remain; reading stops at the first place where no group follows. Returns the
groups, whether a dotted quad ended them, and the rest of the text. -/
def readGroups : (n : Nat) → (first : Bool) → List Char → List Nat × Bool × List Char
  | 0, _, cs => ([], false, cs)
  | n + 1, first, cs =>
    let quad := if n ≥ 1 then (separator first cs).bind readIpv4 else none
    match quad with
    | some (q, rest) => (groups q, true, rest)
    | none =>
      match (separator first cs).bind (readNumber 16 4 0xffff true) with
      | some (g, rest) =>
        let (gs, quadEnd, rest') := readGroups n false rest
        (g :: gs, quadEnd, rest')
      | none => ([], false, cs)

/-- The sixteen octets of eight groups. -/
def groupOctets (gs : List Nat) : List UInt8 :=
  gs.flatMap fun g => [(g / 256).toUInt8, (g % 256).toUInt8]

/-- Reads an IPv6 address at the start of the text, as its eight groups. -/
def readIpv6 (cs : List Char) : Option (List Nat × List Char) :=
  let (head, headQuad, rest) := readGroups 8 true cs
  if head.length = 8 then some (head, rest)
  else if headQuad then none
  else
    match rest with
    | ':' :: ':' :: rest =>
      let (tail, _, rest) := readGroups (8 - (head.length + 1)) true rest
      some (head ++ List.replicate (8 - head.length - tail.length) 0 ++ tail, rest)
    | _ => none

/-- Reads a whole text as an address: a dotted quad, else an IPv6 address. -/
def readText (cs : List Char) : Option IpAddress :=
  match readIpv4 cs with
  | some (q, []) => some (ofOctets q)
  | some _ => none
  | none =>
    match readIpv6 cs with
    | some (gs, []) => some (ofOctets (groupOctets gs))
    | _ => none

/-- The octets of a whole text that is a dotted quad. -/
def readV4Text (cs : List Char) : Option (Vector UInt8 4) :=
  match readIpv4 cs with
  | some ([a, b, c, d], []) => some #v[a, b, c, d]
  | _ => none

/-- The octets of a whole text that is an IPv6 address. -/
def readV6Text (cs : List Char) : Option (Vector UInt8 16) :=
  match readIpv6 cs with
  | some (gs, []) =>
    match ofOctets (groupOctets gs) with
    | .v6 o => some o
    | _ => none
  | _ => none

/-- Parses the text of a valid address. -/
def parse (s : String) : Except ParseError IpAddress :=
  match readText s.toList with
  | some a => .ok a
  | none => .error (.invalidIpAddress s)

end IpAddress

end RouteLease
