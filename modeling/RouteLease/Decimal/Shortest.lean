/-!
# Shortest decimals of binary64 values

A finite binary64 value stands for every real that rounds to it: the interval from halfway to its
lower neighbour to halfway to its upper neighbour, both ends included exactly when the significand
is even. Its shortest decimal is a decimal in that interval with as few significant digits as
possible; of two such decimals the one closer to the value is taken, and an exact tie goes to the
larger one.

`shortestOf` finds it by trying one, two, ... significant digits: on each grid the value's
two neighbours are the only candidates, and every test is a comparison of natural numbers, so no
floating-point arithmetic is involved. Seventeen digits always suffice.

`Binary64.positional` writes a value with its shortest digits in positional notation, never with an
exponent, and with `.0` after a whole number: the text diagnostics use for a floating-point
number. `Binary64.windowed` writes the same digits positionally only while the decimal point
falls at most sixteen digits from the first digit and at most five places before it, and as
`d.ddde±x` otherwise, the exponent's sign always written: the compact text of data formats. In
both the infinities are `inf` and `-inf`, and not-a-number is `NaN`.
-/

namespace RouteLease

namespace Decimal

/-- A binary64 value by its parts. -/
inductive Binary64 where
  /-- Not a number. -/
  | nan
  /-- An infinity. -/
  | infinite (negative : Bool)
  /-- The value `m · 2^q`; `narrowBelow` says the gap to the value below is half the gap above,
  as it is at a power of two. -/
  | finite (negative : Bool) (m : Nat) (q : Int) (narrowBelow : Bool)

/-- The parts of a value given by its bits. -/
def Binary64.ofBits (b : UInt64) : Binary64 :=
  let negative := (b >>> 63) == 1
  let e := ((b >>> 52) &&& 0x7FF).toNat
  let f := (b &&& 0xFFFFFFFFFFFFF).toNat
  if e == 0x7FF then (if f == 0 then .infinite negative else .nan)
  else if e == 0 then .finite negative f (-1074) false
  else .finite negative (Nat.pow 2 52 + f) ((e : Int) - 1075) (f == 0 && e > 1)

/-- The binary64 value nearest to a decimal `mantissa · 10^exponent`, ties to even. -/
def Binary64.ofDecimal (negative : Bool) (mantissa : Nat) (exponent : Int) : Binary64 :=
  let x := if exponent < 0 then Float.ofScientific mantissa true exponent.natAbs
    else Float.ofScientific mantissa false exponent.toNat
  Binary64.ofBits (if negative then -x else x).toBits

/-- The floor of the decimal logarithm, and 0 for 0: one less than the number of digits. -/
def log10 (n : Nat) : Nat := (Nat.toDigits 10 n).length - 1

/-- Compares `a · 10^i` with `n · 2^j` exactly. -/
def compareScaled (a : Nat) (i : Int) (n : Nat) (j : Int) : Ordering :=
  compare (a * Nat.pow 10 i.toNat * Nat.pow 2 (-j).toNat)
    (n * Nat.pow 2 j.toNat * Nat.pow 10 (-i).toNat)

/-- Whether `a · 10^i` rounds to `m · 2^q`: it lies between the halfway points to the neighbours,
which count when `m` is even. -/
def readsBack (m : Nat) (q : Int) (narrowBelow : Bool) (a : Nat) (i : Int) : Bool :=
  let lo := if narrowBelow then 4 * m - 1 else 4 * m - 2
  let hi := 4 * m + 2
  let inclusive := m % 2 == 0
  let cl := compareScaled a i lo (q - 2)
  let ch := compareScaled a i hi (q - 2)
  (cl == .gt || (inclusive && cl == .eq)) && (ch == .lt || (inclusive && ch == .eq))

/-- The least `k` with `m · 2^q < 10^k`, for `m > 0`: estimated from the decimal lengths of the
numerator and the denominator, then corrected by exact comparison. -/
def scale (m : Nat) (q : Int) : Int :=
  let num := m * Nat.pow 2 q.toNat
  let den := Nat.pow 2 (-q).toNat
  let guess : Int := (log10 num : Int) - (log10 den : Int)
  -- the value lies in [10^(guess - 1), 10^(guess + 1)), so k is guess or guess + 1
  if compareScaled 1 guess m q == .gt then guess else guess + 1

/-- The floor of `m · 2^q / 10^i`. -/
def floorScaled (m : Nat) (q : Int) (i : Int) : Nat :=
  (m * Nat.pow 2 q.toNat * Nat.pow 10 (-i).toNat) / (Nat.pow 2 (-q).toNat * Nat.pow 10 i.toNat)

/-- The best decimal with digits on the grid `10^i`: of the value's two neighbours on the grid,
those that read back, the closer one, or the larger on a tie. -/
def gridCandidate (m : Nat) (q : Int) (narrowBelow : Bool) (i : Int) : Option Nat :=
  let below := floorScaled m q i
  let above := below + 1
  match readsBack m q narrowBelow below i, readsBack m q narrowBelow above i with
  | true, true =>
    -- twice the value against the sum of the two neighbours decides which is closer
    match compareScaled (below + above) i (2 * m) q with
    | .gt => some below
    | _ => some above
  | true, false => some below
  | false, true => some above
  | false, false => none

/-- Tries grids of `digits`, `digits + 1`, ... significant digits, `fuel` of them. -/
def search (m : Nat) (q : Int) (narrowBelow : Bool) (k : Int) : (digits fuel : Nat) → Nat × Int
  | _, 0 => (m, q)
  | digits, fuel + 1 =>
    let i := k - digits
    match gridCandidate m q narrowBelow i with
    | some a => (a, i)
    | none => search m q narrowBelow k (digits + 1) fuel

/-- Moves trailing zeros of the digits into the exponent. -/
def stripZeros : (fuel : Nat) → Nat → Int → Nat × Int
  | 0, a, i => (a, i)
  | fuel + 1, a, i => if a ≠ 0 ∧ a % 10 = 0 then stripZeros fuel (a / 10) (i + 1) else (a, i)

/-- The shortest decimal `a · 10^i` of a positive `m · 2^q`, without trailing zeros in `a`. -/
def shortestOf (m : Nat) (q : Int) (narrowBelow : Bool) : Nat × Int :=
  let (a, i) := search m q narrowBelow (scale m q) 1 17
  stripZeros (log10 a + 1) a i

/-- The decimal digits of a natural number. -/
def digitsOf (a : Nat) : String :=
  String.ofList (Nat.toDigits 10 a)

/-- `a · 10^i` in positional notation, with `.0` after a whole number. -/
def positionalOf (a : Nat) (i : Int) : String :=
  let ds := digitsOf a
  if i ≥ 0 then ds ++ String.ofList (List.replicate i.toNat '0') ++ ".0"
  else
    let cut := i.natAbs
    if ds.length > cut then
      String.ofList (ds.toList.take (ds.length - cut)) ++ "." ++
        String.ofList (ds.toList.drop (ds.length - cut))
    else "0." ++ String.ofList (List.replicate (cut - ds.length) '0') ++ ds

/-- The text of a value: shortest digits in positional notation. -/
def Binary64.positional : Binary64 → String
  | .nan => "NaN"
  | .infinite negative => if negative then "-inf" else "inf"
  | .finite negative m q narrowBelow =>
    let sign := if negative then "-" else ""
    if m = 0 then sign ++ "0.0"
    else
      let (a, i) := shortestOf m q narrowBelow
      sign ++ positionalOf a i

/-- An exponent with its sign always written: `+16`, `-7`. -/
def signedExponent (e : Int) : String :=
  if e ≥ 0 then "+" ++ toString e else toString e

/-- `a · 10^i` in the compact notation: with `kk` the position of the decimal point after the first
digit, positional when `-5 < kk ≤ 16`, with `.0` after a whole number; otherwise one digit before
the point and an exponent. -/
def windowedOf (a : Nat) (i : Int) : String :=
  let ds := digitsOf a
  let len : Int := ds.length
  let kk := len + i
  if 0 ≤ i ∧ kk ≤ 16 then ds ++ String.ofList (List.replicate i.toNat '0') ++ ".0"
  else if 0 < kk ∧ kk ≤ 16 then
    String.ofList (ds.toList.take kk.toNat) ++ "." ++ String.ofList (ds.toList.drop kk.toNat)
  else if -5 < kk ∧ kk ≤ 0 then "0." ++ String.ofList (List.replicate kk.natAbs '0') ++ ds
  else if ds.length = 1 then ds ++ "e" ++ signedExponent (kk - 1)
  else String.ofList (ds.toList.take 1) ++ "." ++ String.ofList (ds.toList.drop 1) ++ "e" ++
    signedExponent (kk - 1)

/-- The compact text of a value. -/
def Binary64.windowed : Binary64 → String
  | .nan => "NaN"
  | .infinite negative => if negative then "-inf" else "inf"
  | .finite negative m q narrowBelow =>
    let sign := if negative then "-" else ""
    if m = 0 then sign ++ "0.0"
    else
      let (a, i) := shortestOf m q narrowBelow
      sign ++ windowedOf a i

end Decimal

end RouteLease
