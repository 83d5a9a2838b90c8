/-!
# Little-endian words

Netlink lays out its integer fields in the host's byte order, which is little-endian on the
machines the daemon runs on. These helpers write and read 16- and 32-bit fields as octet lists,
and round lengths up to the four-octet alignment of netlink messages and attributes.
-/

namespace RouteLease.Wire

/-- The two octets of a 16-bit field, least significant first. -/
def putU16 (v : Nat) : List UInt8 :=
  [(v % 256).toUInt8, (v / 256 % 256).toUInt8]

/-- The four octets of a 32-bit field, least significant first. -/
def putU32 (v : Nat) : List UInt8 :=
  [(v % 256).toUInt8, (v / 256 % 256).toUInt8, (v / 65536 % 256).toUInt8,
    (v / 16777216 % 256).toUInt8]

/-- The 16-bit field at the start of an octet list, missing octets read as zero. -/
def getU16 (b : List UInt8) : Nat :=
  (b.getD 0 0).toNat + (b.getD 1 0).toNat * 256

/-- The 32-bit field at the start of an octet list, missing octets read as zero. -/
def getU32 (b : List UInt8) : Nat :=
  (b.getD 0 0).toNat + (b.getD 1 0).toNat * 256 + (b.getD 2 0).toNat * 65536
    + (b.getD 3 0).toNat * 16777216

/-- A 32-bit field read as a two's complement integer. -/
def getI32 (b : List UInt8) : Int :=
  let v := getU32 b
  if v < Nat.pow 2 31 then v else (v : Int) - Int.pow 2 32

/-- A length rounded up to the next multiple of four. -/
def align4 (n : Nat) : Nat :=
  (n + 3) / 4 * 4

/-- Padding that brings a length up to the next multiple of four. -/
def padding (n : Nat) : List UInt8 :=
  List.replicate (align4 n - n) 0

/-- An octet list the way diagnostics print it: decimal values in brackets. -/
def showOctets (b : List UInt8) : String :=
  "[" ++ ", ".intercalate (b.map fun x => toString x.toNat) ++ "]"

/-- Aligning never shortens. -/
theorem le_align4 (n : Nat) : n ≤ align4 n := by
  unfold align4; omega

/-- A 16-bit field takes two octets. -/
theorem length_putU16 (v : Nat) : (putU16 v).length = 2 := rfl

/-- A 32-bit field takes four octets. -/
theorem length_putU32 (v : Nat) : (putU32 v).length = 4 := rfl

end RouteLease.Wire
