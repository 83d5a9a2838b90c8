/-!
# UTF-8 text in attributes

Interface names and labels arrive as octets. `decodeUtf8` accepts exactly the well-formed UTF-8
sequences (no overlong forms, no surrogates, nothing above U+10FFFF). On failure it reports where
the valid prefix ends and, when the bad sequence is complete, how many octets it spans; a sequence
cut off by the end of the input has no length.
-/

namespace RouteLease.Wire

/-- Where UTF-8 decoding failed: the length of the valid prefix, and the length of the invalid
sequence when the input did not simply end inside it. -/
structure Utf8Error where
  validUpTo : Nat
  errorLen : Option Nat
  deriving DecidableEq

/-- The text of a decoding failure. -/
def Utf8Error.message (e : Utf8Error) : String :=
  match e.errorLen with
  | some n => s!"invalid utf-8 sequence of {n} bytes from index " ++ toString e.validUpTo
  | none => "incomplete utf-8 byte sequence from index " ++ toString e.validUpTo

/-- Whether an octet continues a multi-octet sequence. -/
def isContinuation (b : UInt8) : Bool :=
  0x80 ≤ b && b ≤ 0xBF

/-- The range the second octet must lie in after a given lead octet of a three- or four-octet
sequence. -/
def secondRange (lead : UInt8) : UInt8 × UInt8 :=
  if lead = 0xE0 then (0xA0, 0xBF)
  else if lead = 0xED then (0x80, 0x9F)
  else if lead = 0xF0 then (0x90, 0xBF)
  else if lead = 0xF4 then (0x80, 0x8F)
  else (0x80, 0xBF)

/-- The code point of one sequence, given its lead octet's payload bits and continuation octets. -/
def codePoint (lead : Nat) (conts : List UInt8) : Nat :=
  conts.foldl (fun acc c => acc * 64 + (c.toNat % 64)) lead

/-- Decodes octets as UTF-8; `offset` counts the octets already accepted. -/
def decodeUtf8From (offset : Nat) : List UInt8 → Except Utf8Error (List Char)
  | [] => .ok []
  | b :: rest =>
    let fail (n : Option Nat) : Except Utf8Error (List Char) := .error ⟨offset, n⟩
    if b < 0x80 then
      (decodeUtf8From (offset + 1) rest).map (Char.ofNat b.toNat :: ·)
    else if 0xC2 ≤ b && b ≤ 0xDF then
      match rest with
      | [] => fail none
      | c :: r1 =>
        if isContinuation c then
          (decodeUtf8From (offset + 2) r1).map (Char.ofNat (codePoint (b.toNat % 32) [c]) :: ·)
        else fail (some 1)
    else if 0xE0 ≤ b && b ≤ 0xEF then
      let (lo, hi) := secondRange b
      match rest with
      | [] => fail none
      | c :: r1 =>
        if !(lo ≤ c && c ≤ hi) then fail (some 1)
        else match r1 with
          | [] => fail none
          | d :: r2 =>
            if isContinuation d then
              (decodeUtf8From (offset + 3) r2).map
                (Char.ofNat (codePoint (b.toNat % 16) [c, d]) :: ·)
            else fail (some 2)
    else if 0xF0 ≤ b && b ≤ 0xF4 then
      let (lo, hi) := secondRange b
      match rest with
      | [] => fail none
      | c :: r1 =>
        if !(lo ≤ c && c ≤ hi) then fail (some 1)
        else match r1 with
          | [] => fail none
          | d :: r2 =>
            if !isContinuation d then fail (some 2)
            else match r2 with
              | [] => fail none
              | e :: r3 =>
                if isContinuation e then
                  (decodeUtf8From (offset + 4) r3).map
                    (Char.ofNat (codePoint (b.toNat % 8) [c, d, e]) :: ·)
                else fail (some 3)
    else fail (some 1)

/-- Decodes octets as UTF-8 text. -/
def decodeUtf8 (b : List UInt8) : Except Utf8Error String :=
  (decodeUtf8From 0 b).map String.ofList

end RouteLease.Wire
