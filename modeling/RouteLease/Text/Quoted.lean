import RouteLease.Text.Printable

/-!
# Quoted text

The quoted form in which diagnostics show a piece of text: between double quotes, with the
backslash, the double quote, the tab, the carriage return, the line feed and the null character
written as two-character escapes, and every character that does not print on its own written as
`\u{h}` with its code point in lowercase hexadecimal.

Which characters do not print on their own is the table `escapedRanges`: control, format,
private-use and unassigned code points, separators other than the space, and grapheme extenders.
-/

namespace RouteLease

namespace Quoted

/-- Whether a character is written as `\u{h}`. -/
def escapedByNumber (c : Char) : Bool :=
  escapedRanges.any fun (lo, hi) => lo ≤ c.toNat && c.toNat ≤ hi

/-- The written form of one character inside the quotes. -/
def escapeChar (c : Char) : String :=
  match c with
  | '\\' => "\\\\"
  | '"' => "\\\""
  | '\t' => "\\t"
  | '\r' => "\\r"
  | '\n' => "\\n"
  | '\x00' => "\\0"
  | c =>
    if escapedByNumber c then "\\u\x7b" ++ String.ofList (Nat.toDigits 16 c.toNat) ++ "\x7d"
    else String.singleton c

end Quoted

/-- The quoted form of a text. -/
def quoted (s : String) : String :=
  "\"" ++ String.join (s.toList.map Quoted.escapeChar) ++ "\""

end RouteLease
