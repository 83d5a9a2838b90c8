import RouteLease.Config.Document

/-!
# TOML errors

Why a text is not a TOML document, with the span of the source that shows it. An error has a
description and, where one applies, the list of what would have been accepted at that place; the
list may be empty, when nothing at all was expected there.

The message joins them: `description, expected a, b`, or `description, expected nothing` for an
empty list. A piece of text that was expected is quoted in backticks, except a line feed, which
is named `newline`; a kind of text is named in words.
-/

namespace RouteLease

namespace Config.Toml

/-- Something that would have been accepted where a text went wrong. -/
inductive Expected where
  /-- This very text. -/
  | literal (text : String)
  /-- Text of this kind, described in words. -/
  | description (text : String)
  deriving DecidableEq

/-- How an expected thing is named in a message. -/
def Expected.render : Expected → String
  | .literal "\n" => "newline"
  | .literal t => "`" ++ t ++ "`"
  | .description t => t

/-- Why a text is not a TOML document, and where. -/
structure TomlError where
  description : String
  expected : Option (List Expected)
  span : Span

/-- The text of an error: its description, then what was expected. -/
def TomlError.message (e : TomlError) : String :=
  match e.expected with
  | none => e.description
  | some [] => e.description ++ ", expected nothing"
  | some xs => e.description ++ ", expected " ++ ", ".intercalate (xs.map Expected.render)

/-- Fails with an error over the bytes from `start` to `stop`. -/
def failAt {α : Type} (description : String) (expected : Option (List Expected))
    (start stop : Nat) : Except TomlError α :=
  .error ⟨description, expected, ⟨start, stop⟩⟩

/-- What a bare key may be made of. -/
def keyCharacters : List Expected :=
  [.description "letters", .description "numbers", .literal "-", .literal "_"]

/-- What a line may hold after a complete expression. -/
def lineEndings : List Expected :=
  [.literal "\n", .literal "#"]

end Config.Toml

end RouteLease
