/-!
# TOML dates and times

A date is `YYYY-MM-DD`, a time `HH:MM` with optional seconds `:SS` and, after seconds, an optional
fraction `.ddd` of any length. A date and time are joined by `T` or a blank (either case of `T`),
and a date with a time may end with an offset: `Z`, or `+HH:MM` or `-HH:MM`. The month lies
between 01 and 12, the day within its month (February has 29 days in leap years), the hour
between 00 and 23, the minute between 00 and 59 and the second between 00 and 60 (a leap second);
an offset has at most 23 hours and 59 minutes.

The text is cut into pieces (runs of digits, the separators, and anything else), and the first
piece out of place, or the first part out of range, is the error. Its message names the part
and what was expected there, as in `invalid date, expected day between 01 and 28`.
-/

namespace RouteLease

namespace Config.Toml

/-- A piece of a date or time text. -/
inductive Piece where
  | digits (ds : List Char)
  | dash
  | colon
  | dot
  /-- `T` or `t`, between a date and a time. -/
  | timeMark
  | space
  /-- `Z` or `z`, the offset of universal time. -/
  | zulu
  | plus
  /-- Any other character; the text after it does not matter. -/
  | unknown
  deriving DecidableEq

/-- Cuts a date or time text into pieces; a run of digits is one piece. -/
def pieces : List Char → List Piece
  | [] => []
  | c :: rest =>
    let ps := pieces rest
    if c.isDigit then
      match ps with
      | .digits ds :: more => .digits (c :: ds) :: more
      | _ => .digits [c] :: ps
    else if c == '-' then .dash :: ps
    else if c == ':' then .colon :: ps
    else if c == '.' then .dot :: ps
    else if c == 'T' || c == 't' then .timeMark :: ps
    else if c == ' ' then .space :: ps
    else if c == 'Z' || c == 'z' then .zulu :: ps
    else if c == '+' then .plus :: ps
    else [.unknown]

/-- The message of a date or time error: the part that is wrong, and what was expected. -/
def datetimeMessage (what expected : Option String) : String :=
  match what, expected with
  | some w, some e => "invalid " ++ w ++ ", expected " ++ e
  | some w, none => "invalid " ++ w
  | none, some e => "invalid datetime, expected " ++ e
  | none, none => "invalid datetime"

/-- Fails with the message of a part and what was expected. -/
def badPart {α : Type} (what expected : String) : Except String α :=
  .error (datetimeMessage (some what) (some expected))

/-- The digits at the front, which `what` needs as its `expected`. -/
def expectDigits (what expected : String) : List Piece → Except String (List Char × List Piece)
  | .digits ds :: rest => .ok (ds, rest)
  | _ => badPart what expected

/-- The piece `p` at the front, which `what` needs as its `expected`. -/
def expectPiece (p : Piece) (what expected : String) : List Piece → Except String (List Piece)
  | q :: rest => if q == p then .ok rest else badPart what expected
  | [] => badPart what expected

/-- The number written by decimal digits. -/
def decimalValue (ds : List Char) : Nat :=
  ds.foldl (fun acc d => acc * 10 + (d.toNat - '0'.toNat)) 0

/-- Whether a year is a leap year of the Gregorian calendar. -/
def isLeapYear (year : Nat) : Bool :=
  year % 4 == 0 && (year % 100 != 0 || year % 400 == 0)

/-- The number of days in a month of a year. -/
def daysInMonth (year month : Nat) : Nat :=
  if month == 2 then (if isLeapYear year then 29 else 28)
  else if month == 4 || month == 6 || month == 9 || month == 11 then 30
  else 31

/-- Checks a date after its year digits and dash: month, dash, day, their widths and ranges. -/
def checkDate (year : List Char) (ps : List Piece) : Except String (List Piece) := do
  let (month, ps) ← expectDigits "date" "month" ps
  let ps ← expectPiece .dash "date" "`-` (MM-DD)" ps
  let (day, ps) ← expectDigits "date" "day" ps
  if year.length != 4 then badPart "date" "a four-digit year (YYYY)"
  if month.length != 2 then badPart "date" "a two-digit month (MM)"
  if day.length != 2 then badPart "date" "a two-digit day (DD)"
  let m := decimalValue month
  let d := decimalValue day
  if m < 1 || m > 12 then badPart "date" "month between 01 and 12"
  let most := daysInMonth (decimalValue year) m
  if d < 1 || d > most then badPart "date" ("day between 01 and " ++ toString most)
  pure ps

/-- Checks a time: hour, colon, minute, then optional seconds and, after them, an optional
fraction; their widths and ranges. A fraction's digits beyond nine are ignored. -/
def checkTime (ps : List Piece) : Except String (List Piece) := do
  let (hour, ps) ← expectDigits "time" "hour" ps
  let ps ← expectPiece .colon "time" "`:` (HH:MM)" ps
  let (minute, ps) ← expectDigits "time" "minute" ps
  let (second, ps) ← match ps with
    | .colon :: rest => do
      let (s, rest) ← expectDigits "time" "second" rest
      pure (some s, rest)
    | _ => pure (none, ps)
  let ps ← match second, ps with
    | some _, .dot :: rest => do
      let (_, rest) ← expectDigits "time" "nanosecond" rest
      pure rest
    | _, _ => pure ps
  if hour.length != 2 then badPart "time" "a two-digit hour (HH)"
  if minute.length != 2 then badPart "time" "a two-digit minute (MM)"
  if let some s := second then
    if s.length != 2 then badPart "time" "a two-digit second (SS)"
  if decimalValue hour > 23 then badPart "time" "hour between 00 and 23"
  if decimalValue minute > 59 then badPart "time" "minute between 00 and 59"
  if let some s := second then
    if decimalValue s > 60 then badPart "time" "second between 00 and 60"
  pure ps

/-- Checks the offset after a date and time, if there is one. -/
def checkOffset : List Piece → Except String (List Piece)
  | [] => .ok []
  | .zulu :: rest => .ok rest
  | p :: rest =>
    if p == .plus || p == .dash then do
      let (hours, ps) ← expectDigits "offset" "hour" rest
      let ps ← expectPiece .colon "offset" "`:` (HH:MM)" ps
      let (minutes, ps) ← expectDigits "offset" "minute" ps
      if hours.length != 2 then badPart "offset" "a two-digit hour (HH)"
      if minutes.length != 2 then badPart "offset" "a two-digit minute (MM)"
      if decimalValue hours > 23 then badPart "offset" "hours between 00 and 23"
      if decimalValue minutes > 59 then badPart "offset" "minutes between 00 and 59"
      pure ps
    else badPart "offset" "`Z`, +OFFSET, -OFFSET"

/-- Checks a date, a time, or a date and time: the message of the first error, if any. -/
def checkDatetime (cs : List Char) : Except String Unit := do
  let (first, ps) ← match pieces cs with
    | .digits ds :: rest => pure (ds, rest)
    | _ => .error (datetimeMessage none (some "year or hour"))
  let sepError : Except String Unit :=
    .error (datetimeMessage none (some "`-` (YYYY-MM) or `:` (HH:MM)"))
  let rest ← match ps with
    | .dash :: rest => do
      let afterDate ← checkDate first rest
      match afterDate with
      | [] => pure []
      | p :: more =>
        if p == .timeMark || p == .space then do
          let afterTime ← checkTime more
          checkOffset afterTime
        else badPart "date-time" "`T` between date and time"
    | .colon :: _ => checkTime (.digits first :: ps)
    | _ => do sepError; pure []
  if rest.isEmpty then pure () else .error (datetimeMessage none none)

end Config.Toml

end RouteLease
