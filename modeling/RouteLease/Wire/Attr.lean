import RouteLease.Wire.Error
import RouteLease.Wire.Utf8

/-!
# Attributes and the layouts of their payloads

After its fixed header, a message of the routing family carries a list of attributes. Each
attribute is a four-octet header (a 16-bit length that counts the header, a 16-bit type whose two
top bits are flags) and a payload, padded to a multiple of four. `splitAttrs` cuts a list at its
length fields; a list whose lengths do not fit ends with a framing error.

What a payload must hold is its `Layout`: any octets, a number of a fixed width, text, a structure
of a least size, an address of a given width, a nested attribute list, or a check of its own.
`Layout.check` reads a payload against its layout. A `within` layout names the part being read:
every error found inside it is wrapped in that context, which may quote the payload.
-/

namespace RouteLease.Wire

/-- One attribute: its type with the flag bits removed, and its payload. -/
structure Attr where
  kind : Nat
  payload : List UInt8

/-- Splits octets into attributes. Returns the attributes read, and the framing error that
stopped the reading early, if any: fewer than four octets left, a length past the end, or a length
shorter than the attribute header. -/
def splitAttrs (buf : List UInt8) : List Attr × Option DecodeError :=
  if _ : buf.length = 0 then ([], none)
  else if buf.length < 4 then ([], some (.attrHeader buf.length))
  else
    let len := getU16 buf
    if buf.length < len then ([], some (.attrOverrun buf.length len))
    else if _h : len < 4 then ([], some (.attrLength len buf.length))
    else
      let a : Attr := { kind := getU16 (buf.drop 2) % 0x4000, payload := (buf.take len).drop 4 }
      let (rest, err) := splitAttrs (buf.drop (align4 len))
      (a :: rest, err)
termination_by buf.length
decreasing_by
  have := le_align4 (getU16 buf)
  simp only [List.length_drop]
  omega

/-- The framing error of the first attribute in the octets, for a reader that takes them as one
attribute: fewer than four octets (an empty list included), a length past the end, or a length
shorter than the header. -/
def headError (buf : List UInt8) : Option DecodeError :=
  if buf.length < 4 then some (.attrHeader buf.length)
  else if buf.length < getU16 buf then some (.attrOverrun buf.length (getU16 buf))
  else if getU16 buf < 4 then some (.attrLength (getU16 buf) buf.length)
  else none

/-- Checks every attribute in order, then reports a framing error found after them. -/
def checkAttrs {α : Type} (check : Attr → Except DecodeError α) (buf : List UInt8) :
    Except DecodeError (List α) :=
  let (attrs, err) := splitAttrs buf
  match attrs.mapM check with
  | .error e => .error e
  | .ok xs =>
    match err with
    | some e => .error e
    | none => .ok xs

/-- A little-endian number of exactly `width` octets. -/
def readNumber (width : Nat) (p : List UInt8) : Except DecodeError Nat :=
  if p.length = width then .ok (p.foldr (fun b acc => b.toNat + 256 * acc) 0)
  else .error (.number width p.length)

/-- Attribute text: one trailing NUL is dropped, and the rest must be UTF-8. -/
def readText (p : List UInt8) : Except DecodeError String :=
  let body := if p.getLast? = some 0 then p.dropLast else p
  match decodeUtf8 body with
  | .ok s => .ok s
  | .error e => .error (.other ("Invalid UTF-8 sequence: " ++ e.message))

/-- Wraps an error in a context, when there is one. -/
def DecodeError.within : Option String → DecodeError → DecodeError
  | some c, e => .context c e
  | none, e => e

/-- How the payload of an attribute must look. -/
inductive Layout where
  /-- Any octets. -/
  | raw
  /-- A number of exactly this many octets. -/
  | number (width : Nat)
  /-- UTF-8 text, optionally NUL-terminated. -/
  | text
  /-- A fixed structure: at least `size` octets, named `name` when there are fewer. -/
  | block (name : String) (size : Nat)
  /-- Exactly `size` octets; any other payload fails with `fail` of it. -/
  | exact (size : Nat) (fail : List UInt8 → DecodeError)
  /-- One of two widths; any other payload fails with `fail` of it. -/
  | either (a b : Nat) (fail : List UInt8 → DecodeError)
  /-- A list of attributes, each read by the layout of its type. A framing error is wrapped in
  `framing`, when given, after the attributes before it have been read. -/
  | attrs (framing : Option String) (item : Nat → Layout)
  /-- The payload must open with a complete attribute header; then it is read by `inner`. -/
  | headed (inner : Layout)
  /-- The payload is read by `inner`, whose errors are wrapped in the context of the payload. -/
  | within (context : List UInt8 → String) (inner : Layout)
  /-- A check of its own, for payloads whose parts depend on one another. -/
  | custom (check : List UInt8 → Except DecodeError Unit)

namespace Layout

/-- Reads a payload against a layout: `ok` when it fits, else the first error found. -/
def check : Layout → List UInt8 → Except DecodeError Unit
  | raw, _ => .ok ()
  | number width, p => (readNumber width p).map fun _ => ()
  | text, p => (readText p).map fun _ => ()
  | block name size, p => if size ≤ p.length then .ok () else .error (.header name size p.length)
  | exact size fail, p => if p.length = size then .ok () else .error (fail p)
  | either a b fail, p => if p.length = a || p.length = b then .ok () else .error (fail p)
  | attrs framing item, p =>
    let (as, err) := splitAttrs p
    match as.mapM (fun a => check (item a.kind) a.payload) with
    | .error e => .error e
    | .ok _ =>
      match err with
      | some e => .error (DecodeError.within framing e)
      | none => .ok ()
  | headed inner, p =>
    match headError p with
    | some e => .error e
    | none => check inner p
  | within context inner, p => (check inner p).mapError (.context (context p))
  | custom f, p => f p

/-- A layout whose failures read "invalid NAME value". -/
def value (name : String) (l : Layout) : Layout :=
  .within (fun _ => "invalid " ++ name ++ " value") l

/-- A layout whose failures are wrapped in a fixed context. -/
def named (context : String) (l : Layout) : Layout :=
  .within (fun _ => context) l

/-- A layout whose failures are wrapped in a context followed by the payload's octets. -/
def quoting (context : String) (l : Layout) : Layout :=
  .within (fun p => context ++ " " ++ showOctets p) l

/-- An address of the family's width: four octets in family 2, sixteen in family 10; in any other
family the payload is not read as an IP address. -/
def address (family : UInt8) : Layout :=
  if family = 2 then .exact 4 fun p => .addressWidth p.length 4 "IPv4" p
  else if family = 10 then .exact 16 fun p => .addressWidth p.length 16 "IPv6" p
  else .raw

/-- An address of either family, told apart by its width. -/
def anyAddress : Layout :=
  .either 4 16 .ipWidth

/-- A pair of 16-bit numbers: exactly four octets. -/
def pair : Layout :=
  .exact 4 .rangeWidth

/-- A list of attributes that are only framed, their payloads not read. -/
def framed (framing : Option String) : Layout :=
  .attrs framing fun _ => .raw

end Layout

/-- Reads a message body made of a fixed header of `size` octets, named `buffer`, followed by
attributes read by `item`. Errors of the attributes are wrapped in `listContext` when given, and
every error in `context`. -/
def checkBody (context buffer : String) (size : Nat) (listContext : Option String)
    (item : Nat → Layout) (p : List UInt8) : Except DecodeError Unit :=
  if p.length < size then .error (.context context (.header buffer size p.length))
  else
    match checkAttrs (fun a => (item a.kind).check a.payload) (p.drop size) with
    | .error e => .error (.context context (DecodeError.within listContext e))
    | .ok _ => .ok ()

end RouteLease.Wire
