import RouteLease.Config.Toml.Syntax
import RouteLease.Config.Toml.Scalar

/-!
# TOML tables

The last step of reading TOML builds the document from its expressions, in order, reading every
key and scalar as it goes. A header opens a table, creating the tables on its path that do not
exist yet; a key-value pair goes into the table last opened, and a dotted key creates tables along
its path. `[[key]]` opens the next table of an array of tables, and a path through it reaches into
its last table.

Every key is defined once. What may be added to a table depends on how it came to be:

* a path, of a header or of a dotted key, cannot go through a value that is not a table (an
  inline table included): that is an error naming the value's type;
* a header may open a table that so far was only created on a header's path, and nothing else
  that exists;
* a dotted key may only go through tables that dotted keys created, or that a header's path
  created; it may only add to a table that dotted keys created (or to the table last opened, for
  a plain key);
* an inline table is closed: only its own entries define it, by the same rules among themselves.

Entries keep the order in which the document wrote them.
-/

namespace RouteLease

namespace Config.Toml

/-- How a table came to exist, which decides what may add to it later. -/
inductive Origin where
  /-- Created on the path of a header. -/
  | implicit
  /-- Opened by its own header. -/
  | header
  /-- Created on the path of a dotted key. -/
  | dotted
  /-- Written as an inline table: closed to everything outside it. -/
  | inline
  deriving DecidableEq

/-- A node of a document under construction. -/
inductive Node where
  /-- A value that cannot be added to. -/
  | leaf (v : Value)
  | table (origin : Origin) (span : Option Span) (entries : List (String × Node))
  /-- An array of tables opened by `[[key]]` headers. -/
  | tables (span : Option Span) (items : List Node)

/-- The entries of a table under construction. -/
abbrev Entries := List (String × Node)

mutual

/-- The value of a node. -/
def Node.toValue : Node → Value
  | .leaf v => v
  | .table _ span entries => .table span (entriesToValue entries)
  | .tables span items => .array span (nodesToValue items)

/-- The values of table entries. -/
def entriesToValue : Entries → List (String × Value)
  | [] => []
  | (k, n) :: rest => (k, n.toValue) :: entriesToValue rest

/-- The values of nodes. -/
def nodesToValue : List Node → List Value
  | [] => []
  | n :: rest => n.toValue :: nodesToValue rest

end

/-- The node under a key. -/
def lookup (k : String) (entries : Entries) : Option Node :=
  (entries.find? fun e => e.1 == k).map Prod.snd

/-- Replaces the node under a key. -/
def replace (k : String) (n : Node) (entries : Entries) : Entries :=
  entries.map fun e => if e.1 == k then (k, n) else e

/-- The duplicate-key error at a key. -/
def duplicate {α : Type} (span : Span) : Except TomlError α :=
  failAt "duplicate key" none span.start span.stop

/-- The error of a path that goes through a value of type `typeName`, at the key of it. -/
def extendValue {α : Type} (span : Span) (typeName : String) : Except TomlError α :=
  failAt ("cannot extend value of type " ++ typeName ++ " with a dotted key") none span.start
    span.stop

/-- The type of a value that is not a table of the document, as errors name it. -/
def typeName : Value → String
  | .null _ => "none"
  | .bool _ _ => "boolean"
  | .int _ _ => "integer"
  | .float _ _ => "float"
  | .string _ _ => "string"
  | .datetime _ _ => "datetime"
  | .array _ _ => "array"
  | .table _ _ => "inline table"
  | .overflow _ isFloat => if isFloat then "float" else "integer"

/-- Puts `node` under a dotted key. `inline` says whether the table is inside an inline table;
`reached` is how the table the path has reached came to be, `none` for the table it started from.
The path creates dotted tables, goes through dotted tables and tables created on a header's path
(any table, inside an inline table) and into the last table of an array of tables; the last key
may only be added to the table started from or to a dotted table, and must be new. -/
def insertPath (inline : Bool) (node : Node) (reached : Option Origin) :
    List (String × Span) → Entries → Except TomlError Entries
  | [], entries => .ok entries
  | [(k, span)], entries =>
    if reached.any (· != .dotted) then duplicate span
    else
      match lookup k entries with
      | some _ => duplicate span
      | none => .ok (entries ++ [(k, node)])
  | (k, span) :: rest, entries =>
    match lookup k entries with
    | none => do
      let sub ← insertPath inline node (some .dotted) rest []
      .ok (entries ++ [(k, .table .dotted (some span) sub)])
    | some (.table o s sub) =>
      if !inline && o == .inline then extendValue span "inline table"
      else if !inline && o == .header then duplicate span
      else do
        let sub' ← insertPath inline node (some o) rest sub
        .ok (replace k (.table o s sub') entries)
    | some (.tables s items) =>
      match items.getLast? with
      | some (.table o s' sub) => do
        let sub' ← insertPath inline node (some o) rest sub
        .ok (replace k (.tables s (items.dropLast ++ [.table o s' sub'])) entries)
      | _ => duplicate span
    | some (.leaf v) => extendValue span (typeName v)

/-- Changes the entries of the table at a path of keys, entering the last table of an array of
tables. -/
def modifyAt (f : Entries → Except TomlError Entries) :
    List String → Entries → Except TomlError Entries
  | [], entries => f entries
  | k :: rest, entries =>
    match lookup k entries with
    | some (.table o s sub) => do
      let sub' ← modifyAt f rest sub
      .ok (replace k (.table o s sub') entries)
    | some (.tables s items) =>
      match items.getLast? with
      | some (.table o s' sub) => do
        let sub' ← modifyAt f rest sub
        .ok (replace k (.tables s (items.dropLast ++ [.table o s' sub'])) entries)
      | _ => .ok entries
    | _ => .ok entries

/-- Opens the table of a header in the root entries. Tables on the path are created or entered;
the last key must be new, or a table so far only created on a path, or for `[[key]]` an array of
tables, which gets a new table. -/
def openHeader (arrayOfTables : Bool) (span : Span) :
    List (String × Span) → Entries → Except TomlError Entries
  | [], entries => .ok entries
  | [(k, kspan)], entries =>
    if arrayOfTables then
      match lookup k entries with
      | none => .ok (entries ++ [(k, .tables (some span) [.table .header (some span) []])])
      | some (.tables s items) =>
        .ok (replace k (.tables s (items ++ [.table .header (some span) []])) entries)
      | some _ => duplicate kspan
    else
      match lookup k entries with
      | none => .ok (entries ++ [(k, .table .header (some span) [])])
      | some (.table .implicit _ sub) => .ok (replace k (.table .header (some span) sub) entries)
      | some _ => duplicate kspan
  | (k, kspan) :: rest, entries =>
    match lookup k entries with
    | none => do
      let sub ← openHeader arrayOfTables span rest []
      .ok (entries ++ [(k, .table .implicit (some kspan) sub)])
    | some (.table o s sub) =>
      if o == .inline then extendValue kspan "inline table"
      else do
        let sub' ← openHeader arrayOfTables span rest sub
        .ok (replace k (.table o s sub') entries)
    | some (.tables s items) =>
      match items.getLast? with
      | some (.table o s' sub) => do
        let sub' ← openHeader arrayOfTables span rest sub
        .ok (replace k (.tables s (items.dropLast ++ [.table o s' sub'])) entries)
      | _ => duplicate kspan
    | some (.leaf v) => extendValue kspan (typeName v)

/-- The keys of a dotted key, read. -/
def decodeKeys (key : List Token) : Except TomlError (List (String × Span)) :=
  key.mapM decodeKey

mutual

/-- The node of a value as written: a scalar read, an array of values, or a closed table. -/
def rawNode : RawValue → Except TomlError Node
  | .scalar kind text start stop =>
    if kind == .atom then (scalarValue text start stop).map .leaf
    else (decodeString kind text start stop).map fun s => .leaf (.string (some ⟨start, stop⟩) s)
  | .array start stop items => do
    let vs ← rawItems items
    .ok (.leaf (.array (some ⟨start, stop⟩) (vs.map Node.toValue)))
  | .inlineTable start stop entries => do
    let es ← rawEntries entries []
    .ok (.table .inline (some ⟨start, stop⟩) es)

/-- The nodes of array items. -/
def rawItems : List RawValue → Except TomlError (List Node)
  | [] => .ok []
  | v :: rest => do
    let n ← rawNode v
    let ns ← rawItems rest
    .ok (n :: ns)

/-- The entries of an inline table, added to `acc` in order; dotted keys create closed tables. -/
def rawEntries : List (List Token × RawValue) → Entries → Except TomlError Entries
  | [], acc => .ok acc
  | (key, v) :: rest, acc => do
    let keys ← decodeKeys key
    let n ← rawNode v
    let acc' ← insertPath true n none keys acc
    rawEntries rest acc'

end

/-- The state of building a document: the root entries and the path of the table last opened. -/
structure Builder where
  root : Entries := []
  current : List String := []

/-- Adds one expression. -/
def Builder.add (b : Builder) : Expression → Except TomlError Builder
  | .header key arrayOfTables start stop => do
    let keys ← decodeKeys key
    let root ← openHeader arrayOfTables ⟨start, stop⟩ keys b.root
    .ok { root, current := keys.map Prod.fst }
  | .keyValue key v => do
    let keys ← decodeKeys key
    let n ← rawNode v
    let root ← modifyAt (insertPath false n none keys) b.current b.root
    .ok { b with root }

/-- The document of a TOML text, or the first error: shape errors first, then errors of keys,
scalars and definitions in reading order. -/
def parseDocument (s : String) : Except TomlError Value := do
  let exprs ← parseExpressions s
  let b ← exprs.foldlM Builder.add {}
  .ok (.table (some ⟨0, s.utf8ByteSize⟩) (entriesToValue b.root))

end Config.Toml

end RouteLease
