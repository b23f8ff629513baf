import SqlTemplate.Entries
import SqlTemplate.Template.Layout
import SqlTemplate.Text.LineBreak

/-!
# Tables of fragments

Parsing a template (`parse_lines`, `parse_text`) gives a table from names to trees. A name may be
defined twice in one file; the later definition then takes over, **name, tree and place**, as if the
earlier one had been deleted (`_register`). With `strict` a second definition is a fault instead,
found at its own `@NAME` line. The file's other faults come after it only if they come after it in
the file: a name that is taken is noticed as soon as its second definition has been read.
-/

set_option autoImplicit false

namespace SqlTemplate

abbrev Table := List (String × Fragment)

/-- The first definition whose name is among those already taken. -/
def firstTaken? (taken : List String) : List Definition → Option Definition
  | [] => none
  | d :: rest => if taken.contains d.name then some d else firstTaken? (d.name :: taken) rest

/-- The names that are defined again, in the order of their later definitions. -/
def redefinitions (taken : List String) : List Definition → List String
  | [] => []
  | d :: rest =>
    if taken.contains d.name then d.name :: redefinitions taken rest
    else redefinitions (d.name :: taken) rest

/-- The table that definitions make: a later one takes the place of an earlier one. -/
def tableOf (definitions : List Definition) : Table :=
  definitions.foldl (fun table d => Entries.redefine d.name d.tree table) []

/-- The table of a reading, or the first fault of its file. -/
def Reading.table (r : Reading) (strict : Bool) : Except FormatError Table :=
  match if strict then firstTaken? [] r.definitions else none with
  | some d => .error ⟨.duplicateName d.name, d.line⟩
  | none =>
    match r.fault with
    | some e => .error e
    | none => .ok (tableOf r.definitions)

def readTemplate (raw : List (List Char)) : Reading :=
  match Line.read raw with
  | .error e => ⟨[], some e⟩
  | .ok lines => readDefinitions lines

def parseLines (raw : List String) (strict : Bool) : Except FormatError Table :=
  (readTemplate (raw.map String.toList)).table strict

def parseText (text : String) (strict : Bool) : Except FormatError Table :=
  (readTemplate (Text.splitLines text.toList)).table strict

/-- Adds the table of a later file: a name that is already there keeps its place and gets the
later tree. -/
def Table.override (table later : Table) : Table := Entries.putAll later table

/-- The fragments that a table's trees refer to and that it does not have, by the name of the tree
that refers to them. -/
def Table.unresolved (table : Table) : List (String × List String) :=
  table.filterMap fun entry =>
    match entry.2.references.filter fun name => (Entries.find? name table).isNone with
    | [] => none
    | missing => some (entry.1, missing)

end SqlTemplate
