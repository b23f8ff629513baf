import SqlTemplate.Render

/-!
# Bundles

A bundle (`ElSqlBundle`) is what an application works with: a table of fragments, the dialect to
render them for, and whether values may be inserted as SQL. Nothing in it ever changes. To render
for another dialect, another bundle is made with **the same trees**, so that all that was read once
can be rendered for any number of databases.

A bundle may be made from several files. A name that more than one of them defines keeps the place
of its first definition and gets the tree of its last one (`parse_files`).
-/

set_option autoImplicit false

namespace SqlTemplate

/-- Fragments and how they are rendered. -/
structure Bundle where
  table : Table
  dialect : Dialect := .default
  rawAllowed : Bool := true

/-- A value that cannot be the name of anything. -/
structure KeyFault where
  value : Value

def KeyFault.message (e : KeyFault) : String := s!"unhashable type: '{e.value.sort}'"

def mergeTables (tables : List Table) : Table := tables.foldl Table.override []

/-- Parses the lines of several files into one table, up to the first faulty file. -/
def parseFiles (files : List (List String)) (strict : Bool) : Except FormatError Table :=
  (files.mapM fun lines => parseLines lines strict).map mergeTables

namespace Bundle

def names (b : Bundle) : List String := Entries.keys b.table

def get (b : Bundle) (name : String) : Except RenderError Fragment :=
  match Entries.find? name b.table with
  | some tree => .ok tree
  | none => .error (.unknownFragment name)

def contains (b : Bundle) (key : Value) : Except KeyFault Bool :=
  match key with
  | .str name => .ok (b.names.contains name)
  | v => if v.isKey then .ok false else .error ⟨v⟩

def withDialect (b : Bundle) (dialect : Dialect) : Bundle := { b with dialect := dialect }

def setting (b : Bundle) (parameters : Parameters) : Setting :=
  ⟨parameters, b.dialect, b.rawAllowed⟩

/-- The SQL of the fragment with a name. -/
def sql (b : Bundle) (parameters : Parameters) (name : String) : Except RenderError String :=
  b.table.render (b.setting parameters) name

def describe (b : Bundle) : String :=
  s!"ElSqlBundle(config={b.dialect.name.quoted}, names=" ++
    (Value.list (b.names.map Value.str)).quoted ++ ")"

end Bundle
end SqlTemplate
