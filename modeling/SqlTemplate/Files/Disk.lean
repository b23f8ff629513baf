import SqlTemplate.Files.Path
import SqlTemplate.Text.LineBreak

/-!
# Directories and files

A disk is a tree of directories with files in it, and a place in that tree from which relative
paths lead. To follow a path is to stand in a directory and go down into one of its entries or up
again, so a path with `..` in it leads somewhere only if the names before it do. Every name on the
way must be a directory; the last one may be a file.

Files hold bytes. Besides directories and files there are **special entries**: pipes, sockets and
devices, which have a name and nothing that could be read. A directory lists them among its files,
but no path leads to a file there.

The text of a template file is UTF-8, perhaps with a mark of the encoding before it, and is cut into
lines (`read_lines_from`).
-/

set_option autoImplicit false

namespace SqlTemplate

/-- What a directory lists. -/
inductive Entry where
  | file (name : String) (data : ByteArray)
  /-- Neither a file nor a directory. -/
  | special (name : String)
  | directory (name : String) (entries : List Entry)

inductive Item where
  | file (data : ByteArray)
  | special
  | directory

namespace Entry

def name : Entry → String
  | .file name _ => name
  | .special name => name
  | .directory name _ => name

def isDirectory : Entry → Bool
  | .directory _ _ => true
  | _ => false

/-- The entries below an entry; only a directory has any. -/
def entries : Entry → List Entry
  | .directory _ entries => entries
  | _ => []

def find? (name : String) (entries : List Entry) : Option Entry :=
  entries.find? fun e => e.name == name

/-- Adds an entry in the place of the one that has its name. -/
def put (entry : Entry) : List Entry → List Entry
  | [] => [entry]
  | e :: rest => if e.name == entry.name then entry :: rest else e :: put entry rest

/-- Adds an item along names whose directories are made if they are missing. A directory that is
there already keeps its entries. -/
def add (item : Item) : (names : List String) → List Entry → List Entry
  | [], entries => entries
  | [name], entries =>
    match item with
    | .file data => put (.file name data) entries
    | .special => put (.special name) entries
    | .directory => put (.directory name (((find? name entries).map Entry.entries).getD [])) entries
  | name :: rest, entries =>
    let below := ((find? name entries).map Entry.entries).getD []
    put (.directory name (add item rest below)) entries

end Entry

/-- A directory and the way to it from the root. -/
structure Position where
  /-- The directories above, the nearest first, each with the name by which it was left. -/
  above : List (String × List Entry)
  /-- The entries of the directory. -/
  entries : List Entry

namespace Position

def names (p : Position) : List String := (p.above.map Prod.fst).reverse

/-- The directory above; the root is above itself. -/
def up (p : Position) : Position :=
  match p.above with
  | [] => p
  | (_, entries) :: rest => ⟨rest, entries⟩

def step? (p : Position) (name : String) : Option Position :=
  if name = ".." then some p.up
  else
    match Entry.find? name p.entries with
    | some (.directory _ entries) => some ⟨(name, p.entries) :: p.above, entries⟩
    | _ => none

def walk? (p : Position) : List String → Option Position
  | [] => some p
  | name :: rest => (p.step? name).bind fun next => walk? next rest

end Position

structure Disk where
  /-- The entries of the root. -/
  entries : List Entry
  /-- The names that lead from the root to the working directory. -/
  location : List String

namespace Disk

/-- The names that a path leads along from the root. -/
def namesOf (disk : Disk) (path : Path) : List String :=
  if path.isAbsolute then path.parts else disk.location ++ path.parts

def directory? (disk : Disk) (path : Path) : Option Position :=
  Position.walk? ⟨[], disk.entries⟩ (disk.namesOf path)

/-- What the file at a path holds. -/
def file? (disk : Disk) (path : Path) : Option ByteArray := do
  let names := disk.namesOf path
  let name ← names.getLast?
  let place ← Position.walk? ⟨[], disk.entries⟩ names.dropLast
  match Entry.find? name place.entries with
  | some (.file _ data) => some data
  | _ => none

/-- Adds an item at a path without `..`. -/
def add (disk : Disk) (path : Path) (item : Item) : Disk :=
  { disk with entries := Entry.add item (disk.namesOf path) disk.entries }

end Disk

/-- The mark of its encoding that a file may start with. -/
def encodingMark : Char := '\ufeff'

def dropMark : List Char → List Char
  | [] => []
  | c :: rest => if c = encodingMark then rest else c :: rest

def decode? (data : ByteArray) : Option (List Char) :=
  (String.fromUTF8? data).map fun text => dropMark text.toList

theorem fromUTF8?_toUTF8 (text : String) : String.fromUTF8? text.toUTF8 = some text := by
  simp only [String.fromUTF8?, String.toUTF8_eq_toByteArray, dif_pos text.isValidUTF8]
  rfl

/-- The raw lines of a template file, if it is text. -/
def rawLines? (data : ByteArray) : Option (List (List Char)) :=
  (decode? data).map fun text => Text.splitLines (Text.unifyBreaks text)

end SqlTemplate
