import SqlTemplate.Dialect.Document
import SqlTemplate.Files.Load
import SqlTemplate.Fragment.Describe

/-!
# The journal

A run can be asked to tell what it does. It then reports each thing it has done, down to the tree
of every fragment it has read. Nothing depends on these events; they are **read off the same
functions that do the work**, once more and beside it: what was searched, what was read, what
replaced what, what refers to nothing. So a run that fails reports what it had done by then, which
is what was done before the first fault.
-/

set_option autoImplicit false

namespace SqlTemplate

inductive Event where
  | registered (key : String) (style : PagingStyle)
  /-- A directory was searched for template files. -/
  | searched (place : Path) (files : Nat)
  /-- A definition took the place of an earlier one in its file. -/
  | redefined (name : String)
  /-- A file was read. -/
  | parsed (lines fragments : Nat)
  | tree (description : String)
  /-- A definition took the place of one in an earlier file. -/
  | overridden (name : String)
  /-- A fragment refers to fragments that there are not. -/
  | unresolved (name : String) (targets : List String)
  | rendered (name dialect : String)

/-- The part of the program that an event is reported from. -/
def Event.origin : Event → String
  | .registered _ _ => "elsql.dialects.registry"
  | .searched _ _ => "elsql.loader"
  | .redefined _ => "elsql.template.parser"
  | .parsed _ _ => "elsql.template.parser"
  | .tree _ => "elsql.template.parser"
  | .overridden _ => "elsql.bundle"
  | .unresolved _ _ => "elsql.bundle"
  | .rendered _ _ => "elsql.template.renderer"

def Event.message : Event → String
  | .registered key style => s!"Registered dialect '{key}' ({style.label})"
  | .searched place files =>
    s!"Discovered {files} {String.ofList Path.ending} files under {place.text}"
  | .redefined name => s!"Fragment '{name}' redefined, later definition wins"
  | .parsed lines fragments => s!"Parsed {lines} lines -> {fragments} named fragments"
  | .tree description => s!"Fragment tree:\n{description}"
  | .overridden name => s!"Fragment '{name}' overridden by a later file"
  | .unresolved name targets =>
    s!"Fragment '{name}' includes unknown fragments: " ++ ", ".intercalate targets
  | .rendered name dialect => s!"Rendered '{name}' for dialect '{dialect}'"

def Event.line (e : Event) : String := s!"DEBUG {e.origin}: {e.message}\n"

def Registry.Loading.events (loading : Registry.Loading) : List Event :=
  loading.dialects.map fun d => .registered (Registry.key d.nameText) d.style

/-- The events of reading a file that has so many raw lines. -/
def Reading.events (r : Reading) (lines : Nat) : List Event :=
  (redefinitions [] r.definitions).map .redefined ++
    match r.fault with
    | some _ => []
    | none =>
      let table := tableOf r.definitions
      .parsed lines table.length :: table.map fun entry => .tree (entry.2.describe 0)

namespace Table

def overrideEvents (table later : Table) : List Event :=
  (Entries.keys later).filterMap fun name =>
    if (Entries.find? name table).isSome then some (.overridden name) else none

/-- The events of looking for references to fragments that there are not. -/
def unresolvedEvents (table : Table) : List Event :=
  table.unresolved.map fun (name, targets) => .unresolved name targets

end Table

namespace Disk

def resolveEvents (disk : Disk) (library : Library) (patterns : List String) :
    (inputs : List Path) → List Event
  | [] => []
  | input :: rest =>
    match disk.expand library patterns input with
    | .error _ => []
    | .ok found =>
      let searched := match disk.directory? input with
        | some place => [.searched (.absolute place.names) found.length]
        | none => []
      searched ++ disk.resolveEvents library patterns rest

def loadEvents (disk : Disk) (table : Table) : (paths : List Path) → List Event
  | [] => table.unresolvedEvents
  | path :: rest =>
    match disk.templateLines path with
    | .error _ => []
    | .ok lines =>
      let reading := readTemplate lines
      reading.events lines.length ++
        match reading.table false with
        | .error _ => []
        | .ok later => table.overrideEvents later ++ disk.loadEvents (table.override later) rest

end Disk
end SqlTemplate
