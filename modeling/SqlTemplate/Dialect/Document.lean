import SqlTemplate.Library
import SqlTemplate.Registry
import SqlTemplate.Value.Order

/-!
# Dialects from a document

New dialects are declared in a document (`load_dialects`): a mapping from names to what each one
changes. An entry names the dialect it is based on, the default one if it names none, and may give
another suffix for patterns; it behaves like its base in everything else. The base is looked up
**when the entry is read**, so an entry may build on one above it but not on one below it.

The entries take effect one by one. When one of them is faulty the ones before it stay registered,
and so the outcome of a loading has three parts: the registry it leaves, the dialects it made, and
the fault that ended it, if one did.
-/

set_option autoImplicit false

namespace SqlTemplate

inductive DocumentFault where
  /-- A file that is not text. -/
  | undecodable (path : String)
  /-- What the library makes of a text that is no document. -/
  | library (fault : LibraryFault)
  | dialectsNotFound (path : String)
  | dialectsNotMapping (path : String)
  | entryNotMapping (name path : String)
  | unknownKeys (name : String) (keys : List Value) (path : String)
  | unknownBase (name : String) (cause : DialectError)
  | suffixNotText (name : String)
  | parametersNotFound (path : String)
  | parametersNotMapping (path : String)
  /-- A dialect that cannot be registered. -/
  | dialect (cause : DialectError)
  /-- Unknown keys of two sorts, which cannot be listed in order. -/
  | incomparable (later earlier : String)

def DocumentFault.message : DocumentFault → String
  | .undecodable path => s!"Cannot read document {path}"
  | .library fault => fault.message
  | .dialectsNotFound path => s!"Dialects file not found: {path}"
  | .dialectsNotMapping path => s!"YAML must be a mapping: {path}"
  | .entryNotMapping name path => s!"Dialect '{name}' must be a mapping in {path}"
  | .unknownKeys name keys path =>
    s!"Dialect '{name}' has unknown keys {(Value.list keys).quoted} in {path}"
  | .unknownBase name cause => s!"Dialect '{name}': {cause.message}"
  | .suffixNotText name => s!"Dialect '{name}': like_suffix must be a string"
  | .parametersNotFound path => s!"Parameters file not found: {path}"
  | .parametersNotMapping path => s!"Parameters file must be a YAML mapping: {path}"
  | .dialect cause => cause.message
  | .incomparable later earlier =>
    s!"'<' not supported between instances of '{later}' and '{earlier}'"

def DocumentFault.kind : DocumentFault → ErrorKind
  | .undecodable _ => .value
  | .library fault => fault.kind
  | .dialect cause => cause.kind
  | .incomparable _ _ => .type
  | _ => .config

/-- The entries of a mapping; a value that holds nothing counts as an empty one. -/
def Value.mapping? (v : Value) : Option (List (Value × Value)) :=
  if v.holdsNothing then some []
  else
    match v with
    | .mapping entries => some entries
    | _ => none

namespace Registry

/-- The keys that an entry may have. -/
def knownKeys : List Value := [.str "base", .str "like_suffix"]

def declared (r : Registry) (path : String) (name spec : Value) :
    Except DocumentFault Dialect := do
  let some fields := spec.mapping? | throw (.entryNotMapping name.text path)
  let unknown := (Entries.keys fields).filter fun k => !knownKeys.contains k
  if !unknown.isEmpty then
    match Value.inOrder unknown with
    | .error (later, earlier) => throw (.incomparable later earlier)
    | .ok keys => throw (.unknownKeys name.text keys path)
  let baseName := ((Entries.find? (.str "base") fields).getD Dialect.default.name).text
  let base ← (r.get baseName).mapError (.unknownBase name.text)
  match Entries.find? (.str "like_suffix") fields with
  | none => return { base with name := .str name.text }
  | some (.str suffix) => return { base with name := .str name.text, likeSuffix := suffix }
  | some _ => throw (.suffixNotText name.text)

structure Loading where
  /-- The registry afterwards, whether the loading was finished or not. -/
  registry : Registry
  /-- The dialects that were registered, in order. -/
  dialects : List Dialect := []
  fault : Option DocumentFault := none

/-- Registers the dialects of entries one after the other, up to the first fault. -/
def loadEntries (r : Registry) (path : String) (replace : Bool) :
    List (Value × Value) → Loading
  | [] => ⟨r, [], none⟩
  | (name, spec) :: rest =>
    match r.declared path name spec with
    | .error e => ⟨r, [], some e⟩
    | .ok d =>
      match r.register d replace with
      | .error e => ⟨r, [], some (.dialect e)⟩
      | .ok next =>
        let others := loadEntries next path replace rest
        { others with dialects := d :: others.dialects }

def load (r : Registry) (path : String) (document : Option Value) (replace : Bool) : Loading :=
  match document with
  | none => ⟨r, [], some (.dialectsNotFound path)⟩
  | some v =>
    match v.mapping? with
    | none => ⟨r, [], some (.dialectsNotMapping path)⟩
    | some entries => r.loadEntries path replace entries

end Registry
end SqlTemplate
