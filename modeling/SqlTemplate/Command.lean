import SqlTemplate.Command.Request
import SqlTemplate.Journal
import SqlTemplate.Parameters.Document
import SqlTemplate.Text.Json

/-!
# Runs of the command

A run reads its command line, does what is asked for, and leaves three things: what it wrote for
the caller, what it wrote to the log, and how it ended (`main`). It is a function of the disk and of
the words of the line, and changes neither; what it leaves to the libraries comes in by them.

Faults fall into two classes. Those that a user can mend, in a template, in a document or on the
command line, are written to the log in one line and end the run with the status of a refusal. The
others are numbers and keys of a sort that nobody meant to allow, and documents that are none. They
**end the run without a report**, and whoever called it gets the fault itself.
-/

set_option autoImplicit false

namespace SqlTemplate

inductive RunFault where
  | load (fault : LoadError)
  | dialect (fault : DialectError)
  | document (fault : DocumentFault)
  | argument (fault : Parameters.ArgumentFault)
  | render (fault : RenderError)

namespace RunFault

def message : RunFault → String
  | .load fault => fault.message
  | .dialect fault => fault.message
  | .document fault => fault.message
  | .argument fault => fault.message
  | .render fault => fault.message

def kind : RunFault → ErrorKind
  | .load fault => fault.kind
  | .dialect fault => fault.kind
  | .document fault => fault.kind
  | .argument _ => .value
  | .render fault => fault.kind

def isReported (fault : RunFault) : Bool := fault.kind.isReported

end RunFault

inductive Ending where
  /-- With a status, after doing what was asked for or reporting what was wrong. -/
  | status (code : Nat)
  /-- With a status, while the command line was being read. -/
  | stopped (code : Nat)
  /-- With a fault that is not reported. -/
  | fault (fault : RunFault)

structure Outcome where
  output : String := ""
  log : String := ""
  ending : Ending

def version : String := "0.1.0"

namespace Request

def dialectsFile? : Request → Option Path
  | .render _ _ _ path _ _ _ => path
  | .list _ _ => none
  | .dialects path => path

/-- The document in the file at a path, if there is a file. Its breaks are unified before the
library reads it. -/
def document (disk : Disk) (library : Library) (path : Path) :
    Except DocumentFault (Option Value) :=
  match disk.file? path with
  | none => .ok none
  | some data =>
    match String.fromUTF8? data with
    | none => .error (.undecodable path.text)
    | some text =>
      ((library.readDocument (Text.unifyBreaks text.toList)).mapError .library).map some

/-- The registry that a request is carried out with. -/
def loading (disk : Disk) (library : Library) (request : Request) : Registry.Loading :=
  match request.dialectsFile? with
  | none => ⟨.builtin, [], none⟩
  | some path =>
    match document disk library path with
    | .error e => ⟨.builtin, [], some e⟩
    | .ok v => Registry.load .builtin path.text v true

/-- The bundle of the template files of inputs, with the events of making it (`_bundle`). -/
def bundle (disk : Disk) (library : Library) (registry : Registry) (dialect : String)
    (inputs : List Path) (exclude : List String) : List Event × Except RunFault Bundle :=
  match registry.get dialect with
  | .error e => ([], .error (.dialect e))
  | .ok dialect =>
    let searched := disk.resolveEvents library exclude inputs
    match disk.resolve library exclude inputs with
    | .error e => (searched, .error (.load e))
    | .ok paths =>
      (searched ++ disk.loadEvents [] paths,
        ((disk.load false paths).mapError .load).map fun table => { table, dialect })

/-- The parameters of a document and of arguments, which win over the document (`_params`). -/
def parameters (disk : Disk) (library : Library) (file : Option Path) (arguments : List String) :
    Except RunFault Parameters := do
  let base ← match file with
    | none => pure (.given [])
    | some path => (document disk library path >>= Parameters.load path.text).mapError .document
  let named ← (arguments.mapM Parameters.readArgument).mapError .argument
  return base.putAll ((Entries.putAll named []).map fun (name, v) => (Value.str name, v))

def dialectsReport (registry : Registry) : String :=
  let item := fun (key : String) => (registry.find? key).map fun d =>
    Json.object [("name", Json.string key), ("like_suffix", Json.string d.likeSuffix),
      ("kind", Json.string d.style.label)]
  Json.object [("dialects", Json.list (registry.available.filterMap item))]

def namesReport (b : Bundle) : String :=
  Json.object [("names", Json.list (b.names.map Json.string))]

/-- The SQL of a fragment of a bundle, for the caller: without the white space at its end. -/
def sqlText (disk : Disk) (library : Library) (b : Bundle) (name : String)
    (arguments : List String) (file : Option Path) : Except RunFault String := do
  let p ← parameters disk library file arguments
  let sql ← (b.sql p name).mapError .render
  return String.ofList (Text.trimRight sql.toList)

def renderedEvents (name : String) (b : Bundle) : Except RunFault String → List Event
  | .ok _ => [.rendered name b.dialect.nameText]
  | .error _ => []

/-- Carries out a request with a registry: what was done, and the text for the caller. -/
def answer (disk : Disk) (library : Library) (registry : Registry) :
    Request → List Event × Except RunFault String
  | .render name inputs exclude _ dialect arguments file =>
    match bundle disk library registry dialect inputs exclude with
    | (events, .error e) => (events, .error e)
    | (events, .ok b) =>
      let text := sqlText disk library b name arguments file
      (events ++ renderedEvents name b text, text)
  | .list inputs exclude =>
    let (events, made) := bundle disk library registry defaultDialect inputs exclude
    (events, made.map namesReport)
  | .dialects _ => ([], .ok (dialectsReport registry))

/-- Carries out a request: what was done, and the text for the caller. -/
def carryOut (disk : Disk) (library : Library) (request : Request) :
    List Event × Except RunFault String :=
  let loading := request.loading disk library
  match loading.fault with
  | some e => (loading.events, .error (.document e))
  | none =>
    let (events, text) := request.answer disk library loading.registry
    (loading.events ++ events, text)

end Request

def Invocation.run (disk : Disk) (library : Library) (invocation : Invocation) : Outcome :=
  let (events, text) := invocation.request.carryOut disk library
  let log := if invocation.debug then String.join (events.map Event.line) else ""
  match text with
  | .ok text => { output := text ++ "\n", log, ending := .status 0 }
  | .error e =>
    if e.isReported then
      { log := log ++ String.ofList (Text.trimRight e.message.toList) ++ "\n"
        ending := .status 2 }
    else { log, ending := .fault e }

def runCommand (disk : Disk) (library : Library) (words : List String) : Outcome :=
  match Invocation.read words with
  | .ok invocation => invocation.run disk library
  | .error .usage => { ending := .stopped 2 }
  | .error .help => { ending := .stopped 0 }
  | .error .version => { output := s!"elsql {version}\n", ending := .stopped 0 }

end SqlTemplate
