import SqlTemplate.Command.Grammar
import SqlTemplate.Files.Path

/-!
# Requests

A command line asks for one of three things: the SQL of a fragment, the names of the fragments, or
the dialects (`_build_parser`). What may be said besides depends on which, so a line is read in two
steps. The first knows only what can stand before the command, and takes the command with all that
follows it; the second reads that by the command's own grammar. **What either step leaves over is
refused**, but only after both have been gone through.
-/

set_option autoImplicit false

namespace SqlTemplate

inductive Request where
  | render (name : String) (inputs : List Path) (exclude : List String)
      (dialectsFile : Option Path) (dialect : String) (params : List String)
      (paramsFile : Option Path)
  | list (inputs : List Path) (exclude : List String)
  | dialects (dialectsFile : Option Path)

/-- A request, and whether the run is to tell what it does. -/
structure Invocation where
  debug : Bool
  request : Request

namespace Request

def debugOption : List Char := "--debug".toList
def excludeOption : List Char := "--exclude".toList
def dialectsFileOption : List Char := "--dialects-file".toList
def dialectOption : List Char := "--dialect".toList
def paramOption : List Char := "--param".toList
def paramsFileOption : List Char := "--params-file".toList

/-- The options that end the reading with a help text. -/
def helpOptions : List CommandOption := [⟨"-h".toList, .help⟩, ⟨"--help".toList, .help⟩]

/-- What can stand before the command. -/
def outerGrammar : Grammar where
  options := helpOptions ++
    [⟨"-V".toList, .version⟩, ⟨"--version".toList, .version⟩, ⟨debugOption, .mark⟩]
  operands := [.command]

def renderGrammar : Grammar where
  options := helpOptions ++
    [excludeOption, dialectsFileOption, dialectOption, paramOption, paramsFileOption].map
      fun spelling => ⟨spelling, .value⟩
  operands := [.one, .several]

def listGrammar : Grammar where
  options := helpOptions ++ [⟨excludeOption, .value⟩]
  operands := [.several]

def dialectsGrammar : Grammar where
  options := helpOptions ++ [⟨dialectsFileOption, .value⟩]
  operands := []

def defaultDialect : String := "default"

def ofRender? (line : CommandLine) : Option Request :=
  match line.operands with
  | [[name], inputs] =>
    some (.render name (inputs.map Path.ofText) (line.values excludeOption)
      ((line.value? dialectsFileOption).map Path.ofText)
      ((line.value? dialectOption).getD defaultDialect) (line.values paramOption)
      ((line.value? paramsFileOption).map Path.ofText))
  | _ => none

def ofList? (line : CommandLine) : Option Request :=
  match line.operands with
  | [inputs] => some (.list (inputs.map Path.ofText) (line.values excludeOption))
  | _ => none

def ofDialects? (line : CommandLine) : Option Request :=
  some (.dialects ((line.value? dialectsFileOption).map Path.ofText))

/-- The grammar of a command, and the request that a line of it makes. -/
def command? : String → Option (Grammar × (CommandLine → Option Request))
  | "render" => some (renderGrammar, ofRender?)
  | "list" => some (listGrammar, ofList?)
  | "dialects" => some (dialectsGrammar, ofDialects?)
  | _ => none

end Request

def Invocation.read (words : List String) : Except Stop Invocation := do
  let outer ← Request.outerGrammar.read words
  match outer.operands with
  | [name :: rest] =>
    match Request.command? name with
    | none => throw .usage
    | some (grammar, request?) =>
      let inner ← grammar.read rest
      match request? inner with
      | none => throw .usage
      | some request =>
        if outer.extras.isEmpty && inner.extras.isEmpty then
          return ⟨outer.has Request.debugOption, request⟩
        else throw .usage
  | _ => throw .usage

end SqlTemplate
