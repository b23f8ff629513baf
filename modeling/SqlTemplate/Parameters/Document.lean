import SqlTemplate.Dialect.Document
import SqlTemplate.Parameters

/-!
# Parameters from a document or a command line

A document of parameters is a mapping from names to values (`load_parameters`). Its keys may be
written as anything but are names, so they are taken as texts, and two keys with one text are one
parameter with the later value. On a command line a parameter is a name and a text with an equals
sign between them, and the two words for truth values stand for the truth values (`_parse_param`).
-/

set_option autoImplicit false

namespace SqlTemplate
namespace Parameters

def load (path : String) (document : Option Value) : Except DocumentFault Parameters :=
  match document with
  | none => .error (.parametersNotFound path)
  | some v =>
    match v.mapping? with
    | none => .error (.parametersNotMapping path)
    | some entries =>
      .ok (.given (Entries.putAll (entries.map fun (k, v) => (Value.str k.text, v)) []))

/-- An argument that has no equals sign or nothing before it. -/
structure ArgumentFault where
  argument : String
  deriving DecidableEq

def ArgumentFault.message (e : ArgumentFault) : String :=
  s!"Invalid --param '{e.argument}', expected KEY=VALUE"

def readArgument (argument : String) : Except ArgumentFault (String × Value) :=
  match Text.splitFirst? ['='] argument.toList with
  | none => .error ⟨argument⟩
  | some (before, after) =>
    match Text.trim before with
    | [] => .error ⟨argument⟩
    | name =>
      let value := match String.ofList after with
        | "true" => .bool true
        | "false" => .bool false
        | text => .str text
      .ok (String.ofList name, value)

end Parameters
end SqlTemplate
