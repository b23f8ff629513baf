import SqlTemplate.Files.Disk
import SqlTemplate.Library.Ignore
import SqlTemplate.Library.Json

/-!
# The library of the program

Where no other library is at hand, the program reads ignore patterns as version control does, and
documents as far as they are written in JSON. What is proved of searches and of runs holds for
every library; this one is for running.
-/

set_option autoImplicit false

namespace SqlTemplate

def Library.plain : Library where
  readPatterns := fun lines =>
    ((IgnoreRule.readAll lines).mapError PatternFault.raised).map IgnoreRule.ignores
  readDocument := fun text =>
    match Json.read? (dropMark text) with
    | some v => .ok v
    | none => .error ⟨.document, "no document in JSON"⟩

end SqlTemplate
