import SqlTemplate.Bundle
import SqlTemplate.Files.Discovery

/-!
# Loading templates

Template files are read and parsed one after the other (`from_paths`), so a fault in the first is
told before anything is known about the second. With a base path (`of`) there are at most two of
them: the template file itself, which must exist, and the file that overrides some of its fragments
**for one dialect**, which need not.
-/

set_option autoImplicit false

namespace SqlTemplate
namespace Disk

def loadTable (disk : Disk) (strict : Bool) (path : Path) : Except LoadError Table := do
  let lines ← disk.templateLines path
  ((readTemplate lines).table strict).mapError .format

def load (disk : Disk) (strict : Bool) (paths : List Path) : Except LoadError Table :=
  (paths.mapM (disk.loadTable strict)).map mergeTables

/-- The template files of a base path for a dialect. -/
def filesOf (disk : Disk) (base : Path) (dialect : Dialect) : Except LoadError (List Path) := do
  let template ← base.templateFile.mapError .name
  if (disk.file? template).isNone then throw (.notFound template)
  let overrides ← (base.overrideFile dialect.nameText).mapError .name
  return template :: if (disk.file? overrides).isSome then [overrides] else []

def loadBase (disk : Disk) (strict : Bool) (base : Path) (dialect : Dialect) :
    Except LoadError Table := do
  disk.load strict (← disk.filesOf base dialect)

end Disk
end SqlTemplate
