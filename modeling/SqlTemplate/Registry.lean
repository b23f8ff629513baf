import SqlTemplate.Dialect
import SqlTemplate.Order
import SqlTemplate.Text.Lowercase

/-!
# The dialect registry

Dialects are known by name, and a name is the same in capitals and small letters. The registry keeps
each dialect under the lower-case form of its own name, never under another one, and nothing is ever
taken out of it, so that a name that once resolved always resolves.

Every operation here (`register`, `get`, `available`) is a function of a registry, and the one that
changes it gives the next. When it fails it gives none, and so cannot have changed anything.
-/

set_option autoImplicit false

namespace SqlTemplate

structure Registry where
  /-- Each dialect under its name in lower case. -/
  entries : List (String × Dialect)

namespace Registry

/-- The form of a name under which a dialect is kept. -/
def key (name : String) : String := Text.lowerString name

def available (r : Registry) : List String := Order.sortTexts (Entries.keys r.entries)

/-- The dialect with a name, in any case. -/
def find? (r : Registry) (name : String) : Option Dialect := Entries.find? (key name) r.entries

def get (r : Registry) (name : String) : Except DialectError Dialect :=
  match r.find? name with
  | some d => .ok d
  | none => .error (.unknown name r.available)

/-- The dialect with a name that may be missing; a missing name is that of no dialect. -/
def getOption (r : Registry) (name : Option String) : Except DialectError Dialect :=
  match name with
  | some name => r.get name
  | none =>
    match r.find? "" with
    | some d => .ok d
    | none => .error (.unknown "None" r.available)

/-- Registers a dialect under its name. A name that is taken needs `replace`. -/
def register (r : Registry) (d : Dialect) (replace : Bool) : Except DialectError Registry :=
  match d.name with
  | .str name =>
    if name.isEmpty then .error .unnamed
    else if (r.find? name).isSome && !replace then .error (.alreadyRegistered name)
    else .ok ⟨Entries.put (key name) d r.entries⟩
  | _ => .error .unnamed

def builtin : Registry where
  entries := Dialect.builtins.map fun d => (key d.nameText, d)

/-- What has been registered can be got under its name. -/
theorem find?_register {r r' : Registry} {d : Dialect} {replace : Bool} {name : String}
    (hname : d.name = .str name) (h : r.register d replace = .ok r') :
    r'.find? name = some d := by
  simp only [register, hname] at h
  split at h
  · cases h
  · split at h
    · cases h
    · cases h
      simp [find?]

end Registry
end SqlTemplate
