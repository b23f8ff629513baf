import SqlTemplate.ErrorKind
import SqlTemplate.Fragment
import SqlTemplate.Value

/-!
# Parameters

Rendering asks two things about a variable: is it given, and what is its value. The two are
different questions, because a variable may be given without a value. Parameters come from a mapping
(`MapParameterSource`), whose keys can be any value but are only ever asked for by name, or there
are none at all (`EmptyParameterSource`).

Besides looking variables up, this file holds the one test that all conditional blocks share
(`ConditionEvaluator.is_match`). A variable that is not given fails it. With a match value the texts
must be equal, letter by letter. Without one, a truth value decides for itself, and **anything else
that is given passes**, the empty text and zero included.
-/

set_option autoImplicit false

namespace SqlTemplate

/-- What can be wrong with what is handed over as parameters. -/
inductive ParameterFault where
  /-- Neither nothing nor a mapping. -/
  | unsupported (sort : String)
  /-- Not a mapping and not a sequence of pairs either. -/
  | notASequence (sort : String)
  | memberNotASequence (index : Nat)
  | memberNotAPair (index length : Nat)
  deriving DecidableEq

def ParameterFault.message : ParameterFault → String
  | .unsupported sort => s!"Unsupported parameter source: {sort}"
  | .notASequence sort => s!"'{sort}' object is not iterable"
  | .memberNotASequence index =>
    s!"cannot convert dictionary update sequence element #{index} to a sequence"
  | .memberNotAPair index length =>
    s!"dictionary update sequence element #{index} has length {length}; 2 is required"

def ParameterFault.kind : ParameterFault → ErrorKind
  | .memberNotAPair _ _ => .value
  | _ => .type

namespace Value

/-- The members of a value that is a sequence; those of a mapping are its keys. -/
def members? : Value → Option (List Value)
  | .str s => some (s.toList.map fun c => .str (String.singleton c))
  | .bytes b => some (b.map fun x => .int x.toNat)
  | .list items => some items
  | .mapping entries => some (entries.map Prod.fst)
  | _ => none

/-- Reads members as pairs of a key and a value, the first member being number `index`. -/
def pairs (index : Nat) : List Value → Except ParameterFault (List (Value × Value))
  | [] => .ok []
  | v :: rest =>
    match v.members? with
    | none => .error (.memberNotASequence index)
    | some [key, value] => (pairs (index + 1) rest).map ((key, value) :: ·)
    | some other => .error (.memberNotAPair index other.length)

def entries : Value → Except ParameterFault (List (Value × Value))
  | .mapping entries => .ok entries
  | v =>
    match v.members? with
    | none => .error (.notASequence v.sort)
    | some members => pairs 0 members

end Value

inductive Parameters where
  | absent
  | given (entries : List (Value × Value))
  deriving Inhabited

namespace Parameters

def ofValue? : Value → Except ParameterFault Parameters
  | .null => .ok .absent
  | .mapping entries => .ok (.given entries)
  | v => .error (.unsupported v.sort)

def find? (p : Parameters) (name : String) : Option Value :=
  match p with
  | .absent => none
  | .given entries => Entries.find? (.str name) entries

def has (p : Parameters) (name : String) : Bool := (p.find? name).isSome

/-- The value of a variable, and no value for one that is not given. -/
def get (p : Parameters) (name : String) : Value := (p.find? name).getD .null

def entries : Parameters → List (Value × Value)
  | .absent => []
  | .given entries => entries

/-- Adds entries, each keeping the place of a key that is already there. -/
def putAll (new : List (Value × Value)) (p : Parameters) : Parameters :=
  .given (Entries.putAll new p.entries)

def put (name : String) (value : Value) (p : Parameters) : Parameters :=
  p.putAll [(.str name, value)]

/-- Parameters from a value and from variables given one by one. A value that holds nothing counts
as an empty mapping. -/
def build (value : Value) (named : List (String × Value)) : Except ParameterFault Parameters :=
  (if value.holdsNothing then .ok [] else value.entries).map fun entries =>
    (Parameters.given (Entries.putAll entries [])).putAll (named.map fun (k, v) => (.str k, v))

def putValue (value : Value) (p : Parameters) : Except ParameterFault Parameters :=
  value.entries.map p.putAll

def describe (p : Parameters) : String :=
  "MapParameterSource(" ++ (Value.mapping p.entries).quoted ++ ")"

def satisfies (p : Parameters) (c : Condition) : Bool :=
  match p.find? c.name with
  | none => false
  | some v =>
    match c.value with
    | some expected => v.sqlText == expected
    | none =>
      match v with
      | .bool b => b
      | _ => true

end Parameters
end SqlTemplate
