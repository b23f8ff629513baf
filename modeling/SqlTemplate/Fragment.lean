import SqlTemplate.Tag
import SqlTemplate.Text.Blank
import SqlTemplate.Text.Quoted

/-!
# Fragments

A template is a tree. Its leaves are literal SQL, references to other fragments or to variables, and
paging clauses; its inner nodes are blocks. All blocks have the same shape, **a head and the
children below it**, and differ only in the head, so that whatever walks the tree has one case for
going down and can look at the head when the head matters.

Trees come from parsed text and may also be built by hand. Two heads and one leaf are never written
in a template: the plain group, the test that is neither `@AND` nor `@OR` nor `@IF`, and the bare
leaf, which stands for no SQL at all and cannot be rendered (`ContainerFragment`,
`ConditionalFragment` and `Fragment`, made as they are).
-/

set_option autoImplicit false

namespace SqlTemplate

/-- A condition on a variable: that it is given and not false, or that its text is `value`. -/
structure Condition where
  /-- The variable, without its colon. -/
  name : String
  value : Option String := none
  deriving DecidableEq

inductive TestKind where
  | conjunct
  | disjunct
  | guard
  | plain
  deriving DecidableEq

/-- The word that joins a test to the condition before it. -/
def TestKind.connector? : TestKind → Option String
  | .conjunct => some "AND"
  | .disjunct => some "OR"
  | .guard => none
  | .plain => none

inductive Head where
  /-- A definition, which can be rendered and referred to by its name. -/
  | named (name : String)
  /-- The children, one after the other. -/
  | group
  /-- A `WHERE` clause that goes away when nothing in it is said. -/
  | filter
  /-- Children that appear only if the condition holds. -/
  | test (kind : TestKind) (condition : Condition)
  /-- A comparison with a variable: by pattern if its value holds a wildcard. -/
  | like (name : String)
  /-- A query of which the page given by two variables is selected. -/
  | paging (offset fetch : String)
  deriving DecidableEq

inductive Target where
  | fragment (name : String)
  | value (name : String)
  deriving DecidableEq

namespace Target

/-- A reference as it is written: a variable has a colon. -/
def text : Target → String
  | .fragment name => name
  | .value name => ":" ++ name

def ofChars : List Char → Target
  | ':' :: name => .value (String.ofList name)
  | name => .fragment (String.ofList name)

end Target

inductive Fragment where
  /-- Literal SQL. -/
  | text (sql : String)
  | block (head : Head) (children : List Fragment)
  | inclusion (target : Target)
  /-- A paging clause: the variables of its two numbers, or a fixed number of rows. -/
  | offsetFetch (offset fetch : Option String) (rows : Option Int)
  | bare
  deriving Inhabited

namespace Fragment

/-- The literal text of the end of a line: trimmed, and with one space after it if anything is
left. -/
def lineText (cs : List Char) : String :=
  match Text.trim cs with
  | [] => ""
  | trimmed => String.ofList (trimmed ++ [' '])

mutual

/-- A node and everything below it, from top to bottom. -/
def nodes : Fragment → List Fragment
  | .text sql => [.text sql]
  | .block head children => .block head children :: nodesOfAll children
  | .inclusion target => [.inclusion target]
  | .offsetFetch offset fetch rows => [.offsetFetch offset fetch rows]
  | .bare => [.bare]

def nodesOfAll : List Fragment → List Fragment
  | [] => []
  | f :: rest => nodes f ++ nodesOfAll rest

end

theorem nodesOfAll_eq_flatMap (fs : List Fragment) : nodesOfAll fs = fs.flatMap nodes := by
  induction fs with
  | nil => rfl
  | cons f rest ih => simp [nodesOfAll, ih]

/-- A tree is the first of its own nodes. -/
theorem mem_nodes_self (f : Fragment) : f ∈ nodes f := by
  cases f <;> simp [nodes]

def reference? : Fragment → Option String
  | .inclusion (.fragment name) => some name
  | _ => none

/-- The names of the fragments that a tree refers to, in order and as often as it does. -/
def references (f : Fragment) : List String := (nodes f).filterMap reference?

/-- The word that joins a node to the condition before it. -/
def connector? : Fragment → Option String
  | .block (.test kind _) _ => kind.connector?
  | _ => none

end Fragment
end SqlTemplate
