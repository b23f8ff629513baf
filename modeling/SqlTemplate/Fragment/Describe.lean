import SqlTemplate.Fragment

/-!
# Trees as text

To see what a template was understood as, its tree is written out (`format_tree`), one node to a
line and two spaces to a level. A block shows its sort and, in parentheses, those of its attributes
that say something; an absent or empty attribute is left out, and so are the parentheses when
nothing is left. A leaf shows all its attributes, absent ones too, since a leaf is read as a whole.
-/

set_option autoImplicit false

namespace SqlTemplate

def TestKind.label : TestKind → String
  | .conjunct => "AndFragment"
  | .disjunct => "OrFragment"
  | .guard => "IfFragment"
  | .plain => "ConditionalFragment"

namespace Head

def label : Head → String
  | .named _ => "NameFragment"
  | .group => "ContainerFragment"
  | .filter => "WhereFragment"
  | .test kind _ => kind.label
  | .like _ => "LikeFragment"
  | .paging _ _ => "PagingFragment"

/-- The attributes of a block, empty ones included. -/
def attributes : Head → List (String × String)
  | .named name => [("name", name)]
  | .group => []
  | .filter => []
  | .test _ condition => [("variable", condition.name), ("match_value", condition.value.getD "")]
  | .like name => [("variable", name)]
  | .paging offset fetch => [("offset_variable", offset), ("fetch_variable", fetch)]

def describe (head : Head) : String :=
  let shown := head.attributes.filter fun a => !a.2.isEmpty
  if shown.isEmpty then head.label
  else
    head.label ++ "(" ++ ", ".intercalate (shown.map fun a => a.1 ++ "=" ++ Text.quoted a.2) ++ ")"

end Head

namespace Fragment

def label : Fragment → String
  | .text _ => "TextFragment"
  | .block head _ => head.label
  | .inclusion _ => "IncludeFragment"
  | .offsetFetch _ _ _ => "OffsetFetchFragment"
  | .bare => "Fragment"

def describeOption (shown : Option String) : String := shown.getD "None"

/-- The spaces before a node at a depth; a depth below zero has none. -/
def padding (depth : Int) : String := String.ofList (List.replicate (2 * depth).toNat ' ')

mutual

/-- The lines that describe a tree whose root is at a depth. -/
def describeLines (depth : Int) : Fragment → List String
  | .text sql => [padding depth ++ "TextFragment(text=" ++ Text.quoted sql ++ ")"]
  | .block head children => (padding depth ++ head.describe) :: describeAll (depth + 1) children
  | .inclusion target =>
    [padding depth ++ "IncludeFragment(target=" ++ Text.quoted target.text ++ ")"]
  | .offsetFetch offset fetch rows =>
    [padding depth ++ "OffsetFetchFragment(offset_variable=" ++
      describeOption (offset.map Text.quoted) ++ ", fetch_variable=" ++
      describeOption (fetch.map Text.quoted) ++ ", fetch_rows=" ++
      describeOption (rows.map toString) ++ ")"]
  | .bare => [padding depth ++ "Fragment()"]

def describeAll (depth : Int) : List Fragment → List String
  | [] => []
  | f :: rest => describeLines depth f ++ describeAll depth rest

end

def describe (f : Fragment) (depth : Int) : String :=
  "\n".intercalate (describeLines depth f)

end Fragment
end SqlTemplate
