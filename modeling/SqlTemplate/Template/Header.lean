import SqlTemplate.Fragment
import SqlTemplate.Tag.Form

/-!
# Headers of block tags

A block tag takes its whole line. The line, trimmed, must be the tag's form and nothing more, and
what the form captures becomes the head of the block (`_parse_name`, `_parse_where`,
`_parse_paging`, `_parse_condition`). A match value is captured with its equals sign and the spaces
around it, so it is cleaned before it is stored (`extract_match_value`).
-/

set_option autoImplicit false

namespace SqlTemplate

def BlockTag.form : BlockTag → Form
  | .naming => ⟨BlockTag.keyword .naming, [.exact ['('], .word, .exact [')']], false⟩
  | .paging => Form.twoVariables (BlockTag.keyword .paging) false
  | .filter => ⟨BlockTag.keyword .filter, [], false⟩
  | .conjunct => Form.condition (BlockTag.keyword .conjunct)
  | .disjunct => Form.condition (BlockTag.keyword .disjunct)
  | .guard => Form.condition (BlockTag.keyword .guard)

/-- The value in a match value as it is written: without the white space around it, and without
one equals sign before it. -/
def matchValueText (written : List Char) : List Char :=
  match Text.trim written with
  | '=' :: value => Text.trim value
  | value => value

/-- A condition from the two captures of its form, the variable with its colon. -/
def Condition.ofCaptures (reference : List Char) (value : Option (List Char)) : Condition :=
  ⟨String.ofList (reference.drop 1), value.map fun v => String.ofList (matchValueText v)⟩

def BlockTag.testKind? : BlockTag → Option TestKind
  | .conjunct => some .conjunct
  | .disjunct => some .disjunct
  | .guard => some .guard
  | _ => none

/-- The head that a block tag and its captures make. -/
def BlockTag.head? (tag : BlockTag) (captured : Captures) : Option Head :=
  match tag, captured with
  | .naming, [some name] => some (.named (String.ofList name))
  | .filter, [] => some .filter
  | .paging, [some offset, some fetch] =>
    some (.paging (String.ofList offset) (String.ofList fetch))
  | tag, [some reference, value] =>
    tag.testKind?.map fun kind => .test kind (.ofCaptures reference value)
  | _, _ => none

/-- The head of the block that a trimmed line opens, if it is written in the tag's form. -/
def BlockTag.readHead? (tag : BlockTag) (trimmed : List Char) : Option Head :=
  (tag.form.full? trimmed).bind tag.head?

example : BlockTag.readHead? .conjunct "@AND(:a =b)".toList =
    some (.test .conjunct ⟨"a", some "b"⟩) := by cbv
example : BlockTag.readHead? .conjunct "@AND(:a  =b)".toList = none := by cbv
example : BlockTag.readHead? .paging "@PAGING(:o , :f)".toList = some (.paging "o" "f") := by cbv

end SqlTemplate
