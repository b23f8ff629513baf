import SqlTemplate.Render.Error
import SqlTemplate.Template.Table

/-!
# Rendering

A tree is rendered by going down it (`FragmentRenderer`): each node makes a text, and the text of a
block is made from the texts of its children. The one thing that leaves the tree is a reference to
another fragment, so `Fragment.render` is given the meaning of references as a function and is then
**structural in the tree**; it could not loop if it wanted to.

The loop that matters is the one through the table, and it is tied in `Table.renderTree`. Beside the
tree it carries the names that are being rendered, from the one asked for down to the present one. A
reference to one of these is refused, with the chain of names as its explanation; any other name
that the table has joins them, so each step down leaves fewer names of the table to go to. That
count is why rendering ends for every table, cyclic or not. The names being rendered decide nothing
else: they can turn a text into an error but never into another text.
-/

set_option autoImplicit false

namespace SqlTemplate

structure Setting where
  parameters : Parameters := .absent
  dialect : Dialect := .default
  /-- Whether the values of variables may be inserted as SQL. -/
  rawAllowed : Bool := true

/-- Text for what the children of a `WHERE` said, each with the word that joins it to what was
said before it. -/
def joinConditions : List (Option String × String) → String
  | [] => ""
  | (connector, said) :: rest =>
    (match connector with
      | some word => word ++ " " ++ said
      | none => said) ++ joinConditions rest

/-- The `WHERE` clause of what its children said: those that said nothing do not count, the first
of the others goes without its connector, and nothing said is no clause (`_render_where`). -/
def filterText (said : List (Option String × String)) : String :=
  match said.filter fun s => !s.2.isEmpty with
  | [] => ""
  | (_, first) :: rest => "WHERE " ++ first ++ joinConditions rest

namespace Setting

/-- The text of a comparison whose right side is `body` (`_render_like`). -/
def likeText (s : Setting) (name : String) (body : String) : String :=
  if Dialect.isWildcard (s.parameters.get name).sqlText then
    "LIKE " ++ body ++ s.dialect.likeSuffix
  else "= " ++ body

/-- The value of a variable inserted as SQL, with a space after it (`_render_raw_include`). -/
def rawText (s : Setting) (name : String) : Except RenderError String :=
  match s.parameters.find? name with
  | none => .error (.unknownVariable name)
  | some v => if s.rawAllowed then .ok (v.sqlText ++ " ") else .error (.rawForbidden name)

/-- The clause of a paging tag within a line (`_render_offset_fetch`). -/
def clauseText (s : Setting) (offset fetch : Option String) (rows : Option Int) :
    Except RenderError String := do
  let offset ← s.parameters.pageNumber? offset
  let fetch ← match rows with
    | some rows => pure (some rows)
    | none => s.parameters.pageNumber? fetch
  (s.dialect.pagingClause offset fetch).mapError .dialect

/-- The query of a paging block, with its page asked for (`_render_paging`). -/
def pageText (s : Setting) (offset fetch : String) (query : String) :
    Except RenderError String := do
  let offset ← s.parameters.pageNumber? (some offset)
  let fetch ← s.parameters.pageNumber? (some fetch)
  (s.dialect.addPaging query offset fetch).mapError .dialect

/-- Whether a block's children are rendered at all. -/
def enters (s : Setting) : Head → Bool
  | .test _ condition => s.parameters.satisfies condition
  | _ => true

/-- The text of a block from the texts of its children, each with its connector. -/
def blockText (s : Setting) (head : Head) (said : List (Option String × String)) :
    Except RenderError String :=
  let all := String.join (said.map Prod.snd)
  match head with
  | .named _ => .ok all
  | .group => .ok all
  | .test _ _ => .ok all
  | .filter => .ok (filterText said)
  | .like name => .ok (s.likeText name all)
  | .paging offset fetch => s.pageText offset fetch all

end Setting

namespace Fragment

mutual

/-- The text of a tree, where `refer` gives the text of a fragment referred to by name. -/
def render (s : Setting) (refer : String → Except RenderError String) :
    Fragment → Except RenderError String
  | .text sql => .ok sql
  | .block head children =>
    if s.enters head then do
      let said ← renderEach s refer children
      s.blockText head said
    else .ok ""
  | .inclusion (.fragment name) => refer name
  | .inclusion (.value name) => s.rawText name
  | .offsetFetch offset fetch rows => s.clauseText offset fetch rows
  | .bare => .error .bareNode

def renderEach (s : Setting) (refer : String → Except RenderError String) :
    List Fragment → Except RenderError (List (Option String × String))
  | [] => .ok []
  | f :: rest => do
    let said ← render s refer f
    let others ← renderEach s refer rest
    return (f.connector?, said) :: others

end

end Fragment

namespace Table

/-- How many entries of the table are not among the names being rendered. -/
def remaining (table : Table) (active : List String) : Nat :=
  table.countP fun entry => !active.contains entry.1

/-- A stricter test that fails on a member counts fewer members. -/
theorem countP_lt_of_mem {α : Type} {p q : α → Bool} (hpq : ∀ x, p x = true → q x = true) {a : α}
    (hp : p a = false) (hq : q a = true) {l : List α} (ha : a ∈ l) : l.countP p < l.countP q := by
  induction l with
  | nil => cases ha
  | cons b rest ih =>
    have hle : rest.countP p ≤ rest.countP q := List.countP_mono_left fun x _ => hpq x
    rcases List.mem_cons.1 ha with rfl | ha
    · simp only [List.countP_cons, hp, hq, if_true, Bool.false_eq_true, if_false]
      omega
    · have := ih ha
      simp only [List.countP_cons]
      by_cases hb : p b = true
      · simp only [hb, hpq b hb, if_true]
        omega
      · rw [if_neg hb]
        split <;> omega

/-- A name that the table has and that is not being rendered is one fewer to go to once it is. -/
theorem remaining_append_lt {table : Table} {active : List String} {name : String}
    {tree : Fragment} (hf : Entries.find? name table = some tree) (hn : name ∉ active) :
    remaining table (active ++ [name]) < remaining table active := by
  have hk : name ∈ Entries.keys table := Entries.find?_isSome_iff.1 (by simp [hf])
  obtain ⟨entry, hentry, rfl⟩ := List.mem_map.1 hk
  refine countP_lt_of_mem ?_ ?_ ?_ hentry
  · intro e he
    simp only [List.contains_eq_mem, List.mem_append, List.mem_singleton, Bool.not_eq_true',
      decide_eq_false_iff_not, not_or] at he ⊢
    exact he.1
  · simp
  · simpa using hn

/-- The text of a tree that is rendered on behalf of the active names, the last of which is its
own. -/
def renderTree (table : Table) (s : Setting) (active : List String) (tree : Fragment) :
    Except RenderError String :=
  tree.render s fun name =>
    if _hn : name ∈ active then .error (.recursion (active ++ [name]))
    else
      match _hf : Entries.find? name table with
      | none => .error (.unknownFragment name)
      | some target => renderTree table s (active ++ [name]) target
termination_by table.remaining active
decreasing_by exact remaining_append_lt _hf _hn

/-- The SQL of the fragment with a name. -/
def render (table : Table) (s : Setting) (name : String) : Except RenderError String :=
  match Entries.find? name table with
  | none => .error (.unknownFragment name)
  | some tree => renderTree table s [name] tree

end Table
end SqlTemplate
