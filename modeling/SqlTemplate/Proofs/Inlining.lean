import SqlTemplate.Proofs.Transparency
import Mathlib

/-!
# Putting fragments in the place of references

A reference can be read as an abbreviation of what it refers to. `Fragment.inlined` puts a tree in
the place of each reference, wherever in the tree it stands; `Table.Inlines` says that a table is
another one in which that has been done throughout, **with trees that are themselves so expanded**.
Rendering an expanded tree is rendering the tree with references that come to what was put in their
place (`Fragment.render_inlined`). That holds in every block at once, provided that what is put
there has no connector of its own, since that is the one thing a block sees of its children besides
their texts. A group has none.

Where references make no cycle, the active names refuse nothing, so a tree can be rendered with
references that simply come to the texts of their fragments. The two facts meet by induction along
the references (`Table.Acyclic.induction`). No order of the table is used, and the only measure is
the count that ends rendering anyway.
-/

set_option autoImplicit false

namespace SqlTemplate

namespace Fragment

mutual

/-- A tree with something else in the place of its references to fragments. -/
def inlined (meaning : String → Fragment) : Fragment → Fragment
  | .text sql => .text sql
  | .block head children => .block head (inlinedAll meaning children)
  | .inclusion (.fragment name) => meaning name
  | .inclusion (.value v) => .inclusion (.value v)
  | .offsetFetch offset fetch rows => .offsetFetch offset fetch rows
  | .bare => .bare

/-- The same for several trees. -/
def inlinedAll (meaning : String → Fragment) : List Fragment → List Fragment
  | [] => []
  | f :: rest => inlined meaning f :: inlinedAll meaning rest

end

/-- What takes the place of a reference to a definition: its children without its name. -/
def asGroup : Fragment → Fragment
  | .block (.named _) children => .block .group children
  | f => .block .group [f]

theorem connector?_asGroup (f : Fragment) : f.asGroup.connector? = none := by
  unfold asGroup
  split <;> rfl

section Texts

variable {s : Setting} {refer : String → Except RenderError String}

theorem render_group_single (f : Fragment) :
    (Fragment.block .group [f]).render s refer = f.render s refer := by
  simp only [render, renderEach, Setting.enters, if_true]
  cases f.render s refer with
  | error e => rfl
  | ok text =>
    have hjoin : String.join [text] = text := String.empty_append
    exact congrArg Except.ok hjoin

theorem render_asGroup (f : Fragment) : f.asGroup.render s refer = f.render s refer := by
  unfold asGroup
  split
  · rfl
  · exact render_group_single _

theorem connector?_inlined {meaning : String → Fragment}
    (hmeaning : ∀ name, (meaning name).connector? = none) (f : Fragment) :
    (f.inlined meaning).connector? = f.connector? := by
  cases f with
  | text | offsetFetch | bare => rfl
  | block head children => cases head <;> rfl
  | inclusion target =>
    cases target with
    | fragment name => exact hmeaning name
    | value v => rfl

/-- **Putting trees in the place of references gives references their texts.** -/
theorem render_inlined {meaning : String → Fragment}
    (hmeaning : ∀ name, (meaning name).connector? = none) (f : Fragment) :
    (f.inlined meaning).render s refer = f.render s fun name => (meaning name).render s refer := by
  induction f using tree_induction
    (q := fun fs => renderEach s refer (inlinedAll meaning fs) =
      renderEach s (fun name => (meaning name).render s refer) fs) with
  | text | offsetFetch | bare => rfl
  | block head children ih => rw [inlined, render, render, ih]
  | inclusion target => cases target <;> rfl
  | nil => rfl
  | cons f rest ihf ihrest =>
    rw [inlinedAll, renderEach, renderEach, ihf, ihrest, connector?_inlined hmeaning]

end Texts

/-! ## What an expanded tree refers to -/

theorem references_block (head : Head) (children : List Fragment) :
    (Fragment.block head children).references = children.flatMap references := by
  have hhead : (Fragment.block head children).references =
      (nodesOfAll children).filterMap reference? := rfl
  rw [hhead, nodesOfAll_eq_flatMap, List.filterMap_flatMap]
  rfl

theorem references_asGroup (f : Fragment) : f.asGroup.references = f.references := by
  unfold asGroup
  split
  · rw [references_block, references_block]
  · rw [references_block, List.flatMap_singleton]

theorem references_inlined (meaning : String → Fragment) (f : Fragment) :
    (f.inlined meaning).references = f.references.flatMap fun name => (meaning name).references := by
  induction f using tree_induction
    (q := fun fs => (inlinedAll meaning fs).flatMap references =
      (fs.flatMap references).flatMap fun name => (meaning name).references) with
  | text | offsetFetch | bare => rfl
  | block head children ih => rw [inlined, references_block, references_block, ih]
  | inclusion target =>
    cases target with
    | fragment name => exact (List.append_nil _).symm
    | value v => rfl
  | nil => rfl
  | cons f rest ihf ihrest =>
    rw [inlinedAll, List.flatMap_cons, List.flatMap_cons, List.flatMap_append, ihf, ihrest]

theorem inlined_congr {meaning meaning' : String → Fragment} {f : Fragment}
    (h : ∀ name ∈ f.references, meaning name = meaning' name) :
    f.inlined meaning = f.inlined meaning' := by
  induction f using tree_induction
    (q := fun fs => (∀ name ∈ fs.flatMap references, meaning name = meaning' name) →
      inlinedAll meaning fs = inlinedAll meaning' fs) with
  | text | offsetFetch | bare => rfl
  | block head children ih =>
    rw [references_block] at h
    rw [inlined, inlined, ih h]
  | inclusion target =>
    cases target with
    | fragment name => exact h name (List.mem_singleton_self name)
    | value v => rfl
  | nil => rfl
  | cons f rest ihf ihrest =>
    next h =>
    rw [List.flatMap_cons] at h
    rw [inlinedAll, inlinedAll, ihf fun name hname => h name (List.mem_append_left _ hname),
      ihrest fun name hname => h name (List.mem_append_right _ hname)]

end Fragment

namespace Table

variable {table : Table} {s : Setting}

/-- What takes the place of a reference to a name; a reference to nothing stays. -/
def expansion (table : Table) (name : String) : Fragment :=
  match Entries.find? name table with
  | none => .inclusion (.fragment name)
  | some tree => tree.asGroup

/-- A table is another one in which each reference has been replaced by the tree of its name, in
which each reference has been replaced. -/
def Inlines (table other : Table) : Prop :=
  other = table.map fun entry => (entry.1, entry.2.inlined other.expansion)

/-- A tree with its references replaced, and those in what replaces them; a name is not expanded
inside of itself. -/
def inlineTree (table : Table) (active : List String) (tree : Fragment) : Fragment :=
  tree.inlined fun name =>
    if _hn : name ∈ active then .inclusion (.fragment name)
    else
      match _hf : Entries.find? name table with
      | none => .inclusion (.fragment name)
      | some target => (inlineTree table (active ++ [name]) target).asGroup
termination_by table.remaining active
decreasing_by exact remaining_append_lt _hf _hn

/-- The table with all references replaced. -/
def inline (table : Table) : Table :=
  table.map fun entry => (entry.1, table.inlineTree [] entry.2)

theorem connector?_expansion (name : String) : (table.expansion name).connector? = none := by
  unfold expansion
  split
  · rfl
  · exact Fragment.connector?_asGroup _

/-! ## Going along references that make no cycle -/

/-- What holds of a name when it holds of all names that its tree refers to holds of all names. -/
theorem Acyclic.induction (hacyclic : table.Acyclic) {motive : String → Prop}
    (step : ∀ name, (∀ next, table.Refers name next → motive next) → motive name)
    (name : String) : motive name := by
  -- the names passed on the way are names of the table and do not come again
  suffices h : ∀ (count : Nat) (passed : List String), table.remaining passed = count →
      ∀ name, (∀ before ∈ passed, Relation.TransGen table.Refers before name) → motive name from
    h _ [] rfl name fun before hbefore => absurd hbefore List.not_mem_nil
  intro count
  induction count using Nat.strong_induction_on with
  | _ count ih =>
    intro passed hcount name hpassed
    refine step name fun next hnext => ?_
    have hnew : name ∉ passed := fun hold => hacyclic name (hpassed name hold)
    obtain ⟨tree, htree, -⟩ := id hnext
    refine ih _ (hcount ▸ remaining_append_lt htree hnew) (passed ++ [name]) rfl next ?_
    intro before hbefore
    rcases List.mem_append.mp hbefore with hbefore | hbefore
    · exact (hpassed before hbefore).tail hnext
    · rw [List.mem_singleton.mp hbefore]
      exact .single hnext

/-- Nothing that a tree reaches by references is active. -/
def Clear (table : Table) (active : List String) (tree : Fragment) : Prop :=
  ∀ name ∈ tree.references, ∀ other, table.Reaches name other → other ∉ active

theorem clear_nil (tree : Fragment) : table.Clear [] tree :=
  fun _ _ _ _ => List.not_mem_nil

theorem Clear.not_mem {active : List String} {tree : Fragment} (h : table.Clear active tree)
    {name : String} (href : name ∈ tree.references) : name ∉ active :=
  h name href name .refl

theorem Clear.push (hacyclic : table.Acyclic) {active : List String} {tree target : Fragment}
    {name : String} (h : table.Clear active tree) (href : name ∈ tree.references)
    (hf : Entries.find? name table = some target) : table.Clear (active ++ [name]) target := by
  intro next hnext other hreach hother
  have hstep : table.Refers name next := ⟨target, hf, hnext⟩
  rcases List.mem_append.mp hother with hother | hother
  · exact h name href other (.head hstep hreach) hother
  · rw [List.mem_singleton.mp hother] at hreach
    exact hacyclic name (Relation.TransGen.head' hstep hreach)

theorem clear_root (hacyclic : table.Acyclic) {name : String} {tree : Fragment}
    (hf : Entries.find? name table = some tree) : table.Clear [name] tree := by
  have href : name ∈ (Fragment.inclusion (.fragment name)).references := List.mem_singleton_self name
  exact (clear_nil _).push hacyclic href hf

theorem renderTree_eq_of_clear (hacyclic : table.Acyclic) {active active' : List String}
    {tree : Fragment} (h : table.Clear active tree) (h' : table.Clear active' tree) :
    renderTree table s active tree = renderTree table s active' tree := by
  induction active, tree using renderTree.induct table generalizing active' with
  | case1 active tree ih =>
    rw [renderTree_eq, renderTree_eq]
    refine Fragment.render_congr fun name href => ?_
    unfold refer
    rw [if_neg (h.not_mem href), if_neg (h'.not_mem href)]
    cases hf : Entries.find? name table with
    | none => rfl
    | some target =>
      exact ih name (h.not_mem href) target hf (h.push hacyclic href hf) (h'.push hacyclic href hf)

/-- Without cycles, references come to what their fragments come to. -/
theorem render_eq_of_acyclic (hacyclic : table.Acyclic) {name : String} {tree : Fragment}
    (hf : Entries.find? name table = some tree) :
    table.render s name = tree.render s (table.render s) := by
  have hclear := clear_root hacyclic hf
  rw [render, hf]
  show renderTree table s [name] tree = _
  rw [renderTree_eq]
  refine Fragment.render_congr fun next href => ?_
  unfold refer render
  rw [if_neg (hclear.not_mem href)]
  cases hnext : Entries.find? next table with
  | none => rfl
  | some target =>
    exact renderTree_eq_of_clear hacyclic (hclear.push hacyclic href hnext)
      (clear_root hacyclic hnext)

/-! ## The expanded table exists -/

theorem find?_map_entries (expand : Fragment → Fragment) (name : String) :
    Entries.find? name (table.map fun entry => (entry.1, expand entry.2)) =
      (Entries.find? name table).map expand := by
  induction table with
  | nil => rfl
  | cons entry rest ih =>
    obtain ⟨key, tree⟩ := entry
    rw [List.map_cons, Entries.find?, Entries.find?]
    split
    · rfl
    · exact ih

theorem inlineTree_eq_of_clear (hacyclic : table.Acyclic) {active active' : List String}
    {tree : Fragment} (h : table.Clear active tree) (h' : table.Clear active' tree) :
    inlineTree table active tree = inlineTree table active' tree := by
  induction active, tree using inlineTree.induct table generalizing active' with
  | case1 active tree ih =>
    rw [inlineTree, inlineTree]
    refine Fragment.inlined_congr fun name href => ?_
    rw [dif_neg (h.not_mem href), dif_neg (h'.not_mem href)]
    split
    · rfl
    · next target hf =>
      rw [ih name (h.not_mem href) target hf (h.push hacyclic href hf) (h'.push hacyclic href hf)]

theorem inlines_inline (hacyclic : table.Acyclic) : table.Inlines table.inline := by
  refine List.map_congr_left fun entry hentry => ?_
  refine congrArg (Prod.mk entry.1) ?_
  rw [inlineTree]
  refine Fragment.inlined_congr fun name href => ?_
  rw [dif_neg List.not_mem_nil, expansion, inline, find?_map_entries]
  split
  · next hnone => rw [hnone]; rfl
  · next target hf =>
    rw [hf]
    show (inlineTree table ([] ++ [name]) target).asGroup = (inlineTree table [] target).asGroup
    rw [inlineTree_eq_of_clear hacyclic ((clear_nil _).push hacyclic href hf) (clear_nil target)]

/-! ## It renders alike -/

variable {other : Table}

theorem Inlines.find? (h : table.Inlines other) (name : String) :
    Entries.find? name other =
      (Entries.find? name table).map fun tree => tree.inlined other.expansion := by
  conv_lhs => rw [h]
  exact find?_map_entries _ name

theorem Inlines.references_expansion (hacyclic : table.Acyclic) (hresolved : table.unresolved = [])
    (h : table.Inlines other) (name : String) (hname : (Entries.find? name table).isSome) :
    (other.expansion name).references = [] := by
  induction name using hacyclic.induction with
  | step name ih =>
    obtain ⟨tree, hf⟩ := Option.isSome_iff_exists.mp hname
    rw [expansion, h.find?, hf]
    show (tree.inlined other.expansion).asGroup.references = []
    rw [Fragment.references_asGroup, Fragment.references_inlined, List.flatMap_eq_nil_iff]
    intro next hnext
    exact ih next ⟨tree, hf, hnext⟩
      (isSome_find?_of_resolved hresolved (Entries.mem_of_find? hf) hnext)

/-- Where references to nothing are faults, what replaces a name comes to what the name does. -/
theorem Inlines.render_expansion (hacyclic : table.Acyclic) (h : table.Inlines other)
    {refer : String → Except RenderError String}
    (hrefer : ∀ name, Entries.find? name table = none → refer name = .error (.unknownFragment name))
    (name : String) : (other.expansion name).render s refer = table.render s name := by
  induction name using hacyclic.induction with
  | step name ih =>
    rw [expansion, h.find?]
    cases hf : Entries.find? name table with
    | none =>
      rw [render, hf]
      exact hrefer name hf
    | some tree =>
      show (tree.inlined other.expansion).asGroup.render s refer = _
      rw [Fragment.render_asGroup, Fragment.render_inlined connector?_expansion,
        render_eq_of_acyclic hacyclic hf]
      exact Fragment.render_congr fun next href => ih next ⟨tree, hf, href⟩

theorem Inlines.render_eq (hacyclic : table.Acyclic) (h : table.Inlines other) (name : String) :
    other.render s name = table.render s name := by
  rw [render, h.find?]
  cases hf : Entries.find? name table with
  | none => rw [render, hf]; rfl
  | some tree =>
    show renderTree other s [name] (tree.inlined other.expansion) = _
    rw [renderTree_eq, Fragment.render_inlined connector?_expansion, render_eq_of_acyclic hacyclic hf]
    refine Fragment.render_congr fun next _ => h.render_expansion hacyclic (fun missing hnone => ?_) next
    have hother : missing ∉ [name] := by
      intro hmem
      rw [List.mem_singleton.mp hmem, hf] at hnone
      cases hnone
    rw [refer, if_neg hother, h.find?, hnone]
    rfl

theorem Inlines.no_references (hacyclic : table.Acyclic) (hresolved : table.unresolved = [])
    (h : table.Inlines other) : ∀ entry ∈ other, entry.2.references = [] := by
  intro entry hentry
  rw [h] at hentry
  obtain ⟨⟨name, tree⟩, htree, rfl⟩ := List.mem_map.mp hentry
  rw [Fragment.references_inlined, List.flatMap_eq_nil_iff]
  intro next hnext
  exact h.references_expansion hacyclic hresolved next
    (isSome_find?_of_resolved hresolved htree hnext)

/-- **A reference is transparent.** In a rendering that has a text, each reference that is come to
contributes the text of its fragment. Where a fragment has a text, a reference to it has that text
or is refused as a cycle, whatever is active. And a table without cycles and missing fragments
renders like the table in which all references have been replaced, faults included. -/
theorem references_transparent (table : Table) (s : Setting) :
    (∀ root tree sql, Entries.find? root table = some tree → table.render s root = .ok sql →
      ∀ m name, Moment.Leads table s ⟨.enter tree, [], [root]⟩ m →
        m.control = .enter (.inclusion (.fragment name)) →
        ∃ text, table.render s name = .ok text ∧
          Moment.Leads table s m ⟨.leave (.ok text), m.frames, m.active⟩) ∧
    (∀ name text, table.render s name = .ok text → ∀ active,
      renderTree table s active (.inclusion (.fragment name)) = .ok text ∨
        ∃ chain, renderTree table s active (.inclusion (.fragment name)) =
          .error (.recursion chain)) ∧
    (table.Acyclic → table.unresolved = [] →
      table.Inlines table.inline ∧
      ∀ other, table.Inlines other →
        (∀ entry ∈ other, entry.2.references = []) ∧
        ∀ name, other.render s name = table.render s name) := by
  refine ⟨?_, ?_, ?_⟩
  · intro root tree sql hf hsql m name hrun hcontrol
    exact Moment.exists_text_of_entered_reference hf hsql hrun hcontrol
  · intro name text htext active
    rw [renderTree_inclusion]
    exact refer_of_render htext active
  · intro hacyclic hresolved
    refine ⟨inlines_inline hacyclic, fun other hother => ⟨?_, ?_⟩⟩
    · exact hother.no_references hacyclic hresolved
    · exact hother.render_eq hacyclic

/-- A condition that includes a fragment which includes another one, twice in all. -/
def orders : Table := [
  ("Orders", .block (.named "Orders") [.text "SELECT * FROM orders ", .block .filter [
    .inclusion (.fragment "Open"),
    .block (.test .conjunct ⟨"old", none⟩) [.inclusion (.fragment "Late")]]]),
  ("Open", .block (.named "Open") [.text "open = 1 ",
    .block (.test .conjunct ⟨"late", none⟩) [.text "AND ", .inclusion (.fragment "Late")]]),
  ("Late", .block (.named "Late") [.text "due < 0 "])]

theorem acyclic_orders : orders.Acyclic := by
  apply acyclic_of_rank fun n => if n = "Orders" then 2 else if n = "Open" then 1 else 0
  intro a b h
  obtain ⟨tree, htree, href⟩ := h
  have hentry := Entries.mem_of_find? htree
  rw [Fragment.mem_references_iff] at href
  simp [orders] at hentry
  rcases hentry with ⟨rfl, rfl⟩ | ⟨rfl, rfl⟩ | ⟨rfl, rfl⟩ <;>
    simp [Fragment.nodes, Fragment.nodesOfAll] at href
  · rcases href with rfl | rfl <;> decide
  · rw [href]; decide

/-- The first condition of a `WHERE` clause is that of the fragment included there. -/
theorem references_transparent_orders :
    let s : Setting := { parameters := .given [(.str "late", .bool true)] }
    let tree := (Entries.find? "Orders" orders).getD .bare
    let sql := "SELECT * FROM orders WHERE open = 1 AND due < 0 "
    let inner := "open = 1 AND due < 0 "
    Entries.find? "Orders" orders = some tree ∧ orders.render s "Orders" = .ok sql ∧
    (∃ m, Moment.Leads orders s ⟨.enter tree, [], ["Orders"]⟩ m ∧
      m.control = .enter (.inclusion (.fragment "Open")) ∧
      ∃ text, orders.render s "Open" = .ok text ∧
        Moment.Leads orders s m ⟨.leave (.ok text), m.frames, m.active⟩) ∧
    orders.render s "Open" = .ok inner ∧
    (renderTree orders s ["Late"] (.inclusion (.fragment "Open")) = .ok inner ∨
      ∃ chain, renderTree orders s ["Late"] (.inclusion (.fragment "Open")) =
        .error (.recursion chain)) ∧
    orders.Acyclic ∧ orders.unresolved = [] ∧ orders.Inlines orders.inline ∧
    orders.inline.render s "Orders" = orders.render s "Orders" := by
  intro s tree sql inner
  have hsql : orders.render s "Orders" = .ok sql := by cbv
  have hinner : orders.render s "Open" = .ok inner := by cbv
  have hresolved : orders.unresolved = [] := by decide
  obtain ⟨hentered, hreferred, hinlined⟩ := references_transparent orders s
  obtain ⟨m, hrun, hcontrol⟩ : ∃ m, Moment.Leads orders s ⟨.enter tree, [], ["Orders"]⟩ m ∧
      m.control = .enter (.inclusion (.fragment "Open")) :=
    ⟨_, .head rfl (.head rfl (.head rfl (.head rfl .refl))), rfl⟩
  obtain ⟨hinlines, hall⟩ := hinlined acyclic_orders hresolved
  exact ⟨rfl, hsql, ⟨m, hrun, hcontrol, hentered "Orders" tree sql rfl hsql m "Open" hrun hcontrol⟩,
    hinner, hreferred "Open" inner hinner ["Late"], acyclic_orders, hresolved, hinlines,
    (hall _ hinlines).2 "Orders"⟩

end Table
end SqlTemplate
