import SqlTemplate.Proofs.Outcome
import SqlTemplate.Proofs.References

/-!
# Where the faults of rendering come from

A fault passes through every block around it unchanged, so **each fault is the fault of one node**:
a paging block or clause, an inserted value, a node that stands for nothing, or a reference that is
refused. That node is found by going down the tree, and through references down the table, to a
tree that is being rendered inside of certain names (`renderTree_error`). Whatever can be said of
all nodes that a name reaches can so be said of all faults of rendering it.
-/

set_option autoImplicit false

namespace SqlTemplate

theorem Setting.blockText_error {s : Setting} {head : Head} {said : List (Option String × String)}
    {e : RenderError} (h : s.blockText head said = .error e) :
    ∃ offset fetch query, head = .paging offset fetch ∧ s.pageText offset fetch query = .error e := by
  cases head with
  | paging offset fetch => exact ⟨offset, fetch, _, rfl, h⟩
  | named | group | filter | test | like => cases h

namespace Fragment

/-- The variable that a number of a page is taken from, in a list; an empty name is no variable. -/
def pageVariable (name : Option String) : List String := name.toList.filter fun v => !v.isEmpty

/-- The variables that a node takes numbers of a page from. A fixed number of rows needs none. -/
def pageVariables : Fragment → List String
  | .block (.paging offset fetch) _ => pageVariable (some offset) ++ pageVariable (some fetch)
  | .offsetFetch offset fetch rows =>
    pageVariable offset ++ if rows.isSome then [] else pageVariable fetch
  | _ => []

theorem mem_pageVariable_some {v : String} (h : v.isEmpty = false) :
    v ∈ pageVariable (some v) :=
  List.mem_filter.mpr ⟨List.mem_singleton_self v, by rw [h]; rfl⟩

/-- A fault is the node's own; `refused` tells what stands against a reference to a name. -/
def Fails (s : Setting) (refused : String → RenderError → Prop) : Fragment → RenderError → Prop
  | .block (.paging offset fetch) _, e => ∃ query, s.pageText offset fetch query = .error e
  | .inclusion (.fragment name), e => refused name e
  | .inclusion (.value name), e => s.rawText name = .error e
  | .offsetFetch offset fetch rows, e => s.clauseText offset fetch rows = .error e
  | .bare, e => e = .bareNode
  | _, _ => False

theorem Fails.reference_or {s : Setting} {refused : String → RenderError → Prop} {g : Fragment}
    {e : RenderError} (h : g.Fails s refused e) :
    (∃ name, g = .inclusion (.fragment name) ∧ refused name e) ∨
      ∀ refused', g.Fails s refused' e := by
  cases g with
  | text sql => exact Or.inr fun _ => h
  | block head children => exact Or.inr fun _ => by cases head <;> exact h
  | inclusion target =>
    cases target with
    | fragment name => exact Or.inl ⟨name, rfl, h⟩
    | value name => exact Or.inr fun _ => h
  | offsetFetch offset fetch rows => exact Or.inr fun _ => h
  | bare => exact Or.inr fun _ => h

/-- Inside one tree a fault comes from one of its nodes. -/
theorem exists_fails_of_render_error {s : Setting} {refer : String → Except RenderError String}
    {f : Fragment} {e : RenderError} (h : f.render s refer = .error e) :
    ∃ g ∈ f.nodes, g.Fails s (fun name e => refer name = .error e) e := by
  induction f using tree_induction
    (q := fun fs => renderEach s refer fs = .error e →
      ∃ g ∈ nodesOfAll fs, g.Fails s (fun name e => refer name = .error e) e) with
  | text sql => cases h
  | block head children ih =>
    rw [render] at h
    split at h
    -- a block fails through one of its children, or as a page when these are done
    · rcases Outcome.bind_eq_error_iff.mp h with hsaid | ⟨said, -, hown⟩
      · obtain ⟨g, hg, hfails⟩ := ih hsaid
        exact ⟨g, List.mem_cons_of_mem _ hg, hfails⟩
      · obtain ⟨offset, fetch, query, rfl, hpage⟩ := Setting.blockText_error hown
        exact ⟨_, List.mem_cons_self, query, hpage⟩
    · cases h
  | inclusion target =>
    cases target with
    | fragment name => exact ⟨_, List.mem_cons_self, h⟩
    | value name => exact ⟨_, List.mem_cons_self, h⟩
  | offsetFetch offset fetch rows => exact ⟨_, List.mem_cons_self, h⟩
  | bare =>
    cases h
    exact ⟨_, List.mem_cons_self, rfl⟩
  | nil => next hnil => cases hnil
  | cons f rest ihf ihrest =>
    next hrest =>
    rw [renderEach] at hrest
    rw [nodesOfAll]
    rcases Outcome.bind_eq_error_iff.mp hrest with hf | ⟨said, -, hothers⟩
    · obtain ⟨g, hg, hfails⟩ := ihf hf
      exact ⟨g, List.mem_append_left _ hg, hfails⟩
    · rcases Outcome.bind_eq_error_iff.mp hothers with hothers | ⟨others, -, hpure⟩
      · obtain ⟨g, hg, hfails⟩ := ihrest hothers
        exact ⟨g, List.mem_append_right _ hg, hfails⟩
      · cases hpure

end Fragment

namespace Table

/-- What stands against a reference where names are active. -/
def Refused (table : Table) (active : List String) (name : String) (e : RenderError) : Prop :=
  (name ∈ active ∧ e = .recursion (active ++ [name])) ∨
    (Entries.find? name table = none ∧ e = .unknownFragment name)

/-- **Across the table, a fault comes from a node of a tree being rendered.** -/
theorem renderTree_error {table : Table} {root : String} {s : Setting} {active : List String}
    {tree : Fragment} {e : RenderError} (hactive : Active table root active tree)
    (h : renderTree table s active tree = .error e) :
    ∃ active' tree' g, Active table root active' tree' ∧ g ∈ tree'.nodes ∧
      g.Fails s (table.Refused active') e := by
  induction active, tree using renderTree.induct table with
  | case1 active tree ih =>
    rw [renderTree_eq] at h
    obtain ⟨g, hg, hfails⟩ := Fragment.exists_fails_of_render_error h
    rcases hfails.reference_or with ⟨name, rfl, hrefer⟩ | hown
    · unfold refer at hrefer
      by_cases hold : name ∈ active
      · rw [if_pos hold] at hrefer
        cases hrefer
        exact ⟨active, tree, _, hactive, hg, Or.inl ⟨hold, rfl⟩⟩
      · rw [if_neg hold] at hrefer
        cases hf : Entries.find? name table with
        | none =>
          rw [hf] at hrefer
          cases hrefer
          exact ⟨active, tree, _, hactive, hg, Or.inr ⟨hf, rfl⟩⟩
        | some target =>
          -- the fault came up from the fragment referred to, in which the name is active too
          rw [hf] at hrefer
          have href := Fragment.mem_references_iff.mpr hg
          exact ih name hold target hf (hactive.push href hold hf) hrefer
    · exact ⟨active, tree, g, hactive, hg, hown _⟩

theorem render_error {table : Table} {root : String} {s : Setting} {e : RenderError}
    (h : table.render s root = .error e) :
    (Entries.find? root table = none ∧ e = .unknownFragment root) ∨
      ∃ active tree g, Active table root active tree ∧ g ∈ tree.nodes ∧
        g.Fails s (table.Refused active) e := by
  rw [render] at h
  cases hf : Entries.find? root table with
  | none =>
    rw [hf] at h
    cases h
    exact Or.inl ⟨rfl, rfl⟩
  | some tree =>
    rw [hf] at h
    exact Or.inr (renderTree_error (.start hf) h)

end Table

/-! ## Faults of values are not faults of the tree -/

/-- Whether a fault is about a reference to a fragment. -/
def RenderError.isReferenceFault : RenderError → Bool
  | .unknownFragment _ => true
  | .recursion _ => true
  | _ => false

/-- Whether a fault is about a value or about what the dialect can do with it. -/
def RenderError.isValueFault : RenderError → Bool
  | .unknownFragment _ => false
  | .recursion _ => false
  | .bareNode => false
  | _ => true

theorem RenderError.isReferenceFault_of_isValueFault {e : RenderError}
    (h : e.isValueFault = true) : e.isReferenceFault = false := by
  cases e with
  | unknownFragment | recursion => cases h
  | unknownVariable | notAnInteger | infiniteNumber | rawForbidden | dialect | bareNode => rfl

theorem Value.pageNumber_error {name : String} {v : Value} {e : RenderError}
    (h : v.pageNumber name = .error e) : e.isValueFault = true := by
  unfold Value.pageNumber at h
  repeat' split at h
  all_goals cases h
  all_goals rfl

theorem Parameters.pageNumber?_error {p : Parameters} {name : Option String} {e : RenderError}
    (h : p.pageNumber? name = .error e) : e.isValueFault = true := by
  unfold Parameters.pageNumber? at h
  split at h
  · cases h
  · split at h
    · cases h
    · split at h
      · cases h
      · cases h
      · exact Value.pageNumber_error (Outcome.map_eq_error_iff.mp h)

theorem Setting.pageText_error {s : Setting} {offset fetch query : String} {e : RenderError}
    (h : s.pageText offset fetch query = .error e) : e.isValueFault = true := by
  rcases Outcome.bind_eq_error_iff.mp h with h | ⟨_, -, h⟩
  · exact Parameters.pageNumber?_error h
  · rcases Outcome.bind_eq_error_iff.mp h with h | ⟨_, -, h⟩
    · exact Parameters.pageNumber?_error h
    · obtain ⟨_, -, rfl⟩ := Outcome.mapError_eq_error_iff.mp h
      rfl

/-- The number of rows that a paging clause asks for: a fixed one, or that of its variable. -/
def Setting.rowLimit (s : Setting) (fetch : Option String) (rows : Option Int) :
    Except RenderError (Option Int) :=
  match rows with
  | some rows => .ok (some rows)
  | none => s.parameters.pageNumber? fetch

theorem Setting.clauseText_eq (s : Setting) (offset fetch : Option String) (rows : Option Int) :
    s.clauseText offset fetch rows = (do
      let offset ← s.parameters.pageNumber? offset
      let fetch ← s.rowLimit fetch rows
      (s.dialect.pagingClause offset fetch).mapError .dialect) := by
  cases rows <;> rfl

theorem Setting.clauseText_error {s : Setting} {offset fetch : Option String} {rows : Option Int}
    {e : RenderError} (h : s.clauseText offset fetch rows = .error e) :
    e.isValueFault = true := by
  rw [clauseText_eq] at h
  rcases Outcome.bind_eq_error_iff.mp h with h | ⟨_, -, h⟩
  · exact Parameters.pageNumber?_error h
  · rcases Outcome.bind_eq_error_iff.mp h with h | ⟨_, -, h⟩
    · cases rows with
      | none => exact Parameters.pageNumber?_error h
      | some n => cases h
    · obtain ⟨_, -, rfl⟩ := Outcome.mapError_eq_error_iff.mp h
      rfl

theorem Setting.rawText_error {s : Setting} {name : String} {e : RenderError}
    (h : s.rawText name = .error e) : e.isValueFault = true := by
  unfold Setting.rawText at h
  repeat' split at h
  all_goals cases h
  all_goals rfl

/-- What is not the fault of a value is the fault of a reference or of a bare node. -/
theorem Fragment.Fails.reference_or_bareNode {s : Setting} {refused : String → RenderError → Prop}
    {g : Fragment} {e : RenderError} (h : g.Fails s refused e) (he : e.isValueFault = false) :
    (∃ name, g = .inclusion (.fragment name) ∧ refused name e) ∨ g = .bare ∧ e = .bareNode := by
  have hvalue : e.isValueFault ≠ true := by simp [he]
  cases g with
  | text sql => exact h.elim
  | block head children =>
    cases head with
    | paging offset fetch =>
      obtain ⟨query, hpage⟩ := h
      exact absurd (Setting.pageText_error hpage) hvalue
    | named | group | filter | test | like => exact h.elim
  | inclusion target =>
    cases target with
    | fragment name => exact Or.inl ⟨name, rfl, h⟩
    | value name => exact absurd (Setting.rawText_error h) hvalue
  | offsetFetch offset fetch rows => exact absurd (Setting.clauseText_error h) hvalue
  | bare => exact Or.inr ⟨rfl, h⟩

/-- A fault about a reference is the fault of a reference. -/
theorem Fragment.Fails.reference {s : Setting} {refused : String → RenderError → Prop}
    {g : Fragment} {e : RenderError} (h : g.Fails s refused e) (he : e.isReferenceFault = true) :
    ∃ name, g = .inclusion (.fragment name) ∧ refused name e := by
  have hvalue : e.isValueFault = false := by
    cases hv : e.isValueFault with
    | false => rfl
    | true =>
      rw [RenderError.isReferenceFault_of_isValueFault hv] at he
      cases he
  rcases h.reference_or_bareNode hvalue with hrefused | ⟨-, rfl⟩
  · exact hrefused
  · cases he

namespace Table

variable {table : Table} {root : String} {s : Setting}

/-- **What a cycle fault says**: names are active, the last of them refers to one of them, and
the chain is the active names and that one. -/
theorem render_recursion {chain : List String} (h : table.render s root = .error (.recursion chain)) :
    ∃ active tree name, Active table root active tree ∧ name ∈ tree.references ∧ name ∈ active ∧
      chain = active ++ [name] := by
  rcases render_error h with ⟨-, hmiss⟩ | ⟨active, tree, g, hactive, hg, hfails⟩
  · cases hmiss
  · obtain ⟨name, rfl, hrefused⟩ := hfails.reference rfl
    have href := Fragment.mem_references_iff.mpr hg
    rcases hrefused with ⟨hold, hchain⟩ | ⟨-, hmiss⟩
    · cases hchain
      exact ⟨active, tree, name, hactive, href, hold, rfl⟩
    · cases hmiss

/-- **What a missing fragment says**: a tree that the root reaches refers to it. -/
theorem render_unknownFragment {name : String} (hroot : (Entries.find? root table).isSome)
    (h : table.render s root = .error (.unknownFragment name)) :
    ∃ active tree, Active table root active tree ∧ name ∈ tree.references ∧
      Entries.find? name table = none := by
  rcases render_error h with ⟨hnone, -⟩ | ⟨active, tree, g, hactive, hg, hfails⟩
  · rw [hnone] at hroot
    cases hroot
  · obtain ⟨other, rfl, hrefused⟩ := hfails.reference rfl
    have href := Fragment.mem_references_iff.mpr hg
    rcases hrefused with ⟨-, hchain⟩ | ⟨hnone, hmiss⟩
    · cases hchain
    · cases hmiss
      exact ⟨active, tree, hactive, href, hnone⟩

/-- **What a bare node says**: the root reaches a tree with one in it. -/
theorem render_bareNode (h : table.render s root = .error .bareNode) : table.Holds root .bare := by
  rcases render_error h with ⟨-, hmiss⟩ | ⟨active, tree, g, hactive, hg, hfails⟩
  · cases hmiss
  · rcases hfails.reference_or_bareNode rfl with ⟨name, -, hrefused⟩ | ⟨rfl, -⟩
    · rcases hrefused with ⟨-, hchain⟩ | ⟨-, hmiss⟩
      · cases hchain
      · cases hmiss
    · exact hactive.holds hg

end Table
end SqlTemplate
