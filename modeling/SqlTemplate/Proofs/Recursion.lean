import SqlTemplate.Proofs.FaultOrigin
import SqlTemplate.Proofs.Moments

/-!
# Recursion through references

A table may have cycles, so the size of its trees does not tell how long rendering goes on. What
ends it is the list of active names. **At each moment the callers that wait are inside of one
another**, blocks in their trees and references to the next tree, and the active names are those of
the references among them; so no name is active twice, and there are never more of them than the
table has names. One step preserves this whichever way it goes, also where a fault takes names off
again, and therefore a whole run does.

The fault that speaks of a cycle is exact in both directions: its chain of names is a walk along
references that comes back to itself, and where the name asked for reaches no cycle it does not
occur. That a fragment is included more than once, on different ways, is no cycle.
-/

set_option autoImplicit false

namespace SqlTemplate
namespace Moment

/-- The callers that wait, from the tree of `root` down to the tree that the present node is in. -/
inductive Waiting (table : Table) (root : String) : List Frame → List String → Fragment → Prop where
  | start {tree : Fragment} (hf : Entries.find? root table = some tree) :
      Waiting table root [] [root] tree
  | within {frames : List Frame} {active : List String} {tree : Fragment} {head : Head}
      {children : List Fragment} (said : List (Option String × String))
      (h : Waiting table root frames active tree) (hnode : .block head children ∈ tree.nodes) :
      Waiting table root (.within head children said :: frames) active tree
  | including {frames : List Frame} {active : List String} {tree : Fragment} {name : String}
      {target : Fragment} (h : Waiting table root frames active tree)
      (href : name ∈ tree.references) (hnew : name ∉ active)
      (hf : Entries.find? name table = some target) :
      Waiting table root (.including name :: frames) (active ++ [name]) target

/-- The callers of a moment are inside of one another, and what is entered is inside of them. -/
def Nested (table : Table) (root : String) (m : Moment) : Prop :=
  ∃ tree, Waiting table root m.frames m.active tree ∧
    ∀ f, m.control = .enter f → f ∈ tree.nodes

/-- Where a step enters a node, the node is a child of the block that waits for it, or the tree of
a name that was not active and now is. -/
def Descends (table : Table) (m m' : Moment) : Prop :=
  ∀ f, m'.control = .enter f →
    (∃ head children said frames, m'.frames = .within head children said :: frames ∧
      f ∈ children ∧ m'.active = m.active) ∨
    ∃ name frames, m.control = .enter (.inclusion (.fragment name)) ∧
      m'.frames = .including name :: frames ∧ name ∉ m.active ∧
      m'.active = m.active ++ [name] ∧ Entries.find? name table = some f

section Step

variable {table : Table} {root : String} {s : Setting} {frames : List Frame}
  {active : List String} {tree : Fragment}

theorem Waiting.isActive (h : Waiting table root frames active tree) :
    Table.Active table root active tree := by
  induction h with
  | start hf => exact .start hf
  | within _ _ _ ih => exact ih
  | including _ href hnew hf ih => exact .push ih href hnew hf

theorem Waiting.nested_leave (h : Waiting table root frames active tree)
    (result : Except RenderError String) : Nested table root ⟨.leave result, frames, active⟩ := by
  refine ⟨tree, h, fun f hf => ?_⟩
  cases hf

theorem Waiting.nested_proceed (h : Waiting table root frames active tree) {head : Head}
    {children : List Fragment} (hnode : .block head children ∈ tree.nodes)
    (said : List (Option String × String)) :
    Nested table root (proceed s head children said frames active) := by
  rw [proceed]
  cases hchild : children[said.length]? with
  | none => exact h.nested_leave _
  | some child =>
    refine ⟨tree, .within said h hnode, fun f hf => ?_⟩
    cases hf
    exact Fragment.mem_nodes_of_child hnode (List.mem_of_getElem? hchild)

theorem Waiting.nested_enter (h : Waiting table root frames active tree) {f : Fragment}
    (hf : f ∈ tree.nodes) : Nested table root (enter table s frames active f) := by
  cases f with
  | text sql => exact h.nested_leave _
  | block head children =>
    rw [enter]
    split
    · exact h.nested_proceed hf []
    · exact h.nested_leave _
  | inclusion target =>
    cases target with
    | fragment name =>
      rw [enter]
      by_cases hold : name ∈ active
      · rw [if_pos hold]
        exact h.nested_leave _
      · rw [if_neg hold]
        cases htarget : Entries.find? name table with
        | none => exact h.nested_leave _
        | some target =>
          have href := Fragment.mem_references_iff.mpr hf
          refine ⟨target, .including h href hold htarget, fun g hg => ?_⟩
          cases hg
          exact Fragment.mem_nodes_self target
    | value name => exact h.nested_leave _
  | offsetFetch offset fetch rows => exact h.nested_leave _
  | bare => exact h.nested_leave _

theorem Waiting.nested_leave_caller (h : Waiting table root frames active tree)
    {result : Except RenderError String} {m : Moment} (hm : leave s result active frames = some m) :
    Nested table root m := by
  cases h with
  | start => cases hm
  | within said h hnode =>
    -- a fault passes on to the next caller, a text lets the block go on
    cases result with
    | error e =>
      cases hm
      exact h.nested_leave _
    | ok text =>
      cases hm
      exact h.nested_proceed hnode _
  | including h =>
    cases hm
    rw [List.dropLast_concat]
    exact h.nested_leave _

/-- One step keeps the callers inside of one another. -/
theorem Nested.next? {m m' : Moment} (h : Nested table root m)
    (hstep : m.next? table s = some m') : Nested table root m' := by
  obtain ⟨tree, hwaiting, hentered⟩ := h
  unfold Moment.next? at hstep
  cases hcontrol : m.control with
  | enter f =>
    rw [hcontrol] at hstep
    cases hstep
    exact hwaiting.nested_enter (hentered f hcontrol)
  | leave result =>
    rw [hcontrol] at hstep
    exact hwaiting.nested_leave_caller hstep

theorem Nested.leads {m m' : Moment} (h : Nested table root m) (hrun : Leads table s m m') :
    Nested table root m' := by
  induction hrun with
  | refl => exact h
  | tail _ hstep ih => exact ih.next? hstep

theorem nested_start (hf : Entries.find? root table = some tree) :
    Nested table root ⟨.enter tree, [], [root]⟩ := by
  refine ⟨tree, .start hf, fun f hcontrol => ?_⟩
  cases hcontrol
  exact Fragment.mem_nodes_self tree

theorem proceed_descends {m : Moment} {head : Head} {children : List Fragment}
    {said : List (Option String × String)} (hactive : m.active = active) :
    Descends table m (proceed s head children said frames active) := by
  intro f hf
  rw [proceed] at hf ⊢
  cases hchild : children[said.length]? with
  | none =>
    rw [hchild] at hf
    cases hf
  | some child =>
    rw [hchild] at hf
    cases hf
    exact Or.inl ⟨head, children, said, frames, rfl, List.mem_of_getElem? hchild, hactive.symm⟩

theorem leave_descends {m : Moment} {result : Except RenderError String} :
    Descends table m ⟨.leave result, frames, active⟩ := by
  intro f hf
  cases hf

theorem enter_descends {f : Fragment} :
    Descends table ⟨.enter f, frames, active⟩ (enter table s frames active f) := by
  cases f with
  | text sql => exact leave_descends
  | block head children =>
    rw [enter]
    split
    · exact proceed_descends rfl
    · exact leave_descends
  | inclusion target =>
    cases target with
    | fragment name =>
      rw [enter]
      by_cases hold : name ∈ active
      · rw [if_pos hold]
        exact leave_descends
      · rw [if_neg hold]
        cases htarget : Entries.find? name table with
        | none => exact leave_descends
        | some target =>
          intro g hg
          cases hg
          exact Or.inr ⟨name, frames, rfl, rfl, hold, rfl, htarget⟩
    | value name => exact leave_descends
  | offsetFetch offset fetch rows => exact leave_descends
  | bare => exact leave_descends

/-- **A step goes into a node only by a child or by a name that was not active.** -/
theorem next?_descends {m m' : Moment} (hstep : m.next? table s = some m') :
    Descends table m m' := by
  obtain ⟨control, frames, active⟩ := m
  cases control with
  | enter f =>
    cases hstep
    exact enter_descends
  | leave result =>
    cases frames with
    | nil => cases hstep
    | cons frame frames =>
      cases frame with
      | within head children said =>
        cases result with
        | error e =>
          cases hstep
          exact leave_descends
        | ok text =>
          cases hstep
          exact proceed_descends rfl
      | including name =>
        cases hstep
        exact leave_descends

end Step

end Moment

namespace Table

variable {table : Table} {root : String} {s : Setting}

/-- **A cycle fault shows a cycle**: a walk along references, from the name asked for through names
that all differ, to one of these. -/
theorem recursion_chain {chain : List String}
    (h : table.render s root = .error (.recursion chain)) :
    ∃ names last, chain = names ++ [last] ∧ names.head? = some root ∧ names.Nodup ∧
      last ∈ names ∧ chain.IsChain table.Refers := by
  obtain ⟨active, tree, name, hactive, href, hold, rfl⟩ := render_recursion h
  exact ⟨active, name, rfl, hactive.head?, hactive.nodup, hold, hactive.isChain_append href⟩

theorem not_recursion_of_acyclic
    (h : ∀ name, table.Reaches root name → ¬ Relation.TransGen table.Refers name name)
    (chain : List String) : table.render s root ≠ .error (.recursion chain) := by
  intro hrec
  obtain ⟨active, tree, name, hactive, href, hold, -⟩ := render_recursion hrec
  obtain ⟨hreach, hcycle⟩ := hactive.cycle href hold
  exact h name hreach hcycle

/-- **Rendering ends, and its cycle faults are exact.** A name that is not registered is refused at
once. From a registered one the run has an end; on the way no name is active twice, all active
names are registered, the first is the one asked for, and each call is of a child or of the tree of
a name that the call makes active. A cycle fault gives a walk that comes back to itself, and it
does not occur where no cycle is reached. -/
theorem render_ends (table : Table) (s : Setting) (root : String) :
    (Entries.find? root table = none → table.render s root = .error (.unknownFragment root)) ∧
    (∀ tree, Entries.find? root table = some tree →
      ∀ m, Moment.Leads table s ⟨.enter tree, [], [root]⟩ m →
        Moment.Ends table s m (table.render s root) ∧
        m.active.Nodup ∧ (∀ name ∈ m.active, (Entries.find? name table).isSome) ∧
        m.active.head? = some root ∧ m.active.length ≤ table.length ∧
        ∀ m', m.next? table s = some m' → Moment.Descends table m m') ∧
    (∀ chain, table.render s root = .error (.recursion chain) →
      ∃ names last, chain = names ++ [last] ∧ names.head? = some root ∧ names.Nodup ∧
        last ∈ names ∧ chain.IsChain table.Refers) ∧
    ((∀ name, table.Reaches root name → ¬ Relation.TransGen table.Refers name name) →
      ∀ chain, table.render s root ≠ .error (.recursion chain)) := by
  refine ⟨?_, ?_, ?_, ?_⟩
  · intro hnone
    rw [render, hnone]
  · intro tree hf m hrun
    obtain ⟨last, hwaiting, -⟩ := (Moment.nested_start hf).leads hrun
    have hactive := hwaiting.isActive
    refine ⟨hrun.ends_of_ends (Moment.ends_render hf), hactive.nodup, hactive.registered,
      hactive.head?, hactive.length_le, ?_⟩
    intro m' hstep
    exact Moment.next?_descends hstep
  · intro chain h
    exact recursion_chain h
  · intro h chain
    exact not_recursion_of_acyclic h chain

/-- Two fragments in a cycle, and one that includes another twice. -/
def loops : Table := [
  ("Odd", .block (.named "Odd") [.text "1 ", .inclusion (.fragment "Even")]),
  ("Even", .block (.named "Even") [.text "2 ", .inclusion (.fragment "Odd")]),
  ("Pair", .block (.named "Pair") [.inclusion (.fragment "One"), .inclusion (.fragment "One")]),
  ("One", .block (.named "One") [.text "1 "])]

theorem refers_loops {a b : String} (h : loops.Refers a b) :
    (a, b) ∈ [("Odd", "Even"), ("Even", "Odd"), ("Pair", "One")] := by
  obtain ⟨tree, htree, href⟩ := h
  have hentry := Entries.mem_of_find? htree
  rw [Fragment.mem_references_iff] at href
  simp [loops] at hentry
  rcases hentry with ⟨rfl, rfl⟩ | ⟨rfl, rfl⟩ | ⟨rfl, rfl⟩ | ⟨rfl, rfl⟩ <;>
    simp [Fragment.nodes, Fragment.nodesOfAll] at href
  all_goals
    rw [href]
    decide

/-- A cycle is refused with its chain, and including a fragment twice is no cycle. -/
theorem render_ends_loops :
    loops.render {} "Three" = .error (.unknownFragment "Three") ∧
    (∃ tree, Entries.find? "Odd" loops = some tree ∧
      Moment.Ends loops {} ⟨.enter tree, [], ["Odd"]⟩ (loops.render {} "Odd")) ∧
    loops.render {} "Odd" = .error (.recursion ["Odd", "Even", "Odd"]) ∧
    (∃ names last, ["Odd", "Even", "Odd"] = names ++ [last] ∧ names.head? = some "Odd" ∧
      names.Nodup ∧ last ∈ names ∧ ["Odd", "Even", "Odd"].IsChain loops.Refers) ∧
    (∀ name, loops.Reaches "Pair" name → ¬ Relation.TransGen loops.Refers name name) ∧
    ∀ chain, loops.render {} "Pair" ≠ .error (.recursion chain) := by
  have hodd : loops.render {} "Odd" = .error (.recursion ["Odd", "Even", "Odd"]) := by cbv
  have hpair : ∀ name, loops.Reaches "Pair" name →
      ¬ Relation.TransGen loops.Refers name name := by
    intro name hreach hcycle
    have hname : name = "Pair" ∨ name = "One" := by
      clear hcycle
      induction hreach with
      | refl => exact Or.inl rfl
      | tail _ hstep ih =>
        have hedge := refers_loops hstep
        rcases ih with rfl | rfl <;> simp at hedge
        exact Or.inr hedge
    rcases hname with rfl | rfl
    · obtain ⟨before, -, hstep⟩ := Relation.TransGen.tail'_iff.mp hcycle
      simpa using refers_loops hstep
    · obtain ⟨after, hstep, -⟩ := Relation.TransGen.head'_iff.mp hcycle
      simpa using refers_loops hstep
  exact ⟨(render_ends loops {} "Three").1 rfl,
    ⟨_, rfl, ((render_ends loops {} "Odd").2.1 _ rfl _ .refl).1⟩, hodd,
    (render_ends loops {} "Odd").2.2.1 _ hodd, hpair, (render_ends loops {} "Pair").2.2.2 hpair⟩

end Table
end SqlTemplate
