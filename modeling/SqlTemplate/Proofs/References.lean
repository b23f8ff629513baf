import SqlTemplate.Render
import Mathlib.Data.List.Chain
import Mathlib.Data.List.Nodup
import Mathlib.Data.List.Perm.Subperm
import Mathlib.Logic.Relation

/-!
# References between fragments

The references in a table's trees make a graph on names, which may have cycles and may lead to
names that the table does not have. Rendering follows it from the name asked for, and what it can
come to is **what that name reaches**. On the way it keeps the names that it is inside of. `Active`
says which lists of names these can be: each name but the first is referred to in the tree of the
one before it, and none occurs twice.

Nothing here is about values, dialects or text. That a list of active names has no repetition is
what bounds its length by the table, and a reference back into it is what a cycle looks like from
inside.
-/

set_option autoImplicit false

namespace SqlTemplate

namespace Fragment

/-- Induction over trees: `q` is what is shown of the children of a block. -/
@[elab_as_elim]
theorem tree_induction {motive : Fragment → Prop} {q : List Fragment → Prop}
    (text : ∀ sql, motive (.text sql))
    (block : ∀ head children, q children → motive (.block head children))
    (inclusion : ∀ target, motive (.inclusion target))
    (offsetFetch : ∀ offset fetch rows, motive (.offsetFetch offset fetch rows))
    (bare : motive .bare) (nil : q []) (cons : ∀ f rest, motive f → q rest → q (f :: rest))
    (f : Fragment) : motive f :=
  Fragment.rec text block inclusion offsetFetch bare nil cons f

/-- A node below a node of a tree is a node of the tree. -/
theorem mem_nodes_of_child {f : Fragment} {head : Head} {children : List Fragment} {g : Fragment}
    (hb : .block head children ∈ f.nodes) (hg : g ∈ children) : g ∈ f.nodes := by
  induction f using tree_induction
    (q := fun fs => .block head children ∈ nodesOfAll fs → g ∈ nodesOfAll fs) with
  | text | inclusion | offsetFetch | bare => simp [nodes] at hb
  | block h cs ih =>
    rw [nodes] at hb ⊢
    rcases List.mem_cons.mp hb with heq | hb
    · cases heq
      rw [nodesOfAll_eq_flatMap]
      exact List.mem_cons_of_mem _ (List.mem_flatMap.mpr ⟨g, hg, mem_nodes_self g⟩)
    · exact List.mem_cons_of_mem _ (ih hb)
  | nil => next hnone => cases hnone
  | cons c rest ihc ihrest =>
    next hrest =>
    rw [nodesOfAll] at hrest ⊢
    rcases List.mem_append.mp hrest with h | h
    · exact List.mem_append_left _ (ihc h)
    · exact List.mem_append_right _ (ihrest h)

theorem mem_references_iff {f : Fragment} {name : String} :
    name ∈ f.references ↔ .inclusion (.fragment name) ∈ f.nodes := by
  rw [references, List.mem_filterMap]
  constructor
  · intro h
    obtain ⟨g, hg, href⟩ := h
    unfold reference? at href
    split at href
    · cases href
      exact hg
    · cases href
  · intro h
    exact ⟨_, h, rfl⟩

end Fragment

theorem Entries.mem_of_find? {κ ν : Type} [BEq κ] [LawfulBEq κ] {key : κ} {value : ν}
    {entries : List (κ × ν)} (h : find? key entries = some value) : (key, value) ∈ entries := by
  induction entries with
  | nil => cases h
  | cons e rest ih =>
    obtain ⟨k, v⟩ := e
    by_cases hk : (k == key) = true
    · rw [find?, if_pos hk] at h
      cases h
      rw [eq_of_beq hk]
      exact List.mem_cons_self
    · rw [find?, if_neg hk] at h
      exact List.mem_cons_of_mem _ (ih h)

namespace Table

/-- The tree of one name refers to another name. -/
def Refers (table : Table) (a b : String) : Prop :=
  ∃ tree, Entries.find? a table = some tree ∧ b ∈ tree.references

/-- A name is reached by any number of references, none included. -/
def Reaches (table : Table) : String → String → Prop := Relation.ReflTransGen table.Refers

/-- No name leads back to itself. -/
def Acyclic (table : Table) : Prop := ∀ name, ¬ Relation.TransGen table.Refers name name

/-- A node of a fragment that a name reaches. -/
def Holds (table : Table) (root : String) (f : Fragment) : Prop :=
  ∃ name tree, table.Reaches root name ∧ Entries.find? name table = some tree ∧ f ∈ tree.nodes

theorem Holds.exists_entry {table : Table} {root : String} {f : Fragment}
    (h : table.Holds root f) : ∃ entry ∈ table, f ∈ entry.2.nodes := by
  obtain ⟨name, tree, -, htree, hf⟩ := h
  exact ⟨_, Entries.mem_of_find? htree, hf⟩

/-- The names that rendering can be inside of when it was asked for `root`, and the tree of the
last one. -/
inductive Active (table : Table) (root : String) : List String → Fragment → Prop where
  | start {tree : Fragment} (h : Entries.find? root table = some tree) :
      Active table root [root] tree
  | push {active : List String} {tree : Fragment} {name : String} {target : Fragment}
      (h : Active table root active tree) (href : name ∈ tree.references)
      (hnew : name ∉ active) (hf : Entries.find? name table = some target) :
      Active table root (active ++ [name]) target

namespace Active

variable {table : Table} {root : String} {active : List String} {tree : Fragment}

theorem head? (h : Active table root active tree) : active.head? = some root := by
  induction h with
  | start => rfl
  | push _ _ _ _ ih => rw [List.head?_append, ih]; rfl

theorem nodup (h : Active table root active tree) : active.Nodup := by
  induction h with
  | start => exact List.nodup_singleton root
  | push _ _ hnew _ ih => exact List.nodup_append.mpr ⟨ih, List.nodup_singleton _, by
      intro a ha b hb
      rw [List.mem_singleton.mp hb]
      exact fun h => hnew (h ▸ ha)⟩

theorem registered (h : Active table root active tree) :
    ∀ name ∈ active, (Entries.find? name table).isSome := by
  induction h with
  | start hf =>
    intro name hname
    rw [List.mem_singleton.mp hname, hf]
    rfl
  | push _ _ _ hf ih =>
    intro name hname
    rcases List.mem_append.mp hname with hname | hname
    · exact ih name hname
    · rw [List.mem_singleton.mp hname, hf]
      rfl

theorem exists_last (h : Active table root active tree) :
    ∃ name, active.getLast? = some name ∧ Entries.find? name table = some tree ∧
      table.Reaches root name := by
  induction h with
  | start hf => exact ⟨root, rfl, hf, .refl⟩
  | push _ href _ hf ih =>
    obtain ⟨last, -, hlast, hreach⟩ := ih
    exact ⟨_, List.getLast?_concat, hf, hreach.tail ⟨_, hlast, href⟩⟩

theorem holds (h : Active table root active tree) {f : Fragment} (hf : f ∈ tree.nodes) :
    table.Holds root f := by
  obtain ⟨name, -, htree, hreach⟩ := h.exists_last
  exact ⟨name, tree, hreach, htree, hf⟩

/-- Each name refers to the next one, also to one more that the last tree refers to. -/
theorem isChain_append (h : Active table root active tree) {name : String}
    (href : name ∈ tree.references) : (active ++ [name]).IsChain table.Refers := by
  induction h generalizing name with
  | start hf => exact .cons_cons ⟨_, hf, href⟩ (.singleton _)
  | push h' href' _ hf ih =>
    refine List.isChain_append.mpr ⟨ih href', .singleton _, ?_⟩
    intro a ha b hb
    rw [List.getLast?_concat, Option.mem_some_iff] at ha
    rw [List.head?_cons, Option.mem_some_iff] at hb
    subst ha hb
    exact ⟨_, hf, href⟩

/-- There are never more active names than the table has. -/
theorem length_le (h : Active table root active tree) : active.length ≤ table.length := by
  have hsub : active ⊆ Entries.keys table := fun name hname =>
    Entries.find?_isSome_iff.mp (h.registered name hname)
  have hle := (List.subperm_of_subset h.nodup hsub).length_le
  rwa [Entries.keys, List.length_map] at hle

end Active

/-! ## What a reference comes to -/

/-- The text that a reference to a name is replaced by, where names are active. -/
def refer (table : Table) (s : Setting) (active : List String) (name : String) :
    Except RenderError String :=
  if name ∈ active then .error (.recursion (active ++ [name]))
  else
    match Entries.find? name table with
    | none => .error (.unknownFragment name)
    | some target => renderTree table s (active ++ [name]) target

theorem renderTree_eq (table : Table) (s : Setting) (active : List String) (tree : Fragment) :
    renderTree table s active tree = tree.render s (table.refer s active) := by
  rw [renderTree]
  congr 1
  funext name
  unfold refer
  by_cases hold : name ∈ active
  · rw [dif_pos hold, if_pos hold]
  · rw [dif_neg hold, if_neg hold]
    split <;> simp_all

/-- A reference has a text when the fragment is there, is not being rendered, and has one inside of
the active names. -/
theorem refer_eq_ok_iff {table : Table} {s : Setting} {active : List String} {name text : String} :
    table.refer s active name = .ok text ↔
      name ∉ active ∧ ∃ target, Entries.find? name table = some target ∧
        renderTree table s (active ++ [name]) target = .ok text := by
  unfold refer
  by_cases hold : name ∈ active
  · simp [hold]
  · cases hf : Entries.find? name table with
    | none => simp [hold]
    | some target => simp [hold]

/-! ## Cycles -/

theorem transGen_of_isChain {α : Type} {r : α → α → Prop} {a b : α} {between : List α}
    (h : (a :: (between ++ [b])).IsChain r) : Relation.TransGen r a b := by
  induction between generalizing a with
  | nil => exact .single (List.isChain_cons_cons.mp h).1
  | cons c rest ih =>
    obtain ⟨hac, hrest⟩ := List.isChain_cons_cons.mp h
    exact .head hac (ih hrest)

/-- **A reference back to an active name is a cycle**, and the root reaches it. -/
theorem Active.cycle {table : Table} {root : String} {active : List String} {tree : Fragment}
    (h : Active table root active tree) {name : String} (href : name ∈ tree.references)
    (hold : name ∈ active) :
    table.Reaches root name ∧ Relation.TransGen table.Refers name name := by
  obtain ⟨last, -, hlast, hreach⟩ := h.exists_last
  obtain ⟨before, after, rfl⟩ := List.append_of_mem hold
  -- the walk from the earlier occurrence of the name to the reference is the cycle
  have hchain := h.isChain_append href
  rw [List.append_assoc, List.cons_append] at hchain
  exact ⟨hreach.tail ⟨_, hlast, href⟩, transGen_of_isChain (List.isChain_append.mp hchain).2.1⟩

/-! ## Reading a table's references off its trees -/

section Static

variable {table : Table}

/-- References that all go down in some rank make no cycle. -/
theorem acyclic_of_rank (rank : String → Nat)
    (h : ∀ a b, table.Refers a b → rank b < rank a) : table.Acyclic := by
  have hdown : ∀ a b, Relation.TransGen table.Refers a b → rank b < rank a := by
    intro a b hpath
    induction hpath with
    | single hab => exact h _ _ hab
    | tail _ hbc ih => exact Nat.lt_trans (h _ _ hbc) ih
  intro name hcycle
  exact Nat.lt_irrefl _ (hdown name name hcycle)

/-- The static check sees each reference of each tree. -/
theorem exists_mem_unresolved {name missing : String} {tree : Fragment}
    (hentry : (name, tree) ∈ table) (href : missing ∈ tree.references)
    (hnone : Entries.find? missing table = none) :
    ∃ all, (name, all) ∈ table.unresolved ∧ missing ∈ all := by
  have hmem : missing ∈ tree.references.filter fun n => (Entries.find? n table).isNone := by
    rw [List.mem_filter]
    exact ⟨href, by rw [hnone]; rfl⟩
  refine ⟨_, List.mem_filterMap.mpr ⟨_, hentry, ?_⟩, hmem⟩
  cases hall : tree.references.filter fun n => (Entries.find? n table).isNone with
  | nil => rw [hall] at hmem; cases hmem
  | cons first rest => rfl

/-- With nothing unresolved, each reference of each tree leads to a fragment. -/
theorem isSome_find?_of_resolved (hresolved : table.unresolved = []) {name next : String}
    {tree : Fragment} (hentry : (name, tree) ∈ table) (href : next ∈ tree.references) :
    (Entries.find? next table).isSome := by
  cases hnext : Entries.find? next table with
  | some target => rfl
  | none =>
    obtain ⟨all, hall, -⟩ := exists_mem_unresolved hentry href hnext
    rw [hresolved] at hall
    cases hall

end Static

end Table
end SqlTemplate
