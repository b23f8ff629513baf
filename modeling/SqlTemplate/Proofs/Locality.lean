import SqlTemplate.Proofs.Agreement
import SqlTemplate.Proofs.Override

/-!
# What a name does not reach

Rendering a name looks up that name and the names it reaches, and no others. So two tables that
agree on these render the name alike, **whatever that comes to**: the same SQL, or the same fault
with the same chain of names. That is what makes it safe to put another file on top of a bundle. A
file that redefines fragments changes the SQL of those names that reach one of them, and of no
other.

Which names are reached is a question about one of the two tables only, for where the tables agree
they lead to the same names (`AgreeFrom.reaches_iff`). Cycles and missing fragments need no care: a
name that is missing in one table and reached is missing in the other.
-/

set_option autoImplicit false

namespace SqlTemplate
namespace Table

/-- Under every name that `root` reaches in the first table, both have the same tree or none. -/
def AgreeFrom (table other : Table) (root : String) : Prop :=
  ∀ name, table.Reaches root name → Entries.find? name table = Entries.find? name other

variable {table other : Table} {root : String}

/-- A set of names with the root in it that no reference leads out of has all names reached. -/
theorem Reaches.mem_of_closed {names : List String} (hroot : root ∈ names)
    (hclosed : ∀ a ∈ names, ∀ tree, Entries.find? a table = some tree → ∀ b ∈ tree.references,
      b ∈ names) {name : String} (h : table.Reaches root name) : name ∈ names := by
  induction h with
  | refl => exact hroot
  | tail _ hrefers ih =>
    obtain ⟨tree, htree, href⟩ := hrefers
    exact hclosed _ ih tree htree _ href

namespace AgreeFrom

theorem reaches {name : String} (h : table.AgreeFrom other root) (hreach : table.Reaches root name) :
    other.Reaches root name := by
  induction hreach with
  | refl => exact .refl
  | tail hbefore hrefers ih =>
    obtain ⟨tree, htree, href⟩ := hrefers
    rw [h _ hbefore] at htree
    exact ih.tail ⟨tree, htree, href⟩

theorem reaches_iff (h : table.AgreeFrom other root) (name : String) :
    other.Reaches root name ↔ table.Reaches root name := by
  constructor
  · -- the last name before is reached in the first table too, and so has the same tree there
    intro hreach
    induction hreach with
    | refl => exact .refl
    | tail _ hrefers ih =>
      obtain ⟨tree, htree, href⟩ := hrefers
      rw [← h _ ih] at htree
      exact ih.tail ⟨tree, htree, href⟩
  · exact h.reaches

end AgreeFrom

/-! ## Adding, redefining and removing -/

theorem agreeFrom_override {later : Table}
    (h : ∀ name ∈ Entries.keys later, ¬ table.Reaches root name) :
    table.AgreeFrom (table.override later) root := by
  intro name hreach
  have hnone : Entries.find? name later.reverse = none := by
    rw [← Option.not_isSome_iff_eq_none, Entries.find?_isSome_iff, Entries.keys, List.map_reverse,
      List.mem_reverse]
    exact fun hmem => h name hmem hreach
  rw [override, Entries.find?_putAll, hnone, Option.none_or]

theorem agreeFrom_filter {keep : String → Bool}
    (h : ∀ name, table.Reaches root name → keep name = true) :
    table.AgreeFrom (table.filter fun entry => keep entry.1) root := by
  intro name hreach
  rw [Entries.find?_filter, if_pos (h name hreach)]

end Table

/-- One file more overrides the table of the files before it. -/
theorem parseFiles_concat {files : List (List String)} {lines : List String} {strict : Bool}
    {table later : Table} (hfiles : parseFiles files strict = .ok table)
    (hlines : parseLines lines strict = .ok later) :
    parseFiles (files ++ [lines]) strict = .ok (table.override later) := by
  obtain ⟨tables, htables, rfl⟩ := Outcome.map_eq_ok_iff.mp hfiles
  unfold parseFiles
  rw [List.mapM_append, htables]
  simp only [List.mapM_cons, List.mapM_nil, hlines]
  refine congrArg Except.ok ?_
  show mergeTables (tables ++ [later]) = _
  rw [mergeTables, List.foldl_append]
  rfl

/-- **Rendering is local.** Tables that agree on what a name reaches render it alike, and they reach
the same from it. So fragments that the name does not reach may be added, redefined or removed, by
hand or by one more file, and its SQL or its fault stays what it was. -/
theorem Table.render_local (table : Table) (root : String) (s : Setting) :
    (∀ other, table.AgreeFrom other root →
      other.render s root = table.render s root ∧
        ∀ name, other.Reaches root name ↔ table.Reaches root name) ∧
    (∀ later : Table, (∀ name ∈ Entries.keys later, ¬ table.Reaches root name) →
      (table.override later).render s root = table.render s root) ∧
    (∀ keep : String → Bool, (∀ name, table.Reaches root name → keep name = true) →
      Table.render (table.filter fun entry => keep entry.1) s root = table.render s root) ∧
    ∀ (files : List (List String)) (lines : List String) (strict : Bool) (later : Table),
      parseFiles files strict = .ok table → parseLines lines strict = .ok later →
      (∀ name ∈ Entries.keys later, ¬ table.Reaches root name) →
      ∃ whole, parseFiles (files ++ [lines]) strict = .ok whole ∧
        whole.render s root = table.render s root := by
  refine ⟨?_, ?_, ?_, ?_⟩
  · intro other hagree
    exact ⟨(render_eq_of_agree hagree).symm, hagree.reaches_iff⟩
  · intro later hlater
    exact (render_eq_of_agree (agreeFrom_override hlater)).symm
  · intro keep hkeep
    exact (render_eq_of_agree (agreeFrom_filter hkeep)).symm
  · intro files lines strict later hfiles hlines hlater
    exact ⟨_, parseFiles_concat hfiles hlines,
      (render_eq_of_agree (agreeFrom_override hlater)).symm⟩

/-- A name on a cycle with a missing fragment beside it, and a file that redefines a fragment which
leads there but is not reached from it. -/
theorem Table.render_local_cycle :
    let base := ["@NAME(A)", " a @INCLUDE(B)", " @INCLUDE(Gone)", "@NAME(B)", " @INCLUDE(A)",
      "@NAME(C)", " @INCLUDE(A)"]
    let overrides := ["@NAME(C)", " c", "@NAME(D)", " @INCLUDE(C)"]
    ∃ table later, parseFiles [base] true = .ok table ∧ parseLines overrides true = .ok later ∧
      (∀ name ∈ Entries.keys later, ¬ table.Reaches "A" name) ∧
      (table.override later).render {} "A" = table.render {} "A" ∧
      ∃ whole, parseFiles ([base] ++ [overrides]) true = .ok whole ∧
        whole.render {} "A" = table.render {} "A" := by
  intro base overrides
  let table : Table := [
    ("A", .block (.named "A") [.text "a ", .inclusion (.fragment "B"),
      .inclusion (.fragment "Gone")]),
    ("B", .block (.named "B") [.inclusion (.fragment "A")]),
    ("C", .block (.named "C") [.inclusion (.fragment "A")])]
  let later : Table := [("C", .block (.named "C") [.text "c "]),
    ("D", .block (.named "D") [.inclusion (.fragment "C")])]
  have hbase : parseFiles [base] true = .ok table := by cbv
  have hlater : parseLines overrides true = .ok later := by cbv
  have hclosed : ∀ a ∈ ["A", "B", "Gone"], ∀ tree, Entries.find? a table = some tree →
      ∀ b ∈ tree.references, b ∈ ["A", "B", "Gone"] := by
    intro a ha tree htree b hb
    simp at ha
    rcases ha with rfl | rfl | rfl
    · cases htree
      simp [Fragment.references, Fragment.nodes, Fragment.nodesOfAll, Fragment.reference?] at hb
      rcases hb with rfl | rfl <;> decide
    · cases htree
      simp [Fragment.references, Fragment.nodes, Fragment.nodesOfAll, Fragment.reference?] at hb
      rw [← hb]
      decide
    · cases htree
  have hunreached : ∀ name ∈ Entries.keys later, ¬ table.Reaches "A" name := by
    intro name hname hreach
    have hmem := Reaches.mem_of_closed (by decide) hclosed hreach
    simp [later, Entries.keys] at hname
    rcases hname with rfl | rfl <;> simp at hmem
  obtain ⟨-, hoverride, -, hfile⟩ := table.render_local "A" {}
  exact ⟨table, later, hbase, hlater, hunreached, hoverride later hunreached,
    hfile [base] overrides true later hbase hlater hunreached⟩

end SqlTemplate
