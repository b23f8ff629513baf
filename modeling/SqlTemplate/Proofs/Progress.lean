import SqlTemplate.Bundle
import SqlTemplate.Proofs.FaultOrigin

/-!
# What cannot go wrong

Some faults can be seen in a bundle before anything is rendered: nodes that stand for nothing,
references that lead nowhere, references that lead back. **A bundle without these goes wrong only
through its parameters**, and not at all when they give what is inserted and number the pages.

The argument is by faults. A fault of a rendering is the fault of one node that the name asked for
reaches, so it is enough that no such node can fail. References are where the static check and the
rendering have to meet: what rendering finds to be missing is in a tree that the name reaches, and
the check looks at all nodes of all trees. That needs no measure on the table; acyclicity is used
only to refuse the one fault that speaks of a cycle.
-/

set_option autoImplicit false

namespace SqlTemplate

/-- No value, or an integer: what a paging variable should be. -/
def Parameters.NumbersPage (p : Parameters) (v : String) : Prop :=
  p.find? v = none ∨ p.find? v = some .null ∨ ∃ n, p.find? v = some (.int n)

theorem Parameters.pageNumber?_eq_ok {p : Parameters} {name : Option String}
    (h : ∀ v ∈ Fragment.pageVariable name, p.NumbersPage v) :
    ∃ n, p.pageNumber? name = .ok n := by
  unfold pageNumber?
  cases name with
  | none => exact ⟨none, rfl⟩
  | some v =>
    cases hv : v.isEmpty with
    | true => exact ⟨none, by simp only [hv, if_true]⟩
    | false =>
      simp only [hv, Bool.false_eq_true, if_false]
      rcases h v (Fragment.mem_pageVariable_some hv) with hfind | hfind | ⟨n, hfind⟩
      · exact ⟨none, by rw [hfind]⟩
      · exact ⟨none, by rw [hfind]⟩
      · exact ⟨some n, by rw [hfind]; rfl⟩

/-- The parameters give what the nodes insert, and what numbers pages is fit for it. -/
structure Supplies (holds : Fragment → Prop) (p : Parameters) : Prop where
  inserted : ∀ v, holds (.inclusion (.value v)) → p.has v = true
  pages : ∀ f v, holds f → v ∈ f.pageVariables → p.NumbersPage v

theorem Supplies.mono {holds holds' : Fragment → Prop} {p : Parameters} (h : Supplies holds p)
    (hsub : ∀ f, holds' f → holds f) : Supplies holds' p where
  inserted v hf := h.inserted v (hsub _ hf)
  pages f v hf := h.pages f v (hsub _ hf)

namespace Dialect

variable {d : Dialect}

theorem pagingClause_eq_ok (h : d.style ≠ .rowNumber) (offset fetch : Option Int) :
    ∃ clause, d.pagingClause offset fetch = .ok clause := by
  cases hstyle : d.style with
  | rowNumber => exact absurd hstyle h
  | offsetFetch | limitOffset | mySql =>
    cases offset <;> cases fetch <;> exact ⟨_, by simp only [pagingClause, hstyle]; rfl⟩

theorem addPaging_eq_ok (h : d.style ≠ .rowNumber) (query : String) (offset fetch : Option Int) :
    ∃ text, d.addPaging query offset fetch = .ok text := by
  obtain ⟨clause, hclause⟩ := pagingClause_eq_ok h offset fetch
  refine ⟨query ++ clause, ?_⟩
  unfold addPaging
  split
  · next hstyle => exact absurd hstyle h
  · rw [hclause]
    rfl

end Dialect

namespace Setting

variable {s : Setting}

theorem pageText_eq_ok {offset fetch : String} {children : List Fragment}
    (hstyle : s.dialect.style ≠ .rowNumber) (query : String)
    (h : ∀ v ∈ (Fragment.block (.paging offset fetch) children).pageVariables,
      s.parameters.NumbersPage v) :
    ∃ text, s.pageText offset fetch query = .ok text := by
  rw [Fragment.pageVariables] at h
  obtain ⟨o, ho⟩ := Parameters.pageNumber?_eq_ok fun v hv => h v (List.mem_append_left _ hv)
  obtain ⟨n, hn⟩ := Parameters.pageNumber?_eq_ok fun v hv => h v (List.mem_append_right _ hv)
  obtain ⟨text, htext⟩ := Dialect.addPaging_eq_ok hstyle query o n
  refine ⟨text, Outcome.bind_eq_ok_iff.mpr ⟨o, ho, Outcome.bind_eq_ok_iff.mpr ⟨n, hn, ?_⟩⟩⟩
  rw [htext]
  rfl

theorem clauseText_eq_ok {offset fetch : Option String} {rows : Option Int}
    (hstyle : s.dialect.style ≠ .rowNumber)
    (h : ∀ v ∈ (Fragment.offsetFetch offset fetch rows).pageVariables,
      s.parameters.NumbersPage v) :
    ∃ text, s.clauseText offset fetch rows = .ok text := by
  rw [Fragment.pageVariables] at h
  obtain ⟨o, ho⟩ := Parameters.pageNumber?_eq_ok fun v hv => h v (List.mem_append_left _ hv)
  have hlimit : ∃ n, s.rowLimit fetch rows = .ok n := by
    cases rows with
    | some rows => exact ⟨_, rfl⟩
    | none => exact Parameters.pageNumber?_eq_ok fun v hv => h v (List.mem_append_right _ hv)
  obtain ⟨n, hn⟩ := hlimit
  obtain ⟨text, htext⟩ := Dialect.pagingClause_eq_ok hstyle o n
  refine ⟨text, ?_⟩
  rw [clauseText_eq]
  refine Outcome.bind_eq_ok_iff.mpr ⟨o, ho, Outcome.bind_eq_ok_iff.mpr ⟨n, hn, ?_⟩⟩
  rw [htext]
  rfl

theorem rawText_eq_ok {v : String} (hallowed : s.rawAllowed = true)
    (hgiven : s.parameters.has v = true) : ∃ text, s.rawText v = .ok text := by
  obtain ⟨value, hvalue⟩ := Option.isSome_iff_exists.mp hgiven
  exact ⟨_, by rw [rawText, hvalue]; exact if_pos hallowed⟩

end Setting

/-- With fit parameters, nothing but a refused reference or a bare node is a fault. -/
theorem Fragment.Fails.reference_or_bare {s : Setting} {refused : String → RenderError → Prop}
    {g : Fragment} {e : RenderError} (h : g.Fails s refused e)
    (hstyle : s.dialect.style ≠ .rowNumber) (hallowed : s.rawAllowed = true)
    (hsupplies : Supplies (· = g) s.parameters) :
    (∃ name, g = .inclusion (.fragment name) ∧ refused name e) ∨ g = .bare := by
  have hpages := fun v => hsupplies.pages g v rfl
  cases g with
  | text sql => exact h.elim
  | block head children =>
    cases head with
    | paging offset fetch =>
      obtain ⟨query, hpage⟩ := h
      obtain ⟨text, htext⟩ := Setting.pageText_eq_ok hstyle query hpages
      rw [htext] at hpage
      cases hpage
    | named | group | filter | test | like => exact h.elim
  | inclusion target =>
    cases target with
    | fragment name => exact Or.inl ⟨name, rfl, h⟩
    | value v =>
      obtain ⟨text, htext⟩ := Setting.rawText_eq_ok hallowed (hsupplies.inserted v rfl)
      rw [show s.rawText v = .error e from h] at htext
      cases htext
  | offsetFetch offset fetch rows =>
    obtain ⟨text, htext⟩ := Setting.clauseText_eq_ok hstyle hpages
    rw [show s.clauseText offset fetch rows = .error e from h] at htext
    cases htext
  | bare => exact Or.inr rfl

namespace Table

variable {table : Table}

/-- What rendering finds to be missing, the static check lists. -/
theorem unresolved_of_render {root t : String} {s : Setting}
    (hroot : (Entries.find? root table).isSome)
    (h : table.render s root = .error (.unknownFragment t)) :
    ∃ name all, table.Reaches root name ∧ (name, all) ∈ table.unresolved ∧ t ∈ all := by
  obtain ⟨active, tree, hactive, href, hnone⟩ := render_unknownFragment hroot h
  obtain ⟨name, -, htree, hreach⟩ := hactive.exists_last
  obtain ⟨all, hall, ht⟩ := exists_mem_unresolved (Entries.mem_of_find? htree) href hnone
  exact ⟨name, all, hreach, hall, ht⟩

end Table

namespace Bundle

/-- A bundle in which nothing is wrong that can be seen without parameters. -/
structure Complete (b : Bundle) : Prop where
  concrete : ∀ entry ∈ b.table, .bare ∉ entry.2.nodes
  resolved : b.table.unresolved = []
  acyclic : b.table.Acyclic

theorem Complete.sql_eq_ok {b : Bundle} (hcomplete : b.Complete) {p : Parameters}
    {name : String} (hname : name ∈ b.names) (hstyle : b.dialect.style ≠ .rowNumber)
    (hallowed : b.rawAllowed = true) (hsupplies : Supplies (b.table.Holds name) p) :
    ∃ sql, b.sql p name = .ok sql := by
  have hroot := Entries.find?_isSome_iff.mpr hname
  cases hsql : b.sql p name with
  | ok sql => exact ⟨sql, rfl⟩
  | error e =>
    exfalso
    rcases Table.render_error hsql with ⟨hnone, -⟩ | ⟨active, tree, g, hactive, hg, hfails⟩
    · rw [hnone] at hroot
      cases hroot
    · have hheld := hactive.holds hg
      have hown : Supplies (· = g) p := hsupplies.mono fun f hf => hf ▸ hheld
      rcases hfails.reference_or_bare hstyle hallowed hown with ⟨other, rfl, hrefused⟩ | rfl
      · have href := Fragment.mem_references_iff.mpr hg
        rcases hrefused with ⟨hold, -⟩ | ⟨hnone, -⟩
        -- a name that is active already would close a cycle, one that is missing is unresolved
        · exact hcomplete.acyclic other (hactive.cycle href hold).2
        · obtain ⟨last, -, htree, -⟩ := hactive.exists_last
          obtain ⟨all, hall, -⟩ :=
            Table.exists_mem_unresolved (Entries.mem_of_find? htree) href hnone
          rw [hcomplete.resolved] at hall
          cases hall
      · obtain ⟨entry, hentry, hbare⟩ := hheld.exists_entry
        exact hcomplete.concrete entry hentry hbare

/-- **Progress**: a complete bundle with fit parameters gives SQL for each of its names, unless its
dialect is of the kind that cuts queries up. And whatever the bundle, a fragment that rendering
does not find is one that the static check lists for a name on the way to it. -/
theorem sql_progress {b : Bundle} {p : Parameters} {name : String} (hname : name ∈ b.names) :
    (b.Complete → b.dialect.style ≠ .rowNumber → b.rawAllowed = true →
      Supplies (b.table.Holds name) p → ∃ sql, b.sql p name = .ok sql) ∧
    ∀ t, b.sql p name = .error (.unknownFragment t) →
      ∃ other missing, b.table.Reaches name other ∧ (other, missing) ∈ b.table.unresolved ∧
        t ∈ missing := by
  constructor
  · intro hcomplete hstyle hallowed hsupplies
    exact hcomplete.sql_eq_ok hname hstyle hallowed hsupplies
  · intro t ht
    exact Table.unresolved_of_render (Entries.find?_isSome_iff.mpr hname) ht

/-- Two fragments that share a third, which inserts a variable and selects a page. -/
def report : Bundle where
  table := [
    ("Report", .block (.named "Report") [.inclusion (.fragment "Rows"), .text "UNION ALL ",
      .inclusion (.fragment "Totals")]),
    ("Rows", .block (.named "Rows") [.text "SELECT * FROM ", .inclusion (.fragment "Source")]),
    ("Totals", .block (.named "Totals") [.text "SELECT 0 FROM ", .inclusion (.fragment "Source")]),
    ("Source", .block (.named "Source") [.inclusion (.value "table"),
      .offsetFetch (some "first") none none])]

theorem report_complete : report.Complete where
  concrete := by
    intro entry hentry
    simp [report] at hentry
    rcases hentry with rfl | rfl | rfl | rfl <;> simp [Fragment.nodes, Fragment.nodesOfAll]
  resolved := by decide
  acyclic := by
    apply Table.acyclic_of_rank fun n => if n = "Report" then 2 else if n = "Source" then 0 else 1
    intro a b h
    obtain ⟨tree, htree, href⟩ := h
    have hentry := Entries.mem_of_find? htree
    rw [Fragment.mem_references_iff] at href
    simp [report] at hentry
    rcases hentry with ⟨rfl, rfl⟩ | ⟨rfl, rfl⟩ | ⟨rfl, rfl⟩ | ⟨rfl, rfl⟩ <;>
      simp [Fragment.nodes, Fragment.nodesOfAll] at href
    · rcases href with rfl | rfl <;> decide
    · rw [href]; decide
    · rw [href]; decide

/-- The shared fragment is no cycle, and the report is rendered. -/
theorem sql_progress_report :
    let p := .given [(.str "table", .str "t"), (.str "first", .int 20)]
    "Report" ∈ report.names ∧ report.Complete ∧ report.dialect.style ≠ .rowNumber ∧
      report.rawAllowed = true ∧ Supplies (report.table.Holds "Report") p ∧
      ∃ sql, report.sql p "Report" = .ok sql := by
  intro p
  have hname : "Report" ∈ report.names := by decide
  have hnode : ∀ f, report.table.Holds "Report" f →
      f ∈ report.table.flatMap fun entry => entry.2.nodes :=
    fun f h => List.mem_flatMap.mpr h.exists_entry
  simp [report, Fragment.nodes, Fragment.nodesOfAll] at hnode
  have hsupplies : Supplies (report.table.Holds "Report") p := by
    constructor
    · intro v h
      have hf := hnode _ h
      simp at hf
      rw [hf]
      decide
    · intro f v h hv
      rcases hnode f h with
        rfl | rfl | rfl | rfl | rfl | rfl | rfl | rfl | rfl | rfl | rfl | rfl | rfl
      all_goals simp [Fragment.pageVariables, Fragment.pageVariable] at hv
      rw [hv]
      exact Or.inr (Or.inr ⟨20, rfl⟩)
  exact ⟨hname, report_complete, by decide, rfl, hsupplies,
    (sql_progress hname).1 report_complete (by decide) rfl hsupplies⟩

end Bundle

end SqlTemplate
