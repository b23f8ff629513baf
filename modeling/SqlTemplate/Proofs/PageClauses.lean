import SqlTemplate.Proofs.Agreement
import SqlTemplate.Proofs.Elision

/-!
# A page block and a paging clause at its end

A block that selects a page renders its children and then asks the dialect to page the query they
make. A paging clause for the same two variables, written behind the children, asks the dialect for
a clause. Where a dialect pages a query by putting a clause behind it, **the two ask for the same
thing in the same order**: children first, then the offset, then the number of rows. So the one may
stand for the other anywhere in a table, and texts and faults stay what they were.

A dialect that numbers rows has no paging clause, and what it makes of a query is another query. It
agrees with itself only where no page is asked for, which is also where neither of the two is
refused. `Fragment.PagesByClause` says that some page blocks of a tree, any of them and wherever
they are, have been written the other way.
-/

set_option autoImplicit false

namespace SqlTemplate

/-- The second tree is the first with some of its page blocks written as groups: the children, and
behind them a paging clause for the same variables. -/
inductive Fragment.PagesByClause : Fragment → Fragment → Prop where
  | same (f : Fragment) : PagesByClause f f
  | block (head : Head) {children children' : List Fragment}
      (h : List.Forall₂ PagesByClause children children') :
      PagesByClause (.block head children) (.block head children')
  | page (offset fetch : String) {children children' : List Fragment}
      (h : List.Forall₂ PagesByClause children children') :
      PagesByClause (.block (.paging offset fetch) children)
        (.block .group (children' ++ [.offsetFetch (some offset) (some fetch) none]))

/-- The second table is the first with some of the page blocks in its trees written so. -/
def Table.PagesByClause (table other : Table) : Prop :=
  List.Forall₂ (fun entry entry' => entry'.1 = entry.1 ∧ entry.2.PagesByClause entry'.2) table other

/-- Two runs that, where both give a value, give the same one. -/
def NeverApart {α : Type} (x y : Except RenderError α) : Prop :=
  ∀ a b, x = .ok a → y = .ok b → b = a

theorem compatible_neverApart : Compatible @NeverApart where
  refl x a b ha hb := by
    rw [ha] at hb
    exact (Except.ok.inj hb).symm
  bind hxy hfg c d hc hd := by
    obtain ⟨a, hx, hfa⟩ := Outcome.bind_eq_ok_iff.mp hc
    obtain ⟨b, hy, hgb⟩ := Outcome.bind_eq_ok_iff.mp hd
    rw [hxy a b hx hy] at hgb
    exact hfg a c d hfa hgb

/-! ## One block -/

namespace Setting

variable {s : Setting}

/-- The text of a query with the clause that the variables give behind it. -/
def withClause (s : Setting) (offset fetch query : String) : Except RenderError String :=
  (s.clauseText (some offset) (some fetch) none).map (query ++ ·)

/-- **A dialect with paging clauses pages a query by the clause**, and refuses what it refuses. -/
theorem pageText_eq_withClause (hstyle : s.dialect.style ≠ .rowNumber)
    (offset fetch query : String) : s.pageText offset fetch query = s.withClause offset fetch query := by
  have hadd : ∀ o n, s.dialect.addPaging query o n = (s.dialect.pagingClause o n).map (query ++ ·) := by
    intro o n
    unfold Dialect.addPaging
    cases hs : s.dialect.style with
    | rowNumber => exact absurd hs hstyle
    | offsetFetch | limitOffset | mySql => rfl
  unfold withClause pageText clauseText
  cases s.parameters.pageNumber? (some offset) with
  | error e => rfl
  | ok o =>
    cases s.parameters.pageNumber? (some fetch) with
    | error e => rfl
    | ok n =>
      show (s.dialect.addPaging query o n).mapError RenderError.dialect =
        ((s.dialect.pagingClause o n).mapError RenderError.dialect).map (query ++ ·)
      rw [hadd]
      cases s.dialect.pagingClause o n <;> rfl

/-- A dialect without paging clauses has one only where no page is asked for. -/
theorem pageText_neverApart_withClause (hstyle : s.dialect.style = .rowNumber)
    (offset fetch query : String) :
    NeverApart (s.pageText offset fetch query) (s.withClause offset fetch query) := by
  intro text text' htext htext'
  obtain ⟨o, ho, htext⟩ := Outcome.bind_eq_ok_iff.mp htext
  obtain ⟨n, hn, hpaged⟩ := Outcome.bind_eq_ok_iff.mp htext
  obtain ⟨clause, hclause, rfl⟩ := Outcome.map_eq_ok_iff.mp htext'
  obtain ⟨o', ho', hclause⟩ := Outcome.bind_eq_ok_iff.mp hclause
  obtain ⟨n', hn', hclause⟩ := Outcome.bind_eq_ok_iff.mp hclause
  obtain rfl : o = o' := Except.ok.inj (ho.symm.trans ho')
  obtain rfl : n = n' := Except.ok.inj (hn.symm.trans hn')
  rw [Outcome.mapError_eq_ok_iff] at hpaged hclause
  unfold Dialect.addPaging at hpaged
  unfold Dialect.pagingClause at hclause
  rw [hstyle] at hpaged hclause
  cases o with
  | some o => cases n <;> cases hclause
  | none =>
    cases n with
    | some n => cases hclause
    | none =>
      cases hpaged
      cases hclause
      exact String.append_empty

end Setting

/-! ## A tree -/

namespace Fragment

variable {s : Setting} {refer refer' : String → Except RenderError String}

theorem PagesByClause.connector?_eq {f f' : Fragment} (h : f.PagesByClause f') :
    f'.connector? = f.connector? := by
  cases h with
  | same => rfl
  | block head => cases head <;> rfl
  | page => rfl

/-- A group that ends in a paging clause has the text of the other children and then the clause. -/
theorem render_group_clause (children : List Fragment) (offset fetch : String) :
    (Fragment.block .group (children ++ [.offsetFetch (some offset) (some fetch) none])).render s
        refer =
      (do
        let said ← renderEach s refer children
        s.withClause offset fetch (String.join (said.map Prod.snd))) := by
  have henters : s.enters .group = true := rfl
  rw [render, if_pos henters, renderEach_append, renderEach, render]
  cases renderEach s refer children with
  | error e => rfl
  | ok said =>
    unfold Setting.withClause
    cases s.clauseText (some offset) (some fetch) none with
    | error e => rfl
    | ok clause =>
      show Except.ok (String.join ((said ++ [(none, clause)]).map Prod.snd)) = Except.ok _
      rw [List.map_append, String.join_append]
      simp

/-- **In any sense of agreement that passes through sequences of steps**, a tree with its page
blocks written the other way agrees with the tree as soon as the one block does. -/
theorem PagesByClause.render_related
    {R : ∀ {α : Type}, Except RenderError α → Except RenderError α → Prop} (hR : Compatible R)
    (hpage : ∀ offset fetch query, R (s.pageText offset fetch query) (s.withClause offset fetch query))
    (hrefer : ∀ name, R (refer name) (refer' name)) {f f' : Fragment} (h : f.PagesByClause f') :
    R (f.render s refer) (f'.render s refer') := by
  induction h using PagesByClause.rec
    (motive_2 := fun fs fs' _ => R (renderEach s refer fs) (renderEach s refer' fs')) with
  | same f => exact Fragment.render_related hR fun name _ => hrefer name
  | block head h ih =>
    rw [render, render]
    split
    · exact hR.bind ih fun _ => hR.refl _
    · exact hR.refl _
  | page offset fetch h ih =>
    rw [render_group_clause, render]
    exact hR.bind ih fun said => hpage offset fetch (String.join (said.map Prod.snd))
  | nil => exact hR.refl _
  | cons hf hrest ihf ihrest =>
    rw [renderEach, renderEach, PagesByClause.connector?_eq hf]
    exact hR.bind ihf fun said => hR.bind ihrest fun others => hR.refl _

end Fragment

/-! ## A table -/

namespace Table

variable {table other : Table} {s : Setting}

/-- A name is in both tables or in neither, and its trees are one another's. -/
theorem PagesByClause.find?_cases (h : table.PagesByClause other) (name : String) :
    (Entries.find? name table = none ∧ Entries.find? name other = none) ∨
      ∃ tree tree', Entries.find? name table = some tree ∧ Entries.find? name other = some tree' ∧
        tree.PagesByClause tree' := by
  induction h with
  | nil => exact Or.inl ⟨rfl, rfl⟩
  | @cons entry entry' rest rest' hentry _ ih =>
    obtain ⟨hkey, htree⟩ := hentry
    rw [Entries.find?, Entries.find?, hkey]
    split
    · exact Or.inr ⟨_, _, rfl, rfl, htree⟩
    · exact ih

section Related

variable {R : ∀ {α : Type}, Except RenderError α → Except RenderError α → Prop} (hR : Compatible R)
  (hpage : ∀ offset fetch query, R (s.pageText offset fetch query) (s.withClause offset fetch query))
include hR hpage

theorem PagesByClause.renderTree_related (h : table.PagesByClause other) {active : List String}
    {tree tree' : Fragment} (htree : tree.PagesByClause tree') :
    R (renderTree table s active tree) (renderTree other s active tree') := by
  induction active, tree using renderTree.induct table generalizing tree' with
  | case1 active tree ih =>
    rw [renderTree_eq, renderTree_eq]
    refine htree.render_related hR hpage fun name => ?_
    unfold refer
    by_cases hold : name ∈ active
    · rw [if_pos hold, if_pos hold]
      exact hR.refl _
    · rw [if_neg hold, if_neg hold]
      rcases h.find?_cases name with ⟨hnone, hnone'⟩ | ⟨target, target', hf, hf', htarget⟩
      · rw [hnone, hnone']
        exact hR.refl _
      · rw [hf, hf']
        exact ih name hold target hf htarget

theorem PagesByClause.render_related (h : table.PagesByClause other) (name : String) :
    R (table.render s name) (other.render s name) := by
  unfold render
  rcases h.find?_cases name with ⟨hnone, hnone'⟩ | ⟨tree, tree', hf, hf', htree⟩
  · rw [hnone, hnone']
    exact hR.refl _
  · rw [hf, hf']
    exact h.renderTree_related hR hpage htree

end Related

/-- **Page blocks may be written as paging clauses**: a dialect with paging clauses renders either
way to the same text or the same fault, and one without never to two different texts. -/
theorem page_blocks_as_clauses (h : table.PagesByClause other) (s : Setting) (name : String) :
    (s.dialect.style ≠ .rowNumber → other.render s name = table.render s name) ∧
    (s.dialect.style = .rowNumber → ∀ sql sql', table.render s name = .ok sql →
      other.render s name = .ok sql' → sql' = sql) := by
  constructor
  · intro hstyle
    exact (h.render_related compatible_eq (s.pageText_eq_withClause hstyle) name).symm
  · intro hstyle
    exact h.render_related compatible_neverApart (s.pageText_neverApart_withClause hstyle) name

/-- A page of open orders, as a block inside another, in a condition and behind a reference. -/
def pagedOrders : Table := [
  ("Page", .block (.named "Page") [.block (.paging "offset" "fetch") [
    .text "SELECT * FROM orders ",
    .block .filter [.block (.test .conjunct ⟨"open", none⟩) [
      .block (.paging "none" "limit") [.text "open = ", .inclusion (.fragment "Flag")]]]]]),
  ("Flag", .block (.named "Flag") [.block (.paging "none" "none") [.text "1 "]])]

/-- The same orders with the block and the one inside it written as clauses, the other one not. -/
def clausedOrders : Table := [
  ("Page", .block (.named "Page") [.block .group [
    .text "SELECT * FROM orders ",
    .block .filter [.block (.test .conjunct ⟨"open", none⟩) [
      .block .group [.text "open = ", .inclusion (.fragment "Flag"),
        .offsetFetch (some "none") (some "limit") none]]],
    .offsetFetch (some "offset") (some "fetch") none]]),
  ("Flag", .block (.named "Flag") [.block (.paging "none" "none") [.text "1 "]])]

theorem pagedOrders_pagesByClause : pagedOrders.PagesByClause clausedOrders := by
  refine .cons ⟨rfl, .block _ (.cons ?_ .nil)⟩ (.cons ⟨rfl, .same _⟩ .nil)
  -- first the outer block, and below the condition in it the inner one
  refine .page "offset" "fetch" (.cons (.same _) (.cons (.block _ (.cons ?_ .nil)) .nil))
  exact .block _ (.cons (.page "none" "limit" (.cons (.same _) (.cons (.same _) .nil))) .nil)

/-- A page of the orders, a number of rows that is no number, and a dialect without clauses that is
asked for no page. -/
theorem page_blocks_as_clauses_orders :
    let given : Parameters :=
      .given [(.str "open", .bool true), (.str "offset", .int 4), (.str "fetch", .str "2")]
    let wrong : Parameters := .given [(.str "fetch", .bool true)]
    let numbering : Dialect := ⟨.str "sqlserver2008", "", .rowNumber⟩
    let sql := "SELECT * FROM orders WHERE open = 1 OFFSET 4 ROWS FETCH NEXT 2 ROWS ONLY "
    pagedOrders.PagesByClause clausedOrders ∧
    pagedOrders.render { parameters := given } "Page" = .ok sql ∧
    clausedOrders.render { parameters := given } "Page" = .ok sql ∧
    clausedOrders.render { parameters := wrong } "Page" =
      pagedOrders.render { parameters := wrong } "Page" ∧
    pagedOrders.render { dialect := numbering } "Page" = .ok "SELECT * FROM orders " ∧
    clausedOrders.render { dialect := numbering } "Page" = .ok "SELECT * FROM orders " := by
  intro given wrong numbering sql
  have h := pagedOrders_pagesByClause
  have hpaged : pagedOrders.render { parameters := given } "Page" = .ok sql := by cbv
  have hsame := fun s => (page_blocks_as_clauses h s "Page").1
  have hnumbered : pagedOrders.render { dialect := numbering } "Page" =
      .ok "SELECT * FROM orders " := by cbv
  obtain ⟨text, htext⟩ : ∃ text, clausedOrders.render { dialect := numbering } "Page" = .ok text :=
    ⟨_, by cbv⟩
  have hagree := (page_blocks_as_clauses h { dialect := numbering } "Page").2 rfl _ _ hnumbered htext
  refine ⟨h, hpaged, ?_, hsame _ (by decide), hnumbered, hagree ▸ htext⟩
  rw [hsame _ (by decide), hpaged]

end Table
end SqlTemplate
