import SqlTemplate.Proofs.Elision
import SqlTemplate.Proofs.Recursion
import SqlTemplate.Proofs.Transparency
import SqlTemplate.Proofs.WellFormed

/-!
# Clauses that say something

A `WHERE` clause is left out when its children say nothing, and nothing means the empty text. A text
of blanks would count as something said, and a clause of blanks would be a bare `WHERE`. Literal
text, comparisons and paging clauses are empty or have a visible character, and blocks keep it so.
**The one exception is an inserted value**: a space follows it even if there is nothing to insert,
so from an empty or blank value comes a text that is not empty and has nothing visible in it.

So a contribution to a clause of a template that was read is visible where the child that makes it
comes to no such value. If no child does, a connector always stands between two visible parts.
-/

set_option autoImplicit false

namespace SqlTemplate

/-- The text has a character that is not blank. -/
def Visible (text : String) : Prop := ∃ c ∈ text.toList, Text.isBlank c = false

instance : DecidablePred Visible := fun text =>
  decidable_of_iff ((text.toList.any fun c => !Text.isBlank c) = true) (by simp [Visible])

/-- The text is empty or has a character that is not blank. -/
def EmptyOrVisible (text : String) : Prop := text = "" ∨ Visible text

namespace Visible

variable {x : String}

theorem append_left (h : Visible x) (y : String) : Visible (x ++ y) := by
  obtain ⟨c, hc, hblank⟩ := h
  refine ⟨c, ?_, hblank⟩
  rw [String.toList_append]
  exact List.mem_append_left _ hc

theorem append_right (h : Visible x) (y : String) : Visible (y ++ x) := by
  obtain ⟨c, hc, hblank⟩ := h
  refine ⟨c, ?_, hblank⟩
  rw [String.toList_append]
  exact List.mem_append_right _ hc

theorem before_two (h : Visible x) (y z : String) : Visible (x ++ y ++ z) :=
  (h.append_left y).append_left z

end Visible

namespace EmptyOrVisible

variable {x y : String}

theorem append (hx : EmptyOrVisible x) (hy : EmptyOrVisible y) : EmptyOrVisible (x ++ y) := by
  rcases hx with rfl | hx
  · rwa [String.empty_append]
  · exact Or.inr (hx.append_left y)

theorem join {texts : List String} (h : ∀ text ∈ texts, EmptyOrVisible text) :
    EmptyOrVisible (String.join texts) := by
  induction texts with
  | nil => exact Or.inl rfl
  | cons text rest ih =>
    rw [String.join_cons]
    exact (h text List.mem_cons_self).append (ih fun t ht => h t (List.mem_cons_of_mem _ ht))

end EmptyOrVisible

/-! ## What leaves and blocks say -/

namespace Dialect

variable {d : Dialect} {offset fetch : Option Int}

theorem pagingClause_emptyOrVisible {clause : String}
    (h : d.pagingClause offset fetch = .ok clause) : EmptyOrVisible clause := by
  unfold pagingClause at h
  split at h
  · cases h
    exact Or.inl rfl
  -- with both numbers there is one more piece after each of them
  · split at h <;> cases h <;>
      exact Or.inr ((Visible.before_two (by decide) _ _).before_two _ _)
  · split at h <;> cases h <;> exact Or.inr (Visible.before_two (by decide) _ _)
  · split at h <;> cases h <;> exact Or.inr (Visible.before_two (by decide) _ _)

theorem numbered_visible (parts : QueryParts) : Visible (numbered parts offset fetch) := by
  have hend : Visible " ORDER BY ROW_NUM " := by decide
  exact hend.append_right _

theorem addPaging_emptyOrVisible {query text : String} (hquery : EmptyOrVisible query)
    (h : d.addPaging query offset fetch = .ok text) : EmptyOrVisible text := by
  unfold addPaging at h
  split at h
  · split at h
    · cases h
      exact hquery
    · split at h
      · cases h
      · cases h
        exact Or.inr (numbered_visible _)
  · obtain ⟨clause, hclause, rfl⟩ := Outcome.map_eq_ok_iff.mp h
    exact hquery.append (pagingClause_emptyOrVisible hclause)

end Dialect

theorem filterText_emptyOrVisible (said : List (Option String × String)) :
    EmptyOrVisible (filterText said) := by
  have hword : Visible "WHERE " := by decide
  rw [filterText_eq, clauseOf]
  split
  · exact Or.inl rfl
  · exact Or.inr (hword.append_left _)

namespace Setting

variable {s : Setting}

theorem clauseText_emptyOrVisible {offset fetch : Option String} {rows : Option Int} {text : String}
    (h : s.clauseText offset fetch rows = .ok text) : EmptyOrVisible text := by
  rw [clauseText_eq] at h
  obtain ⟨o, -, h⟩ := Outcome.bind_eq_ok_iff.mp h
  obtain ⟨n, -, h⟩ := Outcome.bind_eq_ok_iff.mp h
  exact Dialect.pagingClause_emptyOrVisible (Outcome.mapError_eq_ok_iff.mp h)

theorem likeText_visible (name body : String) : Visible (s.likeText name body) := by
  have hlike : Visible "LIKE " := by decide
  have hequal : Visible "= " := by decide
  rw [likeText]
  split
  · exact (hlike.append_left _).append_left _
  · exact hequal.append_left _

theorem rawText_visible {v text : String} (hvisible : Visible (s.parameters.get v).sqlText)
    (h : s.rawText v = .ok text) : Visible text := by
  unfold rawText at h
  cases hfind : s.parameters.find? v with
  | none =>
    rw [hfind] at h
    cases h
  | some value =>
    rw [hfind] at h
    rw [Parameters.get, hfind] at hvisible
    simp only at h
    split at h <;> cases h
    exact hvisible.append_left _

/-- A block whose children say nothing or something visible does so, too. -/
theorem blockText_emptyOrVisible {head : Head} {said : List (Option String × String)} {text : String}
    (hsaid : ∀ p ∈ said, EmptyOrVisible p.2) (h : s.blockText head said = .ok text) :
    EmptyOrVisible text := by
  have hall : EmptyOrVisible (String.join (said.map Prod.snd)) := by
    refine EmptyOrVisible.join fun t ht => ?_
    obtain ⟨p, hp, rfl⟩ := List.mem_map.mp ht
    exact hsaid p hp
  cases head with
  | named | group | test =>
    cases h
    exact hall
  | filter =>
    cases h
    exact filterText_emptyOrVisible said
  | like name =>
    cases h
    exact Or.inr (likeText_visible name _)
  | paging offset fetch =>
    obtain ⟨o, -, h⟩ := Outcome.bind_eq_ok_iff.mp (show s.pageText offset fetch _ = _ from h)
    obtain ⟨n, -, h⟩ := Outcome.bind_eq_ok_iff.mp h
    exact Dialect.addPaging_emptyOrVisible hall (Outcome.mapError_eq_ok_iff.mp h)

end Setting

theorem Fragment.exists_of_mem_renderEach {s : Setting} {refer : String → Except RenderError String}
    {fs : List Fragment} {said : List (Option String × String)}
    (h : renderEach s refer fs = .ok said) : ∀ p ∈ said, ∃ f ∈ fs, f.render s refer = .ok p.2 := by
  induction fs generalizing said with
  | nil =>
    cases h
    intro p hp
    cases hp
  | cons f rest ih =>
    obtain ⟨text, more, htext, hmore, rfl⟩ := renderEach_cons_eq_ok_iff.mp h
    intro p hp
    rcases List.mem_cons.mp hp with rfl | hp
    · exact ⟨f, List.mem_cons_self, htext⟩
    · obtain ⟨g, hg, hok⟩ := ih hmore p hp
      exact ⟨g, List.mem_cons_of_mem _ hg, hok⟩

namespace Table

variable {table : Table} {s : Setting} {active : List String}

/-! ## What a rendering comes to -/

/-- Rendering the one node, inside of the active names, comes to the other: by the children of
blocks that are entered and by references that are not refused. -/
inductive ComesTo (table : Table) (s : Setting) : List String → Fragment → Fragment → Prop where
  | self {active : List String} (f : Fragment) : ComesTo table s active f f
  | child {active : List String} {head : Head} {children : List Fragment} {f g : Fragment}
      (henters : s.enters head = true) (hchild : f ∈ children) (h : ComesTo table s active f g) :
      ComesTo table s active (.block head children) g
  | reference {active : List String} {name : String} {target g : Fragment} (hnew : name ∉ active)
      (hf : Entries.find? name table = some target)
      (h : ComesTo table s (active ++ [name]) target g) :
      ComesTo table s active (.inclusion (.fragment name)) g

/-- What a node of the table comes to is a node of the table. -/
theorem ComesTo.exists_entry {f g : Fragment} (h : table.ComesTo s active f g)
    (hnode : ∃ entry ∈ table, f ∈ entry.2.nodes) : ∃ entry ∈ table, g ∈ entry.2.nodes := by
  induction h with
  | self => exact hnode
  | child _ hchild _ ih =>
    obtain ⟨entry, hentry, hblock⟩ := hnode
    exact ih ⟨entry, hentry, Fragment.mem_nodes_of_child hblock hchild⟩
  | reference _ hf _ ih => exact ih ⟨_, Entries.mem_of_find? hf, Fragment.mem_nodes_self _⟩

/-- **A node says nothing or something visible** where it comes to no other text and to no value
that has nothing visible in it. -/
theorem renderTree_emptyOrVisible {f : Fragment}
    (htexts : ∀ t, table.ComesTo s active f (.text t) → EmptyOrVisible t)
    (hvalues : ∀ v, table.ComesTo s active f (.inclusion (.value v)) →
      Visible (s.parameters.get v).sqlText)
    {text : String} (h : renderTree table s active f = .ok text) : EmptyOrVisible text := by
  induction active, f using renderTree.induct table generalizing text with
  | case1 active f ih =>
    rw [renderTree_eq] at h
    -- what names that are not active come to is known, so the tree can be gone down by itself
    induction f using Fragment.tree_induction
      (q := fun fs => ∀ f ∈ fs,
        (∀ t, table.ComesTo s active f (.text t) → EmptyOrVisible t) →
        (∀ v, table.ComesTo s active f (.inclusion (.value v)) →
          Visible (s.parameters.get v).sqlText) →
        ∀ text, f.render s (table.refer s active) = .ok text → EmptyOrVisible text)
      generalizing text with
    | text t =>
      cases h
      exact htexts _ (.self _)
    | block head children ihchildren =>
      rw [Fragment.render] at h
      split at h
      · next henters =>
        obtain ⟨said, hsaid, htext⟩ := Outcome.bind_eq_ok_iff.mp h
        refine Setting.blockText_emptyOrVisible (fun p hp => ?_) htext
        obtain ⟨f, hchild, hok⟩ := Fragment.exists_of_mem_renderEach hsaid p hp
        exact ihchildren f hchild (fun t ht => htexts t (.child henters hchild ht))
          (fun v hv => hvalues v (.child henters hchild hv)) p.2 hok
      · cases h
        exact Or.inl rfl
    | inclusion target =>
      cases target with
      | value v => exact Or.inr (Setting.rawText_visible (hvalues v (.self _)) h)
      | fragment name =>
        obtain ⟨hnew, target, hf, hok⟩ := refer_eq_ok_iff.mp h
        exact ih name hnew target hf (fun t ht => htexts t (.reference hnew hf ht))
          (fun v hv => hvalues v (.reference hnew hf hv)) hok
    | offsetFetch offset fetch rows => exact Setting.clauseText_emptyOrVisible h
    | bare => cases h
    | nil =>
      next f hf _ _ _ _ =>
      cases hf
    | cons first rest ihfirst ihrest =>
      next f hf htexts hvalues text h =>
      rcases List.mem_cons.mp hf with rfl | hf
      · exact ihfirst htexts hvalues h
      · exact ihrest f hf htexts hvalues text h

/-- What is contributed is what a child says, and not empty. -/
theorem Contributes.exists_says {children : List Fragment} {said : List (Option String × String)}
    (h : table.Contributes s active children said) :
    ∀ p ∈ said, p.2 ≠ "" ∧ ∃ f ∈ children, table.Says s active f p := by
  induction h with
  | nil =>
    intro p hp
    cases hp
  | silent _ _ ih =>
    intro p hp
    obtain ⟨hne, f, hf, hown⟩ := ih p hp
    exact ⟨hne, f, List.mem_cons_of_mem _ hf, hown⟩
  | said hown hne _ ih =>
    intro p hp
    rcases List.mem_cons.mp hp with rfl | hp
    · exact ⟨hne, _, List.mem_cons_self, hown⟩
    · obtain ⟨hne, f, hf, hown⟩ := ih p hp
      exact ⟨hne, f, List.mem_cons_of_mem _ hf, hown⟩

/-- All literal text of a table that was read is visible. -/
theorem visible_of_parseLines {raw : List String} {strict : Bool} {table : Table}
    (h : parseLines raw strict = .ok table) {entry : String × Fragment} (hentry : entry ∈ table)
    {t : String} (ht : .text t ∈ entry.2.nodes) : Visible t := by
  obtain ⟨htabs, -⟩ := parseLines_eq_ok_iff_of_strict.mp h
  have hdefined := (wellFormed_inherited (Line.no_tab_of_mem_significantLines htabs)).parseLines h
    entry hentry
  obtain ⟨children, htree, -, hwell⟩ := hdefined.exists_children
  rw [htree, Fragment.nodes] at ht
  rcases List.mem_cons.mp ht with heq | ht
  · cases heq
  · obtain ⟨⟨first, more, htext, hfirst⟩, -⟩ := hwell _ ht
    exact ⟨first, by rw [htext]; exact List.mem_cons_self, hfirst⟩

/-- **No connector dangles.** In a rendering of a template that was read, each `WHERE` block that is
come to leaves with the clause of what its children contribute, and each contribution is what a
child says. It has something visible in it if all values that are inserted for that child have;
what is inserted for the other children does not matter. So where no value is blank the clause is
nothing or its first part is visible, and each connector stands between two visible parts. -/
theorem filter_visible {raw : List String} {strict : Bool} {table : Table}
    (hparse : parseLines raw strict = .ok table) {s : Setting} {root sql : String} {tree : Fragment}
    (hf : Entries.find? root table = some tree) (hsql : table.render s root = .ok sql) {m : Moment}
    (hrun : Moment.Leads table s ⟨.enter tree, [], [root]⟩ m) {children : List Fragment}
    (hcontrol : m.control = .enter (.block .filter children)) :
    ∃ said, table.Contributes s m.active children said ∧
      Moment.Leads table s m ⟨.leave (.ok (clauseOf said)), m.frames, m.active⟩ ∧
      ∀ p ∈ said, (∃ f ∈ children, table.Says s m.active f p) ∧
        ∀ f ∈ children, table.Says s m.active f p →
          (∀ v, table.ComesTo s m.active f (.inclusion (.value v)) →
            Visible (s.parameters.get v).sqlText) → Visible p.2 := by
  obtain ⟨text, htext, hleave⟩ :=
    Moment.renderTree_eq_ok_of_entered (hsql ▸ Moment.ends_render hf) hrun hcontrol
  obtain ⟨said, hsaid, rfl⟩ := renderTree_filter_eq_ok_iff.mp htext
  refine ⟨said, hsaid, hleave, fun p hp => ?_⟩
  obtain ⟨hne, hrule⟩ := hsaid.exists_says p hp
  refine ⟨hrule, fun f hchild hown hvalues => ?_⟩
  -- the block is in a tree of the table, and so are the texts that its child comes to
  obtain ⟨inside, hwaiting, hentered⟩ := (Moment.nested_start hf).leads hrun
  obtain ⟨name, -, hinside, -⟩ := hwaiting.isActive.exists_last
  have hnode : f ∈ inside.nodes := Fragment.mem_nodes_of_child (hentered _ hcontrol) hchild
  have htexts : ∀ t, table.ComesTo s m.active f (.text t) → EmptyOrVisible t := by
    intro t ht
    obtain ⟨entry, hentry, htext⟩ := ht.exists_entry ⟨_, Entries.mem_of_find? hinside, hnode⟩
    exact Or.inr (visible_of_parseLines hparse hentry htext)
  rcases renderTree_emptyOrVisible htexts hvalues hown.renderTree_eq_ok with hempty | hvisible
  · exact absurd hempty hne
  · exact hvisible

/-- An empty value that is inserted is followed by its space, and the clause is bare. -/
theorem not_visible_of_empty_value :
    let s : Setting := { parameters := .given [(.str "v", .str "")] }
    let children : List Fragment := [.block (.test .conjunct ⟨"v", none⟩) [.inclusion (.value "v")]]
    let tree : Fragment := .block (.named "A") [.block .filter children]
    let table : Table := [("A", tree)]
    parseLines ["@NAME(A)", "  @WHERE", "    @AND(:v)", "      @INCLUDE(:v)"] false = .ok table ∧
      table.render s "A" = .ok "WHERE  " ∧
      (∃ m, Moment.Leads table s ⟨.enter tree, [], ["A"]⟩ m ∧
        m.control = .enter (.block .filter children) ∧
        Moment.Leads table s m ⟨.leave (.ok "WHERE  "), m.frames, m.active⟩ ∧
        table.Contributes s m.active children [(some "AND", " ")]) ∧
      "WHERE  " = clauseOf [(some "AND", " ")] ∧ ¬ Visible " " := by
  intro s children tree table
  have hparse : parseLines ["@NAME(A)", "  @WHERE", "    @AND(:v)", "      @INCLUDE(:v)"] false =
      .ok table := by cbv
  have hsql : table.render s "A" = .ok "WHERE  " := by cbv
  have hvalue : renderTree table s ["A"] (.inclusion (.value "v")) = .ok " " := by cbv
  have hown : table.Says s ["A"] (.block (.test .conjunct ⟨"v", none⟩) [.inclusion (.value "v")])
      (some "AND", " ") :=
    .condition rfl rfl (.cons hvalue .nil)
  have hsaid : table.Contributes s ["A"] children [(some "AND", " ")] :=
    .said hown (by decide) .nil
  have hclause : renderTree table s ["A"] (.block .filter children) = .ok "WHERE  " := by cbv
  refine ⟨hparse, hsql, ⟨_, .head rfl .refl, rfl, ?_, hsaid⟩, by decide, by decide⟩
  exact hclause ▸ Moment.leads_renderTree (.block .filter children) _

/-- A condition that includes a fragment with nothing to say, one that inserts a value, and one that
inserts a blank value. The second contributes something visible, whatever the third does. -/
theorem filter_visible_inserted :
    let s : Setting := { parameters := .given [(.str "a", .str "x > 0"), (.str "b", .str "")] }
    let inserting : Fragment := .block (.test .disjunct ⟨"a", none⟩) [.inclusion (.value "a")]
    let children : List Fragment := [
      .block (.test .conjunct ⟨"a", none⟩) [.inclusion (.fragment "B")], inserting,
      .block (.test .disjunct ⟨"b", none⟩) [.inclusion (.value "b")]]
    let tree : Fragment := .block (.named "A") [.block .filter children]
    let table : Table :=
      [("A", tree), ("B", .block (.named "B") [.offsetFetch none (some "paging_fetch") none])]
    parseLines ["@NAME(A)", "  @WHERE", "    @AND(:a)", "      @INCLUDE(B)", "    @OR(:a)",
        "      @INCLUDE(:a)", "    @OR(:b)", "      @INCLUDE(:b)", "@NAME(B)", "  @FETCH"] true =
          .ok table ∧
      Entries.find? "A" table = some tree ∧ table.render s "A" = .ok "WHERE x > 0 OR  " ∧
      (∀ v, table.ComesTo s ["A"] inserting (.inclusion (.value v)) →
        Visible (s.parameters.get v).sqlText) ∧
      ∃ m, Moment.Leads table s ⟨.enter tree, [], ["A"]⟩ m ∧
        m.control = .enter (.block .filter children) ∧
        ∃ said, table.Contributes s m.active children said ∧
          Moment.Leads table s m ⟨.leave (.ok (clauseOf said)), m.frames, m.active⟩ ∧
          ∀ p ∈ said, table.Says s m.active inserting p → Visible p.2 := by
  intro s inserting children tree table
  have hparse : parseLines ["@NAME(A)", "  @WHERE", "    @AND(:a)", "      @INCLUDE(B)",
      "    @OR(:a)", "      @INCLUDE(:a)", "    @OR(:b)", "      @INCLUDE(:b)", "@NAME(B)",
      "  @FETCH"] true = .ok table := by cbv
  have hsql : table.render s "A" = .ok "WHERE x > 0 OR  " := by cbv
  have hvalues : ∀ v, table.ComesTo s ["A"] inserting (.inclusion (.value v)) →
      Visible (s.parameters.get v).sqlText := by
    intro v hv
    change table.ComesTo s ["A"] (.block (.test .disjunct ⟨"a", none⟩) [.inclusion (.value "a")])
      (.inclusion (.value v)) at hv
    cases hv with
    | child _ hchild hv =>
      obtain rfl := List.mem_singleton.mp hchild
      cases hv
      decide
  let m : Moment := ⟨.enter (.block .filter children),
    [.within (.named "A") [.block .filter children] []], ["A"]⟩
  have hrun : Moment.Leads table s ⟨.enter tree, [], ["A"]⟩ m := .head rfl .refl
  obtain ⟨said, hsaid, hleave, hvisible⟩ := filter_visible hparse rfl hsql hrun rfl
  have hchild : inserting ∈ children := List.mem_cons_of_mem _ List.mem_cons_self
  exact ⟨hparse, rfl, hsql, hvalues, m, hrun, rfl, said, hsaid, hleave, fun p hp hrule =>
    (hvisible p hp).2 inserting hchild hrule hvalues⟩

end Table
end SqlTemplate
