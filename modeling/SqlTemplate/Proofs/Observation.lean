import SqlTemplate.Proofs.Agreement
import SqlTemplate.Proofs.FaultOrigin

/-!
# What of a parameter's value can reach the SQL

The values of parameters come from outside, and text of theirs in the SQL would be an injection.
Rendering looks at a value in few ways: it asks for the truth of a condition, for whether there is
a wildcard in a text, for the number of a page, and for whether a variable is given at all. Only a
reference to a variable, and only where that is allowed, takes the text of a value over.

The main statement compares two runs. **Two parameter sources that answer these questions alike
for all nodes that a name reaches give the same SQL**, or faults of the same kind about the same
name. So nothing else of the values is in the SQL. What has to be shown is one fact about each kind
of node: every text that one of the runs makes from texts is made by the other in the same way,
also where a query is cut up and put together anew.
-/

set_option autoImplicit false

namespace SqlTemplate

/-- A fault without the value that its message shows. -/
def RenderError.withoutValue : RenderError → RenderError
  | .notAnInteger name _ => .notAnInteger name .null
  | e => e

/-- Two runs come to the same: the same result, or faults of one kind about one name. -/
def SameOutcome {α : Type} (x y : Except RenderError α) : Prop :=
  x.mapError RenderError.withoutValue = y.mapError RenderError.withoutValue

namespace SameOutcome

variable {α β : Type} {x y : Except RenderError α}

theorem refl (x : Except RenderError α) : SameOutcome x x := rfl

/-- Going on alike after coming to the same comes to the same. -/
theorem bind (h : SameOutcome x y) {f g : α → Except RenderError β}
    (hnext : ∀ a, SameOutcome (f a) (g a)) : SameOutcome (x >>= f) (y >>= g) :=
  Outcome.bind_mapError_congr h hnext

end SameOutcome

/-- Two parameter sources answer alike what the nodes of a template ask of them, apart from the
texts that are to be inserted. -/
structure SameVerdicts (holds : Fragment → Prop) (p q : Parameters) : Prop where
  tests : ∀ kind condition children, holds (.block (.test kind condition) children) →
    p.satisfies condition = q.satisfies condition
  patterns : ∀ v children, holds (.block (.like v) children) →
    Dialect.isWildcard (p.get v).sqlText = Dialect.isWildcard (q.get v).sqlText
  pages : ∀ f v, holds f → v ∈ f.pageVariables →
    SameOutcome (p.pageNumber? (some v)) (q.pageNumber? (some v))
  presence : ∀ v, holds (.inclusion (.value v)) → p.has v = q.has v

/-- Two parameter sources have the same text for every variable to be inserted. -/
def SameInsertions (holds : Fragment → Prop) (p q : Parameters) : Prop :=
  ∀ v, holds (.inclusion (.value v)) → (p.get v).sqlText = (q.get v).sqlText

theorem SameVerdicts.mono {holds holds' : Fragment → Prop} {p q : Parameters}
    (h : SameVerdicts holds p q) (hsub : ∀ f, holds' f → holds f) : SameVerdicts holds' p q where
  tests kind condition children hf := h.tests kind condition children (hsub _ hf)
  patterns v children hf := h.patterns v children (hsub _ hf)
  pages f v hf := h.pages f v (hsub _ hf)
  presence v hf := h.presence v (hsub _ hf)

/-! ## One node -/

section Node

variable {p q : Parameters} {d : Dialect} {raw : Bool}

theorem pageNumber?_same {name : Option String}
    (h : ∀ v ∈ Fragment.pageVariable name,
      SameOutcome (p.pageNumber? (some v)) (q.pageNumber? (some v))) :
    SameOutcome (p.pageNumber? name) (q.pageNumber? name) := by
  cases name with
  | none => exact .refl _
  | some v =>
    cases hv : v.isEmpty with
    | true =>
      unfold Parameters.pageNumber?
      simp only [hv, if_true]
      exact .refl _
    | false => exact h v (Fragment.mem_pageVariable_some hv)

theorem clauseText_same {offset fetch : Option String} {rows : Option Int}
    (h : ∀ v ∈ (Fragment.offsetFetch offset fetch rows).pageVariables,
      SameOutcome (p.pageNumber? (some v)) (q.pageNumber? (some v))) :
    SameOutcome (Setting.clauseText ⟨p, d, raw⟩ offset fetch rows)
      (Setting.clauseText ⟨q, d, raw⟩ offset fetch rows) := by
  rw [Setting.clauseText_eq, Setting.clauseText_eq]
  rw [Fragment.pageVariables] at h
  refine (pageNumber?_same fun v hv => h v (List.mem_append_left _ hv)).bind fun o => ?_
  refine SameOutcome.bind ?_ fun n => .refl _
  cases rows with
  | some rows => exact .refl _
  | none => exact pageNumber?_same fun v hv => h v (List.mem_append_right _ hv)

theorem pageText_same {offset fetch : String} (children : List Fragment) (query : String)
    (h : ∀ v ∈ (Fragment.block (.paging offset fetch) children).pageVariables,
      SameOutcome (p.pageNumber? (some v)) (q.pageNumber? (some v))) :
    SameOutcome (Setting.pageText ⟨p, d, raw⟩ offset fetch query)
      (Setting.pageText ⟨q, d, raw⟩ offset fetch query) := by
  rw [Fragment.pageVariables] at h
  refine (pageNumber?_same fun v hv => h v (List.mem_append_left _ hv)).bind fun o => ?_
  exact (pageNumber?_same fun v hv => h v (List.mem_append_right _ hv)).bind fun n => .refl _

theorem rawText_same {v : String} (hpresence : p.has v = q.has v)
    (htext : raw = true → (p.get v).sqlText = (q.get v).sqlText) :
    SameOutcome (Setting.rawText ⟨p, d, raw⟩ v) (Setting.rawText ⟨q, d, raw⟩ v) := by
  unfold Setting.rawText
  unfold Parameters.has at hpresence
  unfold Parameters.get at htext
  cases hp : p.find? v with
  | none =>
    cases hq : q.find? v with
    | none => exact .refl _
    | some b => rw [hp, hq] at hpresence; cases hpresence
  | some a =>
    cases hq : q.find? v with
    | none => rw [hp, hq] at hpresence; cases hpresence
    | some b =>
      cases raw with
      | false => exact .refl _
      | true =>
        have hsame := htext rfl
        rw [hp, hq, Option.getD_some, Option.getD_some] at hsame
        show SameOutcome (.ok (a.sqlText ++ " ")) (.ok (b.sqlText ++ " "))
        rw [hsame]
        exact .refl _

theorem enters_same {head : Head} {children : List Fragment}
    (h : SameVerdicts (· = .block head children) p q) :
    Setting.enters ⟨p, d, raw⟩ head = Setting.enters ⟨q, d, raw⟩ head := by
  cases head with
  | test kind condition => exact h.tests kind condition children rfl
  | named | group | filter | like | paging => rfl

theorem blockText_same {head : Head} {children : List Fragment}
    (h : SameVerdicts (· = .block head children) p q) (said : List (Option String × String)) :
    SameOutcome (Setting.blockText ⟨p, d, raw⟩ head said)
      (Setting.blockText ⟨q, d, raw⟩ head said) := by
  cases head with
  | like v =>
    have hlike : Setting.likeText ⟨p, d, raw⟩ v = Setting.likeText ⟨q, d, raw⟩ v := by
      funext body
      simp only [Setting.likeText, h.patterns v children rfl]
    show SameOutcome (.ok (Setting.likeText ⟨p, d, raw⟩ v _)) (.ok (Setting.likeText ⟨q, d, raw⟩ v _))
    rw [hlike]
    exact .refl _
  | paging offset fetch => exact pageText_same children _ fun v hv => h.pages _ v rfl hv
  | named | group | filter | test => exact .refl _

end Node

/-! ## The settings, and the table -/

/-- Parameter sources that answer alike what the nodes ask make settings that come to the same at
them. -/
theorem SameVerdicts.agrees {holds : Fragment → Prop} {p q : Parameters} {d : Dialect} {raw : Bool}
    (hverdicts : SameVerdicts holds p q) (htexts : raw = true → SameInsertions holds p q) :
    Setting.Agrees SameOutcome holds ⟨p, d, raw⟩ ⟨q, d, raw⟩ where
  enters head children hf := enters_same (hverdicts.mono fun _ hg => by rw [hg]; exact hf)
  block head children said hf :=
    blockText_same (hverdicts.mono fun _ hg => by rw [hg]; exact hf) said
  value v hf := rawText_same (hverdicts.presence v hf) fun hraw => htexts hraw v hf
  clause offset fetch rows hf := clauseText_same fun v hv => hverdicts.pages _ v hf hv

namespace Table

variable {table : Table} {root : String} {p q : Parameters} {d : Dialect} {raw : Bool}

theorem renderTree_same {active : List String} {tree : Fragment}
    (hverdicts : SameVerdicts (table.Holds root) p q)
    (htexts : raw = true → SameInsertions (table.Holds root) p q)
    (hactive : Active table root active tree) :
    SameOutcome (renderTree table ⟨p, d, raw⟩ active tree)
      (renderTree table ⟨q, d, raw⟩ active tree) :=
  renderTree_agrees (compatible_mapError _) (hverdicts.agrees htexts) (fun _ _ => rfl) hactive

/-- **The SQL is a function of the verdicts**: of the truth of tests, of what is a pattern, of the
numbers of pages and of what is given at all. Where values may be inserted, the texts of those
that are to be inserted count too, and nothing else does. -/
theorem render_same_of_sameVerdicts (hverdicts : SameVerdicts (table.Holds root) p q)
    (htexts : raw = true → SameInsertions (table.Holds root) p q) :
    SameOutcome (table.render ⟨p, d, raw⟩ root) (table.render ⟨q, d, raw⟩ root) := by
  unfold render
  cases hf : Entries.find? root table with
  | none => exact .refl _
  | some tree => exact renderTree_same hverdicts htexts (.start hf)

/-- A search whose pattern and page come from parameters. -/
def search : Table := [
  ("Search", .block (.named "Search") [.text "SELECT * FROM t WHERE name ",
    .block (.like "name") [.text ":name "], .inclusion (.fragment "Page")]),
  ("Page", .block (.named "Page") [.text "ORDER BY ", .inclusion (.value "key"),
    .offsetFetch (some "first") none none])]

/-- A hostile pattern and a harmless one make the same search. -/
theorem render_same_search :
    let p := .given [(.str "name", .str "%' OR 1 = 1 --"), (.str "key", .str "id"),
      (.str "first", .int 20)]
    let q := .given [(.str "first", .str "20"), (.str "key", .str "id"), (.str "name", .str "A_")]
    SameVerdicts (search.Holds "Search") p q ∧
      (true = true → SameInsertions (search.Holds "Search") p q) ∧
      SameOutcome (search.render ⟨p, .default, true⟩ "Search")
        (search.render ⟨q, .default, true⟩ "Search") := by
  intro p q
  have hnode : ∀ f, search.Holds "Search" f → f ∈ search.flatMap fun entry => entry.2.nodes :=
    fun f h => List.mem_flatMap.mpr h.exists_entry
  simp [search, Fragment.nodes, Fragment.nodesOfAll] at hnode
  have hverdicts : SameVerdicts (search.Holds "Search") p q := by
    constructor
    · intro kind condition children h
      have hf := hnode _ h
      simp at hf
    · intro v children h
      have hf := hnode _ h
      simp at hf
      rw [hf.1]
      decide
    · intro f v h hv
      rcases hnode f h with rfl | rfl | rfl | rfl | rfl | rfl | rfl | rfl | rfl
      all_goals simp [Fragment.pageVariables, Fragment.pageVariable] at hv
      rw [hv]
      rfl
    · intro v h
      have hf := hnode _ h
      simp at hf
      rw [hf]
      decide
  have htexts : true = true → SameInsertions (search.Holds "Search") p q := by
    intro _ v h
    have hf := hnode _ h
    simp at hf
    rw [hf]
    decide
  exact ⟨hverdicts, htexts, render_same_of_sameVerdicts hverdicts htexts⟩

end Table

end SqlTemplate
