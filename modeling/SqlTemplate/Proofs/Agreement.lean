import SqlTemplate.Proofs.Outcome
import SqlTemplate.Proofs.References

/-!
# What rendering a name depends on

A tree gets at other trees through its references alone, and at parameters and dialect only through
what its nodes ask of the setting. So two renderings of one tree differ no more than its references
and the answers to its nodes do, **in whatever sense of "no more" passes through a sequence of
steps** (`Fragment.render_agrees`), and a table hands this on from tree to tree. Equality is one
such sense, and it makes rendering local: of a table, only what the name reaches matters.
-/

set_option autoImplicit false

namespace SqlTemplate

/-- A relation between runs that passes from steps to sequences of steps. -/
structure Compatible
    (R : ∀ {α : Type}, Except RenderError α → Except RenderError α → Prop) : Prop where
  refl : ∀ {α : Type} (x : Except RenderError α), R x x
  bind : ∀ {α β : Type} {x y : Except RenderError α} {f g : α → Except RenderError β},
    R x y → (∀ a, R (f a) (g a)) → R (x >>= f) (y >>= g)

theorem compatible_eq : Compatible fun x y => x = y where
  refl _ := rfl
  bind hxy hfg := by rw [hxy, funext hfg]

/-- Equality up to something that faults say. -/
theorem compatible_mapError {ε : Type} (erase : RenderError → ε) :
    Compatible fun x y => x.mapError erase = y.mapError erase where
  refl _ := rfl
  bind hxy hfg := Outcome.bind_mapError_congr hxy hfg

/-- Two settings come to related outcomes at the nodes of which `holds` holds. -/
structure Setting.Agrees
    (R : ∀ {α : Type}, Except RenderError α → Except RenderError α → Prop)
    (holds : Fragment → Prop) (s s' : Setting) : Prop where
  enters : ∀ head children, holds (.block head children) → s.enters head = s'.enters head
  block : ∀ head children said, holds (.block head children) →
    R (s.blockText head said) (s'.blockText head said)
  value : ∀ v, holds (.inclusion (.value v)) → R (s.rawText v) (s'.rawText v)
  clause : ∀ offset fetch rows, holds (.offsetFetch offset fetch rows) →
    R (s.clauseText offset fetch rows) (s'.clauseText offset fetch rows)

namespace Setting.Agrees

variable {R : ∀ {α : Type}, Except RenderError α → Except RenderError α → Prop}
  {holds holds' : Fragment → Prop} {s s' : Setting}

theorem refl (hR : Compatible R) (holds : Fragment → Prop) (s : Setting) :
    s.Agrees R holds s where
  enters _ _ _ := rfl
  block _ _ _ _ := hR.refl _
  value _ _ := hR.refl _
  clause _ _ _ _ := hR.refl _

theorem mono (h : s.Agrees R holds s') (hsub : ∀ f, holds' f → holds f) :
    s.Agrees R holds' s' where
  enters head children hf := h.enters head children (hsub _ hf)
  block head children said hf := h.block head children said (hsub _ hf)
  value v hf := h.value v (hsub _ hf)
  clause offset fetch rows hf := h.clause offset fetch rows (hsub _ hf)

end Setting.Agrees

namespace Fragment

/-- Where two settings agree at the nodes of a tree and its references come to related outcomes, the
tree does. -/
theorem render_agrees {R : ∀ {α : Type}, Except RenderError α → Except RenderError α → Prop}
    (hR : Compatible R) {s s' : Setting} {refer refer' : String → Except RenderError String}
    {f : Fragment} (hs : s.Agrees R (· ∈ f.nodes) s')
    (h : ∀ name ∈ f.references, R (refer name) (refer' name)) :
    R (f.render s refer) (f.render s' refer') := by
  simp only [mem_references_iff] at h
  induction f using tree_induction
    (q := fun fs => s.Agrees R (· ∈ nodesOfAll fs) s' →
      (∀ name, .inclusion (.fragment name) ∈ nodesOfAll fs → R (refer name) (refer' name)) →
      R (renderEach s refer fs) (renderEach s' refer' fs)) with
  | text sql => exact hR.refl _
  | block head children ih =>
    rw [render, render, hs.enters head children (mem_nodes_self _)]
    split
    · refine hR.bind (ih ?_ ?_) fun said => hs.block head children said (mem_nodes_self _)
      · exact hs.mono fun g hg => List.mem_cons_of_mem _ hg
      · exact fun name hname => h name (List.mem_cons_of_mem _ hname)
    · exact hR.refl _
  | inclusion target =>
    cases target with
    | fragment name => exact h name (mem_nodes_self _)
    | value v => exact hs.value v (mem_nodes_self _)
  | offsetFetch offset fetch rows => exact hs.clause offset fetch rows (mem_nodes_self _)
  | bare => exact hR.refl _
  | nil => exact hR.refl _
  | cons f rest ihf ihrest =>
    next hs h =>
    rw [renderEach, renderEach]
    have hf := ihf (hs.mono fun g hg => List.mem_append_left _ hg)
      fun name hname => h name (List.mem_append_left _ hname)
    have hrest := ihrest (hs.mono fun g hg => List.mem_append_right _ hg)
      fun name hname => h name (List.mem_append_right _ hname)
    exact hR.bind hf fun said => hR.bind hrest fun others => hR.refl _

theorem render_related {R : ∀ {α : Type}, Except RenderError α → Except RenderError α → Prop}
    (hR : Compatible R) {s : Setting} {refer refer' : String → Except RenderError String}
    {f : Fragment} (h : ∀ name ∈ f.references, R (refer name) (refer' name)) :
    R (f.render s refer) (f.render s refer') :=
  render_agrees hR (.refl hR _ s) h

theorem render_congr {s : Setting} {refer refer' : String → Except RenderError String}
    {f : Fragment} (h : ∀ name ∈ f.references, refer name = refer' name) :
    f.render s refer = f.render s refer' :=
  render_related compatible_eq h

end Fragment

namespace Table

variable {table other : Table} {root : String} {s s' : Setting}

section Agrees

variable {R : ∀ {α : Type}, Except RenderError α → Except RenderError α → Prop}

theorem renderTree_agrees (hR : Compatible R) (hs : s.Agrees R (table.Holds root) s')
    (hagree : ∀ name, table.Reaches root name →
      Entries.find? name table = Entries.find? name other)
    {active : List String} {tree : Fragment} (hactive : Active table root active tree) :
    R (renderTree table s active tree) (renderTree other s' active tree) := by
  induction active, tree using renderTree.induct table with
  | case1 active tree ih =>
    rw [renderTree_eq, renderTree_eq]
    refine Fragment.render_agrees hR (hs.mono fun g hg => hactive.holds hg) fun name href => ?_
    obtain ⟨last, -, hlast, hreach⟩ := hactive.exists_last
    have hsame := hagree name (hreach.tail ⟨tree, hlast, href⟩)
    -- which names are active depends neither on the settings nor on the rest of the tables
    unfold refer
    by_cases hold : name ∈ active
    · rw [if_pos hold, if_pos hold]
      exact hR.refl _
    · rw [if_neg hold, if_neg hold, ← hsame]
      cases hf : Entries.find? name table with
      | none => exact hR.refl _
      | some target => exact ih name hold target hf (hactive.push href hold hf)

/-- **Rendering a name depends on what it reaches and on what its nodes ask of the setting.** -/
theorem render_agrees (hR : Compatible R) (hs : s.Agrees R (table.Holds root) s')
    (hagree : ∀ name, table.Reaches root name →
      Entries.find? name table = Entries.find? name other) :
    R (table.render s root) (other.render s' root) := by
  unfold render
  rw [← hagree root .refl]
  cases hf : Entries.find? root table with
  | none => exact hR.refl _
  | some tree => exact renderTree_agrees hR hs hagree (.start hf)

end Agrees

/-- **Rendering is local**: tables that agree on what a name reaches render it alike. -/
theorem render_eq_of_agree
    (hagree : ∀ name, table.Reaches root name →
      Entries.find? name table = Entries.find? name other) :
    table.render s root = other.render s root :=
  render_agrees compatible_eq (.refl compatible_eq _ s) hagree

end Table
end SqlTemplate
