import SqlTemplate.Proofs.Agreement
import SqlTemplate.Proofs.Moments
import SqlTemplate.Proofs.Outcome

/-!
# Active names do not reach the text

What a reference comes to is computed inside of all names that are active there. These names are
looked at only to refuse one of themselves, so they decide **whether there is a text but not
which**: the same tree under other active names has the same text or is refused as a cycle
(`renderTree_survives`). Under fewer names it cannot be refused, and that is why a reference that
was not refused contributed the text its fragment has on its own.

`Survives` is the relation that carries this through blocks. It is not symmetric: from a rendering
that failed nothing follows, since under other names another fault may come first.
-/

set_option autoImplicit false

namespace SqlTemplate

/-- If the first run has a value, the second has it too or ends with an excused fault. -/
def Survives (excused : RenderError → Prop) {α : Type} (x y : Except RenderError α) : Prop :=
  ∀ a, x = .ok a → y = .ok a ∨ ∃ e, excused e ∧ y = .error e

theorem compatible_survives (excused : RenderError → Prop) : Compatible (Survives excused) where
  refl x a hx := Or.inl hx
  bind := by
    intro α β x y f g hxy hfg b hb
    obtain ⟨a, hx, hf⟩ := Outcome.bind_eq_ok_iff.mp hb
    rcases hxy a hx with hy | ⟨e, he, hy⟩
    · rw [hy]
      exact hfg a b hf
    · refine Or.inr ⟨e, he, ?_⟩
      rw [hy]
      rfl

/-- The fault that more active names can bring. -/
def CycleOutside (active active' : List String) (e : RenderError) : Prop :=
  ¬ active' ⊆ active ∧ ∃ chain, e = .recursion chain

theorem CycleOutside.of_push {active active' : List String} {name : String} {e : RenderError}
    (h : CycleOutside (active ++ [name]) (active' ++ [name]) e) : CycleOutside active active' e := by
  obtain ⟨hout, hchain⟩ := h
  refine ⟨fun hsub => hout ?_, hchain⟩
  intro other hother
  rcases List.mem_append.mp hother with hother | hother
  · exact List.mem_append_left _ (hsub hother)
  · exact List.mem_append_right _ hother

theorem Survives.mono {excused excused' : RenderError → Prop} {α : Type}
    {x y : Except RenderError α} (h : Survives excused x y) (himp : ∀ e, excused e → excused' e) :
    Survives excused' x y := by
  intro a hx
  rcases h a hx with hy | ⟨e, he, hy⟩
  · exact Or.inl hy
  · exact Or.inr ⟨e, himp e he, hy⟩

namespace Table

variable {table : Table} {s : Setting}

theorem refer_survives {active active' : List String} {name : String}
    (ih : ∀ target, name ∉ active → Entries.find? name table = some target →
      Survives (CycleOutside (active ++ [name]) (active' ++ [name]))
        (renderTree table s (active ++ [name]) target)
        (renderTree table s (active' ++ [name]) target)) :
    Survives (CycleOutside active active') (table.refer s active name)
      (table.refer s active' name) := by
  intro text htext
  obtain ⟨hnew, target, hf, hok⟩ := refer_eq_ok_iff.mp htext
  unfold refer
  by_cases hold : name ∈ active'
  · rw [if_pos hold]
    exact Or.inr ⟨_, ⟨fun hsub => hnew (hsub hold), _, rfl⟩, rfl⟩
  · rw [if_neg hold, hf]
    exact (ih target hnew hf).mono (fun _ => CycleOutside.of_push) text hok

/-- **A text stays what it is under other active names**, unless a name that only these have is
refused. -/
theorem renderTree_survives (active active' : List String) (tree : Fragment) :
    Survives (CycleOutside active active') (renderTree table s active tree)
      (renderTree table s active' tree) := by
  induction active, tree using renderTree.induct table generalizing active' with
  | case1 active tree ih =>
    rw [renderTree_eq, renderTree_eq]
    refine Fragment.render_related (compatible_survives _) fun name _ => ?_
    exact refer_survives fun target hold hf => ih name hold target hf _

theorem renderTree_eq_ok_of_subset {active active' : List String} {tree : Fragment} {text : String}
    (h : renderTree table s active tree = .ok text) (hsub : active' ⊆ active) :
    renderTree table s active' tree = .ok text := by
  rcases renderTree_survives active active' tree text h with hok | ⟨_, ⟨hout, -⟩, -⟩
  · exact hok
  · exact absurd hsub hout

/-- A reference that has a text has the text of its fragment. -/
theorem render_of_refer {active : List String} {name text : String}
    (h : table.refer s active name = .ok text) : table.render s name = .ok text := by
  obtain ⟨-, target, hf, hok⟩ := refer_eq_ok_iff.mp h
  rw [render, hf]
  exact renderTree_eq_ok_of_subset hok (List.subset_append_right active [name])

/-- Where a fragment has a text, a reference to it has that text or is refused as a cycle. -/
theorem refer_of_render {name text : String} (h : table.render s name = .ok text)
    (active : List String) :
    table.refer s active name = .ok text ∨
      ∃ chain, table.refer s active name = .error (.recursion chain) := by
  unfold refer
  by_cases hold : name ∈ active
  · rw [if_pos hold]
    exact Or.inr ⟨_, rfl⟩
  · rw [if_neg hold]
    rw [render] at h
    cases hf : Entries.find? name table with
    | none =>
      rw [hf] at h
      cases h
    | some target =>
      rw [hf] at h
      rcases renderTree_survives _ (active ++ [name]) target text h with
        hok | ⟨_, ⟨-, chain, rfl⟩, hrefused⟩
      · exact Or.inl hok
      · exact Or.inr ⟨chain, hrefused⟩

theorem renderTree_inclusion (active : List String) (name : String) :
    renderTree table s active (.inclusion (.fragment name)) = table.refer s active name := by
  rw [renderTree_eq, Fragment.render]

end Table

/-! ## The references that a run comes to -/

namespace Moment

variable {table : Table} {s : Setting}

/-- Nobody who waits does anything about a fault. -/
theorem ends_leave_error (e : RenderError) (frames : List Frame) (active : List String) :
    Ends table s ⟨.leave (.error e), frames, active⟩ (.error e) := by
  induction frames generalizing active with
  | nil => exact ⟨_, .refl, rfl, rfl⟩
  | cons frame frames ih =>
    cases frame with
    | within head children said =>
      obtain ⟨last, hrun, hstop⟩ := ih active
      exact ⟨last, .head rfl hrun, hstop⟩
    | including name =>
      obtain ⟨last, hrun, hstop⟩ := ih active.dropLast
      exact ⟨last, .head rfl hrun, hstop⟩

theorem Ends.unique {m : Moment} {result result' : Except RenderError String}
    (h : Ends table s m result) (h' : Ends table s m result') : result = result' := by
  obtain ⟨last, hrun, hstop, hresult⟩ := h
  obtain ⟨last', hrun', -, hresult'⟩ := hrun.ends_of_ends h'
  rcases Relation.ReflTransGen.cases_head hrun' with heq | ⟨next, hstep, -⟩
  · rw [← heq, hresult] at hresult'
    cases hresult'
    rfl
  · rw [hstop] at hstep
    cases hstep

/-- What is entered in a rendering that has a text has a text itself. -/
theorem renderTree_eq_ok_of_entered {start m : Moment} {sql : String} {f : Fragment}
    (hends : Ends table s start (.ok sql)) (hrun : Leads table s start m)
    (hcontrol : m.control = .enter f) :
    ∃ text, table.renderTree s m.active f = .ok text ∧
      Leads table s m ⟨.leave (.ok text), m.frames, m.active⟩ := by
  obtain ⟨control, frames, active⟩ := m
  cases hcontrol
  have hnode : Leads table s ⟨.enter f, frames, active⟩
      ⟨.leave (table.renderTree s active f), frames, active⟩ := leads_renderTree f frames
  show ∃ text, table.renderTree s active f = .ok text ∧ _
  cases hresult : table.renderTree s active f with
  | ok text =>
    rw [hresult] at hnode
    exact ⟨text, rfl, hnode⟩
  | error e =>
    -- the fault would be the result of the whole rendering
    rw [hresult] at hnode
    have hfault := Leads.ends_of_ends (hrun.trans hnode) hends
    cases (ends_leave_error e frames active).unique hfault

theorem exists_text_of_entered_reference {root name sql : String} {tree : Fragment} {m : Moment}
    (hf : Entries.find? root table = some tree) (hsql : table.render s root = .ok sql)
    (hrun : Leads table s ⟨.enter tree, [], [root]⟩ m)
    (hcontrol : m.control = .enter (.inclusion (.fragment name))) :
    ∃ text, table.render s name = .ok text ∧
      Leads table s m ⟨.leave (.ok text), m.frames, m.active⟩ := by
  obtain ⟨text, hnode, hback⟩ :=
    renderTree_eq_ok_of_entered (hsql ▸ ends_render hf) hrun hcontrol
  rw [Table.renderTree_inclusion] at hnode
  exact ⟨text, Table.render_of_refer hnode, hback⟩

end Moment
end SqlTemplate
