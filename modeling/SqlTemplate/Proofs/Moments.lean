import SqlTemplate.Proofs.References

/-!
# Rendering, one moment after the other

`Table.render` is a function, and a function has no moments. What is to be said of rendering while
it goes on needs its calls spelled out: which node it is at, which callers wait for the text of
that node, and which names are active. This is a machine with one step for each call and each
return. A caller is either a block, which goes on to its next child or makes its own text, or a
reference, which takes its name off the active ones, **whether a text comes back or a fault**.

The machine is not another definition of the texts. It calls the same functions for what a node
says, and from every node it comes, with the callers and the active names unchanged, to the text
that rendering gives for it. So a run from a registered tree has an end, and the end is the result.
-/

set_option autoImplicit false

namespace SqlTemplate

/-- A caller that waits for the text of a node. -/
inductive Frame where
  /-- A block whose children before that node have said something. -/
  | within (head : Head) (children : List Fragment) (said : List (Option String × String))
  /-- A reference to the fragment with a name. -/
  | including (name : String)

/-- What is done at a moment. -/
inductive Control where
  | enter (f : Fragment)
  | leave (result : Except RenderError String)

/-- A moment of a rendering: what is done, who waits for it, innermost first, and inside of which
names. -/
structure Moment where
  control : Control
  frames : List Frame
  active : List String

namespace Moment

/-- A block goes to the child after those that have said something, or makes its text. -/
def proceed (s : Setting) (head : Head) (children : List Fragment)
    (said : List (Option String × String)) (frames : List Frame) (active : List String) : Moment :=
  match children[said.length]? with
  | some child => ⟨.enter child, .within head children said :: frames, active⟩
  | none => ⟨.leave (s.blockText head said), frames, active⟩

/-- What entering a node leads to. -/
def enter (table : Table) (s : Setting) (frames : List Frame) (active : List String) :
    Fragment → Moment
  | .text sql => ⟨.leave (.ok sql), frames, active⟩
  | .block head children =>
    if s.enters head then proceed s head children [] frames active
    else ⟨.leave (.ok ""), frames, active⟩
  | .inclusion (.fragment name) =>
    if name ∈ active then ⟨.leave (.error (.recursion (active ++ [name]))), frames, active⟩
    else
      match Entries.find? name table with
      | none => ⟨.leave (.error (.unknownFragment name)), frames, active⟩
      | some tree => ⟨.enter tree, .including name :: frames, active ++ [name]⟩
  | .inclusion (.value name) => ⟨.leave (s.rawText name), frames, active⟩
  | .offsetFetch offset fetch rows => ⟨.leave (s.clauseText offset fetch rows), frames, active⟩
  | .bare => ⟨.leave (.error .bareNode), frames, active⟩

/-- What a result leads to. A fault passes through blocks and references alike. -/
def leave (s : Setting) (result : Except RenderError String) (active : List String) :
    List Frame → Option Moment
  | [] => none
  | .including _ :: frames => some ⟨.leave result, frames, active.dropLast⟩
  | .within head children said :: frames =>
    match result with
    | .error e => some ⟨.leave (.error e), frames, active⟩
    | .ok text =>
      let connector := children[said.length]?.bind Fragment.connector?
      some (proceed s head children (said ++ [(connector, text)]) frames active)

/-- The next moment; none when nobody waits for the result. -/
def next? (table : Table) (s : Setting) (m : Moment) : Option Moment :=
  match m.control with
  | .enter f => some (enter table s m.frames m.active f)
  | .leave result => leave s result m.active m.frames

/-- Any number of steps. -/
def Leads (table : Table) (s : Setting) : Moment → Moment → Prop :=
  Relation.ReflTransGen fun m m' => m.next? table s = some m'

/-- The run from a moment comes to an end, and to this result. -/
def Ends (table : Table) (s : Setting) (m : Moment) (result : Except RenderError String) : Prop :=
  ∃ last, Leads table s m last ∧ last.next? table s = none ∧ last.control = .leave result

section Run

variable {table : Table} {s : Setting} {frames : List Frame} {active : List String}

theorem Leads.head {m m' last : Moment} (hstep : m.next? table s = some m')
    (hrun : Leads table s m' last) : Leads table s m last :=
  Relation.ReflTransGen.head hstep hrun

/-- A moment that is passed does not matter for how the run ends. -/
theorem Leads.ends_of_ends {start m : Moment} {result : Except RenderError String}
    (hrun : Leads table s start m) (hends : Ends table s start result) :
    Ends table s m result := by
  induction hrun with
  | refl => exact hends
  | tail _ hstep ih =>
    obtain ⟨last, hlast, hstop, hresult⟩ := ih
    rcases Relation.ReflTransGen.cases_head hlast with heq | ⟨m', hstep', hrest⟩
    · subst heq
      rw [hstop] at hstep
      cases hstep
    · rw [hstep] at hstep'
      cases hstep'
      exact ⟨last, hrest, hstop, hresult⟩

/-! ## A run makes the text of a node -/

section Children

variable {refer : String → Except RenderError String} {head : Head} {f : Fragment}
  {children rest : List Fragment} {said : List (Option String × String)}

/-- The text of a block of which some children have said something and others have not. -/
def blockRest (s : Setting) (refer : String → Except RenderError String) (head : Head)
    (said : List (Option String × String)) (rest : List Fragment) : Except RenderError String := do
  let others ← Fragment.renderEach s refer rest
  s.blockText head (said ++ others)

theorem blockRest_nil : blockRest s refer head said [] = s.blockText head said := by
  show s.blockText head (said ++ []) = _
  rw [List.append_nil]

/-- Of the first child that says something what it says is kept. -/
theorem blockRest_cons_ok {text : String} (hf : f.render s refer = .ok text) :
    blockRest s refer head said (f :: rest) =
      blockRest s refer head (said ++ [(f.connector?, text)]) rest := by
  rw [blockRest, Fragment.renderEach, hf, blockRest]
  cases Fragment.renderEach s refer rest with
  | error e => rfl
  | ok others =>
    show s.blockText head _ = s.blockText head _
    rw [List.append_assoc]
    rfl

theorem blockRest_cons_error {e : RenderError} (hf : f.render s refer = .error e) :
    blockRest s refer head said (f :: rest) = .error e := by
  rw [blockRest, Fragment.renderEach, hf]
  rfl

theorem proceed_of_drop_nil (hdrop : children.drop said.length = []) :
    proceed s head children said frames active =
      ⟨.leave (s.blockText head said), frames, active⟩ := by
  have hnone : children[said.length]? = none := by
    rw [← List.head?_drop, hdrop]
    rfl
  rw [proceed, hnone]

/-- The first child that has not said anything is the one that is entered next. -/
theorem getElem?_of_drop_cons (hdrop : children.drop said.length = f :: rest) :
    children[said.length]? = some f := by
  rw [← List.head?_drop, hdrop]
  rfl

theorem proceed_of_drop_cons (hdrop : children.drop said.length = f :: rest) :
    proceed s head children said frames active =
      ⟨.enter f, .within head children said :: frames, active⟩ := by
  rw [proceed, getElem?_of_drop_cons hdrop]

theorem next?_leave_within (hdrop : children.drop said.length = f :: rest) (text : String) :
    next? table s ⟨.leave (.ok text), .within head children said :: frames, active⟩ =
      some (proceed s head children (said ++ [(f.connector?, text)]) frames active) := by
  simp only [next?, leave, getElem?_of_drop_cons hdrop]
  rfl

/-- **One child.** If a child leads to its text, and the block from what is said then to the text of
the block, so does the block from what was said before. -/
theorem leads_child (hdrop : children.drop said.length = f :: rest)
    (hf : Leads table s ⟨.enter f, .within head children said :: frames, active⟩
      ⟨.leave (f.render s refer), .within head children said :: frames, active⟩)
    (hrest : ∀ more : List (Option String × String), children.drop more.length = rest →
      Leads table s (proceed s head children more frames active)
        ⟨.leave (blockRest s refer head more rest), frames, active⟩) :
    Leads table s (proceed s head children said frames active)
      ⟨.leave (blockRest s refer head said (f :: rest)), frames, active⟩ := by
  rw [proceed_of_drop_cons hdrop]
  apply hf.trans
  cases htext : f.render s refer with
  | error e =>
    rw [blockRest_cons_error htext]
    exact .head rfl .refl
  | ok text =>
    rw [blockRest_cons_ok htext]
    apply Leads.head (next?_leave_within hdrop text)
    apply hrest
    rw [List.length_append, List.length_singleton, ← List.drop_drop, hdrop]
    rfl

end Children

/-- Nodes lead to their texts, if references do. -/
theorem leads_render (refer : String → Except RenderError String)
    (hrefer : ∀ name frames, Leads table s ⟨.enter (.inclusion (.fragment name)), frames, active⟩
      ⟨.leave (refer name), frames, active⟩) (f : Fragment) (frames : List Frame) :
    Leads table s ⟨.enter f, frames, active⟩ ⟨.leave (f.render s refer), frames, active⟩ := by
  induction f using Fragment.tree_induction
    (q := fun fs => ∀ (head : Head) (children : List Fragment)
      (said : List (Option String × String)) (frames : List Frame),
      children.drop said.length = fs →
      Leads table s (proceed s head children said frames active)
        ⟨.leave (blockRest s refer head said fs), frames, active⟩)
    generalizing frames with
  | text sql => exact .head rfl .refl
  | block head children ih =>
    rw [Fragment.render]
    by_cases henters : s.enters head = true
    · rw [if_pos henters]
      have hstep : next? table s ⟨.enter (.block head children), frames, active⟩ =
          some (proceed s head children [] frames active) := by
        show some (if s.enters head = true then _ else _) = _
        rw [if_pos henters]
      exact .head hstep (ih head children [] frames rfl)
    · rw [if_neg henters]
      refine .head ?_ .refl
      show some (if s.enters head = true then _ else _) = _
      rw [if_neg henters]
  | inclusion target =>
    cases target with
    | fragment name => exact hrefer name frames
    | value name => exact .head rfl .refl
  | offsetFetch offset fetch rows => exact .head rfl .refl
  | bare => exact .head rfl .refl
  | nil =>
    next head children said frames hdrop =>
    rw [proceed_of_drop_nil hdrop, blockRest_nil]
    exact .refl
  | cons f rest ihf ihrest =>
    next head children said frames hdrop =>
    exact leads_child hdrop (ihf _) fun more => ihrest head children more frames

/-- **A tree leads to its text**, with the same callers waiting and the same names active. -/
theorem leads_renderTree (tree : Fragment) (frames : List Frame) :
    Leads table s ⟨.enter tree, frames, active⟩
      ⟨.leave (table.renderTree s active tree), frames, active⟩ := by
  induction active, tree using Table.renderTree.induct table generalizing frames with
  | case1 active tree ih =>
    rw [Table.renderTree_eq]
    refine leads_render (table.refer s active) (fun name frames => ?_) tree frames
    unfold Table.refer
    by_cases hold : name ∈ active
    · rw [if_pos hold]
      refine .head ?_ .refl
      simp only [next?, enter, if_pos hold]
    · rw [if_neg hold]
      cases hf : Entries.find? name table with
      | none =>
        refine .head ?_ .refl
        simp only [next?, enter, if_neg hold, hf]
      | some target =>
        have hstep : next? table s ⟨.enter (.inclusion (.fragment name)), frames, active⟩ =
            some ⟨.enter target, .including name :: frames, active ++ [name]⟩ := by
          simp only [next?, enter, if_neg hold, hf]
        -- the reference takes its name off again, whatever the target came to
        have hback : next? table s ⟨.leave (table.renderTree s (active ++ [name]) target),
            .including name :: frames, active ++ [name]⟩ =
            some ⟨.leave (table.renderTree s (active ++ [name]) target), frames, active⟩ := by
          simp only [next?, leave, List.dropLast_concat]
        exact .head hstep ((ih name hold target hf _).trans (.head hback .refl))

theorem ends_render {root : String} {tree : Fragment}
    (hf : Entries.find? root table = some tree) :
    Ends table s ⟨.enter tree, [], [root]⟩ (table.render s root) := by
  have hrender : table.render s root = table.renderTree s [root] tree := by
    rw [Table.render, hf]
  rw [hrender]
  exact ⟨_, leads_renderTree tree [], rfl, rfl⟩

end Run

end Moment
end SqlTemplate
