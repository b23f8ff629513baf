import SqlTemplate.Proofs.LineEnds
import SqlTemplate.Proofs.Moments

/-!
# Connectors in a `WHERE` clause

The children of a `WHERE` block say something or nothing, and only what is said makes the clause. A
condition is joined to what was said before it by its own connector, anything else is not, and
**what is said first goes without a connector, whichever child says it**. So a child that says
nothing might as well not be there, and that holds of a condition that does not hold whatever stands
below it, since nothing below it is rendered.

`Contributes` is what the children contribute, said of each child by itself; `clauseOf` is how
contributions are put together, said of each by its place among them. Together they are the text of
the block, and where one of the children has no text there is none of the block.
-/

set_option autoImplicit false

namespace SqlTemplate

/-- How a contribution is written at its place: the first as it is, any other behind its connector
and a space if it has a connector. -/
def contributionText : (place : Nat) → Option String × String → String
  | 0, (_, text) => text
  | _ + 1, (none, text) => text
  | _ + 1, (some word, text) => word ++ " " ++ text

/-- The clause that contributions make; none make no clause. -/
def clauseOf (contributions : List (Option String × String)) : String :=
  if contributions = [] then ""
  else "WHERE " ++ String.join (contributions.mapIdx contributionText)

/-- The node is a condition with a connector, and the condition does not hold. -/
inductive Setting.Skips (s : Setting) : Fragment → Prop where
  | intro {kind : TestKind} {word : String} {condition : Condition} (children : List Fragment)
      (hword : kind.connector? = some word) (hfails : s.parameters.satisfies condition = false) :
      s.Skips (.block (.test kind condition) children)

namespace Table

/-- What a child of a `WHERE` says, with the word that joins it: a condition that holds says what
its children do, any other node its own text. -/
inductive Says (table : Table) (s : Setting) (active : List String) :
    Fragment → Option String × String → Prop where
  | condition {kind : TestKind} {word : String} {condition : Condition} {children : List Fragment}
      {texts : List String} (hword : kind.connector? = some word)
      (hholds : s.parameters.satisfies condition = true)
      (htexts : List.Forall₂ (fun f text => table.renderTree s active f = .ok text) children texts) :
      Says table s active (.block (.test kind condition) children) (some word, String.join texts)
  | other {f : Fragment} {text : String} (hnone : f.connector? = none)
      (htext : table.renderTree s active f = .ok text) : Says table s active f (none, text)

/-- The child contributes nothing: it is skipped, or what it says is empty. -/
def Silent (table : Table) (s : Setting) (active : List String) (f : Fragment) : Prop :=
  s.Skips f ∨ ∃ connector, table.Says s active f (connector, "")

/-- What children contribute, in order. -/
inductive Contributes (table : Table) (s : Setting) (active : List String) :
    List Fragment → List (Option String × String) → Prop where
  | nil : Contributes table s active [] []
  | silent {f : Fragment} {rest : List Fragment} {more : List (Option String × String)}
      (hsilent : table.Silent s active f) (hrest : Contributes table s active rest more) :
      Contributes table s active (f :: rest) more
  | said {f : Fragment} {rest : List Fragment} {connector : Option String} {text : String}
      {more : List (Option String × String)} (hown : table.Says s active f (connector, text))
      (hne : text ≠ "") (hrest : Contributes table s active rest more) :
      Contributes table s active (f :: rest) ((connector, text) :: more)

end Table

/-! ## Putting contributions together -/

/-- What was said and is not empty. -/
def spoken (said : List (Option String × String)) : List (Option String × String) :=
  said.filter fun p => !p.2.isEmpty

theorem spoken_cons_empty (connector : Option String) (rest : List (Option String × String)) :
    spoken ((connector, "") :: rest) = spoken rest := rfl

theorem spoken_append (xs ys : List (Option String × String)) :
    spoken (xs ++ ys) = spoken xs ++ spoken ys :=
  List.filter_append ..

theorem spoken_cons {connector : Option String} {text : String} (hne : text ≠ "")
    (rest : List (Option String × String)) :
    spoken ((connector, text) :: rest) = (connector, text) :: spoken rest := by
  have htext : (!text.isEmpty) = true := by simpa using hne
  rw [spoken, List.filter_cons, if_pos htext, spoken]

theorem joinConditions_eq (said : List (Option String × String)) (place : Nat) :
    joinConditions said = String.join (said.mapIdx fun i => contributionText (place + i + 1)) := by
  induction said generalizing place with
  | nil => rfl
  | cons p rest ih =>
    obtain ⟨connector, text⟩ := p
    -- from the second place on, the place no longer matters
    have hplace : (fun i => contributionText (place + (i + 1) + 1)) =
        fun i => contributionText (place + 1 + i + 1) := by
      funext i
      rw [Nat.add_right_comm place 1 i]
      rfl
    rw [List.mapIdx_cons, String.join_cons, hplace, ← ih (place + 1)]
    cases connector <;> rfl

theorem filterText_eq (said : List (Option String × String)) :
    filterText said = clauseOf (spoken said) := by
  rw [filterText, clauseOf, spoken]
  cases said.filter fun p => !p.2.isEmpty with
  | nil => rfl
  | cons p rest =>
    obtain ⟨connector, text⟩ := p
    have hrest := joinConditions_eq rest 0
    simp only [Nat.zero_add] at hrest
    rw [if_neg (List.cons_ne_nil _ _), List.mapIdx_cons, String.join_cons, ← hrest,
      ← String.append_assoc]
    rfl

/-! ## What a child says and what it is rendered to -/

namespace Fragment

variable {s : Setting} {refer : String → Except RenderError String}

theorem renderEach_eq_ok_iff {fs : List Fragment} {said : List (Option String × String)} :
    renderEach s refer fs = .ok said ↔
      ∃ texts, List.Forall₂ (fun f text => f.render s refer = .ok text) fs texts ∧
        said = (fs.map connector?).zip texts := by
  induction fs generalizing said with
  | nil =>
    constructor
    · intro h
      cases h
      exact ⟨[], .nil, rfl⟩
    · intro h
      obtain ⟨texts, htexts, rfl⟩ := h
      cases htexts
      rfl
  | cons f rest ih =>
    rw [renderEach_cons_eq_ok_iff]
    constructor
    · intro h
      obtain ⟨text, more, htext, hmore, rfl⟩ := h
      obtain ⟨texts, htexts, rfl⟩ := ih.mp hmore
      exact ⟨text :: texts, .cons htext htexts, rfl⟩
    · intro h
      obtain ⟨texts, htexts, rfl⟩ := h
      cases htexts with
      | cons htext hrest => exact ⟨_, _, htext, ih.mpr ⟨_, hrest, rfl⟩, rfl⟩

theorem join_of_renderEach {fs : List Fragment} {said : List (Option String × String)}
    (h : renderEach s refer fs = .ok said) :
    List.Forall₂ (fun f text => f.render s refer = .ok text) fs (said.map Prod.snd) := by
  obtain ⟨texts, htexts, rfl⟩ := renderEach_eq_ok_iff.mp h
  have hlen : texts.length ≤ (fs.map connector?).length := by
    rw [List.length_map, htexts.length_eq]
  rwa [List.map_snd_zip hlen]

theorem renderEach_append (xs ys : List Fragment) :
    renderEach s refer (xs ++ ys) = (do
      let said ← renderEach s refer xs
      let others ← renderEach s refer ys
      return said ++ others) := by
  induction xs with
  | nil =>
    show renderEach s refer ys = _
    cases renderEach s refer ys <;> rfl
  | cons f rest ih =>
    rw [List.cons_append, renderEach, renderEach, ih]
    cases f.render s refer with
    | error e => rfl
    | ok text =>
      cases renderEach s refer rest with
      | error e => rfl
      | ok said => cases renderEach s refer ys <;> rfl

/-- A child that says nothing changes nothing of what is spoken, faults included. -/
theorem spoken_renderEach_of_empty {f : Fragment} (hf : f.render s refer = .ok "")
    (before after : List Fragment) :
    (renderEach s refer (before ++ f :: after)).map spoken =
      (renderEach s refer (before ++ after)).map spoken := by
  rw [renderEach_append, renderEach_append, renderEach, hf]
  cases renderEach s refer before with
  | error e => rfl
  | ok said =>
    cases renderEach s refer after with
    | error e => rfl
    | ok others =>
      show Except.ok (spoken (said ++ (f.connector?, "") :: others)) =
        Except.ok (spoken (said ++ others))
      rw [spoken_append, spoken_append, spoken_cons_empty]

end Fragment

namespace Table

variable {table : Table} {s : Setting} {active : List String}

theorem renderTree_filter (children : List Fragment) :
    renderTree table s active (.block .filter children) =
      ((Fragment.renderEach s (table.refer s active) children).map spoken).map clauseOf := by
  have henters : s.enters .filter = true := rfl
  rw [renderTree_eq, Fragment.render, if_pos henters]
  cases Fragment.renderEach s (table.refer s active) children with
  | error e => rfl
  | ok said => exact congrArg Except.ok (filterText_eq said)

theorem renderTree_of_skips {f : Fragment} (h : s.Skips f) :
    renderTree table s active f = .ok "" := by
  obtain ⟨children, -, hfails⟩ := h
  rw [renderTree_eq, Fragment.render, Setting.enters, hfails]
  rfl

theorem Says.connector_eq {f : Fragment} {p : Option String × String}
    (h : table.Says s active f p) : p.1 = f.connector? := by
  cases h with
  | condition hword => exact hword.symm
  | other hnone => exact hnone.symm

theorem Says.renderTree_eq_ok {f : Fragment} {p : Option String × String}
    (h : table.Says s active f p) : renderTree table s active f = .ok p.2 := by
  cases h with
  | @condition kind word condition children texts hword hholds htexts =>
    have hsaid : Fragment.renderEach s (table.refer s active) children =
        .ok ((children.map Fragment.connector?).zip texts) := by
      simp only [renderTree_eq] at htexts
      exact Fragment.renderEach_eq_ok_iff.mpr ⟨texts, htexts, rfl⟩
    have hlen : texts.length ≤ (children.map Fragment.connector?).length := by
      rw [List.length_map, htexts.length_eq]
    rw [renderTree_eq, Fragment.render, Setting.enters, if_pos hholds, hsaid]
    show Except.ok (String.join _) = _
    rw [List.map_snd_zip hlen]
  | other _ htext => exact htext

/-- A child that has a text is skipped and the text is empty, or it says the text. -/
theorem skips_or_says_of_renderTree {f : Fragment} {text : String}
    (h : renderTree table s active f = .ok text) :
    (s.Skips f ∧ text = "") ∨ table.Says s active f (f.connector?, text) := by
  cases hconnector : f.connector? with
  | none => exact Or.inr (.other hconnector h)
  | some word =>
    cases f with
    | text | inclusion | offsetFetch | bare => cases hconnector
    | block head children =>
      cases head with
      | named | group | filter | like | paging => cases hconnector
      | test kind condition =>
        cases hholds : s.parameters.satisfies condition with
        | false =>
          have hskips : s.Skips (.block (.test kind condition) children) :=
            .intro children hconnector hholds
          rw [renderTree_of_skips hskips] at h
          cases h
          exact Or.inl ⟨hskips, rfl⟩
        | true =>
          rw [renderTree_eq, Fragment.render, Setting.enters, if_pos hholds] at h
          obtain ⟨said, hsaid, htext⟩ := Outcome.bind_eq_ok_iff.mp h
          cases htext
          refine Or.inr (.condition hconnector hholds ?_)
          simp only [renderTree_eq]
          exact Fragment.join_of_renderEach hsaid

theorem silent_iff {f : Fragment} :
    table.Silent s active f ↔ renderTree table s active f = .ok "" := by
  constructor
  · intro h
    rcases h with hskips | ⟨connector, hown⟩
    · exact renderTree_of_skips hskips
    · exact hown.renderTree_eq_ok
  · intro h
    rcases skips_or_says_of_renderTree h with ⟨hskips, -⟩ | hown
    · exact Or.inl hskips
    · exact Or.inr ⟨_, hown⟩

/-- **Children contribute what they say and is not empty.** -/
theorem contributes_iff {children : List Fragment} {said : List (Option String × String)} :
    table.Contributes s active children said ↔
      (Fragment.renderEach s (table.refer s active) children).map spoken = .ok said := by
  rw [Outcome.map_eq_ok_iff]
  constructor
  · intro h
    induction h with
    | nil => exact ⟨[], rfl, rfl⟩
    | silent hsilent _ ih =>
      obtain ⟨all, hall, rfl⟩ := ih
      have htext := silent_iff.mp hsilent
      rw [renderTree_eq] at htext
      exact ⟨_, Fragment.renderEach_cons_eq_ok_iff.mpr ⟨_, _, htext, hall, rfl⟩,
        spoken_cons_empty _ _⟩
    | said hown hne _ ih =>
      obtain ⟨all, hall, rfl⟩ := ih
      have hconnector := hown.connector_eq
      have htext := hown.renderTree_eq_ok
      rw [renderTree_eq] at htext
      cases hconnector
      exact ⟨_, Fragment.renderEach_cons_eq_ok_iff.mpr ⟨_, _, htext, hall, rfl⟩,
        spoken_cons hne _⟩
  · intro h
    obtain ⟨all, hall, rfl⟩ := h
    induction children generalizing all with
    | nil =>
      cases hall
      exact .nil
    | cons f rest ih =>
      obtain ⟨text, more, htext, hmore, rfl⟩ := Fragment.renderEach_cons_eq_ok_iff.mp hall
      rw [← renderTree_eq] at htext
      by_cases hempty : text = ""
      · subst hempty
        exact .silent (silent_iff.mpr htext) (ih more hmore)
      · rw [spoken_cons hempty]
        rcases skips_or_says_of_renderTree htext with ⟨-, hnone⟩ | hown
        · exact absurd hnone hempty
        · exact .said hown hempty (ih more hmore)

theorem renderTree_filter_eq_ok_iff {children : List Fragment} {text : String} :
    renderTree table s active (.block .filter children) = .ok text ↔
      ∃ said, table.Contributes s active children said ∧ text = clauseOf said := by
  rw [renderTree_filter, Outcome.map_eq_ok_iff]
  simp only [contributes_iff, eq_comm]

/-- **The connectors of a clause.** A `WHERE` block has a text exactly when each of its children can
contribute, and the text is what they contribute, the first without its connector. A child that
contributes nothing can be left out or put in anywhere without a change, faults included. A
condition with a connector that does not hold is left as soon as it is come to, whatever stands
below it. -/
theorem filter_clause (table : Table) (s : Setting) (active : List String) :
    (∀ children text, renderTree table s active (.block .filter children) = .ok text ↔
      ∃ said, table.Contributes s active children said ∧ text = clauseOf said) ∧
    (∀ before f after, table.Silent s active f →
      renderTree table s active (.block .filter (before ++ f :: after)) =
        renderTree table s active (.block .filter (before ++ after))) ∧
    ∀ f, s.Skips f → table.Silent s active f ∧
      ∀ frames, Moment.next? table s ⟨.enter f, frames, active⟩ =
        some ⟨.leave (.ok ""), frames, active⟩ := by
  refine ⟨?_, ?_, ?_⟩
  · intro children text
    exact renderTree_filter_eq_ok_iff
  · intro before f after hsilent
    have hf := silent_iff.mp hsilent
    rw [renderTree_eq] at hf
    rw [renderTree_filter, renderTree_filter, Fragment.spoken_renderEach_of_empty hf]
  · intro f hskips
    refine ⟨Or.inl hskips, fun frames => ?_⟩
    obtain ⟨children, -, hfails⟩ := hskips
    show some (if s.enters (.test _ _) = true then _ else _) = _
    rw [Setting.enters, hfails]
    rfl

/-- A condition that does not hold around a reference to nothing, one that holds and has nothing to
say, and three children that say something, the middle one with a connector. -/
theorem filter_clause_mixed :
    let s : Setting := { parameters := .given [(.str "a", .int 1), (.str "c", .int 0)] }
    let failing : Fragment :=
      .block (.test .conjunct ⟨"d", none⟩) [.inclusion (.fragment "Missing")]
    let empty : Fragment :=
      .block (.test .conjunct ⟨"a", none⟩) [.block (.test .guard ⟨"b", none⟩) [.text "b = :b "]]
    let rest : List Fragment := [.text "x ", .block (.test .disjunct ⟨"c", none⟩) [.text "y "],
      .block (.test .guard ⟨"c", none⟩) [.text "AND z "]]
    renderTree [] s [] (.block .filter (failing :: empty :: rest)) = .ok "WHERE x OR y AND z " ∧
    (∃ said, Contributes [] s [] (failing :: empty :: rest) said ∧
      "WHERE x OR y AND z " = clauseOf said) ∧
    Silent [] s [] empty ∧
    renderTree [] s [] (.block .filter ([failing] ++ empty :: rest)) =
      renderTree [] s [] (.block .filter ([failing] ++ rest)) ∧
    s.Skips failing ∧ Silent [] s [] failing ∧
    Moment.next? [] s ⟨.enter failing, [], []⟩ = some ⟨.leave (.ok ""), [], []⟩ := by
  intro s failing empty rest
  obtain ⟨htext, hleft, hskip⟩ := filter_clause [] s []
  have hsql : renderTree [] s [] (.block .filter (failing :: empty :: rest)) =
      .ok "WHERE x OR y AND z " := by cbv
  have hempty : Silent [] s [] empty := silent_iff.mpr (by cbv)
  have hfailing : s.Skips failing := .intro _ rfl rfl
  obtain ⟨hsilent, hnext⟩ := hskip failing hfailing
  exact ⟨hsql, (htext _ _).mp hsql, hempty, hleft [failing] empty rest hempty, hfailing, hsilent,
    hnext []⟩

end Table
end SqlTemplate
