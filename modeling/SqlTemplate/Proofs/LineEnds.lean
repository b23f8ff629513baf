import SqlTemplate.Proofs.Override
import SqlTemplate.Proofs.ReadTrees
import SqlTemplate.Proofs.Spacing
import SqlTemplate.Proofs.WrittenTags

/-!
# Where the text of a line ends

The text at the end of a line gets a space, and so does everything that a tag says. The text before
a tag gets none: it is kept as it is written, since the tag may have to follow it directly. Nothing
is lost by that as long as the tag says something. But a reference may come to nothing and a paging
clause may be asked for nothing, and if no more of the line says anything either, **the text before
the tag ends the line, with or without a space**.

That is the only way in which texts run together. `Woven` is what is needed of the trees that are
read from lines: of each literal text in them, that it is spaced or stands before a tag on one of
the lines. What a rendering ends with is then found from its last text, through blocks and
references.
-/

set_option autoImplicit false

namespace SqlTemplate

namespace Fragment

/-- Whether the node is one that an inline tag makes. -/
def isInline : Fragment → Bool
  | .inclusion _ => true
  | .block (.like _) _ => true
  | .offsetFetch _ _ _ => true
  | _ => false

/-- Whether the node is one that an inline tag makes and that can say nothing. -/
def mayBeSilent : Fragment → Bool
  | .inclusion (.fragment _) => true
  | .offsetFetch _ _ _ => true
  | _ => false

end Fragment

/-- Each literal text among the nodes and below them is spaced, or stands directly before an inline
tag on one of the lines and is followed by what comes after it there. -/
inductive Woven (lines : List Line) : List Fragment → Prop where
  | nil : Woven lines []
  | block {head : Head} {children rest : List Fragment} (hchildren : Woven lines children)
      (hrest : Woven lines rest) : Woven lines (.block head children :: rest)
  | inclusion {target : Target} {rest : List Fragment} (hrest : Woven lines rest) :
      Woven lines (.inclusion target :: rest)
  | offsetFetch {offset fetch : Option String} {rows : Option Int} {rest : List Fragment}
      (hrest : Woven lines rest) : Woven lines (.offsetFetch offset fetch rows :: rest)
  | spaced {t : String} {rest : List Fragment} (ht : Spaced t) (hrest : Woven lines rest) :
      Woven lines (.text t :: rest)
  | beforeTag {line : Line} {onLine after rest : List Fragment} {t : String} {tag : Fragment}
      (hline : line ∈ lines) (hcontent : line.content = .ok (onLine ++ .text t :: tag :: after))
      (htag : tag.isInline = true) (hrest : Woven lines (tag :: (after ++ rest))) :
      Woven lines (.text t :: tag :: (after ++ rest))

/-! ## What is read from lines -/

section Reading

variable {lines : List Line}

theorem Woven.append {xs ys : List Fragment} (hx : Woven lines xs) (hy : Woven lines ys) :
    Woven lines (xs ++ ys) := by
  induction hx with
  | nil => exact hy
  | block hchildren _ _ ih => exact .block hchildren ih
  | inclusion _ ih => exact .inclusion ih
  | offsetFetch _ ih => exact .offsetFetch ih
  | spaced ht _ ih => exact .spaced ht ih
  | beforeTag hline hcontent htag _ ih =>
    rw [List.cons_append, List.append_assoc] at ih
    rw [List.cons_append, List.cons_append, List.append_assoc]
    exact .beforeTag hline hcontent htag ih

theorem InlineTag.read?_cases {tag : InlineTag} {after rest : List Char} {f : Fragment}
    (h : tag.read? after = some (f, rest)) :
    (∃ target, f = .inclusion target) ∨
      (∃ name body, f = .block (.like name) [.text (Fragment.lineText body)]) ∨
      ∃ offset fetch rows, f = .offsetFetch offset fetch rows := by
  obtain ⟨args, -, hwritten⟩ := read?_eq_some_iff.mp h
  cases hwritten with
  | fragment | value => exact Or.inl ⟨_, rfl⟩
  | closedLike | openLike => exact Or.inr (Or.inl ⟨_, _, rfl⟩)
  | offsetFetch | bareOffsetFetch | fetch | rows | bareFetch =>
    exact Or.inr (Or.inr ⟨_, _, _, rfl⟩)

theorem InlineTag.isInline_of_read? {tag : InlineTag} {after rest : List Char} {f : Fragment}
    (h : tag.read? after = some (f, rest)) : f.isInline = true := by
  rcases read?_cases h with ⟨_, rfl⟩ | ⟨_, _, rfl⟩ | ⟨_, _, _, rfl⟩ <;> rfl

theorem InlineTag.woven_of_read? {tag : InlineTag} {after rest : List Char} {f : Fragment}
    {more : List Fragment} (h : tag.read? after = some (f, rest)) (hmore : Woven lines more) :
    Woven lines (f :: more) := by
  rcases read?_cases h with ⟨_, rfl⟩ | ⟨_, body, rfl⟩ | ⟨_, _, _, rfl⟩
  · exact .inclusion hmore
  · exact .block (.spaced (spaced_lineText body) .nil) hmore
  · exact .offsetFetch hmore

/-- What is read from the rest of a line, where `onLine` has been read before it. -/
theorem Line.content_woven {whole line : Line} {onLine fs : List Fragment} (hwhole : whole ∈ lines)
    (hcontent : whole.content = .ok (onLine ++ fs)) (h : line.content = .ok fs) :
    Woven lines fs := by
  induction line using content_induction generalizing onLine fs with
  | blank line hnil =>
    rw [content_blank hnil] at h
    cases h
    exact .nil
  | untagged line hne hs =>
    rw [content_untagged hne hs] at h
    split at h <;> cases h
    exact .spaced (spaced_lineText _) .nil
  | unread line before tag after hs hr =>
    rw [content_unread hs hr] at h
    cases h
  | tagged line before tag after fragment rest hs hr ih =>
    rw [content_tagged hs hr] at h
    obtain ⟨more, hmore, rfl⟩ := Outcome.map_eq_ok_iff.mp h
    have hafter : whole.content = .ok (onLine ++ leadingText before ++ [fragment] ++ more) := by
      rw [hcontent, List.append_assoc, List.append_assoc, List.singleton_append]
    have htag : Woven lines (fragment :: more) := InlineTag.woven_of_read? hr (ih hafter hmore)
    cases before with
    | nil => exact htag
    | cons c before =>
      have hrest : Woven lines (fragment :: (more ++ [])) := by rwa [List.append_nil]
      have hall := Woven.beforeTag hwhole hcontent (InlineTag.isInline_of_read? hr) hrest
      rwa [List.append_nil] at hall

/-- What is woven from lines is made of nothing but what reading passes on. -/
theorem woven_inherited (lines : List Line) : Inherited lines (Woven lines) where
  nil := .nil
  append hx hy := hx.append hy
  content line hline fs hfs := by
    have hwhole : line.content = .ok ([] ++ fs) := hfs
    exact Line.content_woven hline hwhole hfs
  block _ _ _ _ _ _ _ _ hchildren := .block hchildren .nil

/-- A definition whose children are woven from the lines. -/
def WovenTree (lines : List Line) (tree : Fragment) : Prop :=
  ∃ name children, tree = .block (.named name) children ∧ Woven lines children

theorem woven_of_parseLines {raw : List String} {strict : Bool} {table : Table}
    (h : parseLines raw strict = .ok table) {name : String} {tree : Fragment}
    (hf : Entries.find? name table = some tree) : WovenTree (significantLines raw) tree := by
  have hentry := (woven_inherited _).parseLines h _ (Entries.mem_of_find? hf)
  obtain ⟨children, htree, -, hchildren⟩ := hentry.exists_children
  exact ⟨name, children, htree, hchildren⟩

end Reading

/-! ## What renderings end with -/

/-- The text ends with one that stands on a line before a tag, where a rendering of `root` gets
nothing from that tag and from what follows it on the line. -/
def Table.RunsOn (table : Table) (s : Setting) (lines : List Line) (root text : String) : Prop :=
  ∃ line ∈ lines, ∃ onLine t tag after,
    line.content = .ok (onLine ++ .text t :: tag :: after) ∧ tag.mayBeSilent = true ∧
    ¬ Spaced t ∧ t.toList <:+ text.toList ∧
    ∃ active tree head children, table.Active root active tree ∧
      .block head children ∈ tree.nodes ∧ .text t :: tag :: after <:+: children ∧
      ∀ f ∈ tag :: after, table.renderTree s active f = .ok ""

/-- The text is spaced, or there is the one reason why it is not. -/
def Table.EndsWell (table : Table) (s : Setting) (lines : List Line) (root text : String) : Prop :=
  Spaced text ∨ table.RunsOn s lines root text

theorem Table.endProperty_endsWell (table : Table) (s : Setting) (lines : List Line)
    (root : String) : EndProperty (table.EndsWell s lines root) where
  of_spaced _ h := Or.inl h
  of_closes text whole h hcloses := by
    rcases h with h | ⟨line, hline, onLine, t, tag, after, hcontent, htag, ht, hsuffix, hwhere⟩
    · exact Or.inl (h.of_closes hcloses)
    · exact Or.inr ⟨line, hline, onLine, t, tag, after, hcontent, htag, ht,
        hsuffix.trans hcloses.suffix, hwhere⟩

namespace Fragment

variable {s : Setting} {refer : String → Except RenderError String}

theorem renderEach_cons_eq_ok_iff {f : Fragment} {rest : List Fragment}
    {said : List (Option String × String)} :
    renderEach s refer (f :: rest) = .ok said ↔
      ∃ text more, f.render s refer = .ok text ∧ renderEach s refer rest = .ok more ∧
        said = (f.connector?, text) :: more := by
  rw [renderEach]
  simp only [Outcome.bind_eq_ok_iff, pure, Except.pure, Except.ok.injEq]
  constructor
  · intro h
    obtain ⟨text, htext, more, hmore, rfl⟩ := h
    exact ⟨text, more, htext, hmore, rfl⟩
  · intro h
    obtain ⟨text, more, htext, hmore, rfl⟩ := h
    exact ⟨text, htext, more, hmore, rfl⟩

theorem render_eq_empty_of_lastText {fs : List Fragment} {said : List (Option String × String)}
    (h : renderEach s refer fs = .ok said) (hempty : lastText said = "") :
    ∀ f ∈ fs, f.render s refer = .ok "" := by
  induction fs generalizing said with
  | nil =>
    intro f hf
    cases hf
  | cons first rest ih =>
    obtain ⟨text, more, htext, hmore, rfl⟩ := renderEach_cons_eq_ok_iff.mp h
    rw [lastText] at hempty
    split at hempty
    · next hlater =>
      intro f hf
      rcases List.mem_cons.mp hf with rfl | hf
      · rw [htext]
        exact congrArg Except.ok hempty
      · exact ih hmore hlater f hf
    · next hlater => exact absurd hempty hlater

/-- A comparison and an inserted value always say something. -/
theorem mayBeSilent_of_render {tag : Fragment} (htag : tag.isInline = true)
    (h : tag.render s refer = .ok "") : tag.mayBeSilent = true := by
  cases tag with
  | text | bare => cases htag
  | offsetFetch => rfl
  | inclusion target =>
    cases target with
    | fragment name => rfl
    | value v => exact absurd rfl (Setting.rawText_spaced h).2
  | block head children =>
    cases head with
    | like name =>
      have henters : s.enters (.like name) = true := rfl
      rw [render, if_pos henters] at h
      obtain ⟨said, -, h⟩ := Outcome.bind_eq_ok_iff.mp h
      exact absurd (Except.ok.inj h) (Setting.likeText_ne_empty _ _)
    | named | group | filter | test | paging => cases htag

end Fragment

/-- A block ends as its children do, or says nothing. -/
theorem Fragment.render_block_end {P : String → Prop} (hP : EndProperty P) {s : Setting}
    (hlike : Spaced s.dialect.likeSuffix) {refer : String → Except RenderError String} {head : Head}
    {children : List Fragment} {text : String}
    (hchildren : ∀ said, renderEach s refer children = .ok said → P (lastText said))
    (h : (Fragment.block head children).render s refer = .ok text) : P text := by
  rw [render] at h
  split at h
  · obtain ⟨said, hsaid, htext⟩ := Outcome.bind_eq_ok_iff.mp h
    exact Setting.blockText_end hP hlike (hchildren said hsaid) htext
  · cases h
    exact hP.of_spaced _ spaced_empty

namespace Table

section EndsWell

variable {table : Table} {s : Setting} {lines : List Line} {root : String}

theorem tail_infix_of_cons {f : Fragment} {rest children : List Fragment}
    (h : f :: rest <:+: children) : rest <:+: children :=
  (List.suffix_cons f rest).isInfix.trans h

theorem EndsWell.cons {connector : Option String} {text : String}
    {more : List (Option String × String)}
    (htext : lastText more = "" → table.EndsWell s lines root text)
    (hmore : table.EndsWell s lines root (lastText more)) :
    table.EndsWell s lines root (lastText ((connector, text) :: more)) := by
  rw [lastText]
  split
  · next hempty => exact htext hempty
  · exact hmore

/-- Children of a block end well if references do. -/
theorem endsWell_of_woven (hlike : Spaced s.dialect.likeSuffix) {active : List String}
    {tree : Fragment} (hactive : table.Active root active tree)
    (hrefer : ∀ name ∈ tree.references, ∀ text, table.refer s active name = .ok text →
      table.EndsWell s lines root text)
    {fs : List Fragment} (h : Woven lines fs) {head : Head} {children : List Fragment}
    (hblock : .block head children ∈ tree.nodes) (hin : fs <:+: children)
    {said : List (Option String × String)}
    (hsaid : Fragment.renderEach s (table.refer s active) fs = .ok said) :
    table.EndsWell s lines root (lastText said) := by
  have hP := table.endProperty_endsWell s lines root
  induction h generalizing head children said with
  | nil =>
    cases hsaid
    exact Or.inl spaced_empty
  | @block head' children' rest _ _ ihchildren ihrest =>
    obtain ⟨text, more, htext, hmore, rfl⟩ := Fragment.renderEach_cons_eq_ok_iff.mp hsaid
    refine .cons (fun _ => ?_) (ihrest hblock (tail_infix_of_cons hin) hmore)
    have hnode : .block head' children' ∈ tree.nodes :=
      Fragment.mem_nodes_of_child hblock (hin.subset List.mem_cons_self)
    exact Fragment.render_block_end hP hlike
      (fun said' hsaid' => ihchildren hnode (List.infix_refl _) hsaid') htext
  | @inclusion target rest _ ihrest =>
    obtain ⟨text, more, htext, hmore, rfl⟩ := Fragment.renderEach_cons_eq_ok_iff.mp hsaid
    refine .cons (fun _ => ?_) (ihrest hblock (tail_infix_of_cons hin) hmore)
    cases target with
    | fragment name =>
      have hnode := Fragment.mem_nodes_of_child hblock (hin.subset List.mem_cons_self)
      exact hrefer name (Fragment.mem_references_iff.mpr hnode) text htext
    | value v => exact Or.inl (Setting.rawText_spaced htext).1
  | offsetFetch _ ihrest =>
    obtain ⟨text, more, htext, hmore, rfl⟩ := Fragment.renderEach_cons_eq_ok_iff.mp hsaid
    exact .cons (fun _ => Or.inl (Setting.clauseText_spaced htext))
      (ihrest hblock (tail_infix_of_cons hin) hmore)
  | spaced ht _ ihrest =>
    obtain ⟨text, more, htext, hmore, rfl⟩ := Fragment.renderEach_cons_eq_ok_iff.mp hsaid
    cases htext
    exact .cons (fun _ => Or.inl ht) (ihrest hblock (tail_infix_of_cons hin) hmore)
  | @beforeTag line onLine after rest t tag hline hcontent htag _ ihrest =>
    obtain ⟨text, more, htext, hmore, rfl⟩ := Fragment.renderEach_cons_eq_ok_iff.mp hsaid
    cases htext
    refine .cons (fun hempty => ?_) (ihrest hblock (tail_infix_of_cons hin) hmore)
    by_cases ht : Spaced t
    · exact Or.inl ht
    · -- nothing after the text says anything, neither on its line nor below
      have hsilent := Fragment.render_eq_empty_of_lastText hmore hempty
      refine Or.inr ⟨line, hline, onLine, t, tag, after, hcontent, ?_, ht, List.suffix_refl _,
        active, tree, head, children, hactive, hblock, ?_, ?_⟩
      · exact Fragment.mayBeSilent_of_render htag (hsilent tag List.mem_cons_self)
      · have hline : .text t :: tag :: after <:+: .text t :: tag :: (after ++ rest) :=
          ⟨[], rest, rfl⟩
        exact hline.trans hin
      · intro f hf
        rw [renderTree_eq]
        refine hsilent f ?_
        rw [← List.cons_append]
        exact List.mem_append_left _ hf

/-- **A rendered tree ends well.** -/
theorem renderTree_endsWell (hlike : Spaced s.dialect.likeSuffix)
    (hwoven : ∀ name tree, Entries.find? name table = some tree → WovenTree lines tree)
    {active : List String} {tree : Fragment} (hactive : table.Active root active tree)
    {text : String} (h : renderTree table s active tree = .ok text) :
    table.EndsWell s lines root text := by
  induction active, tree using renderTree.induct table generalizing text with
  | case1 active tree ih =>
    obtain ⟨last, -, hlast, -⟩ := hactive.exists_last
    obtain ⟨name, children, rfl, hchildren⟩ := hwoven last tree hlast
    rw [renderTree_eq] at h
    refine Fragment.render_block_end (table.endProperty_endsWell s lines root) hlike ?_ h
    intro said hsaid
    refine endsWell_of_woven hlike hactive ?_ hchildren (Fragment.mem_nodes_self _)
      (List.infix_refl _) hsaid
    intro name href text htext
    obtain ⟨hnew, target, hf, hok⟩ := refer_eq_ok_iff.mp htext
    exact ih name hnew target hf (hactive.push href hnew hf) hok

/-- So does a text that a reference comes to, on behalf of a rendering of `root`. -/
theorem refer_endsWell (hlike : Spaced s.dialect.likeSuffix)
    (hwoven : ∀ name tree, Entries.find? name table = some tree → WovenTree lines tree)
    {active : List String} {tree : Fragment} (hactive : table.Active root active tree)
    {name text : String} (href : name ∈ tree.references)
    (h : table.refer s active name = .ok text) : table.EndsWell s lines root text := by
  obtain ⟨hnew, target, hf, hok⟩ := refer_eq_ok_iff.mp h
  exact renderTree_endsWell hlike hwoven (hactive.push href hnew hf) hok

end EndsWell

/-- **Texts run together only behind a tag that says nothing.** What a fragment is rendered to is
empty or ends with a space, and so is what one line says, wherever it stands in what is rendered;
or it ends with a text that stands on a line directly before an inline tag, and that tag and
everything after it on the line come to nothing. -/
theorem render_endsWell {raw : List String} {strict : Bool} {table : Table} {s : Setting}
    (hparse : parseLines raw strict = .ok table) (hlike : Spaced s.dialect.likeSuffix)
    (name : String) :
    (∀ sql, table.render s name = .ok sql →
      Spaced sql ∨ table.RunsOn s (significantLines raw) name sql) ∧
    ∀ active tree head children, table.Active name active tree →
      .block head children ∈ tree.nodes →
      ∀ line ∈ significantLines raw, ∀ fs said, line.content = .ok fs → fs <:+: children →
        Fragment.renderEach s (table.refer s active) fs = .ok said →
        Spaced (String.join (said.map Prod.snd)) ∨
          table.RunsOn s (significantLines raw) name (String.join (said.map Prod.snd)) := by
  have hwoven : ∀ name tree, Entries.find? name table = some tree →
      WovenTree (significantLines raw) tree := fun _ _ hf => woven_of_parseLines hparse hf
  constructor
  · intro sql hsql
    rw [render] at hsql
    cases hf : Entries.find? name table with
    | none =>
      rw [hf] at hsql
      cases hsql
    | some tree =>
      rw [hf] at hsql
      exact renderTree_endsWell hlike hwoven (.start hf) hsql
  · intro active tree head children hactive hblock line hline fs said hfs hin hsaid
    have hwhole : line.content = .ok ([] ++ fs) := hfs
    have hlast := endsWell_of_woven hlike hactive
      (fun next href text htext => refer_endsWell hlike hwoven hactive href htext)
      (Line.content_woven hline hwhole hfs) hblock hin hsaid
    exact (table.endProperty_endsWell s _ name).of_closes _ _ hlast (closes_join said)

/-- A paging clause that is asked for nothing leaves the text before it as it is written. -/
theorem not_spaced_before_fetch :
    ∃ table, parseLines ["@NAME(A)", "  SELECT 1@FETCH"] false = .ok table ∧
      Spaced Dialect.default.likeSuffix ∧ table.render {} "A" = .ok "SELECT 1" ∧
      ¬ Spaced "SELECT 1" := by
  refine ⟨[("A", .block (.named "A") [.text "SELECT 1",
    .offsetFetch none (some "paging_fetch") none])], ?_, ?_, ?_, ?_⟩
  · cbv
  · decide
  · cbv
  · decide

/-- The text of a reference can end that way, too. -/
theorem render_endsWell_fetch :
    let raw := ["@NAME(A)", "  SELECT 1@FETCH", "@NAME(B)", "  @INCLUDE(A)"]
    ∃ table, parseLines raw true = .ok table ∧ Spaced Dialect.default.likeSuffix ∧
      table.render {} "B" = .ok "SELECT 1" ∧
      (Spaced "SELECT 1" ∨ table.RunsOn {} (significantLines raw) "B" "SELECT 1") := by
  intro raw
  let table : Table := [
    ("A", .block (.named "A") [.text "SELECT 1", .offsetFetch none (some "paging_fetch") none]),
    ("B", .block (.named "B") [.inclusion (.fragment "A")])]
  have hparse : parseLines raw true = .ok table := by cbv
  have hlike : Spaced ({} : Setting).dialect.likeSuffix := by decide
  have hsql : table.render {} "B" = .ok "SELECT 1" := by cbv
  exact ⟨table, hparse, hlike, hsql, (render_endsWell hparse hlike "B").1 _ hsql⟩

end Table

end SqlTemplate
