import SqlTemplate.Proofs.FaultOrigin
import SqlTemplate.Proofs.ReadTrees
import SqlTemplate.Proofs.WrittenTags

/-!
# The trees that are read

Trees can be built by hand, and then they may hold anything: a name in the middle, a block with
nothing in it, a bare node. A tree that was read from lines is of a much narrower sort. Its names
are words, its texts begin with something and hold no tab, a comparison has exactly its text below
it, **and every node of it can be rendered**.

The last is what rendering relies on without asking. Of the faults that a rendering can end in, one
says that a node stands for nothing, and no table that parsing gives can come to it.
-/

set_option autoImplicit false

namespace SqlTemplate

/-- The string is a word. -/
def IsName (s : String) : Prop := IsWord s.toList

instance : DecidablePred IsName := fun s => inferInstanceAs (Decidable (IsWord s.toList))

/-- The text begins with what is not blank, and holds no tab. -/
def IsText (cs : List Char) : Prop :=
  (∃ first more, cs = first :: more ∧ Text.isBlank first = false) ∧ '\t' ∉ cs

/-- The head of a block is one that can be written below a definition, and its names are words. -/
def Head.WellFormed : Head → Prop
  | .named _ => False
  | .group => False
  | .filter => True
  | .test kind condition =>
    kind ≠ .plain ∧ IsName condition.name ∧ ∀ value ∈ condition.value, IsName value
  | .like name => IsName name
  | .paging offset fetch => IsName offset ∧ IsName fetch

/-- The node is one that can be read below a definition. -/
def Fragment.WellFormed : Fragment → Prop
  | .text sql => IsText sql.toList
  | .block head children => head.WellFormed ∧ children ≠ [] ∧
    ∀ name, head = .like name → ∃ sql, children = [.text sql] ∧ sql.toList.getLast? = some ' ' ∧
      FirstVariable sql.toList name.toList
  | .inclusion (.fragment name) => IsName name
  | .inclusion (.value name) => IsName name
  | .offsetFetch offset fetch rows =>
    (∃ o n, offset = some o ∧ fetch = some n ∧ rows = none ∧ IsName o ∧ IsName n) ∨
    (∃ n, offset = none ∧ fetch = some n ∧ rows = none ∧ IsName n) ∨
    ∃ count : Nat, offset = none ∧ fetch = none ∧ rows = some (count : Int)
  | .bare => False

/-- Every name of the table has the tree of a definition of that name, which has children, and all
nodes below it are well formed. -/
def Table.WellFormed (table : Table) : Prop :=
  ∀ name tree, (name, tree) ∈ table → IsName name ∧ ∃ children, tree = .block (.named name) children ∧
    children ≠ [] ∧ ∀ f ∈ Fragment.nodesOfAll children, f.WellFormed

/-! ## Heads -/

theorem isName_ofList {w : List Char} (h : IsWord w) : IsName (String.ofList w) := by
  rwa [IsName, String.toList_ofList]

theorem Condition.isName_ofCaptures {kind : TestKind} (hkind : kind ≠ .plain) {w : List Char}
    (hw : IsWord w) {value : Option (List Char)} (hvalue : ∀ v ∈ value, IsWord (matchValueText v)) :
    (Head.test kind (.ofCaptures (':' :: w) value)).WellFormed := by
  refine ⟨hkind, isName_ofList hw, ?_⟩
  intro v hv
  obtain ⟨written, hwritten, rfl⟩ := Option.map_eq_some_iff.mp hv
  exact isName_ofList (hvalue written hwritten)

namespace BlockTag

theorem trailing_form (tag : BlockTag) : tag.form.trailing = false := by
  cases tag <;> rfl

/-- The captures of a condition: its variable, and possibly its match value. -/
theorem captures_of_condition {keyword : List Char} {captured : Captures}
    (h : Piece.AllCaptured (Form.condition keyword).pieces captured) :
    ∃ w value, IsWord w ∧ (∀ v ∈ value, IsWord (matchValueText v)) ∧
      captured = [some (':' :: w), value] := by
  simp only [Form.condition, Piece.AllCaptured, Piece.Captured] at h
  obtain ⟨_, _, rfl, ⟨_, _, ⟨w, hw, rfl⟩, ⟨_, _, hvalue, ⟨_, _, rfl, rfl, rfl⟩, rfl⟩, rfl⟩, rfl⟩ := h
  rcases hvalue with rfl | ⟨v, hv, rfl⟩
  · exact ⟨w, none, hw, by simp, rfl⟩
  · exact ⟨w, some v, hw, by simpa using hv, rfl⟩

theorem captures_of_twoVariables {keyword : List Char} {trailing : Bool} {captured : Captures}
    (h : Piece.AllCaptured (Form.twoVariables keyword trailing).pieces captured) :
    ∃ a b, IsWord a ∧ IsWord b ∧ captured = [some a, some b] := by
  simp only [Form.twoVariables, Piece.AllCaptured, Piece.Captured] at h
  obtain ⟨_, _, rfl, ⟨_, _, ⟨a, ha, rfl⟩, ⟨_, _, rfl, ⟨_, _, rfl,
    ⟨_, _, ⟨b, hb, rfl⟩, ⟨_, _, rfl, rfl, rfl⟩, rfl⟩, rfl⟩, rfl⟩, rfl⟩, rfl⟩ := h
  exact ⟨a, b, ha, hb, rfl⟩

theorem isName_of_readHead?_naming {text : List Char} {name : String}
    (h : readHead? .naming text = some (.named name)) : IsName name := by
  obtain ⟨captured, hfull, hhead⟩ := Option.bind_eq_some_iff.mp h
  have hall := Form.allCaptured_of_full? (trailing_form .naming) hfull
  simp only [form, Piece.AllCaptured, Piece.Captured] at hall
  obtain ⟨_, _, rfl, ⟨_, _, ⟨w, hw, rfl⟩, ⟨_, _, rfl, rfl, rfl⟩, rfl⟩, rfl⟩ := hall
  cases hhead
  exact isName_ofList hw

theorem wellFormed_of_readHead? {tag : BlockTag} (hn : tag ≠ .naming) {text : List Char}
    {head : Head} (h : tag.readHead? text = some head) :
    head.WellFormed ∧ ∀ name, head ≠ .like name := by
  obtain ⟨captured, hfull, hhead⟩ := Option.bind_eq_some_iff.mp h
  have hall := Form.allCaptured_of_full? tag.trailing_form hfull
  cases tag with
  | naming => exact absurd rfl hn
  | filter =>
    cases hall
    cases hhead
    exact ⟨trivial, by simp⟩
  | paging =>
    obtain ⟨a, b, ha, hb, rfl⟩ := captures_of_twoVariables hall
    cases hhead
    exact ⟨⟨isName_ofList ha, isName_ofList hb⟩, by simp⟩
  | conjunct | disjunct | guard =>
    obtain ⟨w, value, hw, hvalue, rfl⟩ := captures_of_condition hall
    cases hhead
    exact ⟨Condition.isName_ofCaptures (by simp) hw hvalue, by simp⟩

end BlockTag

/-! ## The variable of a comparison -/

namespace FirstVariable

theorem of_blank_append {gap text v : List Char} (hgap : ∀ c ∈ gap, Text.isBlank c = true)
    (h : FirstVariable (gap ++ text) v) : FirstVariable text v := by
  induction gap with
  | nil => exact h
  | cons c gap ih =>
    obtain ⟨hc, hgap⟩ := List.forall_mem_cons.mp hgap
    generalize hwhole : c :: gap ++ text = whole at h
    cases h with
    | here =>
      obtain ⟨rfl, -⟩ := List.cons.inj hwhole
      exact absurd hc (by decide)
    | later _ h =>
      obtain ⟨-, rfl⟩ := List.cons.inj hwhole
      exact ih hgap h

theorem not_of_blank {gap v : List Char} (hgap : ∀ c ∈ gap, Text.isBlank c = true) :
    ¬ FirstVariable gap v := by
  intro h
  have hgap' : FirstVariable (gap ++ []) v := by rwa [List.append_nil]
  cases of_blank_append hgap hgap'

theorem head?_append_blank {gap gap' text : List Char}
    (hgap' : ∀ c ∈ gap', Text.isBlank c = true)
    (h : ∀ c ∈ (text ++ gap).head?, isWordChar c = false) :
    ∀ c ∈ (text ++ gap').head?, isWordChar c = false := by
  intro c hc
  cases text with
  | nil =>
    have hblank := hgap' c (List.mem_of_mem_head? hc)
    cases hword : isWordChar c with
    | false => rfl
    | true =>
      rw [not_isBlank_of_isWordChar hword] at hblank
      cases hblank
  | cons d text => exact h c hc

theorem append_blank {gap gap' text v : List Char} (hgap : ∀ c ∈ gap, Text.isBlank c = true)
    (hgap' : ∀ c ∈ gap', Text.isBlank c = true) (h : FirstVariable (text ++ gap) v) :
    FirstVariable (text ++ gap') v := by
  induction text with
  | nil => exact absurd h (not_of_blank hgap)
  | cons c text ih =>
    generalize hwhole : c :: text ++ gap = whole at h
    cases h with
    | @here _ after hv hafter =>
      obtain ⟨rfl, htail⟩ := List.cons.inj hwhole
      -- a word that went on into the blanks would have a blank in it
      obtain ⟨inner, rfl, rfl⟩ : ∃ inner, text = v ++ inner ∧ after = inner ++ gap := by
        rcases List.append_eq_append_iff.mp htail with ⟨more, rfl, hgapEq⟩ | ⟨inner, htext, hafterEq⟩
        · cases more with
          | nil => exact ⟨[], by simp, by simpa using hgapEq.symm⟩
          | cons d more =>
            have hblank := hgap d (by simp [hgapEq])
            rw [hv.not_blank (by simp)] at hblank
            cases hblank
        · exact ⟨inner, htext, hafterEq⟩
      rw [List.cons_append, List.append_assoc]
      exact .here hv (head?_append_blank hgap' hafter)
    | later hnone h =>
      obtain ⟨rfl, rfl⟩ := List.cons.inj hwhole
      exact .later (fun hcolon => head?_append_blank hgap' (hnone hcolon)) (ih h)

/-- A text has the first variable of what it is trimmed from. -/
theorem lineText {body v : List Char} (h : FirstVariable body v) :
    FirstVariable (Text.trim body ++ [' ']) v := by
  obtain ⟨before, after, hbody, hbefore, hafter⟩ := Text.exists_eq_append_trim_append body
  rw [hbody, List.append_assoc] at h
  exact append_blank hafter (by simp; decide) (of_blank_append hbefore h)

end FirstVariable

/-! ## Texts -/

theorem trim_subset (cs : List Char) : Text.trim cs ⊆ cs := by
  intro c hc
  obtain ⟨before, after, hcs, -⟩ := Text.exists_eq_append_trim_append cs
  rw [hcs]
  simp [hc]

theorem isText_of_append {first : Char} {more rest cs : List Char} (htab : '\t' ∉ Text.trim cs)
    (h : Text.trim cs = first :: more ++ rest) : IsText (first :: more) := by
  refine ⟨⟨first, more, rfl, ?_⟩, fun hmem => htab ?_⟩
  · exact Text.head?_trim_not cs first (by rw [h]; rfl)
  · rw [h]
    exact List.mem_append_left _ hmem

theorem toList_lineText {cs : List Char} (h : Text.trim cs ≠ []) :
    (Fragment.lineText cs).toList = Text.trim cs ++ [' '] := by
  unfold Fragment.lineText
  split
  · next hnil => exact absurd hnil h
  · exact String.toList_ofList

theorem isText_lineText {cs : List Char} (htab : '\t' ∉ cs) (h : Text.trim cs ≠ []) :
    IsText (Fragment.lineText cs).toList := by
  have htrim : '\t' ∉ Text.trim cs := fun hmem => htab (trim_subset cs hmem)
  obtain ⟨first, more, hcons⟩ := List.exists_cons_of_ne_nil h
  have happend : Text.trim cs = first :: more ++ [] := by rw [List.append_nil, hcons]
  obtain ⟨⟨_, _, heq, hfirst⟩, hnone⟩ := isText_of_append htrim happend
  cases heq
  rw [toList_lineText h, hcons]
  refine ⟨⟨first, more ++ [' '], rfl, hfirst⟩, ?_⟩
  simpa using hnone

/-! ## Inline tags -/

namespace InlineTag

/-- A comparison of a body whose first variable it is about is well-formed, and so is its text. -/
theorem wellFormed_like {body name : List Char} (htab : '\t' ∉ body)
    (hfirst : FirstVariable body name) :
    ∀ g ∈ (Fragment.block (.like (String.ofList name)) [.text (Fragment.lineText body)]).nodes,
      g.WellFormed := by
  have hfull : Text.trim body ≠ [] := by
    intro hnil
    have hline := hfirst.lineText
    rw [hnil] at hline
    exact FirstVariable.not_of_blank (by simp; decide) hline
  intro g hg
  simp only [Fragment.nodes, Fragment.nodesOfAll, List.append_nil, List.mem_cons,
    List.not_mem_nil, or_false] at hg
  rcases hg with rfl | rfl
  · refine ⟨isName_ofList hfirst.isWord, by simp, ?_⟩
    intro other hother
    cases hother
    refine ⟨_, rfl, ?_, ?_⟩
    · rw [toList_lineText hfull, List.getLast?_concat]
    · rw [toList_lineText hfull, String.toList_ofList]
      exact hfirst.lineText
  · exact isText_lineText htab hfull

/-- What a tag makes is well-formed, if there is no tab in the body of a comparison. -/
theorem Written.wellFormed {tag : InlineTag} {args rest : List Char} {f : Fragment}
    (htab : '\t' ∉ args) (h : tag.Written args rest f) : ∀ g ∈ f.nodes, g.WellFormed := by
  cases h with
  | closedLike _ hname =>
    exact wellFormed_like (fun hmem => htab (List.mem_append_left _ hmem)) hname
  | openLike _ hname => exact wellFormed_like htab hname
  | fragment hname | value hname =>
    intro g hg
    obtain rfl := List.mem_singleton.mp hg
    exact isName_ofList hname
  | offsetFetch hoffset hlimit =>
    intro g hg
    obtain rfl := List.mem_singleton.mp hg
    exact Or.inl ⟨_, _, rfl, rfl, rfl, isName_ofList hoffset, isName_ofList hlimit⟩
  | bareOffsetFetch =>
    intro g hg
    obtain rfl := List.mem_singleton.mp hg
    exact Or.inl ⟨_, _, rfl, rfl, rfl, by decide, by decide⟩
  | fetch hlimit =>
    intro g hg
    obtain rfl := List.mem_singleton.mp hg
    exact Or.inr (Or.inl ⟨_, rfl, rfl, rfl, isName_ofList hlimit⟩)
  | rows =>
    intro g hg
    obtain rfl := List.mem_singleton.mp hg
    exact Or.inr (Or.inr ⟨_, rfl, rfl, rfl⟩)
  | bareFetch =>
    intro g hg
    obtain rfl := List.mem_singleton.mp hg
    exact Or.inr (Or.inl ⟨_, rfl, rfl, rfl, by decide⟩)

theorem wellFormed_of_read? {tag : InlineTag} {after rest : List Char} {f : Fragment}
    (htab : '\t' ∉ after) (h : tag.read? after = some (f, rest)) :
    ∀ g ∈ f.nodes, g.WellFormed := by
  obtain ⟨args, rfl, hwritten⟩ := read?_eq_some_iff.mp h
  exact hwritten.wellFormed fun hmem => htab (List.mem_append_left _ hmem)

end InlineTag

/-! ## Lines and tables -/

theorem Fragment.nodesOfAll_append (xs ys : List Fragment) :
    nodesOfAll (xs ++ ys) = nodesOfAll xs ++ nodesOfAll ys := by
  simp only [nodesOfAll_eq_flatMap, List.flatMap_append]

/-- All nodes of the trees are well formed. -/
def AllWellFormed (fs : List Fragment) : Prop :=
  ∀ f ∈ Fragment.nodesOfAll fs, f.WellFormed

theorem AllWellFormed.append {xs ys : List Fragment} (hx : AllWellFormed xs)
    (hy : AllWellFormed ys) : AllWellFormed (xs ++ ys) := by
  intro f hf
  rw [Fragment.nodesOfAll_append] at hf
  rcases List.mem_append.mp hf with hf | hf
  · exact hx f hf
  · exact hy f hf

theorem Line.content_wellFormed {line : Line} {fs : List Fragment} (htab : '\t' ∉ line.trimmed)
    (h : line.content = .ok fs) : AllWellFormed fs := by
  induction line using content_induction generalizing fs with
  | blank line hnil =>
    rw [content_blank hnil] at h
    cases h
    intro f hf
    cases hf
  | untagged line hne hs =>
    rw [content_untagged hne hs] at h
    split at h <;> cases h
    have htrim : Text.trim line.trimmed = line.trimmed :=
      Text.trim_eq_self (Text.head?_trim_not _) (Text.getLast?_trim_not _)
    intro f hf
    obtain rfl : f = .text (Fragment.lineText line.trimmed) := by
      simpa [Fragment.nodesOfAll, Fragment.nodes] using hf
    exact isText_lineText htab (by rwa [htrim])
  | unread line before tag after hs hr =>
    rw [content_unread hs hr] at h
    cases h
  | tagged line before tag after fragment rest hs hr ih =>
    rw [content_tagged hs hr] at h
    obtain ⟨more, hmore, rfl⟩ := Outcome.map_eq_ok_iff.mp h
    have htrimmed := InlineTag.eq_of_splitFirst? hs
    have hafter : '\t' ∉ after := by
      intro hmem
      rw [htrimmed] at htab
      exact htab (List.mem_append_right _ hmem)
    have hrest : '\t' ∉ (line.withChars rest).trimmed := fun hmem =>
      hafter ((InlineTag.read?_suffix hr).subset (trim_subset rest hmem))
    have htag : AllWellFormed (fragment :: more) := by
      intro f hf
      rw [Fragment.nodesOfAll] at hf
      rcases List.mem_append.mp hf with hf | hf
      · exact InlineTag.wellFormed_of_read? hafter hr f hf
      · exact ih hrest hmore f hf
    refine AllWellFormed.append ?_ htag
    cases before with
    | nil =>
      intro f hf
      cases hf
    | cons first before =>
      intro f hf
      obtain rfl : f = .text (String.ofList (first :: before)) := by
        simpa [leadingText, Fragment.nodesOfAll, Fragment.nodes] using hf
      rw [List.append_assoc] at htrimmed
      show IsText (String.ofList (first :: before)).toList
      rw [String.toList_ofList]
      exact isText_of_append htab htrimmed

theorem Line.no_tab_of_mem_significantLines {raw : List String}
    (htabs : ∀ r ∈ raw, '\t' ∉ r.toList) : ∀ line ∈ significantLines raw, '\t' ∉ line.trimmed := by
  intro line hline hmem
  obtain ⟨chars, hchars, heq⟩ := List.mem_map.mp (mem_enumerate (List.mem_filter.mp hline).1)
  obtain ⟨r, hr, rfl⟩ := List.mem_map.mp hchars
  have htab : '\t' ∈ line.chars := trim_subset _ hmem
  rw [← heq] at htab
  exact htabs r hr (mem_of_mem_dropTrailing htab)

/-- Well-formed nodes are what reading passes on, where no line has a tab. -/
theorem wellFormed_inherited {lines : List Line} (htabs : ∀ line ∈ lines, '\t' ∉ line.trimmed) :
    Inherited lines AllWellFormed where
  nil := by
    intro f hf
    cases hf
  append := AllWellFormed.append
  content line hline _ hfs := Line.content_wellFormed (htabs line hline) hfs
  block line _ tag head children hn hhead hne hchildren := by
    obtain ⟨hwell, hlike⟩ := BlockTag.wellFormed_of_readHead? hn hhead
    intro f hf
    rw [Fragment.nodesOfAll, Fragment.nodesOfAll, List.append_nil, Fragment.nodes] at hf
    rcases List.mem_cons.mp hf with rfl | hf
    · exact ⟨hwell, hne, fun name hname => absurd hname (hlike name)⟩
    · exact hchildren f hf

theorem Table.WellFormed.not_holds_bare {table : Table} (h : table.WellFormed) (root : String) :
    ¬ table.Holds root .bare := by
  intro hholds
  obtain ⟨name, tree, -, htree, hbare⟩ := hholds
  obtain ⟨-, children, rfl, -, hwell⟩ := h name tree (Entries.mem_of_find? htree)
  rcases List.mem_cons.mp hbare with heq | hbare
  · cases heq
  · exact hwell _ hbare

/-- **Every tree that is read is well formed.** So no rendering of a table that parsing gives comes
to a node that cannot be rendered. -/
theorem parseLines_wellFormed {raw : List String} {strict : Bool} {table : Table}
    (h : parseLines raw strict = .ok table) :
    table.WellFormed ∧ ∀ (s : Setting) (name : String), table.render s name ≠ .error .bareNode := by
  obtain ⟨htabs, -⟩ := parseLines_eq_ok_iff_of_strict.mp h
  have hwell : table.WellFormed := by
    intro name tree hentry
    have hdefined := (wellFormed_inherited (Line.no_tab_of_mem_significantLines htabs)).parseLines h
      _ hentry
    obtain ⟨line, -, hhead⟩ := hdefined.exists_line
    obtain ⟨children, htree, hne, hchildren⟩ := hdefined.exists_children
    exact ⟨BlockTag.isName_of_readHead?_naming hhead, children, htree, hne, hchildren⟩
  refine ⟨hwell, fun s name hbare => ?_⟩
  exact hwell.not_holds_bare name (Table.render_bareNode hbare)

/-- Several tags on one line, a comparison with blanks around its body and a second variable in it,
and a match value with spaces. -/
theorem parseLines_wellFormed_search :
    ∃ table, parseLines ["@NAME(Search)", "  SELECT a@INCLUDE(:cols)@OFFSETFETCH(:o , :f) --",
        "  @WHERE", "    @AND(:kind = open)", "      b @LIKE  :x || :y  @ENDLIKE @FETCH(20)"] true =
        .ok table ∧
      table.WellFormed ∧
      ∀ (s : Setting) (name : String), table.render s name ≠ .error .bareNode := by
  have hparse : parseLines ["@NAME(Search)", "  SELECT a@INCLUDE(:cols)@OFFSETFETCH(:o , :f) --",
      "  @WHERE", "    @AND(:kind = open)", "      b @LIKE  :x || :y  @ENDLIKE @FETCH(20)"] true =
      .ok [("Search", .block (.named "Search") [.text "SELECT a", .inclusion (.value "cols"),
        .offsetFetch (some "o") (some "f") none, .text "-- ",
        .block .filter [.block (.test .conjunct ⟨"kind", some "open"⟩) [.text "b ",
          .block (.like "x") [.text ":x || :y "], .offsetFetch none none (some 20)]]])] := by
    cbv
  exact ⟨_, hparse, parseLines_wellFormed hparse⟩

end SqlTemplate
