import SqlTemplate.Proofs.FirstFault
import SqlTemplate.Proofs.Relayout
import SqlTemplate.Proofs.WellFormed

/-!
# Names that are declared once

Whether a template declares a name twice can be seen without reading it: its `@NAME` lines are there
to be compared. Reading strictly is reading as usual and then that comparison. It is made over the
definitions, each of which is known only when its body has been read, but **the lines that open
definitions are all the `@NAME` lines there are**, since below the root such a line is a fault. So
what a strict reading refuses, where a usual one would not, is the first line that declares a name
of a line above it.
-/

set_option autoImplicit false

namespace SqlTemplate

/-- The line is a `@NAME` line for the name. -/
def Declares (raw : List Char) (name : String) : Prop :=
  Text.trim raw = "@NAME(".toList ++ name.toList ++ [')'] ∧ IsName name

/-- No two of the lines declare the same name. -/
def DeclaredOnce (lines : List (List Char)) : Prop :=
  lines.Pairwise fun x y => ∀ name, Declares x name → ¬ Declares y name

/-- Whether a line starts with the keyword of a definition. -/
def Line.opensDefinition (line : Line) : Bool := BlockTag.ofStart? line.trimmed == some .naming

/-! ## A line that declares a name -/

/-- A form that nothing may follow makes up a text whose keyword is followed by its pieces. -/
theorem Form.full?_eq_some_iff {form : Form} (htrailing : form.trailing = false) {text : List Char}
    {captured : Captures} :
    form.full? text = some captured ↔
      ∃ after, text = form.keyword ++ after ∧
        Piece.readAll? form.pieces after = some (captured, []) := by
  simp only [full?, read?, htrailing, ← Text.dropStart?_eq_some_iff]
  cases Text.dropStart? form.keyword text with
  | none => simp
  | some after =>
    simp only [Option.some.injEq, exists_eq_left']
    cases Piece.readAll? form.pieces after with
    | none => simp
    | some read =>
      obtain ⟨captured', rest⟩ := read
      cases rest <;> simp

theorem BlockTag.readAll?_naming_iff {after rest : List Char} {captured : Captures} :
    Piece.readAll? (BlockTag.form .naming).pieces after = some (captured, rest) ↔
      ∃ w, IsWord w ∧ after = '(' :: w ++ ')' :: rest ∧ captured = [some w] := by
  rw [BlockTag.form, Piece.readAll?_exact_iff]
  simp only [Piece.readAll?_word_iff, Piece.readAll?_close_iff]
  constructor
  · rintro ⟨_, rfl, w, _, _, hw, rfl, -, ⟨rfl, rfl⟩, rfl⟩
    exact ⟨w, hw, rfl, rfl⟩
  · rintro ⟨w, hw, rfl, rfl⟩
    exact ⟨_, rfl, w, _, _, hw, rfl, InlineTag.head?_close (by decide), ⟨rfl, rfl⟩, rfl⟩

theorem BlockTag.readHead?_naming_eq_some_iff {text : List Char} {name : String} :
    BlockTag.readHead? .naming text = some (.named name) ↔
      text = "@NAME(".toList ++ name.toList ++ [')'] ∧ IsName name := by
  have hkeyword : ∀ w : List Char,
      (BlockTag.form .naming).keyword ++ ('(' :: w ++ [')']) = "@NAME(".toList ++ w ++ [')'] :=
    fun _ => rfl
  rw [BlockTag.readHead?, Option.bind_eq_some_iff]
  simp only [Form.full?_eq_some_iff (BlockTag.trailing_form .naming), BlockTag.readAll?_naming_iff]
  constructor
  · rintro ⟨_, ⟨_, rfl, w, hw, rfl, rfl⟩, hhead⟩
    cases hhead
    have hname : (String.ofList w).toList = w := String.toList_ofList
    rw [hkeyword, hname]
    exact ⟨rfl, isName_ofList hw⟩
  · rintro ⟨rfl, hname⟩
    refine ⟨_, ⟨_, (hkeyword name.toList).symm, name.toList, hname, rfl, rfl⟩, ?_⟩
    exact congrArg (fun n => some (Head.named n)) String.ofList_toList

namespace Declares

variable {raw : List Char} {name other : String}

theorem unique (h : Declares raw name) (h' : Declares raw other) : name = other := by
  have hsame := h.1.symm.trans h'.1
  rw [List.append_assoc, List.append_assoc] at hsame
  exact String.toList_inj.mp (List.append_cancel_right (List.append_cancel_left hsame))

theorem opensDefinition {line : Line} (h : Declares line.chars name) :
    line.opensDefinition = true := by
  have htrimmed : line.trimmed = "@NAME(".toList ++ (name.toList ++ [')']) := by
    rw [← List.append_assoc]
    exact h.1
  rw [Line.opensDefinition, htrimmed]
  rfl

theorem not_isComment {line : Line} (h : Declares line.chars name) : line.isComment = false := by
  have htrimmed : line.trimmed = "@NAME(".toList ++ (name.toList ++ [')']) := by
    rw [← List.append_assoc]
    exact h.1
  rw [Line.isComment, htrimmed]
  rfl

/-- The break at the end of a line is no part of what it declares. -/
theorem withoutBreak_iff : Declares (Line.withoutBreak raw) name ↔ Declares raw name := by
  have htrim : Text.trim (Line.withoutBreak raw) = Text.trim raw :=
    @Line.trimmed_withoutBreak 0 raw
  rw [Declares, htrim, Declares]

end Declares

/-! ## The lines of the definitions -/

section Definitions

variable {lines : List Line} {ds : List Definition}

theorem readDefinitions_cons_eq_iff {line : Line} {rest : List Line} :
    readDefinitions (line :: rest) = ⟨ds, none⟩ ↔
      ∃ d others, readDefinition line (line.body rest) = .ok d ∧
        readDefinitions (line.afterBody rest) = ⟨others, none⟩ ∧ ds = d :: others := by
  rw [readDefinitions]
  cases readDefinition line (line.body rest) with
  | error e => simp
  | ok d =>
    obtain ⟨more, fault⟩ := readDefinitions (line.afterBody rest)
    simp [Reading.cons, and_comm, eq_comm]

/-- **The lines that open definitions are those of the definitions**, and each declares its name. -/
theorem filter_opensDefinition (hfull : Outline.NonBlank lines)
    (h : readDefinitions lines = ⟨ds, none⟩) :
    lines.filter Line.opensDefinition = ds.map Definition.line ∧
      ∀ d ∈ ds, Declares d.line.chars d.name := by
  induction lines using definitions_induction generalizing ds with
  | nil =>
    rw [readDefinitions] at h
    cases h
    exact ⟨rfl, by simp⟩
  | cons line rest ih =>
    obtain ⟨d, others, hd, hothers, rfl⟩ := readDefinitions_cons_eq_iff.mp h
    obtain ⟨ht, name, children, hhead, hbody, -, rfl⟩ := Outline.readDefinition_eq_ok_iff.mp hd
    obtain ⟨hafter, hall⟩ := ih hfull.tail.afterBody hothers
    have hopens : line.opensDefinition = true := by rw [Line.opensDefinition, ht]; rfl
    -- below a definition there is no other one
    have hnone : (line.body rest).filter Line.opensDefinition = [] := by
      rw [List.filter_eq_nil_iff]
      intro x hx
      simpa [Line.opensDefinition] using
        ((Outline.readBody_eq_ok_iff hfull.tail.body).mp hbody).1 x hx
    refine ⟨?_, List.forall_mem_cons.mpr ⟨?_, hall⟩⟩
    · rw [List.filter_cons, if_pos hopens, ← line.body_append_afterBody rest, List.filter_append,
        hnone, hafter]
      rfl
    · exact BlockTag.readHead?_naming_eq_some_iff.mp hhead

/-- Lines declare names once exactly when the definitions that they open have different names. -/
theorem declaredOnce_iff_nodup (hlines : lines.filter Line.opensDefinition = ds.map Definition.line)
    (hnames : ∀ d ∈ ds, Declares d.line.chars d.name) :
    DeclaredOnce (lines.map Line.chars) ↔ (ds.map Definition.name).Nodup := by
  -- lines that open no definition declare nothing
  have hfilter : DeclaredOnce (lines.map Line.chars) ↔
      DeclaredOnce ((lines.filter Line.opensDefinition).map Line.chars) := by
    unfold DeclaredOnce
    rw [List.pairwise_map, List.pairwise_map, List.pairwise_filter]
    refine List.Pairwise.iff fun x y => ⟨fun h _ _ => h, fun h name hx hy => ?_⟩
    exact h hx.opensDefinition hy.opensDefinition name hx hy
  rw [hfilter, hlines, DeclaredOnce, List.pairwise_map, List.pairwise_map, List.Nodup,
    List.pairwise_map]
  refine List.Pairwise.iff_of_mem fun {d d'} hd hd' => ⟨fun h hsame => ?_, fun h name hx hy => ?_⟩
  · exact h d.name (hnames d hd) (hsame ▸ hnames d' hd')
  · exact h (((hnames d hd).unique hx).trans ((hnames d' hd').unique hy).symm)

/-- A name is taken by one of the names that come before it, in the list or already taken. -/
theorem firstTaken?_eq_some_iff {taken : List String} {d : Definition} :
    firstTaken? taken ds = some d ↔
      ∃ before after, ds = before ++ d :: after ∧ firstTaken? taken before = none ∧
        (d.name ∈ taken ∨ d.name ∈ before.map Definition.name) := by
  induction ds generalizing taken with
  | nil => simp [firstTaken?]
  | cons first rest ih =>
    rw [firstTaken?]
    by_cases hfirst : taken.contains first.name = true
    · rw [if_pos hfirst]
      constructor
      · intro h
        cases h
        exact ⟨[], rest, rfl, rfl, Or.inl (List.contains_iff_mem.mp hfirst)⟩
      · rintro ⟨before, after, hds, hnone, -⟩
        cases before with
        | nil =>
          cases hds
          rfl
        | cons x before =>
          cases hds
          rw [firstTaken?, if_pos hfirst] at hnone
          cases hnone
    · rw [if_neg hfirst, ih]
      constructor
      · rintro ⟨before, after, rfl, hnone, hname⟩
        refine ⟨first :: before, after, rfl, ?_, ?_⟩
        · rwa [firstTaken?, if_neg hfirst]
        · simpa [or_assoc, or_comm, or_left_comm] using hname
      · rintro ⟨before, after, hds, hnone, hname⟩
        cases before with
        | nil =>
          cases hds
          exact absurd (by simpa using hname) hfirst
        | cons x before =>
          cases hds
          rw [firstTaken?, if_neg hfirst] at hnone
          refine ⟨before, after, rfl, hnone, ?_⟩
          simpa [or_assoc, or_comm, or_left_comm] using hname

end Definitions

/-! ## The lines of a file -/

section File

variable {raw : List String}

theorem Line.map_chars_enumerate (start : Nat) (raw : List (List Char)) :
    (enumerate start raw).map chars = raw := by
  induction raw generalizing start with
  | nil => rfl
  | cons r rest ih => rw [enumerate, List.map_cons, ih]

/-- Comments and blank lines declare nothing, and line breaks decide nothing. -/
theorem declaredOnce_significantLines_iff :
    DeclaredOnce ((significantLines raw).map Line.chars) ↔
      DeclaredOnce (raw.map String.toList) := by
  have hnumbered : DeclaredOnce ((Line.numbered (raw.map String.toList)).map Line.chars) ↔
      DeclaredOnce (raw.map String.toList) := by
    unfold DeclaredOnce Line.numbered
    rw [Line.map_chars_enumerate, List.pairwise_map]
    refine List.Pairwise.iff fun x y => ?_
    show (∀ name, Declares (Line.withoutBreak x) name → ¬ Declares (Line.withoutBreak y) name) ↔ _
    simp only [Declares.withoutBreak_iff]
  rw [← hnumbered, significantLines, Line.significant]
  unfold DeclaredOnce
  rw [List.pairwise_map, List.pairwise_map, List.pairwise_filter]
  refine List.Pairwise.iff fun x y => ⟨fun h name hx hy => ?_, fun h _ _ => h⟩
  exact h (by simp [hx.not_isComment]) (by simp [hy.not_isComment]) name hx hy

theorem exists_declares_of_mem_significantLines {line : Line} {name : String}
    (hline : line ∈ significantLines raw) (h : Declares line.chars name) :
    ∃ x ∈ raw, Declares x.toList name := by
  obtain ⟨x, hx, hchars⟩ := List.mem_map.mp (Line.mem_enumerate (List.mem_filter.mp hline).1)
  obtain ⟨text, htext, rfl⟩ := List.mem_map.mp hx
  rw [← hchars] at h
  exact ⟨text, htext, Declares.withoutBreak_iff.mp h⟩

/-- The definitions that a file is read as have different names when its lines declare none
twice. -/
theorem nodup_names_iff {ds : List Definition}
    (h : readDefinitions (significantLines raw) = ⟨ds, none⟩) :
    (ds.map Definition.name).Nodup ↔ DeclaredOnce (raw.map String.toList) := by
  have hfull : Outline.NonBlank (significantLines raw) := Line.nonBlank_significant _
  obtain ⟨hlines, hnames⟩ := filter_opensDefinition hfull h
  rw [← declaredOnce_significantLines_iff, declaredOnce_iff_nodup hlines hnames]

/-- The first definition with a name taken is on a line that declares the name of a line above it,
and no line above it does so. -/
theorem exists_line_of_firstTaken? {ds : List Definition} {d : Definition}
    (h : readDefinitions (significantLines raw) = ⟨ds, none⟩) (hd : firstTaken? [] ds = some d) :
    ∃ above r below, raw = above ++ r :: below ∧ d.line = Line.ofRaw (above.length + 1) r ∧
      DeclaredOnce (above.map String.toList) ∧ Declares r.toList d.name ∧
      ∃ x ∈ above, Declares x.toList d.name := by
  have hfull : Outline.NonBlank (significantLines raw) := Line.nonBlank_significant _
  obtain ⟨hlines, hnames⟩ := filter_opensDefinition hfull h
  obtain ⟨earlier, later, rfl, hnone, hname⟩ := firstTaken?_eq_some_iff.mp hd
  obtain ⟨hunique, -⟩ := firstTaken?_eq_none_iff.mp hnone
  obtain ⟨d', hd', hsame⟩ := List.mem_map.mp (hname.resolve_left List.not_mem_nil)
  -- the lines up to that of the definition, first those that say something, then all of the file
  rw [List.map_append, List.map_cons, List.filter_eq_append_iff] at hlines
  obtain ⟨before, rest, hparts, hbefore, hrest⟩ := hlines
  obtain ⟨between, after, rfl, hbetween, -, -⟩ := List.filter_eq_cons_iff.mp hrest
  rw [← List.append_assoc] at hparts
  obtain ⟨above, r, below, rfl, habove, hline, -⟩ := significantLines_eq_append_cons hparts
  have hfilter : (significantLines above).filter Line.opensDefinition =
      earlier.map Definition.line := by
    have hnothing : between.filter Line.opensDefinition = [] := List.filter_eq_nil_iff.mpr hbetween
    rw [habove, List.filter_append, hbefore, hnothing, List.append_nil]
  have hdeclares : ∀ x ∈ earlier ++ d :: later, Declares x.line.chars x.name := hnames
  refine ⟨above, r, below, rfl, hline, ?_, ?_, ?_⟩
  · rw [← declaredOnce_significantLines_iff, declaredOnce_iff_nodup hfilter fun x hx =>
      hdeclares x (List.mem_append_left _ hx)]
    exact hunique
  · have hown := hdeclares d (by simp)
    rw [hline] at hown
    exact Declares.withoutBreak_iff.mp hown
  · have hmem : d'.line ∈ (significantLines above).filter Line.opensDefinition := by
      rw [hfilter]
      exact List.mem_map_of_mem hd'
    refine exists_declares_of_mem_significantLines (List.mem_filter.mp hmem).1 ?_
    exact hsame ▸ hdeclares d' (List.mem_append_left _ hd')

/-- **Reading strictly is reading and comparing the declared names.** A strict reading gives the
table of a usual one when no two lines declare the same name, and is refused otherwise: at the first
line that declares a name which a line above it declares. -/
theorem parseLines_strict_eq_ok_iff (raw : List String) :
    (∀ table, parseLines raw true = .ok table ↔
      parseLines raw false = .ok table ∧ DeclaredOnce (raw.map String.toList)) ∧
    (∀ table, parseLines raw false = .ok table → ¬ DeclaredOnce (raw.map String.toList) →
      ∃ above r below name, raw = above ++ r :: below ∧ DeclaredOnce (above.map String.toList) ∧
        Declares r.toList name ∧ (∃ x ∈ above, Declares x.toList name) ∧
        parseLines raw true = .error ⟨.duplicateName name, Line.ofRaw (above.length + 1) r⟩ ∧
        (FormatProblem.duplicateName name).detail = "Duplicate @NAME(" ++ name ++ ")") := by
  constructor
  · intro table
    rw [parseLines_eq_ok_iff_of_strict, parseLines_eq_ok_iff]
    constructor
    · rintro ⟨htabs, _, ⟨ds, hds, rfl⟩, hunique, rfl⟩
      rw [keys_definitions, nodup_names_iff hds] at hunique
      exact ⟨⟨htabs, _, ⟨ds, hds, rfl⟩, rfl⟩, hunique rfl⟩
    · rintro ⟨⟨htabs, _, ⟨ds, hds, rfl⟩, rfl⟩, honce⟩
      rw [← nodup_names_iff hds, ← keys_definitions] at honce
      exact ⟨htabs, _, ⟨ds, hds, rfl⟩, fun _ => honce, rfl⟩
  · intro table hparse hrepeated
    obtain ⟨htabs, _, ⟨ds, hds, rfl⟩, -⟩ := parseLines_eq_ok_iff.mp hparse
    rw [← nodup_names_iff hds] at hrepeated
    obtain ⟨d, hd⟩ : ∃ d, firstTaken? [] ds = some d := by
      rw [← Option.ne_none_iff_exists', Ne, firstTaken?_eq_none_iff]
      exact fun h => hrepeated h.1
    obtain ⟨above, r, below, hraw, hline, honce, hdeclares, hearlier⟩ :=
      exists_line_of_firstTaken? hds hd
    refine ⟨above, r, below, d.name, hraw, honce, hdeclares, hearlier, ?_, rfl⟩
    rw [parseLines_eq_of_no_tab htabs, hds, Reading.table, if_pos rfl, hd, ← hline]

/-- Both names are declared again, and a comment declares nothing: the sixth line is refused. -/
theorem parseLines_strict_eq_ok_iff_repeated :
    let once := ["@NAME(A)", "  old", "-- @NAME(B)", "@NAME(B)", "  one"]
    let raw := once ++ ["@NAME(A) ", "  new", "@NAME(B)", "  two"]
    (∃ table, parseLines once false = .ok table ∧ parseLines once true = .ok table) ∧
    DeclaredOnce (once.map String.toList) ∧
    (∃ table, parseLines raw false = .ok table) ∧ ¬ DeclaredOnce (raw.map String.toList) ∧
    parseLines raw true = .error ⟨.duplicateName "A", Line.ofRaw 6 "@NAME(A) "⟩ ∧
    ∃ above r below name, raw = above ++ r :: below ∧ DeclaredOnce (above.map String.toList) ∧
      Declares r.toList name ∧ (∃ x ∈ above, Declares x.toList name) ∧
      parseLines raw true = .error ⟨.duplicateName name, Line.ofRaw (above.length + 1) r⟩ := by
  intro once raw
  obtain ⟨table, htable⟩ : ∃ table, parseLines once true = .ok table := ⟨_, by cbv⟩
  obtain ⟨other, hother⟩ : ∃ table, parseLines raw false = .ok table := ⟨_, by cbv⟩
  obtain ⟨hfalse, honce⟩ := ((parseLines_strict_eq_ok_iff once).1 table).mp htable
  have hrepeated : ¬ DeclaredOnce (raw.map String.toList) := by
    intro h
    rw [DeclaredOnce, List.map_append, List.pairwise_append] at h
    exact h.2.2 "@NAME(A)".toList (by simp [once]) "@NAME(A) ".toList (by simp) "A"
      ⟨by decide, by decide⟩ ⟨by decide, by decide⟩
  obtain ⟨above, r, below, name, hraw, habove, hdeclares, hearlier, herror, -⟩ :=
    (parseLines_strict_eq_ok_iff raw).2 other hother hrepeated
  exact ⟨⟨table, hfalse, htable⟩, honce, ⟨other, hother⟩, hrepeated, by cbv,
    above, r, below, name, hraw, habove, hdeclares, hearlier, herror⟩

end File

end SqlTemplate
