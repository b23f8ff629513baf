import SqlTemplate.Proofs.OpenBlocks
import SqlTemplate.Proofs.QueryCuts
import SqlTemplate.Render

/-!
# The rows of a page

A dialect without a paging clause numbers the rows of a query, from one, and keeps those whose
number is within bounds that it prints. The offset counts the rows before the page, so the first
row is one more; the second bound is the first row that is too far. **The bounds admit the rows that
the offset and the number of rows ask for, and no others**, whatever integers these are: the page
that begins where another ends has no row in common with it and leaves none out.

That is so for a query that is cut where it was put together. `QueryParts.Written` says when that
is: its parts have no white space around them, and none of them, not even together with a mark
beside it, brings in a ` FROM ` that is earlier or an ` ORDER BY ` that is later.
-/

set_option autoImplicit false

namespace SqlTemplate

/-! ## Texts without white space around them -/

namespace Text

variable {word cs : List Char}

/-- A text that is not empty and neither begins nor ends with a blank. -/
structure Neat (cs : List Char) : Prop where
  ne_nil : cs ≠ []
  head : ∀ c ∈ cs.head?, isBlank c = false
  last : ∀ c ∈ cs.getLast?, isBlank c = false

theorem Neat.trim (h : Neat cs) : Text.trim cs = cs := trim_eq_self h.head h.last

/-- A word put before it keeps it so. -/
theorem Neat.after (h : Neat cs) (hne : word ≠ [])
    (hword : ∀ c ∈ word.head?, isBlank c = false) : Neat (word ++ cs) where
  ne_nil := List.append_ne_nil_of_left_ne_nil hne cs
  head := by rwa [List.head?_append_of_ne_nil _ hne]
  last := by rw [List.getLast?_append_of_ne_nil _ h.ne_nil]; exact h.last

theorem Neat.lineText (h : Neat cs) : Fragment.lineText cs = String.ofList (cs ++ [' ']) := by
  unfold Fragment.lineText
  rw [h.trim]
  cases cs with
  | nil => exact absurd rfl h.ne_nil
  | cons c cs => rfl

/-- Words that are followed by a space and have none in them can be told apart from what follows. -/
theorem append_space_inj {xs ys after after' : List Char} (hx : ' ' ∉ xs) (hy : ' ' ∉ ys)
    (h : xs ++ ' ' :: after = ys ++ ' ' :: after') : xs = ys ∧ after = after' := by
  rcases List.append_eq_append_iff.mp h with ⟨more, rfl, hmore⟩ | ⟨more, rfl, hmore⟩
  · cases more with
    | nil => exact ⟨(List.append_nil _).symm, (List.cons.inj hmore).2⟩
    | cons c more =>
      rw [← (List.cons.inj hmore).1] at hy
      exact absurd (by simp) hy
  · cases more with
    | nil => exact ⟨List.append_nil _, (List.cons.inj hmore).2.symm⟩
    | cons c more =>
      rw [← (List.cons.inj hmore).1] at hx
      exact absurd (by simp) hx

end Text

namespace Dialect

variable {offset fetch : Option Int} {row : Int}

/-! ## Bounds -/

/-- Bounds for the number of a row, as they are printed. -/
structure RowBounds where
  /-- The number of the first row. -/
  first : Int
  /-- The number of the first row that is too far, if there is one. -/
  stop : Option Int
  deriving DecidableEq

/-- The bounds as a condition on the number of a row. -/
def RowBounds.text (bounds : RowBounds) : String :=
  "ROW_NUM >= " ++ toString bounds.first ++
    match bounds.stop with
    | some stop => " AND ROW_NUM < " ++ toString stop
    | none => ""

/-- Whether the number of a row satisfies the condition. -/
def RowBounds.Admits (bounds : RowBounds) (row : Int) : Prop :=
  bounds.first ≤ row ∧ ∀ stop ∈ bounds.stop, row < stop

/-- Whether a row is on a page: behind the offset, and among the rows asked for after it. -/
def OnPage (offset fetch : Option Int) (row : Int) : Prop :=
  offset.getD 0 < row ∧ ∀ n ∈ fetch, row ≤ offset.getD 0 + n

/-- The bounds of a page. -/
def RowBounds.ofPage (offset fetch : Option Int) : RowBounds :=
  ⟨offset.getD 0 + 1, fetch.map fun n => offset.getD 0 + 1 + n⟩

/-- **The bounds of a page admit its rows.** -/
theorem RowBounds.admits_ofPage_iff :
    (RowBounds.ofPage offset fetch).Admits row ↔ OnPage offset fetch row := by
  unfold ofPage Admits OnPage
  refine and_congr Int.add_one_le_iff ?_
  cases fetch with
  | none => simp
  | some n => simp only [Option.map_some, Option.mem_some_iff, forall_eq']; omega

theorem space_not_mem_toString (n : Int) : ' ' ∉ (toString n).toList := by
  have hdigits : ∀ m : Nat, ' ' ∉ m.repr.toList := by
    intro m hmem
    rw [Nat.toList_repr] at hmem
    exact absurd (Nat.isDigit_of_mem_toDigits (by decide) (by decide) hmem) (by decide)
  cases n with
  | ofNat m => exact hdigits m
  | negSucc m =>
    show ' ' ∉ ("-" ++ Nat.repr (m + 1)).toList
    simpa using hdigits (m + 1)

/-- With a space at its end, both numbers of a condition are words that are followed by one. -/
theorem RowBounds.text_append_space (bounds : RowBounds) :
    (bounds.text ++ " ").toList = "ROW_NUM >= ".toList ++
      ((toString bounds.first).toList ++ ' ' :: match bounds.stop with
        | some stop => "AND ROW_NUM < ".toList ++ ((toString stop).toList ++ ' ' :: [])
        | none => []) := by
  unfold text
  cases bounds.stop <;> simp

/-- **A printed condition stands for one pair of bounds only.** -/
theorem RowBounds.text_injective {bounds other : RowBounds} (h : bounds.text = other.text) :
    bounds = other := by
  have hlists := congrArg (fun t => (t ++ " ").toList) h
  simp only [text_append_space] at hlists
  obtain ⟨hfirst, hstop⟩ := Text.append_space_inj (space_not_mem_toString _)
    (space_not_mem_toString _) (List.append_cancel_left hlists)
  obtain ⟨first, stop⟩ := bounds
  obtain ⟨first', stop'⟩ := other
  obtain rfl : first = first' := Int.repr_injective (String.toList_injective hfirst)
  cases stop with
  | none =>
    cases stop' with
    | none => rfl
    | some m => simp at hstop
  | some n =>
    cases stop' with
    | none => simp at hstop
    | some m =>
      obtain ⟨hn, -⟩ := Text.append_space_inj (space_not_mem_toString _)
        (space_not_mem_toString _) (List.append_cancel_left hstop)
      rw [Int.repr_injective (String.toList_injective hn)]

/-! ## Queries put together from their parts -/

/-- How a query begins that is put together from its parts. -/
def selectWord : List Char := ['S', 'E', 'L', 'E', 'C', 'T', ' ']

namespace QueryParts

variable {parts : QueryParts}

/-- The lines of a query, one for each part: a mark, without the blank before it, and the part. -/
def lines (parts : QueryParts) : List (List Char) :=
  [selectWord ++ parts.columns, fromWord.tail ++ parts.source, orderWord.tail ++ parts.order]

/-- The query of the parts, with a space at its end as lines leave one. -/
def query (parts : QueryParts) : List Char :=
  selectWord ++ parts.columns ++ fromWord ++ parts.source ++ orderWord ++ parts.order ++ [' ']

/-- The parts are neat, and the marks between them are the ones at which the query is cut. -/
structure Written (parts : QueryParts) : Prop where
  columns : Text.Neat parts.columns
  source : Text.Neat parts.source
  order : Text.Neat parts.order
  firstFrom : Text.CutAtFirst fromWord parts.query (selectWord ++ parts.columns)
    (parts.source ++ orderWord ++ parts.order ++ [' '])
  lastOrder : Text.CutAtLast orderWord parts.query
    (selectWord ++ parts.columns ++ fromWord ++ parts.source) (parts.order ++ [' '])

/-- The query that selects the rows within bounds from the numbered rows of a query. -/
def selecting (parts : QueryParts) (bounds : RowBounds) : String :=
  "SELECT * FROM (SELECT " ++ String.ofList parts.columns ++ ", ROW_NUMBER() OVER (ORDER BY " ++
    String.ofList parts.order ++ ") AS ROW_NUM FROM " ++ String.ofList parts.source ++
    ") AS ROW_TABLE WHERE " ++ bounds.text ++ " ORDER BY ROW_NUM "

theorem selecting_injective {bounds other : RowBounds}
    (h : parts.selecting bounds = parts.selecting other) : bounds = other := by
  unfold selecting at h
  exact RowBounds.text_injective ((String.append_right_inj _).mp ((String.append_left_inj _).mp h))

theorem numbered_eq_selecting (parts : QueryParts) (offset fetch : Option Int) :
    numbered parts offset fetch = parts.selecting (.ofPage offset fetch) := by
  have htext : ∀ t : String, toString t = t := fun _ => rfl
  have houter : "SELECT * FROM (SELECT " = "SELECT * FROM (" ++ "SELECT " := by decide
  have hwhere : ") AS ROW_TABLE WHERE ROW_NUM >= " =
      ") AS ROW_TABLE WHERE " ++ "ROW_NUM >= " := by decide
  unfold numbered selecting RowBounds.text RowBounds.ofPage
  cases fetch <;> simp only [htext, houter, hwhere, Option.map_none, Option.map_some,
    String.append_assoc, String.append_empty]

theorem isQueryStart_select : IsQueryStart selectWord :=
  ⟨[], "SELECT".toList, [' '], by decide, by simp, by simp [IsSelect, isLetter],
    List.cons_ne_nil _ _, by simp [Text.isBlank]⟩

/-- **A query is cut where it was put together.** -/
theorem Written.cut?_query (h : parts.Written) : cut? parts.query = some parts := by
  obtain ⟨hcolumns, hsource, horder, hfrom, hlast⟩ := h
  refine cut?_eq_some_iff.mpr ⟨_, _, _, _, ⟨isQueryStart_select, ?_, ⟨_, hfrom⟩, hlast, ?_⟩, ?_⟩
  · refine ⟨parts.columns ++ (fromWord ++ parts.source ++ orderWord ++ parts.order ++ [' ']), ?_, ?_⟩
    · simp only [query, List.append_assoc]
    · rw [List.head?_append_of_ne_nil _ hcolumns.ne_nil]
      exact hcolumns.head
  · simp only [List.length_append]
    omega
  · have hcolumnsSlice : slice parts.query selectWord.length
        (selectWord ++ parts.columns).length = parts.columns := by
      rw [hfrom.text_eq, List.append_assoc _ fromWord]
      exact slice_append _ parts.columns _
    have hsourceSlice : slice parts.query
        ((selectWord ++ parts.columns).length + fromWord.length)
        (selectWord ++ parts.columns ++ fromWord ++ parts.source).length = parts.source := by
      rw [← List.length_append, hlast.text_eq, List.append_assoc _ orderWord]
      exact slice_append _ parts.source _
    have hgap : ∀ c ∈ [' '], Text.isBlank c = true := by simp [Text.isBlank]
    rw [hcolumnsSlice, hsourceSlice, hcolumns.trim, hsource.trim, Text.trim_append_blank hgap,
      horder.trim]

theorem Written.neat_lines (h : parts.Written) : ∀ line ∈ parts.lines, Text.Neat line := by
  have hword : ∀ w ∈ [selectWord, fromWord.tail, orderWord.tail],
      w ≠ [] ∧ ∀ c ∈ w.head?, Text.isBlank c = false := by
    simp [selectWord, fromWord, orderWord, Text.isBlank]
  simp only [List.forall_mem_cons] at hword
  obtain ⟨hselect, hfrom, horder, -⟩ := hword
  simp only [lines, List.forall_mem_cons]
  exact ⟨h.columns.after hselect.1 hselect.2, h.source.after hfrom.1 hfrom.2,
    h.order.after horder.1 horder.2, by simp⟩

/-- The lines of a query make the query. -/
theorem Written.join_lines (h : parts.Written) :
    String.join (parts.lines.map Fragment.lineText) = String.ofList parts.query := by
  have hlines : parts.lines.map Fragment.lineText =
      parts.lines.map fun line => String.ofList (line ++ [' ']) :=
    List.map_congr_left fun line hline => (h.neat_lines line hline).lineText
  rw [hlines]
  apply String.toList_injective
  simp [String.join, lines, query, fromWord, orderWord]

/-- The lines of a query are no comments and begin with no tag. -/
theorem plain_of_mem_lines {line : Line} (hmem : line.trimmed ∈ parts.lines)
    (huntagged : InlineTag.splitFirst? line.trimmed = none) : line.Plain := by
  have hcases : line.trimmed = selectWord ++ parts.columns ∨
      line.trimmed = fromWord.tail ++ parts.source ∨
      line.trimmed = orderWord.tail ++ parts.order := by simpa [lines] using hmem
  refine ⟨?_, huntagged, ?_⟩
  · rw [Line.isComment]
    rcases hcases with h | h | h <;> rw [h] <;> rfl
  · rcases hcases with h | h | h <;> rw [h] <;> simp [selectWord, fromWord, orderWord]

end QueryParts
end Dialect

/-! ## A page block -/

/-- A line opens a page block for two variables, and below it are lines without tags that have the
given texts. -/
structure Line.OpensPage (header : Line) (rest : List Line) (offset fetch : String)
    (texts : List (List Char)) : Prop where
  tag : BlockTag.ofStart? header.trimmed = some .paging
  head : BlockTag.readHead? .paging header.trimmed = some (.paging offset fetch)
  body : (header.body rest).map Line.trimmed = texts
  untagged : ∀ line ∈ header.body rest, InlineTag.splitFirst? line.trimmed = none

theorem Fragment.renderEach_texts (s : Setting) (refer : String → Except RenderError String)
    (texts : List String) :
    renderEach s refer (texts.map .text) = .ok (texts.map fun text => (none, text)) := by
  induction texts with
  | nil => rfl
  | cons text rest ih =>
    rw [List.map_cons, renderEach, ih]
    rfl

section OpensPage

variable {header : Line} {rest : List Line} {a b : String} {parts : Dialect.QueryParts}

/-- The block of the lines of a query. -/
def pageBlock (offset fetch : String) (parts : Dialect.QueryParts) : Fragment :=
  .block (.paging offset fetch) ((parts.lines.map Fragment.lineText).map .text)

theorem Line.OpensPage.readBody_eq (h : header.OpensPage rest a b parts.lines) :
    readBody (header :: rest) =
      (readBody (header.afterBody rest)).map (pageBlock a b parts :: ·) := by
  obtain ⟨htag, hhead, hbody, huntagged⟩ := h
  have hplain : ∀ line ∈ header.body rest, line.Plain := fun line hline =>
    Dialect.QueryParts.plain_of_mem_lines (hbody ▸ List.mem_map_of_mem hline) (huntagged line hline)
  have hchildren : readBody (header.body rest) =
      .ok ((parts.lines.map Fragment.lineText).map .text) := by
    rw [Line.readBody_of_plain hplain, ← hbody, List.map_map, List.map_map]
    rfl
  rw [readBody, htag]
  simp only [BlockTag.readHead, hhead, hchildren]
  cases readBody (header.afterBody rest) <;> rfl

theorem render_pageBlock (h : parts.Written) (s : Setting)
    (refer : String → Except RenderError String) :
    (pageBlock a b parts).render s refer = s.pageText a b (String.ofList parts.query) := by
  have henters : s.enters (.paging a b) = true := rfl
  rw [pageBlock, Fragment.render, if_pos henters, Fragment.renderEach_texts, ← h.join_lines]
  show s.pageText a b (String.join (List.map Prod.snd _)) = _
  rw [List.map_map]
  exact congrArg _ (congrArg _ (List.map_id _))

end OpensPage

namespace Dialect

variable {d : Dialect} {parts : QueryParts} {offset fetch : Option Int}

theorem addPaging_query (hstyle : d.style = .rowNumber) (h : parts.Written)
    (hasked : offset ≠ none ∨ fetch ≠ none) :
    d.addPaging (String.ofList parts.query) offset fetch =
      .ok (parts.selecting (.ofPage offset fetch)) := by
  rw [addPaging_of_asked hstyle hasked, String.toList_ofList, h.cut?_query,
    ← QueryParts.numbered_eq_selecting]

/-- The bounds that a query was printed with are those of the page. -/
theorem eq_ofPage_of_addPaging {bounds : RowBounds} (hstyle : d.style = .rowNumber)
    (h : parts.Written) (hasked : offset ≠ none ∨ fetch ≠ none)
    (hbounds : d.addPaging (String.ofList parts.query) offset fetch = .ok (parts.selecting bounds)) :
    bounds = .ofPage offset fetch := by
  rw [addPaging_query hstyle h hasked] at hbounds
  exact (QueryParts.selecting_injective (Except.ok.inj hbounds)).symm

/-- A page and the next one have no row in common, and together are a page of twice the rows. -/
theorem onPage_next {n : Int} (hn : 0 ≤ n) (offset : Option Int) (row : Int) :
    ¬ (OnPage offset (some n) row ∧ OnPage (some (offset.getD 0 + n)) (some n) row) ∧
    (OnPage offset (some n) row ∨ OnPage (some (offset.getD 0 + n)) (some n) row ↔
      OnPage offset (some (n + n)) row) := by
  simp only [OnPage, Option.mem_some_iff, forall_eq', Option.getD_some]
  omega

/-- **A dialect that numbers rows selects the rows of the page**, by bounds that are printed in the
query; a page and the next one share no row and leave none out; and a page block whose lines are
those of the query is rendered to what is made of the query. -/
theorem addPaging_selects_page (hstyle : d.style = .rowNumber) (h : parts.Written) :
    (∀ offset fetch : Option Int, offset ≠ none ∨ fetch ≠ none → ∃ bounds : RowBounds,
      (∀ other, d.addPaging (String.ofList parts.query) offset fetch = .ok (parts.selecting other) ↔
        other = bounds) ∧
      ∀ row, bounds.Admits row ↔ OnPage offset fetch row) ∧
    (∀ (offset : Option Int) (n : Int) (bounds next : RowBounds), 0 ≤ n →
      d.addPaging (String.ofList parts.query) offset (some n) = .ok (parts.selecting bounds) →
      d.addPaging (String.ofList parts.query) (some (offset.getD 0 + n)) (some n) =
        .ok (parts.selecting next) →
      ∀ row, ¬ (bounds.Admits row ∧ next.Admits row) ∧
        (bounds.Admits row ∨ next.Admits row ↔ OnPage offset (some (n + n)) row)) ∧
    ∀ (header : Line) (rest : List Line) (a b : String), header.OpensPage rest a b parts.lines →
      ∃ block, readBody (header :: rest) = (readBody (header.afterBody rest)).map (block :: ·) ∧
        ∀ (s : Setting) (refer : String → Except RenderError String) (offset fetch : Option Int),
          s.dialect = d → s.parameters.pageNumber? (some a) = .ok offset →
          s.parameters.pageNumber? (some b) = .ok fetch → offset ≠ none ∨ fetch ≠ none →
          ∃ text, d.addPaging (String.ofList parts.query) offset fetch = .ok text ∧
            block.render s refer = .ok text := by
  refine ⟨fun offset fetch hasked => ?_, fun offset n bounds next hn hbounds hnext row => ?_,
    fun header rest a b hopens => ?_⟩
  · refine ⟨.ofPage offset fetch, fun other => ⟨eq_ofPage_of_addPaging hstyle h hasked, ?_⟩,
      fun row => RowBounds.admits_ofPage_iff⟩
    rintro rfl
    exact addPaging_query hstyle h hasked
  · obtain rfl := eq_ofPage_of_addPaging hstyle h (Or.inr (Option.some_ne_none n)) hbounds
    obtain rfl := eq_ofPage_of_addPaging hstyle h (Or.inr (Option.some_ne_none n)) hnext
    rw [RowBounds.admits_ofPage_iff, RowBounds.admits_ofPage_iff]
    exact onPage_next hn offset row
  · refine ⟨pageBlock a b parts, hopens.readBody_eq, fun s refer offset fetch hd ha hb hasked => ?_⟩
    refine ⟨_, addPaging_query hstyle h hasked, ?_⟩
    rw [render_pageBlock h, Setting.pageText, ha, hb]
    show (s.dialect.addPaging (String.ofList parts.query) offset fetch).mapError _ = _
    rw [hd, addPaging_query hstyle h hasked]
    rfl

/-- The second page of five rows and the third, and a block in a template for the second. -/
theorem addPaging_selects_page_orders :
    let d : Dialect := ⟨.str "sqlserver2008", "", .rowNumber⟩
    let parts : QueryParts := ⟨"a, b".toList, "orders WHERE x = 1".toList, "a".toList⟩
    let header : Line := ⟨2, "  @PAGING(:offset, :fetch)".toList⟩
    let rest : List Line := [⟨3, "    SELECT a, b".toList⟩, ⟨4, "    FROM orders WHERE x = 1".toList⟩,
      ⟨5, "    ORDER BY a".toList⟩]
    let given : Parameters := .given [(.str "offset", .int 5), (.str "fetch", .str "5")]
    parts.Written ∧ header.OpensPage rest "offset" "fetch" parts.lines ∧
    (∃ bounds : RowBounds, (∀ other, d.addPaging (String.ofList parts.query) (some 5) (some 5) =
        .ok (parts.selecting other) ↔ other = bounds) ∧
      ∀ row, bounds.Admits row ↔ 5 < row ∧ row ≤ 10) ∧
    (∀ row, ¬ (RowBounds.Admits ⟨6, some 11⟩ row ∧ RowBounds.Admits ⟨11, some 16⟩ row)) ∧
    ∃ block, readBody (header :: rest) = .ok [block] ∧ ∀ refer,
      block.render ⟨given, d, true⟩ refer = .ok (
        "SELECT * FROM (SELECT a, b, ROW_NUMBER() OVER (ORDER BY a) AS ROW_NUM FROM orders " ++
        "WHERE x = 1) AS ROW_TABLE WHERE ROW_NUM >= 6 AND ROW_NUM < 11 ORDER BY ROW_NUM ") := by
  intro d parts header rest given
  have hwritten : parts.Written := by
    refine ⟨⟨by decide, ?_, ?_⟩, ⟨by decide, ?_, ?_⟩, ⟨by decide, ?_, ?_⟩, ?_, ?_⟩
    any_goals simp [parts, Text.isBlank]
    · exact Text.cutAtFirst_of_splitFirst? (by cbv)
    · exact Text.cutAtLast_of_splitLast? (List.cons_ne_nil _ _) (by cbv)
  have hopens : header.OpensPage rest "offset" "fetch" parts.lines := by
    have hbody : header.body rest = rest := by cbv
    refine ⟨by cbv, by cbv, by rw [hbody]; cbv, ?_⟩
    rw [hbody]
    simp only [rest, List.forall_mem_cons]
    exact ⟨by cbv, by cbv, by cbv, by simp⟩
  have hasked : some (5 : Int) ≠ none ∨ some (5 : Int) ≠ none := Or.inl (Option.some_ne_none 5)
  obtain ⟨hselects, hnext, hrenders⟩ := addPaging_selects_page (d := d) rfl hwritten
  obtain ⟨bounds, hbounds, hrows⟩ := hselects (some 5) (some 5) hasked
  obtain ⟨block, hblock, hrender⟩ := hrenders header rest "offset" "fetch" hopens
  have hsecond : d.addPaging (String.ofList parts.query) (some 5) (some 5) =
      .ok (parts.selecting ⟨6, some 11⟩) := addPaging_query rfl hwritten hasked
  have hthird : d.addPaging (String.ofList parts.query) (some 10) (some 5) =
      .ok (parts.selecting ⟨11, some 16⟩) := addPaging_query rfl hwritten (Or.inl (by decide))
  refine ⟨hwritten, hopens, ⟨bounds, hbounds, fun row => ?_⟩, fun row => ?_, block, ?_, fun refer => ?_⟩
  · rw [hrows]
    simp [OnPage]
  · exact (hnext (some 5) 5 _ _ (by decide) hsecond hthird row).1
  · have hafter : header.afterBody rest = [] := by cbv
    rw [hblock, hafter, readBody]
    rfl
  · obtain ⟨text, htext, hblocktext⟩ := hrender ⟨given, d, true⟩ refer (some 5) (some 5) rfl
      (by cbv) (by cbv) hasked
    rw [hblocktext, Except.ok.inj (htext.symm.trans hsecond)]
    exact congrArg Except.ok (by decide +kernel)

end Dialect
end SqlTemplate
