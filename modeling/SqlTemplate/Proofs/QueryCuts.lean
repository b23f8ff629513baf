import Mathlib
import SqlTemplate.Dialect
import SqlTemplate.Proofs.FirstOccurrence
import SqlTemplate.Proofs.Trimming

/-!
# Where a query is cut

A dialect that numbers rows cuts a query into columns, source and order. It looks for three marks on
their own: the start of the query, the first ` FROM ` and the last ` ORDER BY `. Each of them begins
or ends with a blank, and so **two marks can share one**: `SELECT FROM` and `FROM ORDER BY` have one
blank where two are needed. Nothing else can go wrong with marks that are in the right order. Where
no blank is shared, the three marks and the three parts are the whole query, and a query that has no
such parts is refused.
-/

set_option autoImplicit false

namespace SqlTemplate

namespace Text

variable {mark text before after : List Char}

/-- The text is cut at the first place where the mark occurs. -/
structure CutAtFirst (mark text before after : List Char) : Prop where
  text_eq : text = before ++ mark ++ after
  first : ∀ before' after', text = before' ++ mark ++ after' → before.length ≤ before'.length

/-- The text is cut at the last place where the mark occurs. -/
structure CutAtLast (mark text before after : List Char) : Prop where
  text_eq : text = before ++ mark ++ after
  last : ∀ before' after', text = before' ++ mark ++ after' → before'.length ≤ before.length

/-- Where a text is cut at one mark decides what is before and after it. -/
theorem cut_unique {before' after' : List Char} (h : text = before ++ mark ++ after)
    (h' : text = before' ++ mark ++ after') (hlen : before.length = before'.length) :
    before = before' ∧ after = after' := by
  rw [h, List.append_assoc, List.append_assoc] at h'
  obtain ⟨hbefore, hrest⟩ := List.append_inj h' hlen
  exact ⟨hbefore, List.append_cancel_left hrest⟩

theorem CutAtFirst.unique {before' after' : List Char} (h : CutAtFirst mark text before after)
    (h' : CutAtFirst mark text before' after') : before = before' ∧ after = after' :=
  cut_unique h.text_eq h'.text_eq
    (Nat.le_antisymm (h.first _ _ h'.text_eq) (h'.first _ _ h.text_eq))

theorem CutAtLast.unique {before' after' : List Char} (h : CutAtLast mark text before after)
    (h' : CutAtLast mark text before' after') : before = before' ∧ after = after' :=
  cut_unique h.text_eq h'.text_eq
    (Nat.le_antisymm (h'.last _ _ h.text_eq) (h.last _ _ h'.text_eq))

/-! ## The first occurrence -/

theorem cutAtFirst_of_splitFirst? (h : splitFirst? mark text = some (before, after)) :
    CutAtFirst mark text before after := by
  refine ⟨eq_of_splitFirst? h, ?_⟩
  induction text generalizing before with
  | nil =>
    rw [splitFirst?] at h
    split at h
    · cases h
      exact fun _ _ _ => Nat.zero_le _
    · cases h
  | cons c text ih =>
    rw [splitFirst?] at h
    cases hdrop : dropStart? mark (c :: text) with
    | some rest =>
      rw [hdrop] at h
      cases h
      exact fun _ _ _ => Nat.zero_le _
    | none =>
      rw [hdrop] at h
      obtain ⟨⟨inner, rest⟩, hinner, heq⟩ := Option.map_eq_some_iff.mp h
      cases heq
      intro before' after' htext
      cases before' with
      | nil => exact absurd ⟨after', htext.symm⟩ (dropStart?_eq_none_iff.mp hdrop)
      | cons d before' =>
        obtain ⟨-, htext⟩ := List.cons.inj htext
        exact Nat.succ_le_succ (ih hinner before' after' htext)

theorem splitFirst?_eq_some_iff_cutAtFirst (hmark : mark ≠ []) :
    splitFirst? mark text = some (before, after) ↔ CutAtFirst mark text before after := by
  refine ⟨cutAtFirst_of_splitFirst?, fun h => ?_⟩
  cases hsplit : splitFirst? mark text with
  | none =>
    exact absurd ⟨before, after, h.text_eq.symm⟩ ((splitFirst?_eq_none_iff hmark).mp hsplit)
  | some parts =>
    obtain ⟨rfl, rfl⟩ := h.unique (cutAtFirst_of_splitFirst? hsplit)
    rfl

/-! ## The last occurrence -/

theorem splitLast?_eq_none_iff (hmark : mark ≠ []) :
    splitLast? mark text = none ↔ ¬ mark <:+: text := by
  induction text with
  | nil => simp [splitLast?, hmark]
  | cons c text ih =>
    rw [splitLast?, List.infix_cons_iff, not_or, ← dropStart?_eq_none_iff, ← ih]
    cases splitLast? mark text with
    | some parts => simp
    | none => simp

theorem cutAtLast_of_splitLast? (hmark : mark ≠ [])
    (h : splitLast? mark text = some (before, after)) : CutAtLast mark text before after := by
  induction text generalizing before with
  | nil =>
    rw [splitLast?, if_neg (by simpa using hmark)] at h
    cases h
  | cons c text ih =>
    rw [splitLast?] at h
    cases hlater : splitLast? mark text with
    | some parts =>
      rw [hlater] at h
      cases h
      obtain ⟨rfl, hlast⟩ := ih hlater
      refine ⟨rfl, fun before' after' heq => ?_⟩
      cases before' with
      | nil => exact Nat.zero_le _
      | cons d before' =>
        obtain ⟨-, heq⟩ := List.cons.inj heq
        exact Nat.succ_le_succ (hlast before' after' heq)
    | none =>
      rw [hlater] at h
      obtain ⟨rest, hdrop, heq⟩ := Option.map_eq_some_iff.mp h
      cases heq
      refine ⟨dropStart?_eq_some_iff.mp hdrop, fun before' after' heq => ?_⟩
      cases before' with
      | nil => exact Nat.zero_le _
      | cons d before' =>
        obtain ⟨-, heq⟩ := List.cons.inj heq
        exact absurd ⟨before', after', heq.symm⟩ ((splitLast?_eq_none_iff hmark).mp hlater)

theorem splitLast?_eq_some_iff_cutAtLast (hmark : mark ≠ []) :
    splitLast? mark text = some (before, after) ↔ CutAtLast mark text before after := by
  refine ⟨cutAtLast_of_splitLast? hmark, fun h => ?_⟩
  cases hsplit : splitLast? mark text with
  | none =>
    exact absurd ⟨before, after, h.text_eq.symm⟩ ((splitLast?_eq_none_iff hmark).mp hsplit)
  | some parts =>
    obtain ⟨rfl, rfl⟩ := h.unique (cutAtLast_of_splitLast? hmark hsplit)
    rfl

end Text

namespace Dialect

variable {query : List Char}

/-! ## How a query starts -/

/-- The word `SELECT` in any case. -/
def IsSelect (word : List Char) : Prop :=
  List.Forall₂ (fun capital c => isLetter capital c = true) "SELECT".toList word

/-- How a query starts: possibly white space, the word `SELECT`, and white space. -/
def IsQueryStart (start : List Char) : Prop :=
  ∃ before word gap, start = before ++ word ++ gap ∧ (∀ c ∈ before, Text.isBlank c = true) ∧
    IsSelect word ∧ gap ≠ [] ∧ ∀ c ∈ gap, Text.isBlank c = true

theorem dropWord?_eq_some_iff {word text rest : List Char} :
    dropWord? word text = some rest ↔
      ∃ w, List.Forall₂ (fun capital c => isLetter capital c = true) word w ∧ text = w ++ rest := by
  induction word generalizing text with
  | nil =>
    constructor
    · intro h
      cases h
      exact ⟨[], .nil, rfl⟩
    · rintro ⟨w, hw, rfl⟩
      cases hw
      rfl
  | cons a word ih =>
    cases text with
    | nil =>
      constructor
      · intro h
        cases h
      · rintro ⟨w, hw, htext⟩
        cases hw
        cases htext
    | cons c text =>
      rw [dropWord?]
      constructor
      · intro h
        split at h
        · next hletter =>
          obtain ⟨w, hw, rfl⟩ := ih.mp h
          exact ⟨c :: w, .cons hletter hw, rfl⟩
        · cases h
      · rintro ⟨_, hw, htext⟩
        cases hw with
        | cons hletter hw =>
          obtain ⟨rfl, rfl⟩ := List.cons.inj htext
          rw [if_pos hletter]
          exact ih.mpr ⟨_, hw, rfl⟩

/-- Every character of a word in any case is a letter of the word. -/
theorem exists_capital_of_mem {word w : List Char} {c : Char}
    (h : List.Forall₂ (fun capital c => isLetter capital c = true) word w) (hc : c ∈ w) :
    ∃ capital ∈ word, isLetter capital c = true := by
  induction h with
  | nil => cases hc
  | @cons capital c' _ _ hown _ ih =>
    rcases List.mem_cons.mp hc with rfl | hc
    · exact ⟨capital, List.mem_cons_self, hown⟩
    · obtain ⟨other, hother, hsame⟩ := ih hc
      exact ⟨other, List.mem_cons_of_mem _ hother, hsame⟩

namespace IsSelect

variable {word : List Char}

/-- The letters of the word, in whatever case. -/
theorem mem_letters (h : IsSelect word) {c : Char} (hc : c ∈ word) : c ∈ "SELCTselctſ".toList := by
  obtain ⟨capital, hcapital, hc⟩ := exists_capital_of_mem h hc
  have hcases : c = capital ∨ c = capital.toLower ∨ capital = 'S' ∧ c = 'ſ' := by
    simpa [isLetter, or_assoc] using hc
  have hall : ∀ a ∈ "SELECT".toList, a ∈ "SELCTselctſ".toList ∧ a.toLower ∈ "SELCTselctſ".toList := by
    simp
  rcases hcases with rfl | rfl | ⟨-, rfl⟩
  · exact (hall _ hcapital).1
  · exact (hall _ hcapital).2
  · decide

theorem not_blank (h : IsSelect word) {c : Char} (hc : c ∈ word) : Text.isBlank c = false := by
  have hall : ∀ a ∈ "SELCTselctſ".toList, Text.isBlank a = false := by simp [Text.isBlank]
  exact hall c (h.mem_letters hc)

theorem head?_append_not_blank (h : IsSelect word) (rest : List Char) :
    ∀ c ∈ (word ++ rest).head?, Text.isBlank c = false := by
  intro c hc
  cases h with
  | cons hown hmore =>
    have hword : IsSelect _ := .cons hown hmore
    cases hc
    exact hword.not_blank List.mem_cons_self

end IsSelect

/-- A start that no blank follows is taken as it is. -/
theorem selectLength?_of_start {start rest : List Char} (hstart : IsQueryStart start)
    (hrest : ∀ c ∈ rest.head?, Text.isBlank c = false) :
    selectLength? (start ++ rest) = some start.length := by
  obtain ⟨before, word, gap, rfl, hbefore, hselect, hne, hgap⟩ := hstart
  have hleft : Text.trimLeft (before ++ word ++ gap ++ rest) = word ++ (gap ++ rest) := by
    rw [List.append_assoc, List.append_assoc]
    exact Text.trimLeft_append hbefore (hselect.head?_append_not_blank _)
  have hword : dropWord? ['S', 'E', 'L', 'E', 'C', 'T'] (word ++ (gap ++ rest)) =
      some (gap ++ rest) := dropWord?_eq_some_iff.mpr ⟨word, hselect, rfl⟩
  have hpos : 0 < gap.length := List.length_pos_iff.mpr hne
  unfold selectLength?
  simp only [hleft, hword, Text.trimLeft_append hgap hrest]
  rw [if_pos (by simp only [List.length_append]; omega)]
  simp only [List.length_append]
  congr 1
  omega

/-- The start of a query is taken as long as it can be. -/
theorem selectLength?_eq_some_iff {n : Nat} :
    selectLength? query = some n ↔
      ∃ start rest, query = start ++ rest ∧ IsQueryStart start ∧
        (∀ c ∈ rest.head?, Text.isBlank c = false) ∧ n = start.length := by
  have hquery : query = query.takeWhile Text.isBlank ++ Text.trimLeft query :=
    List.takeWhile_append_dropWhile.symm
  constructor
  · intro h
    unfold selectLength? at h
    cases hword : dropWord? ['S', 'E', 'L', 'E', 'C', 'T'] (Text.trimLeft query) with
    | none => simp only [hword] at h; cases h
    | some after =>
      simp only [hword] at h
      split at h
      · next hgap =>
        cases h
        obtain ⟨word, hselect, hstart⟩ := dropWord?_eq_some_iff.mp hword
        have hafter : after = after.takeWhile Text.isBlank ++ Text.trimLeft after :=
          List.takeWhile_append_dropWhile.symm
        have hparts : query = query.takeWhile Text.isBlank ++ word ++
            after.takeWhile Text.isBlank ++ Text.trimLeft after := by
          rw [List.append_assoc, ← hafter, List.append_assoc, ← hstart, ← hquery]
        refine ⟨_, _, hparts, ⟨_, word, _, rfl, fun c hc => List.mem_takeWhile_imp hc, hselect, ?_,
          fun c hc => List.mem_takeWhile_imp hc⟩, Text.head?_dropWhile_not _ _, ?_⟩
        · intro hnil
          rw [hnil, List.nil_append] at hafter
          rw [← hafter] at hgap
          exact Nat.lt_irrefl _ hgap
        · have hlen := congrArg List.length hparts
          rw [List.length_append] at hlen
          omega
      · cases h
  · rintro ⟨start, rest, rfl, hstart, hrest, rfl⟩
    exact selectLength?_of_start hstart hrest

/-- White space at the end of a start belongs to it. -/
theorem exists_selectLength? {start rest : List Char} (h : IsQueryStart start) :
    ∃ n, selectLength? (start ++ rest) = some n := by
  obtain ⟨before, word, gap, rfl, hbefore, hselect, hne, hgap⟩ := h
  refine ⟨_, selectLength?_eq_some_iff.mpr ⟨before ++ word ++ (gap ++ rest.takeWhile Text.isBlank),
    rest.dropWhile Text.isBlank, ?_, ⟨before, word, _, rfl, hbefore, hselect, ?_, ?_⟩,
    Text.head?_dropWhile_not _ _, rfl⟩⟩
  · simp only [List.append_assoc, List.takeWhile_append_dropWhile]
  · simp [hne]
  · intro c hc
    rcases List.mem_append.mp hc with hc | hc
    · exact hgap c hc
    · exact List.mem_takeWhile_imp hc

theorem IsQueryStart.length_lt {start : List Char} (h : IsQueryStart start) :
    "SELECT".length < start.length := by
  obtain ⟨before, word, gap, rfl, -, hselect, hne, -⟩ := h
  have hword : "SELECT".toList.length = word.length := List.Forall₂.length_eq hselect
  rw [String.length_toList] at hword
  have hgap : 0 < gap.length := List.length_pos_iff.mpr hne
  simp only [List.length_append]
  omega

/-- The characters of a start are blank or letters of its word. -/
theorem IsQueryStart.mem {start : List Char} (h : IsQueryStart start) {c : Char} (hc : c ∈ start) :
    Text.isBlank c = true ∨ c ∈ "SELCTselctſ".toList := by
  obtain ⟨before, word, gap, rfl, hbefore, hselect, -, hgap⟩ := h
  rcases List.mem_append.mp hc with hc | hc
  · rcases List.mem_append.mp hc with hc | hc
    · exact Or.inl (hbefore c hc)
    · exact Or.inr (hselect.mem_letters hc)
  · exact Or.inl (hgap c hc)

/-! ## Two marks beside each other -/

/-- A mark of a space and a letter that no start has begins behind the start, or with its last
blank. -/
theorem IsQueryStart.before_mark {start rest before after mark : List Char} {c : Char}
    (h : IsQueryStart start) (hblank : Text.isBlank c = false) (hletter : c ∉ "SELCTselctſ".toList)
    (hquery : start ++ rest = before ++ (' ' :: c :: mark) ++ after) :
    (∃ columns, before = start ++ columns) ∨ start = before ++ [' '] := by
  rw [List.append_assoc] at hquery
  rcases List.append_eq_append_iff.mp hquery with ⟨columns, hbefore, -⟩ | ⟨more, hstart, hmore⟩
  · exact Or.inl ⟨columns, hbefore⟩
  · cases more with
    | nil => exact Or.inl ⟨[], by rw [hstart, List.append_nil, List.append_nil]⟩
    | cons x more =>
      obtain ⟨hx, hmore⟩ := List.cons.inj hmore
      rw [← hx] at hstart
      cases more with
      | nil => exact Or.inr hstart
      | cons y more =>
        -- the letter would be one of the start
        obtain ⟨rfl, -⟩ := List.cons.inj hmore
        rcases h.mem (c := c) (by simp [hstart]) with hc | hc
        · rw [hblank] at hc
          cases hc
        · exact absurd hc hletter

/-- The last ` ORDER BY ` begins behind the first ` FROM `, or with its last blank. -/
theorem from_before_order {beforeFrom afterFrom beforeOrder order : List Char}
    (hquery : beforeFrom ++ fromWord ++ afterFrom = beforeOrder ++ orderWord ++ order)
    (hle : beforeFrom.length ≤ beforeOrder.length) :
    (∃ source, beforeOrder = beforeFrom ++ fromWord ++ source) ∨
      beforeOrder = beforeFrom ++ " FROM".toList := by
  rw [List.append_assoc beforeOrder] at hquery
  rcases List.append_eq_append_iff.mp hquery with ⟨source, hsource, -⟩ | ⟨shared, hboth, hshared⟩
  · exact Or.inl ⟨source, hsource⟩
  · obtain ⟨more, rfl⟩ : ∃ more, beforeOrder = beforeFrom ++ more := by
      have hprefix : beforeFrom <+: beforeOrder := by
        refine List.prefix_of_prefix_length_le (List.prefix_append _ fromWord) ?_ hle
        exact hboth ▸ List.prefix_append _ _
      exact hprefix.imp fun _ h => h.symm
    rw [List.append_assoc, List.append_cancel_left_eq] at hboth
    -- the blanks of ` FROM ` are its first and its last character, and no `O` follows the first
    obtain ⟨n, rfl, rfl⟩ : ∃ n, more = fromWord.take n ∧ shared = fromWord.drop n := by
      refine ⟨more.length, ?_, ?_⟩
      · rw [hboth, List.take_left]
      · rw [hboth, List.drop_left]
    match n with
    | 0 | 1 | 2 | 3 | 4 => simp [fromWord, orderWord] at hshared
    | 5 => exact Or.inr rfl
    | n + 6 => exact Or.inl ⟨[], by simp [fromWord]⟩

/-! ## The marks of a query -/

/-- Where the marks of a query are: it begins with `start`, as long as that can be, `beforeFrom` is
before its first ` FROM `, and its last ` ORDER BY ` is between `beforeOrder` and `order`. -/
structure Marked (query start beforeFrom beforeOrder order : List Char) : Prop where
  isStart : IsQueryStart start
  longest : ∃ rest, query = start ++ rest ∧ ∀ c ∈ rest.head?, Text.isBlank c = false
  source : ∃ after, Text.CutAtFirst fromWord query beforeFrom after
  order : Text.CutAtLast orderWord query beforeOrder order
  inOrder : beforeFrom.length ≤ beforeOrder.length

theorem cut?_eq_some_iff {parts : QueryParts} :
    cut? query = some parts ↔
      ∃ start beforeFrom beforeOrder order, Marked query start beforeFrom beforeOrder order ∧
        parts = {
          columns := Text.trim (slice query start.length beforeFrom.length)
          source :=
            Text.trim (slice query (beforeFrom.length + fromWord.length) beforeOrder.length)
          order := Text.trim order } := by
  have hfrom : fromWord ≠ [] := List.cons_ne_nil _ _
  have horder : orderWord ≠ [] := List.cons_ne_nil _ _
  constructor
  · intro h
    unfold cut? at h
    split at h
    · next n beforeFrom after beforeOrder order hstart hsource hlast =>
      split at h
      · cases h
      · next hle =>
        cases h
        obtain ⟨start, rest, hquery, hisStart, hrest, rfl⟩ := selectLength?_eq_some_iff.mp hstart
        refine ⟨start, beforeFrom, beforeOrder, order, ⟨hisStart, ⟨rest, hquery, hrest⟩,
          ⟨after, ?_⟩, ?_, Nat.le_of_not_lt hle⟩, rfl⟩
        · exact (Text.splitFirst?_eq_some_iff_cutAtFirst hfrom).mp hsource
        · exact (Text.splitLast?_eq_some_iff_cutAtLast horder).mp hlast
    · cases h
  · rintro ⟨start, beforeFrom, beforeOrder, order, hmarked, rfl⟩
    obtain ⟨hisStart, ⟨rest, hquery, hrest⟩, ⟨after, hsource⟩, hlast, hle⟩ := hmarked
    unfold cut?
    rw [selectLength?_eq_some_iff.mpr ⟨start, rest, hquery, hisStart, hrest, rfl⟩,
      (Text.splitFirst?_eq_some_iff_cutAtFirst hfrom).mpr hsource,
      (Text.splitLast?_eq_some_iff_cutAtLast horder).mpr hlast]
    exact if_neg (Nat.not_lt.mpr hle)

/-- The query is the pieces one after the other: its start, the columns, ` FROM `, the source,
` ORDER BY ` and the order. -/
structure CutsAs (query start columns source order : List Char) : Prop where
  isStart : IsQueryStart start
  query_eq : query = start ++ columns ++ fromWord ++ source ++ orderWord ++ order

/-- The pieces need room for the whole ` FROM ` before the last ` ORDER BY `. -/
theorem CutsAs.from_add_le_order {start columns source order : List Char}
    {beforeFrom afterFrom beforeOrder afterOrder : List Char}
    (h : CutsAs query start columns source order)
    (hfrom : Text.CutAtFirst fromWord query beforeFrom afterFrom)
    (horder : Text.CutAtLast orderWord query beforeOrder afterOrder) :
    beforeFrom.length + fromWord.length ≤ beforeOrder.length := by
  have hfirst := hfrom.first (start ++ columns) (source ++ orderWord ++ order)
    (by rw [h.query_eq]; simp only [List.append_assoc])
  have hlast := horder.last _ _ h.query_eq
  simp only [List.length_append] at hfirst hlast
  omega

/-- The pieces need room for the word `SELECT` and a blank before a ` FROM `. -/
theorem CutsAs.select_lt_from {start columns source order beforeFrom afterFrom : List Char}
    (h : CutsAs query start columns source order)
    (hfrom : Text.CutAtLast fromWord query beforeFrom afterFrom) :
    "SELECT".length < beforeFrom.length := by
  have hlast := hfrom.last (start ++ columns) (source ++ orderWord ++ order)
    (by rw [h.query_eq]; simp only [List.append_assoc])
  have hstart := h.isStart.length_lt
  rw [List.length_append] at hlast
  omega

/-- The query has its marks in the right order, and two of them have a blank in common. -/
inductive SharesBlank (query : List Char) : Prop where
  /-- One blank between the words `SELECT` and `FROM`. -/
  | ofStart {before word after : List Char} (hbefore : ∀ c ∈ before, Text.isBlank c = true)
      (hword : IsSelect word) (hquery : query = before ++ word ++ fromWord ++ after)
      (horder : orderWord <:+: query) : SharesBlank query
  /-- One blank between the first `FROM` and the last `ORDER BY`. -/
  | ofSource {start rest before order : List Char} (hstart : IsQueryStart start)
      (hquery : query = start ++ rest)
      (hsource : ∃ after, Text.CutAtFirst fromWord query before after)
      (horder : Text.CutAtLast orderWord query (before ++ " FROM".toList) order) :
      SharesBlank query

theorem slice_append (before columns after : List Char) :
    slice (before ++ columns ++ after) before.length (before ++ columns).length = columns := by
  rw [slice, List.take_left, List.drop_left]

theorem slice_of_le {text : List Char} {start stop : Nat} (h : stop ≤ start) :
    slice text start stop = [] := by
  rw [slice, List.drop_eq_nil_iff, List.length_take]
  exact Nat.le_trans (Nat.min_le_left _ _) h

/-- **Marks that share no blank leave parts that are pieces of the query.** -/
theorem Marked.cutsAs_or_sharesBlank {start beforeFrom beforeOrder order : List Char}
    (h : Marked query start beforeFrom beforeOrder order) :
    SharesBlank query ∨ ∃ start' columns source, CutsAs query start' columns source order ∧
      slice query start.length beforeFrom.length = columns ∧
      slice query (beforeFrom.length + fromWord.length) beforeOrder.length = source := by
  obtain ⟨hisStart, ⟨rest, hquery, -⟩, ⟨afterFrom, hsource⟩, horder, hle⟩ := h
  have hboth := hsource.text_eq.symm.trans horder.text_eq
  rcases from_before_order hboth hle with ⟨source, rfl⟩ | hshared
  · have hsourceSlice : slice query (beforeFrom.length + fromWord.length)
        (beforeFrom ++ fromWord ++ source).length = source := by
      rw [← List.length_append, horder.text_eq, List.append_assoc _ orderWord]
      exact slice_append _ source _
    have hmark := hisStart.before_mark (c := 'F') (by decide) (by decide)
      (hquery.symm.trans hsource.text_eq)
    rcases hmark with ⟨columns, rfl⟩ | hlast
    · refine Or.inr ⟨start, columns, source, ⟨hisStart, horder.text_eq⟩, ?_, hsourceSlice⟩
      rw [hsource.text_eq, List.append_assoc _ fromWord]
      exact slice_append start columns _
    · -- the start gives its last blank to ` FROM ` and is a start without it if it has another one
      obtain ⟨before, word, gap, rfl, hbefore, hselect, hne, hgap⟩ := id hisStart
      obtain ⟨gap, last, hconcat⟩ := (List.eq_nil_or_concat gap).resolve_left hne
      rw [List.concat_eq_append] at hconcat
      subst hconcat
      rw [← List.append_assoc] at hlast
      obtain ⟨rfl, -⟩ := List.append_inj' hlast rfl
      by_cases hgapless : gap = []
      · subst hgapless
        rw [List.append_nil] at hsource
        exact Or.inl (.ofStart hbefore hselect hsource.text_eq ⟨_, _, horder.text_eq.symm⟩)
      · have hshorter : IsQueryStart (before ++ word ++ gap) :=
          ⟨before, word, gap, rfl, hbefore, hselect, hgapless,
            fun c hc => hgap c (List.mem_append_left _ hc)⟩
        refine Or.inr ⟨before ++ word ++ gap, [], source, ⟨hshorter, ?_⟩, ?_, hsourceSlice⟩
        · rw [List.append_nil]
          exact horder.text_eq
        · exact slice_of_le (by simp only [List.length_append]; omega)
  · exact Or.inl (.ofSource hisStart hquery ⟨afterFrom, hsource⟩ (hshared ▸ horder))

/-- A query with a start, and with a ` FROM ` no later than an ` ORDER BY `, is cut. -/
theorem exists_cut? {start rest beforeFrom afterFrom beforeOrder order : List Char}
    (hstart : IsQueryStart start) (hquery : query = start ++ rest)
    (hfrom : query = beforeFrom ++ fromWord ++ afterFrom)
    (horder : query = beforeOrder ++ orderWord ++ order)
    (hle : beforeFrom.length ≤ beforeOrder.length) : ∃ parts, cut? query = some parts := by
  obtain ⟨n, hn⟩ : ∃ n, selectLength? query = some n := hquery ▸ exists_selectLength? hstart
  obtain ⟨start', rest', hquery', hstart', hrest', -⟩ := selectLength?_eq_some_iff.mp hn
  cases hfirst : Text.splitFirst? fromWord query with
  | none =>
    exact absurd ⟨beforeFrom, afterFrom, hfrom.symm⟩
      ((Text.splitFirst?_eq_none_iff (List.cons_ne_nil _ _)).mp hfirst)
  | some cutFrom =>
    cases hlast : Text.splitLast? orderWord query with
    | none =>
      exact absurd ⟨beforeOrder, order, horder.symm⟩
        ((Text.splitLast?_eq_none_iff (List.cons_ne_nil _ _)).mp hlast)
    | some cutOrder =>
      have hfirst := Text.cutAtFirst_of_splitFirst? hfirst
      have hlast := Text.cutAtLast_of_splitLast? (List.cons_ne_nil _ _) hlast
      refine ⟨_, cut?_eq_some_iff.mpr ⟨start', cutFrom.1, cutOrder.1, cutOrder.2,
        ⟨hstart', ⟨rest', hquery', hrest'⟩, ⟨cutFrom.2, hfirst⟩, hlast, ?_⟩, rfl⟩⟩
      exact (hfirst.first _ _ hfrom).trans (hle.trans (hlast.last _ _ horder))

theorem CutsAs.exists_cut? {start columns source order : List Char}
    (h : CutsAs query start columns source order) : ∃ parts, cut? query = some parts := by
  obtain ⟨hstart, hquery⟩ := h
  have hrest : query = start ++ (columns ++ fromWord ++ source ++ orderWord ++ order) := by
    rw [hquery]
    simp only [List.append_assoc]
  have hfrom : query = start ++ columns ++ fromWord ++ (source ++ orderWord ++ order) := by
    rw [hquery]
    simp only [List.append_assoc]
  refine Dialect.exists_cut? hstart hrest hfrom hquery ?_
  simp only [List.length_append]
  omega

/-- Between `SELECT` and a `FROM` one blank behind it there are no columns. -/
theorem cut?_of_shared_start {before word after : List Char}
    (hbefore : ∀ c ∈ before, Text.isBlank c = true) (hword : IsSelect word)
    (hquery : query = before ++ word ++ fromWord ++ after) (horder : orderWord <:+: query) :
    ∃ parts, cut? query = some parts ∧ parts.columns = [] := by
  obtain ⟨beforeOrder, order, horder⟩ := horder
  have hstart : IsQueryStart (before ++ word ++ [' ']) :=
    ⟨before, word, [' '], rfl, hbefore, hword, List.cons_ne_nil _ _, by simp [Text.isBlank]⟩
  have hrest : query = before ++ word ++ [' '] ++ ("FROM ".toList ++ after) := by
    rw [hquery]
    simp [fromWord]
  -- the only blank that the ` ORDER BY ` could share with the start is the one of the ` FROM `
  have hle : (before ++ word).length ≤ beforeOrder.length := by
    rcases hstart.before_mark (c := 'O') (by decide) (by decide) (hrest.symm.trans horder.symm) with
      ⟨columns, rfl⟩ | hlast
    · simp only [List.length_append]
      omega
    · rw [(List.append_inj' hlast rfl).1]
  obtain ⟨parts, hparts⟩ := exists_cut? hstart hrest hquery horder.symm hle
  refine ⟨parts, hparts, ?_⟩
  obtain ⟨start, beforeFrom, _, _, hmarked, rfl⟩ := cut?_eq_some_iff.mp hparts
  obtain ⟨hisStart, ⟨rest, hquery', hhead⟩, ⟨_, hfirst⟩, -, -⟩ := hmarked
  have hlen : (before ++ word ++ [' ']).length = start.length := by
    have hfrom : ∀ c ∈ ("FROM ".toList ++ after).head?, Text.isBlank c = false := by
      intro c hc
      cases hc
      decide
    have hone := hquery' ▸ selectLength?_of_start hisStart hhead
    have hother := hrest ▸ selectLength?_of_start hstart hfrom
    exact Option.some.inj (hother.symm.trans hone)
  show Text.trim (slice query start.length beforeFrom.length) = []
  rw [slice_of_le]
  · rfl
  · have hle := hfirst.first _ _ hquery
    rw [← hlen, List.length_append]
    omega

/-- Between the first `FROM` and the last `ORDER BY` one blank behind it there is no source. -/
theorem cut?_of_shared_source {start rest before after order : List Char}
    (hstart : IsQueryStart start) (hquery : query = start ++ rest)
    (hsource : Text.CutAtFirst fromWord query before after)
    (horder : Text.CutAtLast orderWord query (before ++ " FROM".toList) order) :
    ∃ parts, cut? query = some parts ∧ parts.source = [] := by
  have hle : before.length ≤ (before ++ " FROM".toList).length := by
    rw [List.length_append]
    omega
  obtain ⟨parts, hparts⟩ := exists_cut? hstart hquery hsource.text_eq horder.text_eq hle
  refine ⟨parts, hparts, ?_⟩
  obtain ⟨_, beforeFrom, beforeOrder, _, hmarked, rfl⟩ := cut?_eq_some_iff.mp hparts
  obtain ⟨-, -, ⟨_, hfirst⟩, hlast, -⟩ := hmarked
  obtain ⟨rfl, -⟩ := hfirst.unique hsource
  obtain ⟨rfl, -⟩ := hlast.unique horder
  show Text.trim (slice query (beforeFrom.length + fromWord.length) _) = []
  rw [slice_of_le]
  · rfl
  · rw [List.length_append]
    exact Nat.add_le_add_left (by decide) _

/-- **Marks that share a blank are cut all the same**, and nothing is left between the two. -/
theorem SharesBlank.exists_cut? (h : SharesBlank query) :
    ∃ parts, cut? query = some parts ∧ (parts.columns = [] ∨ parts.source = []) := by
  cases h with
  | ofStart hbefore hword hquery horder =>
    obtain ⟨parts, hparts, hcolumns⟩ := cut?_of_shared_start hbefore hword hquery horder
    exact ⟨parts, hparts, Or.inl hcolumns⟩
  | ofSource hstart hquery hsource horder =>
    obtain ⟨after, hsource⟩ := hsource
    obtain ⟨parts, hparts, hnone⟩ := cut?_of_shared_source hstart hquery hsource horder
    exact ⟨parts, hparts, Or.inr hnone⟩

/-! ## Queries that are cut and queries that are refused -/

section Paging

variable {d : Dialect} {offset fetch : Option Int}

/-- Where a page is asked for, the numbered query is made of the parts, and without parts there is
none. -/
theorem addPaging_of_asked (hstyle : d.style = .rowNumber) (hasked : offset ≠ none ∨ fetch ≠ none)
    (text : String) :
    d.addPaging text offset fetch =
      match cut? text.toList with
      | none => .error (.notCuttable d.nameText)
      | some parts => .ok (numbered parts offset fetch) := by
  unfold addPaging
  rw [hstyle]
  cases offset with
  | some o => rfl
  | none =>
    cases fetch with
    | some n => rfl
    | none => exact absurd rfl (hasked.resolve_left (not_not.mpr rfl))

/-- **A query is refused, or it is cut into pieces that are all of it**, unless two of its marks
share a blank; and then it is cut with nothing between the two. -/
theorem addPaging_cuts (hstyle : d.style = .rowNumber) (hasked : offset ≠ none ∨ fetch ≠ none)
    (text : String) :
    (¬ SharesBlank text.toList →
      (d.addPaging text offset fetch = .error (.notCuttable d.nameText) ∧
        ∀ start columns source order, ¬ CutsAs text.toList start columns source order) ∨
      ∃ start columns source order, CutsAs text.toList start columns source order ∧
        d.addPaging text offset fetch =
          .ok (numbered ⟨Text.trim columns, Text.trim source, Text.trim order⟩ offset fetch)) ∧
    (SharesBlank text.toList → ∃ parts, (parts.columns = [] ∨ parts.source = []) ∧
      d.addPaging text offset fetch = .ok (numbered parts offset fetch)) := by
  rw [addPaging_of_asked hstyle hasked]
  constructor
  · intro hapart
    cases hcut : cut? text.toList with
    | none =>
      refine Or.inl ⟨rfl, fun start columns source order h => ?_⟩
      obtain ⟨parts, hparts⟩ := h.exists_cut?
      rw [hcut] at hparts
      cases hparts
    | some parts =>
      obtain ⟨start, beforeFrom, beforeOrder, order, hmarked, rfl⟩ := cut?_eq_some_iff.mp hcut
      obtain ⟨start', columns, source, hpieces, hcolumns, hsource⟩ :=
        hmarked.cutsAs_or_sharesBlank.resolve_left hapart
      refine Or.inr ⟨start', columns, source, order, hpieces, ?_⟩
      rw [hcolumns, hsource]
  · intro hshared
    obtain ⟨parts, hparts, hempty⟩ := hshared.exists_cut?
    exact ⟨parts, hempty, by rw [hparts]⟩

/-- A page of a query, a query without an order, and a query without columns. -/
theorem addPaging_cuts_pages :
    let d : Dialect := ⟨.str "sqlserver2008", "", .rowNumber⟩
    let query := "SELECT a, b FROM foo WHERE x = 1 ORDER BY a "
    let unordered := "SELECT a FROM foo "
    let bare := "SELECT FROM t ORDER BY b"
    (¬ SharesBlank query.toList ∧
      ∃ start columns source order, CutsAs query.toList start columns source order ∧
        d.addPaging query (some 10) (some 5) =
          .ok (numbered ⟨Text.trim columns, Text.trim source, Text.trim order⟩ (some 10) (some 5))) ∧
    (¬ SharesBlank unordered.toList ∧
      d.addPaging unordered none (some 5) =
        .error (.notCuttable "sqlserver2008")) ∧
    (SharesBlank bare.toList ∧
      ∃ parts, (parts.columns = [] ∨ parts.source = []) ∧
        d.addPaging bare (some 1) none = .ok (numbered parts (some 1) none)) := by
  intro d query unordered bare
  have hquery : cut? query.toList =
      some ⟨"a, b".toList, "foo WHERE x = 1".toList, "a".toList⟩ := by cbv
  have hunordered : cut? unordered.toList = none := by cbv
  have hasked : (some (10 : Int)) ≠ none ∨ (some (5 : Int)) ≠ none := Or.inl (by decide)
  have hapart : ¬ SharesBlank query.toList := by
    intro hshared
    obtain ⟨parts, hparts, hempty⟩ := hshared.exists_cut?
    rw [hquery] at hparts
    cases hparts
    exact absurd hempty (by decide)
  have hrefused : ¬ SharesBlank unordered.toList := by
    intro hshared
    obtain ⟨parts, hparts, -⟩ := hshared.exists_cut?
    rw [hunordered] at hparts
    cases hparts
  have hshared : SharesBlank bare.toList :=
    @SharesBlank.ofStart _ [] "SELECT".toList "t ORDER BY b".toList (by simp)
      (by simp [IsSelect, isLetter]) (by decide) ⟨"SELECT FROM t".toList, ['b'], by decide⟩
  refine ⟨⟨hapart, ?_⟩, ⟨hrefused, ?_⟩, hshared, ?_⟩
  · rcases (addPaging_cuts (d := d) rfl hasked query).1 hapart with ⟨herror, -⟩ | hcut
    · rw [addPaging_of_asked rfl hasked, hquery] at herror
      cases herror
    · exact hcut
  · rcases (@addPaging_cuts d none (some 5) rfl (Or.inr (by decide)) unordered).1 hrefused with
      ⟨herror, -⟩ | ⟨_, _, _, _, hpieces, -⟩
    · exact herror
    · obtain ⟨parts, hparts⟩ := hpieces.exists_cut?
      rw [hunordered] at hparts
      cases hparts
  · exact (@addPaging_cuts d (some 1) none rfl (Or.inl (by decide)) bare).2 hshared

/-- **Two queries that are not cut into pieces but are not refused either**: one has no source, the
other no columns. -/
theorem addPaging_of_sharesBlank :
    let d : Dialect := ⟨.str "sqlserver2008", "", .rowNumber⟩
    (d.addPaging "SELECT a FROM ORDER BY b" (some 1) (some 2) =
        .ok ("SELECT * FROM (SELECT a, ROW_NUMBER() OVER (ORDER BY b) AS ROW_NUM FROM ) " ++
          "AS ROW_TABLE WHERE ROW_NUM >= 2 AND ROW_NUM < 4 ORDER BY ROW_NUM ") ∧
      ∀ start columns source order,
        ¬ CutsAs "SELECT a FROM ORDER BY b".toList start columns source order) ∧
    (d.addPaging "SELECT FROM t ORDER BY b" (some 1) none =
        .ok ("SELECT * FROM (SELECT , ROW_NUMBER() OVER (ORDER BY b) AS ROW_NUM FROM t) " ++
          "AS ROW_TABLE WHERE ROW_NUM >= 2 ORDER BY ROW_NUM ") ∧
      ∀ start columns source order,
        ¬ CutsAs "SELECT FROM t ORDER BY b".toList start columns source order) := by
  intro d
  have hnoSource : cut? "SELECT a FROM ORDER BY b".toList = some ⟨['a'], [], ['b']⟩ := by cbv
  have hnoColumns : cut? "SELECT FROM t ORDER BY b".toList = some ⟨[], ['t'], ['b']⟩ := by cbv
  refine ⟨⟨?_, fun start columns source order h => ?_⟩,
    ⟨?_, fun start columns source order h => ?_⟩⟩
  · rw [addPaging_of_asked rfl (Or.inl (Option.some_ne_none 1)), hnoSource]
    exact congrArg Except.ok (by decide +kernel)
  · have hfrom := Text.cutAtFirst_of_splitFirst?
      (show Text.splitFirst? fromWord "SELECT a FROM ORDER BY b".toList =
        some ("SELECT a".toList, "ORDER BY b".toList) by cbv)
    have horder := Text.cutAtLast_of_splitLast? (List.cons_ne_nil _ _)
      (show Text.splitLast? orderWord "SELECT a FROM ORDER BY b".toList =
        some ("SELECT a FROM".toList, "b".toList) by cbv)
    exact absurd (h.from_add_le_order hfrom horder) (by decide)
  · rw [addPaging_of_asked rfl (Or.inl (Option.some_ne_none 1)), hnoColumns]
    exact congrArg Except.ok (by decide +kernel)
  · have hfrom := Text.cutAtLast_of_splitLast? (List.cons_ne_nil _ _)
      (show Text.splitLast? fromWord "SELECT FROM t ORDER BY b".toList =
        some ("SELECT".toList, "t ORDER BY b".toList) by cbv)
    exact absurd (h.select_lt_from hfrom) (by decide)

end Paging

end Dialect
end SqlTemplate
