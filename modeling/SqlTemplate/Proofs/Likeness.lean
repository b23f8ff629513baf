import SqlTemplate.Proofs.ContentLine
import SqlTemplate.Proofs.DefinedTable

/-!
# Lines that read alike

Of a line, reading looks at the trimmed text and, against the lines around it, at whether one is
deeper than another. So a template may be moved down a file or laid out with other indents, and
**as long as texts and the order of depths stay, the same trees come out of it**. Only the faults
know more, because they show a line with its number.

`ReadsAs` is what is kept: that reading came to the end, and which named trees it found.
-/

set_option autoImplicit false

namespace SqlTemplate

/-- Reading the lines meets no fault and finds these named trees. -/
def ReadsAs (lines : List Line) (entries : Table) : Prop :=
  ∃ ds, readDefinitions lines = ⟨ds, none⟩ ∧ entries = ds.map fun d => (d.name, d.tree)

theorem readsAs_nil_iff {entries : Table} : ReadsAs [] entries ↔ entries = [] := by
  unfold ReadsAs
  rw [readDefinitions]
  constructor
  · intro h
    obtain ⟨ds, hds, rfl⟩ := h
    cases hds
    rfl
  · intro h
    exact ⟨[], rfl, h⟩

theorem readsAs_cons_iff {line : Line} {rest : List Line} {entries : Table} :
    ReadsAs (line :: rest) entries ↔
      ∃ d others, readDefinition line (line.body rest) = .ok d ∧
        ReadsAs (line.afterBody rest) others ∧ entries = (d.name, d.tree) :: others := by
  unfold ReadsAs
  rw [readDefinitions]
  cases hd : readDefinition line (line.body rest) with
  | error e =>
    constructor
    · intro h
      obtain ⟨ds, hds, -⟩ := h
      cases hds
    · intro h
      obtain ⟨d, others, hd', -⟩ := h
      cases hd'
  | ok d =>
    constructor
    · intro h
      obtain ⟨ds, hds, rfl⟩ := h
      cases hrest : readDefinitions (line.afterBody rest) with
      | mk more fault =>
        rw [hrest] at hds
        cases hds
        exact ⟨d, _, rfl, ⟨more, rfl, rfl⟩, rfl⟩
    · intro h
      obtain ⟨d', others, hd', ⟨more, hmore, rfl⟩, rfl⟩ := h
      cases hd'
      refine ⟨d :: more, ?_, rfl⟩
      rw [hmore]
      rfl

/-- A first line reads as the definition that its text opens with the lines of its body. -/
theorem readsAs_cons_iff_parts {line : Line} {rest : List Line} {entries : Table} :
    ReadsAs (line :: rest) entries ↔
      BlockTag.ofStart? line.trimmed = some .naming ∧ ∃ name children others,
        BlockTag.readHead? .naming line.trimmed = some (.named name) ∧
        readBody (line.body rest) = .ok children ∧ children ≠ [] ∧
        ReadsAs (line.afterBody rest) others ∧
        entries = (name, .block (.named name) children) :: others := by
  simp only [readsAs_cons_iff, Outline.readDefinition_eq_ok_iff]
  constructor
  · intro h
    obtain ⟨_, others, ⟨ht, name, children, hhead, hbody, hne, rfl⟩, hothers, rfl⟩ := h
    exact ⟨ht, name, children, others, hhead, hbody, hne, hothers, rfl⟩
  · intro h
    obtain ⟨ht, name, children, others, hhead, hbody, hne, hothers, rfl⟩ := h
    exact ⟨⟨line, name, children⟩, others, ⟨ht, name, children, hhead, hbody, hne, rfl⟩,
      hothers, rfl⟩

/-- Induction over the definitions of a template, in which the body of each is stepped over. -/
@[elab_as_elim]
theorem definitions_induction {motive : List Line → Prop} (nil : motive [])
    (cons : ∀ line rest, motive (line.afterBody rest) → motive (line :: rest))
    (lines : List Line) : motive lines := by
  induction hlen : lines.length using Nat.strongRecOn generalizing lines with
  | ind n ih =>
    cases lines with
    | nil => exact nil
    | cons line rest =>
      have hshorter : (line.afterBody rest).length < n := by
        have hle := line.length_afterBody_le rest
        simp only [List.length_cons] at hlen
        omega
      exact cons line rest (ih _ hshorter _ rfl)

/-! ## The same texts, and the same order of depths -/

/-- A line with the same trimmed text, at the depth that `f` gives. -/
structure Line.Alike (f : Nat → Nat) (x y : Line) : Prop where
  trimmed : y.trimmed = x.trimmed
  indent : y.indent = f x.indent

theorem Line.content_eq_ok_iff_of_trimmed {x y : Line} (h : y.trimmed = x.trimmed)
    {fs : List Fragment} : x.content = .ok fs ↔ y.content = .ok fs := by
  induction x using Line.content_induction generalizing y fs with
  | blank x hnil => rw [content_blank hnil, content_blank (h.trans hnil)]
  | untagged x hne hs =>
    have hne' : y.trimmed ≠ [] := by rwa [h]
    have hs' : InlineTag.splitFirst? y.trimmed = none := by rwa [h]
    rw [content_untagged hne hs, content_untagged hne' hs', h]
    split
    · constructor <;> intro he <;> cases he
    · exact Iff.rfl
  | unread x before tag after hs hr =>
    rw [content_unread hs hr, content_unread (h ▸ hs) hr]
    constructor <;> intro he <;> cases he
  | tagged x before tag after fragment rest hs hr ih =>
    -- what the tag leaves is the same text in both lines
    have hrest : (y.withChars rest).trimmed = (x.withChars rest).trimmed := rfl
    have hs' : InlineTag.splitFirst? y.trimmed = some (before, tag, after) := by rwa [h]
    have hx := content_tagged hs hr
    have hy := content_tagged hs' hr
    rw [hx, hy]
    simp only [Outcome.map_eq_ok_iff, ih hrest]

namespace Line.Alike

variable {f : Nat → Nat} {x y x' y' : Line}

theorem deeper (hf : StrictMono f) (hx : Alike f x x') (hy : Alike f y y') :
    x'.deeper y' = x.deeper y := by
  simp only [Line.deeper, hx.indent, hy.indent, hf.lt_iff_lt]

theorem body (hf : StrictMono f) {xs ys : List Line} (hx : Alike f x x')
    (h : List.Forall₂ (Alike f) xs ys) :
    List.Forall₂ (Alike f) (x.body xs) (x'.body ys) := by
  unfold Line.body
  induction h with
  | nil => exact .nil
  | @cons a b as bs hab _ ih =>
    rw [List.takeWhile_cons, List.takeWhile_cons, hx.deeper hf hab]
    split
    · exact .cons hab ih
    · exact .nil

theorem afterBody (hf : StrictMono f) {xs ys : List Line} (hx : Alike f x x')
    (h : List.Forall₂ (Alike f) xs ys) :
    List.Forall₂ (Alike f) (x.afterBody xs) (x'.afterBody ys) := by
  unfold Line.afterBody
  induction h with
  | nil => exact .nil
  | @cons a b as bs hab has ih =>
    rw [List.dropWhile_cons, List.dropWhile_cons, hx.deeper hf hab]
    split
    · exact ih
    · exact .cons hab has

end Line.Alike

section Alike

variable {f : Nat → Nat} {xs ys : List Line}

theorem readBody_eq_ok_iff_of_alike (hf : StrictMono f) (h : List.Forall₂ (Line.Alike f) xs ys)
    {fs : List Fragment} : readBody xs = .ok fs ↔ readBody ys = .ok fs := by
  induction xs using readBody.induct generalizing ys fs with
  | case1 =>
    cases h
    exact Iff.rfl
  | case2 line rest ht =>
    cases h with
    | cons hline hrest =>
      have ht' := ht
      rw [← hline.trimmed] at ht'
      rw [readBody, readBody, ht, ht']
      constructor <;> intro he <;> cases he
  | case3 line rest tag hn ht ihbody ihafter =>
    cases h with
    | @cons _ line' _ rest' hline hrest =>
      have ht' := ht
      rw [← hline.trimmed] at ht'
      rw [Outline.readBody_tag_eq_ok_iff ht hn, Outline.readBody_tag_eq_ok_iff ht' hn]
      simp only [hline.trimmed, ihbody (hline.body hf hrest), ihafter (hline.afterBody hf hrest)]
  | case4 line rest ht ih =>
    cases h with
    | @cons _ line' _ rest' hline hrest =>
      have ht' := ht
      rw [← hline.trimmed] at ht'
      rw [Outline.readBody_content_eq_ok_iff ht, Outline.readBody_content_eq_ok_iff ht']
      simp only [Line.content_eq_ok_iff_of_trimmed hline.trimmed, ih hrest]

/-- **Lines that are alike read as the same trees.** -/
theorem readsAs_iff_of_alike (hf : StrictMono f) (h : List.Forall₂ (Line.Alike f) xs ys)
    {entries : Table} : ReadsAs xs entries ↔ ReadsAs ys entries := by
  induction xs using definitions_induction generalizing ys entries with
  | nil =>
    cases h
    exact Iff.rfl
  | cons line rest ih =>
    cases h with
    | @cons _ line' _ rest' hline hrest =>
      simp only [readsAs_cons_iff_parts, hline.trimmed,
        readBody_eq_ok_iff_of_alike hf (hline.body hf hrest), ih (hline.afterBody hf hrest)]

end Alike

end SqlTemplate
