import SqlTemplate.Proofs.Likeness

/-!
# A line more at the end

What stands at the end of a template is still open: a line that is deeper than everything above it
goes into whatever block comes last, and so it can only complete what is there. **A template that
has been read can be read with such a line below it**, if the line is plain SQL, and a block tag
that still lacks a body gets one.

This is how a beginning of a template is judged. It may end in a tag whose body was to come, so it
cannot be asked to be a template itself; it is blameless when one more line makes it one.
-/

set_option autoImplicit false

namespace SqlTemplate

/-- SQL with no tag in it. -/
structure Line.Plain (line : Line) : Prop where
  significant : line.isComment = false
  untagged : InlineTag.splitFirst? line.trimmed = none
  noAt : line.trimmed.head? ≠ some '@'

namespace Line

variable {line : Line}

theorem trimmed_ne_nil_of_significant (h : line.isComment = false) : line.trimmed ≠ [] := by
  intro hnil
  rw [isComment, hnil] at h
  cases h

theorem Plain.ofStart?_eq_none (h : line.Plain) : BlockTag.ofStart? line.trimmed = none := by
  cases ht : BlockTag.ofStart? line.trimmed with
  | none => rfl
  | some tag =>
    -- every keyword begins with the character that a plain line does not begin with
    obtain ⟨after, hafter⟩ := Option.isSome_iff_exists.mp (BlockTag.startsWith_of_ofStart? ht)
    have htext := Text.dropStart?_eq_some_iff.mp hafter
    refine absurd ?_ h.noAt
    rw [htext]
    cases tag <;> rfl

theorem Plain.content (h : line.Plain) :
    line.content = .ok [.text (Fragment.lineText line.trimmed)] := by
  rw [content_untagged (trimmed_ne_nil_of_significant h.significant) h.untagged, if_neg h.noAt]

theorem readBody_of_plain {lines : List Line} (h : ∀ line ∈ lines, line.Plain) :
    readBody lines = .ok (lines.map fun line => .text (Fragment.lineText line.trimmed)) := by
  induction lines with
  | nil => exact readBody.eq_1
  | cons line rest ih =>
    have hplain := h line List.mem_cons_self
    have hrest := ih fun x hx => h x (List.mem_cons_of_mem _ hx)
    exact (Outline.readBody_content_eq_ok_iff hplain.ofStart?_eq_none).mpr
      ⟨_, _, hplain.content, hrest, rfl⟩

theorem Plain.readBody_single (h : line.Plain) :
    readBody [line] = .ok [.text (Fragment.lineText line.trimmed)] :=
  readBody_of_plain fun _ hx => List.mem_singleton.mp hx ▸ h

/-! ## Bodies of lines put together -/

variable {xs ys : List Line}

theorem body_append_of_deeper (h : ∀ x ∈ xs, line.deeper x = true) (ys : List Line) :
    line.body (xs ++ ys) = xs ++ line.body ys :=
  List.takeWhile_append_of_pos h

theorem afterBody_append_of_deeper (h : ∀ x ∈ xs, line.deeper x = true) (ys : List Line) :
    line.afterBody (xs ++ ys) = line.afterBody ys :=
  List.dropWhile_append_of_pos h

theorem body_eq_self (h : ∀ x ∈ xs, line.deeper x = true) : line.body xs = xs := by
  have hall := body_append_of_deeper h []
  rw [List.append_nil] at hall
  exact hall.trans (List.append_nil xs)

theorem afterBody_eq_nil (h : ∀ x ∈ xs, line.deeper x = true) : line.afterBody xs = [] := by
  have hall := afterBody_append_of_deeper h []
  rwa [List.append_nil] at hall

theorem body_eq_nil (h : ∀ y ∈ ys.head?, line.deeper y = false) : line.body ys = [] := by
  cases ys with
  | nil => rfl
  | cons y ys =>
    rw [body, List.takeWhile_cons, h y rfl]
    rfl

theorem afterBody_eq_self (h : ∀ y ∈ ys.head?, line.deeper y = false) :
    line.afterBody ys = ys := by
  have hparts := line.body_append_afterBody ys
  rwa [body_eq_nil h, List.nil_append] at hparts

/-- A line that is no deeper ends the body. -/
theorem body_append (hx : ∀ x ∈ xs, line.deeper x = true)
    (hy : ∀ y ∈ ys.head?, line.deeper y = false) : line.body (xs ++ ys) = xs := by
  rw [body_append_of_deeper hx, body_eq_nil hy, List.append_nil]

theorem afterBody_append (hx : ∀ x ∈ xs, line.deeper x = true)
    (hy : ∀ y ∈ ys.head?, line.deeper y = false) : line.afterBody (xs ++ ys) = ys := by
  rw [afterBody_append_of_deeper hx, afterBody_eq_self hy]

theorem not_deeper_of_head?_afterBody (rest : List Line) :
    ∀ y ∈ (line.afterBody rest).head?, line.deeper y = false := by
  intro y hy
  obtain ⟨later, hlater⟩ := List.head?_eq_some_iff.mp hy
  exact Outline.not_deeper_of_afterBody hlater

/-- Once a body has ended, it stays what it is whatever is added. -/
theorem body_append_of_ended {rest : List Line} (h : line.afterBody rest ≠ []) (ys : List Line) :
    line.body (rest ++ ys) = line.body rest ∧
      line.afterBody (rest ++ ys) = line.afterBody rest ++ ys := by
  have hdeeper : ∀ x ∈ line.body rest, line.deeper x = true :=
    fun x hx => Outline.deeper_of_mem_body hx
  have hclosed : ∀ y ∈ (line.afterBody rest ++ ys).head?, line.deeper y = false := by
    rw [List.head?_append_of_ne_nil _ h]
    exact not_deeper_of_head?_afterBody rest
  have hparts : rest ++ ys = line.body rest ++ (line.afterBody rest ++ ys) := by
    rw [← List.append_assoc, line.body_append_afterBody]
  rw [hparts]
  exact ⟨body_append hdeeper hclosed, afterBody_append hdeeper hclosed⟩

/-- A body that has not ended takes in what is deeper. -/
theorem body_append_of_open {rest : List Line} (h : line.afterBody rest = []) {z : Line}
    (hz : line.deeper z = true) :
    line.body (rest ++ [z]) = line.body rest ++ [z] ∧ line.afterBody (rest ++ [z]) = [] := by
  have hbody : line.body rest = rest := by
    have hparts := line.body_append_afterBody rest
    rwa [h, List.append_nil] at hparts
  have hdeeper : ∀ x ∈ rest ++ [z], line.deeper x = true := by
    intro x hx
    rcases List.mem_append.mp hx with hx | hx
    · rw [← hbody] at hx
      exact Outline.deeper_of_mem_body hx
    · rw [List.mem_singleton.mp hx]
      exact hz
  rw [hbody]
  exact ⟨body_eq_self hdeeper, afterBody_eq_nil hdeeper⟩

end Line

/-! ## What has been read can be read with one line more -/

variable {z : Line}

theorem readBody_append_plain (hz : z.Plain) {lines : List Line} {fs : List Fragment}
    (h : readBody lines = .ok fs) (hdeep : ∀ x ∈ lines, x.deeper z = true) :
    ∃ more, readBody (lines ++ [z]) = .ok more ∧ more ≠ [] := by
  induction lines using readBody.induct generalizing fs with
  | case1 => exact ⟨_, hz.readBody_single, List.cons_ne_nil _ _⟩
  | case2 line rest ht =>
    rw [readBody, ht] at h
    cases h
  | case3 line rest tag hn ht ihbody ihafter =>
    obtain ⟨head, children, siblings, hhead, hchildren, hne, hsiblings, -⟩ :=
      (Outline.readBody_tag_eq_ok_iff ht hn).mp h
    have hrest : ∀ x ∈ rest, x.deeper z = true := fun x hx => hdeep x (List.mem_cons_of_mem _ hx)
    rw [List.cons_append]
    by_cases hafter : line.afterBody rest = []
    · -- the tag's body is still open, so the line goes in there
      obtain ⟨more, hmore, hmorene⟩ := ihbody hchildren fun x hx =>
        hrest x ((Outline.mem_rest_iff x).mpr (Or.inl hx))
      obtain ⟨hbody, hnone⟩ := Line.body_append_of_open hafter (hdeep line List.mem_cons_self)
      refine ⟨_, (Outline.readBody_tag_eq_ok_iff ht hn).mpr
        ⟨head, more, [], hhead, ?_, hmorene, ?_, rfl⟩, List.cons_ne_nil _ _⟩
      · rw [hbody, hmore]
      · rw [hnone, readBody]
    · obtain ⟨more, hmore, -⟩ := ihafter hsiblings fun x hx =>
        hrest x ((Outline.mem_rest_iff x).mpr (Or.inr hx))
      obtain ⟨hbody, hlater⟩ := Line.body_append_of_ended hafter [z]
      refine ⟨_, (Outline.readBody_tag_eq_ok_iff ht hn).mpr
        ⟨head, children, more, hhead, ?_, hne, ?_, rfl⟩, List.cons_ne_nil _ _⟩
      · rw [hbody, hchildren]
      · rw [hlater, hmore]
  | case4 line rest ht ih =>
    obtain ⟨own, siblings, hown, hsiblings, -⟩ := (Outline.readBody_content_eq_ok_iff ht).mp h
    obtain ⟨more, hmore, hmorene⟩ := ih hsiblings fun x hx => hdeep x (List.mem_cons_of_mem _ hx)
    refine ⟨own ++ more, (Outline.readBody_content_eq_ok_iff ht).mpr ⟨own, more, hown, hmore, rfl⟩, ?_⟩
    exact List.append_ne_nil_of_right_ne_nil own hmorene

/-- At the root there has to be a definition for the line to go into. -/
theorem readsAs_append_plain (hz : z.Plain) {lines : List Line} {entries : Table}
    (h : ReadsAs lines entries) (hsome : lines ≠ []) (hdeep : ∀ x ∈ lines, x.deeper z = true) :
    ∃ more, ReadsAs (lines ++ [z]) more := by
  induction lines using readDefinitions.induct generalizing entries with
  | case1 => exact absurd rfl hsome
  | case2 line rest e he =>
    obtain ⟨d, others, hd, -⟩ := readsAs_cons_iff.mp h
    rw [he] at hd
    cases hd
  | case3 line rest d hd ih =>
    obtain ⟨d', others, hd', hothers, -⟩ := readsAs_cons_iff.mp h
    obtain ⟨ht, name, children, hhead, hchildren, hne, -⟩ := Outline.readDefinition_eq_ok_iff.mp hd'
    have hrest : ∀ x ∈ rest, x.deeper z = true := fun x hx => hdeep x (List.mem_cons_of_mem _ hx)
    rw [List.cons_append]
    by_cases hafter : line.afterBody rest = []
    · obtain ⟨more, hmore, hmorene⟩ := readBody_append_plain hz hchildren fun x hx =>
        hrest x ((Outline.mem_rest_iff x).mpr (Or.inl hx))
      obtain ⟨hbody, hnone⟩ := Line.body_append_of_open hafter (hdeep line List.mem_cons_self)
      refine ⟨_, readsAs_cons_iff.mpr ⟨⟨line, name, more⟩, [], ?_, ?_, rfl⟩⟩
      · rw [hbody]
        exact Outline.readDefinition_eq_ok_iff.mpr ⟨ht, name, more, hhead, hmore, hmorene, rfl⟩
      · rw [hnone]
        exact readsAs_nil_iff.mpr rfl
    · obtain ⟨more, hmore⟩ := ih hothers hafter fun x hx =>
        hrest x ((Outline.mem_rest_iff x).mpr (Or.inr hx))
      obtain ⟨hbody, hlater⟩ := Line.body_append_of_ended hafter [z]
      refine ⟨_, readsAs_cons_iff.mpr ⟨d', more, ?_, ?_, rfl⟩⟩
      · rw [hbody, hd']
      · rw [hlater]
        exact hmore

end SqlTemplate
