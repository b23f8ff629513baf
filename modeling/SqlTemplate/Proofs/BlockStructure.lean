import SqlTemplate.Proofs.Enclosure
import SqlTemplate.Proofs.Outcome
import Mathlib.Data.List.Basic

/-!
# Block structure is the layout

Every line of a template stands for fragments: a block tag for one block, whose children are the
fragments of the lines that belong to it by the nearest-open-tag rule, and any other line for the
fragments of its content. `Assigns` says this of all lines at once, without an order in which they
would be read.

Reading a body succeeds exactly when its lines can be given their fragments in this way. The proof
needs no invariant about a position: a tag's line splits what follows into its body and the rest,
and an assignment to the whole is an assignment to the two parts, each on its own, together with
the tag's own line (`assigns_tag_iff`). Reading takes the lines apart in just that way.
-/

set_option autoImplicit false

namespace SqlTemplate

namespace Outline

/-- The lines have the fragments that `made` gives them: a block tag in its form, with something
below it, stands for the block of what belongs to it, and any other line for its content. -/
structure Assigns (lines : List Line) (made : Nat → List Fragment) : Prop where
  block : ∀ (i : Nat) (line : Line) (tag : BlockTag),
    lines[i]? = some line → BlockTag.ofStart? line.trimmed = some tag →
      ∃ head, tag.readHead? line.trimmed = some head ∧ members lines (some i) ≠ [] ∧
        made i = [.block head ((members lines (some i)).flatMap made)]
  content : ∀ (i : Nat) (line : Line),
    lines[i]? = some line → BlockTag.ofStart? line.trimmed = none → line.content = .ok (made i)

/-! ## Descriptions of parts -/

theorem flatMap_members_congr {lines : List Line} {made made' : Nat → List Fragment}
    (h : ∀ i < lines.length, made i = made' i) (owner : Option Nat) :
    (members lines owner).flatMap made = (members lines owner).flatMap made' := by
  refine List.flatMap_congr fun i hi => h i ?_
  exact List.mem_range.mp (List.mem_filter.mp hi).1

theorem Assigns.congr {lines : List Line} {made made' : Nat → List Fragment}
    (h : ∀ i < lines.length, made i = made' i) (ha : Assigns lines made) :
    Assigns lines made' where
  block i line tag hi ht := by
    obtain ⟨head, hhead, hne, hmade⟩ := ha.block i line tag hi ht
    obtain ⟨hlt, -⟩ := List.getElem?_eq_some_iff.mp hi
    exact ⟨head, hhead, hne, by rw [← h i hlt, hmade, flatMap_members_congr h]⟩
  content i line hi ht := by
    obtain ⟨hlt, -⟩ := List.getElem?_eq_some_iff.mp hi
    rw [ha.content i line hi ht, h i hlt]

/-- **A description below a tag's line falls into three parts**: the tag's own line, its body as
lines by themselves, and the lines after the body as lines by themselves. -/
theorem assigns_tag_iff {line : Line} {rest : List Line} {tag : BlockTag}
    {made : Nat → List Fragment} (ht : BlockTag.ofStart? line.trimmed = some tag) :
    Assigns (line :: rest) made ↔
      (∃ head, tag.readHead? line.trimmed = some head ∧ members (line.body rest) none ≠ [] ∧
        made 0 = [.block head ((members (line.body rest) none).flatMap fun i => made (i + 1))]) ∧
      Assigns (line.body rest) (fun i => made (i + 1)) ∧
      Assigns (line.afterBody rest) (fun k => made (k + ((line.body rest).length + 1))) := by
  have hopen : line.opensBlock = true := by rw [Line.opensBlock, ht]; rfl
  have hself : (members (line :: rest) (some 0)).flatMap made =
      (members (line.body rest) none).flatMap fun i => made (i + 1) := by
    rw [members_tag_self hopen, List.flatMap_map]
  constructor
  · intro ha
    refine ⟨?_, ⟨?_, ?_⟩, ⟨?_, ?_⟩⟩
    · obtain ⟨head, hhead, hne, hmade⟩ := ha.block 0 line tag rfl ht
      refine ⟨head, hhead, fun h => hne ?_, by rw [hmade, hself]⟩
      rw [members_tag_self hopen, h, List.map_nil]
    · intro j inner innerTag hj hit
      obtain ⟨hlt, -⟩ := List.getElem?_eq_some_iff.mp hj
      obtain ⟨head, hhead, hne, hmade⟩ :=
        ha.block (j + 1) inner innerTag (by rw [getElem?_body hlt, hj]) hit
      rw [members_tag_body hopen hlt, List.flatMap_map] at hmade
      rw [members_tag_body hopen hlt] at hne
      exact ⟨head, hhead, fun h => hne (by rw [h, List.map_nil]), hmade⟩
    · intro j inner hj hit
      obtain ⟨hlt, -⟩ := List.getElem?_eq_some_iff.mp hj
      exact ha.content (j + 1) inner (by rw [getElem?_body hlt, hj]) hit
    · intro k inner innerTag hk hit
      obtain ⟨head, hhead, hne, hmade⟩ :=
        ha.block _ inner innerTag (by rw [getElem?_afterBody k, hk]) hit
      rw [members_tag_afterBody hopen k, List.flatMap_map] at hmade
      rw [members_tag_afterBody hopen k] at hne
      exact ⟨head, hhead, fun h => hne (by rw [h, List.map_nil]), hmade⟩
    · intro k inner hk hit
      exact ha.content _ inner (by rw [getElem?_afterBody k, hk]) hit
  · intro h
    obtain ⟨⟨head, hhead, hne, hmade⟩, hbody, hafter⟩ := h
    refine ⟨?_, ?_⟩
    -- whom a line belongs to was decided in the part it is in
    · intro i inner innerTag hi hit
      rcases position_cases line rest i with rfl | ⟨j, hj, rfl⟩ | ⟨k, rfl⟩
      · obtain rfl : line = inner := by simpa using hi
        obtain rfl : tag = innerTag := by rw [ht] at hit; simpa using hit
        refine ⟨head, hhead, fun h => hne ?_, by rw [hmade, hself]⟩
        rwa [members_tag_self hopen, List.map_eq_nil_iff] at h
      · rw [getElem?_body hj] at hi
        obtain ⟨head, hhead, hne, hmade⟩ := hbody.block j inner innerTag hi hit
        rw [members_tag_body hopen hj, List.flatMap_map]
        exact ⟨head, hhead, fun h => hne (List.map_eq_nil_iff.mp h), hmade⟩
      · rw [getElem?_afterBody k] at hi
        obtain ⟨head, hhead, hne, hmade⟩ := hafter.block k inner innerTag hi hit
        rw [members_tag_afterBody hopen k, List.flatMap_map]
        exact ⟨head, hhead, fun h => hne (List.map_eq_nil_iff.mp h), hmade⟩
    · intro i inner hi hit
      rcases position_cases line rest i with rfl | ⟨j, hj, rfl⟩ | ⟨k, rfl⟩
      · obtain rfl : line = inner := by simpa using hi
        rw [ht] at hit
        exact absurd hit (by simp)
      · rw [getElem?_body hj] at hi
        exact hbody.content j inner hi hit
      · rw [getElem?_afterBody k] at hi
        exact hafter.content k inner hi hit

theorem assigns_content_iff {line : Line} {rest : List Line} {made : Nat → List Fragment}
    (ht : BlockTag.ofStart? line.trimmed = none) :
    Assigns (line :: rest) made ↔
      line.content = .ok (made 0) ∧ Assigns rest (fun i => made (i + 1)) := by
  have hopen : line.opensBlock = false := by rw [Line.opensBlock, ht]; rfl
  constructor
  · intro ha
    refine ⟨ha.content 0 line rfl ht, ⟨?_, ?_⟩⟩
    · intro j inner innerTag hj hit
      obtain ⟨head, hhead, hne, hmade⟩ := ha.block (j + 1) inner innerTag hj hit
      rw [members_content_some hopen, List.flatMap_map] at hmade
      rw [members_content_some hopen] at hne
      exact ⟨head, hhead, fun h => hne (by rw [h, List.map_nil]), hmade⟩
    · intro j inner hj hit
      exact ha.content (j + 1) inner hj hit
  · intro h
    obtain ⟨hcontent, hrest⟩ := h
    refine ⟨?_, ?_⟩
    · intro i inner innerTag hi hit
      cases i with
      | zero =>
        obtain rfl : line = inner := by simpa using hi
        rw [ht] at hit
        exact absurd hit (by simp)
      | succ j =>
        obtain ⟨head, hhead, hne, hmade⟩ := hrest.block j inner innerTag hi hit
        rw [members_content_some hopen, List.flatMap_map]
        exact ⟨head, hhead, fun h => hne (List.map_eq_nil_iff.mp h), hmade⟩
    · intro i inner hi hit
      cases i with
      | zero =>
        obtain rfl : line = inner := by simpa using hi
        exact hcontent
      | succ j => exact hrest.content j inner hi hit

/-- The fragments of a tag's line, of its body and of what follows, as the fragments of all of
these lines. -/
def splice (own : List Fragment) (size : Nat) (inBody after : Nat → List Fragment) :
    Nat → List Fragment
  | 0 => own
  | i + 1 => if i < size then inBody i else after (i - size)

theorem splice_body {own : List Fragment} {size : Nat} {inBody after : Nat → List Fragment} {i : Nat}
    (hi : i < size) : splice own size inBody after (i + 1) = inBody i := by
  rw [splice, if_pos hi]

theorem splice_after {own : List Fragment} {size : Nat} {inBody after : Nat → List Fragment}
    (k : Nat) : splice own size inBody after (k + (size + 1)) = after k := by
  rw [← Nat.add_assoc, splice, if_neg (by omega), Nat.add_sub_cancel]

/-! ## No line stands for nothing -/

/-- No line is blank. -/
def NonBlank (lines : List Line) : Prop := ∀ line ∈ lines, line.trimmed ≠ []

section NonBlank

variable {line : Line} {rest : List Line}

theorem NonBlank.tail (h : NonBlank (line :: rest)) : NonBlank rest :=
  fun x hx => h x (List.mem_cons_of_mem _ hx)

theorem NonBlank.body (h : NonBlank rest) : NonBlank (line.body rest) :=
  fun x hx => h x ((mem_rest_iff x).mpr (Or.inl hx))

theorem NonBlank.afterBody (h : NonBlank rest) : NonBlank (line.afterBody rest) :=
  fun x hx => h x ((mem_rest_iff x).mpr (Or.inr hx))

end NonBlank

theorem content_ne_nil {line : Line} {fs : List Fragment} (hfull : line.trimmed ≠ [])
    (h : line.content = .ok fs) : fs ≠ [] := by
  unfold Line.content at h
  split at h
  · next hnil => exact absurd hnil hfull
  · split at h
    · split at h
      · cases h
      · cases h
        exact List.cons_ne_nil _ _
    · split at h
      · cases h
      · split at h
        · cases h
        · cases h
          simp

theorem Assigns.made_ne_nil {lines : List Line} {made : Nat → List Fragment}
    (hfull : NonBlank lines) (ha : Assigns lines made) {i : Nat}
    (hi : i < lines.length) : made i ≠ [] := by
  have hline : lines[i]? = some lines[i] := List.getElem?_eq_getElem hi
  cases ht : BlockTag.ofStart? lines[i].trimmed with
  | some tag =>
    obtain ⟨head, -, -, hmade⟩ := ha.block i _ tag hline ht
    rw [hmade]
    exact List.cons_ne_nil _ _
  | none => exact content_ne_nil (hfull _ (List.getElem_mem hi)) (ha.content i _ hline ht)

/-- So a body has children as soon as it has a line. -/
theorem Assigns.flatMap_eq_nil_iff {lines : List Line} {made : Nat → List Fragment}
    (hfull : NonBlank lines) (ha : Assigns lines made) (owner : Option Nat) :
    (members lines owner).flatMap made = [] ↔ members lines owner = [] := by
  constructor
  · intro h
    cases hm : members lines owner with
    | nil => rfl
    | cons i others =>
      have hmem : i ∈ members lines owner := by rw [hm]; exact List.mem_cons_self
      have hi : i < lines.length := List.mem_range.mp (List.mem_filter.mp hmem).1
      exact absurd (List.flatMap_eq_nil_iff.mp h i hmem) (ha.made_ne_nil hfull hi)
  · intro h
    rw [h, List.flatMap_nil]

/-! ## What lines stand for, a line at a time -/

/-- The fragments that lines stand for, taken together. -/
def StandFor (lines : List Line) (fs : List Fragment) : Prop :=
  ∃ made, Assigns lines made ∧ fs = (members lines none).flatMap made

theorem standFor_nil_iff {fs : List Fragment} : StandFor [] fs ↔ fs = [] := by
  constructor
  · intro h
    obtain ⟨made, -, rfl⟩ := h
    rfl
  · intro h
    subst h
    exact ⟨fun _ => [], ⟨fun i line tag h => by simp at h, fun i line h => by simp at h⟩, rfl⟩

theorem standFor_tag_iff {line : Line} {rest : List Line} {tag : BlockTag} {fs : List Fragment}
    (hfull : NonBlank (line.body rest))
    (ht : BlockTag.ofStart? line.trimmed = some tag) :
    StandFor (line :: rest) fs ↔
      ∃ head children siblings, tag.readHead? line.trimmed = some head ∧
        StandFor (line.body rest) children ∧ children ≠ [] ∧
        StandFor (line.afterBody rest) siblings ∧ fs = .block head children :: siblings := by
  have hopen : line.opensBlock = true := by rw [Line.opensBlock, ht]; rfl
  constructor
  · intro h
    obtain ⟨made, ha, rfl⟩ := h
    obtain ⟨⟨head, hhead, hne, hmade⟩, hbody, hafter⟩ := (assigns_tag_iff ht).mp ha
    refine ⟨head, _, _, hhead, ⟨_, hbody, rfl⟩, ?_, ⟨_, hafter, rfl⟩, ?_⟩
    · exact fun h => hne ((hbody.flatMap_eq_nil_iff hfull none).mp h)
    · rw [members_tag_root hopen, List.flatMap_cons, List.flatMap_map, hmade]
      rfl
  · intro h
    obtain ⟨head, _, _, hhead, ⟨inBody, hbody, rfl⟩, hne, ⟨after, hafter, rfl⟩, rfl⟩ := h
    -- the fragments of the parts are put together again by position
    have hin : ∀ i < (line.body rest).length, inBody i =
        splice [.block head ((members (line.body rest) none).flatMap inBody)]
          (line.body rest).length inBody after (i + 1) := fun i hi => (splice_body hi).symm
    refine ⟨splice [.block head ((members (line.body rest) none).flatMap inBody)]
      (line.body rest).length inBody after, ?_, ?_⟩
    · rw [assigns_tag_iff ht]
      refine ⟨⟨head, hhead, fun h => hne (by rw [h, List.flatMap_nil]), ?_⟩, hbody.congr hin, ?_⟩
      · rw [splice, ← flatMap_members_congr hin]
      · simpa only [splice_after] using hafter
    · rw [members_tag_root hopen, List.flatMap_cons, List.flatMap_map]
      simp only [splice_after]
      rfl

theorem standFor_content_iff {line : Line} {rest : List Line} {fs : List Fragment}
    (ht : BlockTag.ofStart? line.trimmed = none) :
    StandFor (line :: rest) fs ↔
      ∃ own siblings, line.content = .ok own ∧ StandFor rest siblings ∧ fs = own ++ siblings := by
  have hopen : line.opensBlock = false := by rw [Line.opensBlock, ht]; rfl
  constructor
  · intro h
    obtain ⟨made, ha, rfl⟩ := h
    obtain ⟨hown, hrest⟩ := (assigns_content_iff ht).mp ha
    refine ⟨_, _, hown, ⟨_, hrest, rfl⟩, ?_⟩
    rw [members_content_root hopen, List.flatMap_cons, List.flatMap_map]
  · intro h
    obtain ⟨own, _, hown, ⟨made, ha, rfl⟩, rfl⟩ := h
    refine ⟨splice own 0 made made, (assigns_content_iff ht).mpr ⟨hown, ha⟩, ?_⟩
    rw [members_content_root hopen, List.flatMap_cons, List.flatMap_map]
    rfl

/-! ## Reading a body, a line at a time -/

theorem readHead_eq_ok_iff {tag : BlockTag} {line : Line} {head : Head} :
    tag.readHead line = .ok head ↔ tag.readHead? line.trimmed = some head := by
  unfold BlockTag.readHead
  cases tag.readHead? line.trimmed <;> simp

theorem requireBody_eq_ok_iff {tag : BlockTag} {line : Line} {children fs : List Fragment} :
    tag.requireBody line children = .ok fs ↔ children ≠ [] ∧ fs = children := by
  unfold BlockTag.requireBody
  cases children with
  | nil => simp
  | cons f rest => simp [eq_comm]

theorem readBody_tag_eq_ok_iff {line : Line} {rest : List Line} {tag : BlockTag}
    {fs : List Fragment} (ht : BlockTag.ofStart? line.trimmed = some tag) (hn : tag ≠ .naming) :
    readBody (line :: rest) = .ok fs ↔
      ∃ head children siblings, tag.readHead? line.trimmed = some head ∧
        readBody (line.body rest) = .ok children ∧ children ≠ [] ∧
        readBody (line.afterBody rest) = .ok siblings ∧ fs = .block head children :: siblings := by
  rw [readBody, ht]
  simp only [Outcome.bind_eq_ok_iff, readHead_eq_ok_iff, requireBody_eq_ok_iff, pure, Except.pure,
    Except.ok.injEq]
  constructor
  · intro h
    obtain ⟨head, hhead, children, hchildren, _, ⟨hne, rfl⟩, siblings, hsiblings, rfl⟩ := h
    exact ⟨head, _, siblings, hhead, hchildren, hne, hsiblings, rfl⟩
  · intro h
    obtain ⟨head, children, siblings, hhead, hchildren, hne, hsiblings, rfl⟩ := h
    exact ⟨head, hhead, children, hchildren, _, ⟨hne, rfl⟩, siblings, hsiblings, rfl⟩

theorem readBody_content_eq_ok_iff {line : Line} {rest : List Line} {fs : List Fragment}
    (ht : BlockTag.ofStart? line.trimmed = none) :
    readBody (line :: rest) = .ok fs ↔
      ∃ own siblings, line.content = .ok own ∧ readBody rest = .ok siblings ∧
        fs = own ++ siblings := by
  rw [readBody, ht]
  simp only [Outcome.bind_eq_ok_iff, pure, Except.pure, Except.ok.injEq]
  constructor
  · intro h
    obtain ⟨own, hown, siblings, hsiblings, rfl⟩ := h
    exact ⟨own, siblings, hown, hsiblings, rfl⟩
  · intro h
    obtain ⟨own, siblings, hown, hsiblings, rfl⟩ := h
    exact ⟨own, hown, siblings, hsiblings, rfl⟩

/-- **Below the root, reading is what the layout says.** -/
theorem readBody_eq_ok_iff {lines : List Line} (hfull : NonBlank lines)
    {fs : List Fragment} :
    readBody lines = .ok fs ↔
      (∀ line ∈ lines, BlockTag.ofStart? line.trimmed ≠ some .naming) ∧ StandFor lines fs := by
  -- both sides take a tag's line, its body and the rest apart in the same way
  induction lines using readBody.induct generalizing fs with
  | case1 =>
    rw [readBody, standFor_nil_iff]
    simp [eq_comm]
  | case2 line rest ht =>
    rw [readBody, ht]
    constructor
    · intro h
      cases h
    · intro h
      obtain ⟨hnone, -⟩ := h
      exact absurd ht (hnone line List.mem_cons_self)
  | case3 line rest tag hn ht ihbody ihafter =>
    have hfullBody : NonBlank (line.body rest) := hfull.tail.body
    have hfullAfter : NonBlank (line.afterBody rest) := hfull.tail.afterBody
    rw [readBody_tag_eq_ok_iff ht hn, standFor_tag_iff hfullBody ht, List.forall_mem_cons]
    constructor
    · intro h
      obtain ⟨head, children, siblings, hhead, hchildren, hne, hsiblings, rfl⟩ := h
      obtain ⟨hnoneBody, hbody⟩ := (ihbody hfullBody).mp hchildren
      obtain ⟨hnoneAfter, hafter⟩ := (ihafter hfullAfter).mp hsiblings
      refine ⟨⟨fun h => hn (Option.some.inj (ht ▸ h)), fun x hx => ?_⟩,
        head, children, siblings, hhead, hbody, hne, hafter, rfl⟩
      have hparts : x ∈ line.body rest ∨ x ∈ line.afterBody rest := (mem_rest_iff x).mp hx
      rcases hparts with hx | hx
      · exact hnoneBody x hx
      · exact hnoneAfter x hx
    · intro h
      obtain ⟨⟨-, hnone⟩, head, children, siblings, hhead, hbody, hne, hafter, rfl⟩ := h
      have hchildren := (ihbody hfullBody).mpr
        ⟨fun x hx => hnone x ((mem_rest_iff x).mpr (Or.inl hx)), hbody⟩
      have hsiblings := (ihafter hfullAfter).mpr
        ⟨fun x hx => hnone x ((mem_rest_iff x).mpr (Or.inr hx)), hafter⟩
      exact ⟨head, children, siblings, hhead, hchildren, hne, hsiblings, rfl⟩
  | case4 line rest ht ih =>
    rw [readBody_content_eq_ok_iff ht, standFor_content_iff ht, List.forall_mem_cons]
    constructor
    · intro h
      obtain ⟨own, siblings, hown, hsiblings, rfl⟩ := h
      obtain ⟨hnone, hrest⟩ := (ih hfull.tail).mp hsiblings
      exact ⟨⟨by rw [ht]; simp, hnone⟩, own, siblings, hown, hrest, rfl⟩
    · intro h
      obtain ⟨⟨-, hnone⟩, own, siblings, hown, hrest, rfl⟩ := h
      exact ⟨own, siblings, hown, (ih hfull.tail).mpr ⟨hnone, hrest⟩, rfl⟩

end Outline
end SqlTemplate
