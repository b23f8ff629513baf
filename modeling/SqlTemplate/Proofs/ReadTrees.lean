import SqlTemplate.Proofs.Numbering

/-!
# What all trees that are read have

A tree that is read from lines is put together in three ways: a line of content makes some nodes,
nodes are put below the head of a block, and nodes stand after one another. A property that comes
from the lines and passes through these is a property of every tree in the table. `Inherited` says
what is to be shown for that, a line at a time, so that **the recursion of the layout is gone
through once, here**.
-/

set_option autoImplicit false

namespace SqlTemplate

/-- A property of lists of nodes that reading passes on from the lines to what it makes of them. -/
structure Inherited (lines : List Line) (P : List Fragment → Prop) : Prop where
  nil : P []
  append : ∀ {xs ys : List Fragment}, P xs → P ys → P (xs ++ ys)
  content : ∀ line ∈ lines, ∀ fs, line.content = .ok fs → P fs
  block : ∀ line ∈ lines, ∀ (tag : BlockTag) (head : Head) (children : List Fragment),
    tag ≠ .naming → tag.readHead? line.trimmed = some head → children ≠ [] → P children →
      P [.block head children]

/-- The tree of a definition on one of the lines, whose children have the property. -/
structure DefinedBy (lines : List Line) (P : List Fragment → Prop) (name : String)
    (tree : Fragment) : Prop where
  exists_line : ∃ line ∈ lines, BlockTag.readHead? .naming line.trimmed = some (.named name)
  exists_children : ∃ children, tree = .block (.named name) children ∧ children ≠ [] ∧ P children

namespace Inherited

variable {lines : List Line} {P : List Fragment → Prop}

theorem readBody (hP : Inherited lines P) {body : List Line} {fs : List Fragment}
    (hsub : body ⊆ lines) (h : SqlTemplate.readBody body = .ok fs) : P fs := by
  induction body using readBody.induct generalizing fs with
  | case1 =>
    rw [SqlTemplate.readBody] at h
    cases h
    exact hP.nil
  | case2 line rest ht =>
    rw [SqlTemplate.readBody, ht] at h
    cases h
  | case3 line rest tag hn ht ihbody ihafter =>
    obtain ⟨head, children, siblings, hhead, hchildren, hne, hsiblings, rfl⟩ :=
      (Outline.readBody_tag_eq_ok_iff ht hn).mp h
    have hrest : rest ⊆ lines := fun x hx => hsub (List.mem_cons_of_mem _ hx)
    have hinner := ihbody (fun x hx => hrest ((Outline.mem_rest_iff x).mpr (Or.inl hx))) hchildren
    have hlater := ihafter (fun x hx => hrest ((Outline.mem_rest_iff x).mpr (Or.inr hx))) hsiblings
    exact hP.append (hP.block line (hsub List.mem_cons_self) tag head _ hn hhead hne hinner) hlater
  | case4 line rest ht ih =>
    obtain ⟨own, siblings, hown, hsiblings, rfl⟩ := (Outline.readBody_content_eq_ok_iff ht).mp h
    have hlater := ih (fun x hx => hsub (List.mem_cons_of_mem _ hx)) hsiblings
    exact hP.append (hP.content line (hsub List.mem_cons_self) own hown) hlater

theorem readsAs (hP : Inherited lines P) {xs : List Line} {entries : Table} (hsub : xs ⊆ lines)
    (h : ReadsAs xs entries) : ∀ entry ∈ entries, DefinedBy lines P entry.1 entry.2 := by
  induction xs using definitions_induction generalizing entries with
  | nil =>
    rw [readsAs_nil_iff.mp h]
    intro entry hentry
    cases hentry
  | cons line rest ih =>
    obtain ⟨-, name, children, others, hhead, hbody, hne, hothers, rfl⟩ :=
      readsAs_cons_iff_parts.mp h
    have hrest : rest ⊆ lines := fun x hx => hsub (List.mem_cons_of_mem _ hx)
    intro entry hentry
    rcases List.mem_cons.mp hentry with rfl | hentry
    · have hchildren := hP.readBody
        (fun x hx => hrest ((Outline.mem_rest_iff x).mpr (Or.inl hx))) hbody
      exact ⟨⟨line, hsub List.mem_cons_self, hhead⟩, children, rfl, hne, hchildren⟩
    · exact ih (fun x hx => hrest ((Outline.mem_rest_iff x).mpr (Or.inr hx))) hothers entry hentry

end Inherited

theorem Entries.mem_of_mem_latest {κ ν : Type} [BEq κ] {entries : List (κ × ν)} :
    ∀ entry ∈ latest entries, entry ∈ entries := by
  induction entries with
  | nil =>
    intro entry hentry
    cases hentry
  | cons e rest ih =>
    intro entry hentry
    rw [latest] at hentry
    split at hentry
    · exact List.mem_cons_of_mem _ (ih entry hentry)
    · rcases List.mem_cons.mp hentry with rfl | hentry
      · exact List.mem_cons_self
      · exact List.mem_cons_of_mem _ (ih entry hentry)

/-- **Every tree in a table that parsing gives has what its lines pass on.** -/
theorem Inherited.parseLines {raw : List String} {strict : Bool} {table : Table}
    {P : List Fragment → Prop} (hP : Inherited (significantLines raw) P)
    (h : SqlTemplate.parseLines raw strict = .ok table) :
    ∀ entry ∈ table, DefinedBy (significantLines raw) P entry.1 entry.2 := by
  obtain ⟨-, entries, hentries, -, rfl⟩ := parseLines_eq_ok_iff_of_strict.mp h
  intro entry hentry
  exact hP.readsAs (List.Subset.refl _) hentries entry (Entries.mem_of_mem_latest entry hentry)

end SqlTemplate
