import SqlTemplate.Proofs.FaultOrigin
import SqlTemplate.Proofs.Outcome

/-!
# The space at the end of a text

Pieces of SQL are put side by side, so a piece that does not end with a space may run into the next
one. A piece is `Spaced` when it is empty or ends with one. What clauses, inserted values and
rewritten queries say is spaced by their own words; what a block says ends as the last of its
children that says anything does, **also where words are put between the children**, because these
always come before one that says something.

So whatever is to be said of the ends of texts need only be said of single leaves. `EndProperty` is
what such a statement has to satisfy.
-/

set_option autoImplicit false

namespace SqlTemplate

/-- The text is empty or ends with a space. -/
def Spaced (text : String) : Prop := ∀ c ∈ text.toList.getLast?, c = ' '

instance : DecidablePred Spaced := fun text =>
  decidable_of_iff (text.toList.getLast?.all (· = ' ') = true) (by
    unfold Spaced
    cases text.toList.getLast? <;> simp)

/-- The text is the end of the other one, and nothing only if that is nothing. -/
structure Closes (text whole : String) : Prop where
  suffix : text.toList <:+ whole.toList
  empty : text = "" → whole = ""

namespace Closes

theorem refl (text : String) : Closes text text := ⟨List.suffix_refl _, id⟩

theorem append {text whole : String} (h : Closes text whole) (before : String)
    (hbefore : text = "" → before = "") : Closes text (before ++ whole) where
  suffix := by
    rw [String.toList_append]
    exact h.suffix.trans (List.suffix_append _ _)
  empty htext := by rw [hbefore htext, h.empty htext, String.append_empty]

end Closes

theorem spaced_empty : Spaced "" := by
  intro c hc
  cases hc

theorem Spaced.of_closes {text whole : String} (h : Spaced text) (hcloses : Closes text whole) :
    Spaced whole := by
  by_cases hempty : text = ""
  · rw [hcloses.empty hempty]
    exact spaced_empty
  · obtain ⟨before, hwhole⟩ := hcloses.suffix
    have hne : text.toList ≠ [] := fun hnil => hempty (String.toList_eq_nil_iff.mp hnil)
    intro c hc
    rw [← hwhole, List.getLast?_append_of_ne_nil _ hne] at hc
    exact h c hc

/-- A statement about the ends of texts that spaced texts satisfy. -/
structure EndProperty (P : String → Prop) : Prop where
  of_spaced : ∀ text, Spaced text → P text
  of_closes : ∀ text whole, P text → Closes text whole → P whole

theorem EndProperty.append {P : String → Prop} (hP : EndProperty P) {x y : String} (hx : P x)
    (hy : P y) : P (x ++ y) := by
  by_cases hempty : y = ""
  · rwa [hempty, String.append_empty]
  · exact hP.of_closes y _ hy ((Closes.refl y).append x fun h => absurd h hempty)

theorem Spaced.prepend {y : String} (h : Spaced y) (hne : y ≠ "") (x : String) : Spaced (x ++ y) :=
  h.of_closes ((Closes.refl y).append x fun hempty => absurd hempty hne)

/-! ## The last text of several -/

/-- The last of the texts that is not empty. -/
def lastText : List (Option String × String) → String
  | [] => ""
  | s :: rest => if lastText rest = "" then s.2 else lastText rest

theorem closes_join (said : List (Option String × String)) :
    Closes (lastText said) (String.join (said.map Prod.snd)) := by
  induction said with
  | nil => exact .refl ""
  | cons s rest ih =>
    rw [List.map_cons, String.join_cons, lastText]
    split
    · next hempty =>
      rw [ih.empty hempty, String.append_empty]
      exact .refl _
    · next hne => exact ih.append _ fun h => absurd h hne

theorem closes_joinConditions {said : List (Option String × String)}
    (hsaid : ∀ s ∈ said, s.2 ≠ "") : Closes (lastText said) (joinConditions said) := by
  induction said with
  | nil => exact .refl ""
  | cons s rest ih =>
    obtain ⟨connector, text⟩ := s
    have hrest := ih fun s hs => hsaid s (List.mem_cons_of_mem _ hs)
    have htext : text ≠ "" := hsaid _ List.mem_cons_self
    rw [lastText]
    split
    · next hempty =>
      have hnone := hrest.empty hempty
      cases connector with
      | none =>
        rw [joinConditions, hnone, String.append_empty]
        exact .refl text
      | some word =>
        rw [joinConditions, hnone, String.append_empty]
        exact (Closes.refl text).append _ fun h => absurd h htext
    · next hne => exact hrest.append _ fun h => absurd h hne

theorem lastText_filter (said : List (Option String × String)) :
    lastText (said.filter fun s => !s.2.isEmpty) = lastText said := by
  induction said with
  | nil => rfl
  | cons s rest ih =>
    rw [List.filter_cons]
    split
    · rw [lastText, lastText, ih]
    · next hempty =>
      have htext : s.2 = "" := by simpa using hempty
      rw [lastText, ih, htext]
      split
      · next h => exact h
      · rfl

/-- A `WHERE` clause ends as the last condition that says anything. -/
theorem closes_filterText (said : List (Option String × String)) :
    Closes (lastText said) (filterText said) := by
  rw [← lastText_filter, filterText]
  have hsaid : ∀ s ∈ said.filter fun s => !s.2.isEmpty, s.2 ≠ "" := by
    intro s hs hempty
    simpa [hempty] using (List.mem_filter.mp hs).2
  cases hfilter : said.filter fun s => !s.2.isEmpty with
  | nil => exact .refl ""
  | cons s rest =>
    rw [hfilter] at hsaid
    have hfirst : s.2 ≠ "" := hsaid s List.mem_cons_self
    have hrest := closes_joinConditions fun s hs => hsaid s (List.mem_cons_of_mem _ hs)
    show Closes (lastText (s :: rest)) ("WHERE " ++ s.2 ++ joinConditions rest)
    rw [lastText]
    split
    · next hempty =>
      rw [hrest.empty hempty, String.append_empty]
      exact (Closes.refl s.2).append _ fun h => absurd h hfirst
    · next hne => exact hrest.append _ fun h => absurd h hne

/-! ## What leaves and blocks say -/

theorem spaced_lineText (cs : List Char) : Spaced (Fragment.lineText cs) := by
  unfold Fragment.lineText
  split
  · exact spaced_empty
  · intro c hc
    rw [String.toList_ofList, List.getLast?_concat] at hc
    exact (Option.some.inj hc).symm

namespace Dialect

variable {d : Dialect} {offset fetch : Option Int}

theorem pagingClause_spaced {clause : String} (h : d.pagingClause offset fetch = .ok clause) :
    Spaced clause := by
  unfold pagingClause at h
  split at h
  · cases h
    exact spaced_empty
  all_goals split at h <;> cases h <;> exact Spaced.prepend (by decide) (by decide) _

theorem numbered_spaced (parts : QueryParts) : Spaced (numbered parts offset fetch) :=
  Spaced.prepend (by decide) (by decide) _

theorem addPaging_end {P : String → Prop} (hP : EndProperty P) {query text : String}
    (hquery : P query) (h : d.addPaging query offset fetch = .ok text) : P text := by
  unfold addPaging at h
  split at h
  · split at h
    · cases h
      exact hquery
    · split at h
      · cases h
      · cases h
        exact hP.of_spaced _ (numbered_spaced _)
  · obtain ⟨clause, hclause, rfl⟩ := Outcome.map_eq_ok_iff.mp h
    exact hP.append hquery (hP.of_spaced _ (pagingClause_spaced hclause))

end Dialect

namespace Setting

variable {s : Setting}

theorem rawText_spaced {v text : String} (h : s.rawText v = .ok text) : Spaced text ∧ text ≠ "" := by
  unfold rawText at h
  split at h
  · cases h
  · split at h
    · cases h
      refine ⟨Spaced.prepend (by decide) (by decide) _, fun hempty => ?_⟩
      exact absurd (String.append_eq_empty_iff.mp hempty).2 (by decide)
    · cases h

theorem clauseText_spaced {offset fetch : Option String} {rows : Option Int} {text : String}
    (h : s.clauseText offset fetch rows = .ok text) : Spaced text := by
  rw [clauseText_eq] at h
  obtain ⟨o, -, h⟩ := Outcome.bind_eq_ok_iff.mp h
  obtain ⟨n, -, h⟩ := Outcome.bind_eq_ok_iff.mp h
  exact Dialect.pagingClause_spaced (Outcome.mapError_eq_ok_iff.mp h)

theorem likeText_ne_empty (name body : String) : s.likeText name body ≠ "" := by
  intro hempty
  rw [likeText] at hempty
  split at hempty
  · have hlike := (String.append_eq_empty_iff.mp hempty).1
    exact absurd (String.append_eq_empty_iff.mp hlike).1 (by decide)
  · exact absurd (String.append_eq_empty_iff.mp hempty).1 (by decide)

/-- A block ends as its children do. -/
theorem blockText_end {P : String → Prop} (hP : EndProperty P) (hlike : Spaced s.dialect.likeSuffix)
    {head : Head} {said : List (Option String × String)} {text : String} (hsaid : P (lastText said))
    (h : s.blockText head said = .ok text) : P text := by
  have hall : P (String.join (said.map Prod.snd)) := hP.of_closes _ _ hsaid (closes_join said)
  cases head with
  | named | group | test =>
    cases h
    exact hall
  | filter =>
    cases h
    exact hP.of_closes _ _ hsaid (closes_filterText said)
  | like name =>
    cases h
    rw [likeText]
    split
    · exact hP.append (hP.append (hP.of_spaced _ (by decide)) hall) (hP.of_spaced _ hlike)
    · exact hP.append (hP.of_spaced _ (by decide)) hall
  | paging offset fetch =>
    obtain ⟨o, -, h⟩ := Outcome.bind_eq_ok_iff.mp (show s.pageText offset fetch _ = _ from h)
    obtain ⟨n, -, h⟩ := Outcome.bind_eq_ok_iff.mp h
    exact Dialect.addPaging_end hP hall (Outcome.mapError_eq_ok_iff.mp h)

end Setting

end SqlTemplate
