import SqlTemplate.Tag
import Mathlib.Data.List.Infix

/-!
# First occurrences

A line is cut at its nearest tag, and the body of a `@LIKE` at the nearest `@ENDLIKE`. That the cut
is made at the first occurrence is the same as that **no occurrence lies before it**: all these
words begin with an `@` and have no other, so none of them can begin before another and end in it.
-/

set_option autoImplicit false

namespace SqlTemplate

namespace Text

theorem dropStart?_eq_none_iff {start text : List Char} :
    dropStart? start text = none ↔ ¬ start <+: text := by
  rw [← not_iff_not, not_not, ← Ne, Option.ne_none_iff_exists']
  constructor
  · rintro ⟨rest, h⟩
    exact ⟨rest, (dropStart?_eq_some_iff.mp h).symm⟩
  · rintro ⟨rest, rfl⟩
    exact ⟨rest, dropStart?_eq_some_iff.mpr rfl⟩

section Mark

variable {a : Char} {word text before after : List Char}

/-- A mark that has its first character only once does not begin before another that begins with
the same one and end in it: it is over before the other begins. -/
theorem infix_before {word' rest : List Char} (hword : a ∉ word) (h : text = a :: word ++ rest)
    (hcut : text = before ++ a :: word' ++ after) (hne : before ≠ []) : a :: word <:+: before := by
  have hmark : a :: word <+: text := ⟨rest, h.symm⟩
  have hbefore : before <+: text := ⟨a :: word' ++ after, by rw [hcut, List.append_assoc]⟩
  rcases List.prefix_or_prefix_of_prefix hmark hbefore with hle | ⟨more, hmore⟩
  · exact hle.isInfix
  cases before with
  | nil => exact absurd rfl hne
  | cons c before =>
    obtain ⟨rfl, rfl⟩ := List.cons.inj hmore
    cases more with
    | nil => exact ⟨[], [], by simp⟩
    | cons d more =>
      -- the mark would go on into the other one
      have hsame : c :: before ++ (d :: more ++ rest) = c :: before ++ (c :: word' ++ after) := by
        rw [← List.append_assoc, ← List.append_assoc, ← hcut, h]
        rfl
      obtain ⟨rfl, -⟩ := List.cons.inj (List.append_cancel_left hsame)
      exact absurd (by simp) hword

/-- The text is cut where the mark occurs and does not occur before. -/
theorem splitFirst?_eq_some_iff (hword : a ∉ word) :
    splitFirst? (a :: word) text = some (before, after) ↔
      text = before ++ a :: word ++ after ∧ ¬ a :: word <:+: before := by
  induction text generalizing before with
  | nil => simp [splitFirst?]
  | cons c text ih =>
    rw [splitFirst?]
    cases hdrop : dropStart? (a :: word) (c :: text) with
    | some rest =>
      have htext := dropStart?_eq_some_iff.mp hdrop
      constructor
      · intro h
        cases h
        exact ⟨htext, by simp⟩
      · rintro ⟨hcut, hnone⟩
        cases before with
        | nil =>
          rw [hcut, List.nil_append, List.append_cancel_left_eq] at htext
          rw [htext]
        | cons d before =>
          exact absurd (infix_before hword htext hcut (List.cons_ne_nil d before)) hnone
    | none =>
      have hstart := dropStart?_eq_none_iff.mp hdrop
      simp only [Option.map_eq_some_iff, Prod.exists, Prod.mk.injEq]
      constructor
      · rintro ⟨before, _, hcut, rfl, rfl⟩
        obtain ⟨rfl, hnone⟩ := ih.mp hcut
        refine ⟨rfl, ?_⟩
        rw [List.infix_cons_iff, not_or]
        refine ⟨fun hprefix => hstart ?_, hnone⟩
        rw [List.append_assoc]
        exact hprefix.trans (List.prefix_append (c :: before) _)
      · rintro ⟨hcut, hnone⟩
        cases before with
        | nil => exact absurd ⟨after, hcut.symm⟩ hstart
        | cons d before =>
          obtain ⟨rfl, htext⟩ := List.cons.inj hcut
          rw [List.infix_cons_iff, not_or] at hnone
          exact ⟨before, after, ih.mpr ⟨htext, hnone.2⟩, rfl, rfl⟩

theorem splitFirst?_eq_none_iff {mark : List Char} (hmark : mark ≠ []) :
    splitFirst? mark text = none ↔ ¬ mark <:+: text := by
  induction text with
  | nil =>
    have hempty : mark.isEmpty = false := by simpa using hmark
    simp [splitFirst?, hempty, hmark]
  | cons c text ih =>
    rw [splitFirst?, List.infix_cons_iff, not_or, ← dropStart?_eq_none_iff, ← ih]
    cases dropStart? mark (c :: text) with
    | some rest => simp
    | none => simp

end Mark

end Text

namespace InlineTag

/-- No inline tag is in the text. -/
def Keyless (text : List Char) : Prop := ∀ tag : InlineTag, ¬ tag.keyword <:+: text

theorem keyword_eq (tag : InlineTag) : ∃ word, tag.keyword = '@' :: word ∧ '@' ∉ word := by
  cases tag <;> exact ⟨_, rfl, by decide⟩

theorem keyword_ne_nil (tag : InlineTag) : tag.keyword ≠ [] := by
  obtain ⟨word, hkeyword, -⟩ := tag.keyword_eq
  exact hkeyword ▸ List.cons_ne_nil _ _

variable {text before after : List Char} {tag : InlineTag}

theorem ofStart?_eq_some_iff : ofStart? text = some (tag, after) ↔ text = tag.keyword ++ after := by
  constructor
  · exact eq_of_ofStart?
  · rintro rfl
    cases tag <;> rfl

theorem ofStart?_eq_none_iff :
    ofStart? text = none ↔ ∀ tag : InlineTag, ¬ tag.keyword <+: text := by
  constructor
  · rintro h tag ⟨after, rfl⟩
    rw [ofStart?_eq_some_iff.mpr rfl] at h
    cases h
  · intro h
    cases hread : ofStart? text with
    | none => rfl
    | some read => exact absurd ⟨read.2, (ofStart?_eq_some_iff.mp hread).symm⟩ (h read.1)

theorem Keyless.nil : Keyless [] := by
  intro tag
  cases tag <;> decide

theorem keyless_cons_iff {c : Char} :
    Keyless (c :: text) ↔ (∀ tag : InlineTag, ¬ tag.keyword <+: c :: text) ∧ Keyless text := by
  simp only [Keyless, List.infix_cons_iff, not_or, forall_and]

/-- The nearest tag is the one before which there is none. -/
theorem splitFirst?_eq_some_iff :
    splitFirst? text = some (before, tag, after) ↔
      text = before ++ tag.keyword ++ after ∧ Keyless before := by
  induction text generalizing before with
  | nil => simp [splitFirst?, keyword_ne_nil]
  | cons c text ih =>
    rw [splitFirst?]
    cases hread : ofStart? (c :: text) with
    | some read =>
      obtain ⟨tag', rest⟩ := read
      have htext := ofStart?_eq_some_iff.mp hread
      constructor
      · intro h
        cases h
        exact ⟨htext, .nil⟩
      · rintro ⟨hcut, hnone⟩
        cases before with
        | nil =>
          rw [ofStart?_eq_some_iff.mpr hcut] at hread
          cases hread
          rfl
        | cons d before =>
          obtain ⟨word, hkeyword, -⟩ := tag.keyword_eq
          obtain ⟨word', hkeyword', hword'⟩ := tag'.keyword_eq
          rw [hkeyword'] at htext
          rw [hkeyword] at hcut
          have hinside := Text.infix_before hword' htext hcut (List.cons_ne_nil d before)
          exact absurd (hkeyword' ▸ hinside) (hnone tag')
    | none =>
      have hstart := ofStart?_eq_none_iff.mp hread
      simp only [Option.map_eq_some_iff, Prod.exists, Prod.mk.injEq]
      constructor
      · rintro ⟨before, _, _, hcut, rfl, rfl, rfl⟩
        obtain ⟨rfl, hnone⟩ := ih.mp hcut
        refine ⟨rfl, keyless_cons_iff.mpr ⟨fun tag' hprefix => hstart tag' ?_, hnone⟩⟩
        rw [List.append_assoc]
        exact hprefix.trans (List.prefix_append (c :: before) _)
      · rintro ⟨hcut, hnone⟩
        cases before with
        | nil => exact absurd ⟨after, hcut.symm⟩ (hstart tag)
        | cons d before =>
          obtain ⟨rfl, htext⟩ := List.cons.inj hcut
          exact ⟨before, tag, after, ih.mpr ⟨htext, (keyless_cons_iff.mp hnone).2⟩, rfl, rfl, rfl⟩

theorem splitFirst?_eq_none_iff : splitFirst? text = none ↔ Keyless text := by
  induction text with
  | nil => simp [splitFirst?, Keyless.nil]
  | cons c text ih =>
    rw [splitFirst?, keyless_cons_iff, ← ofStart?_eq_none_iff, ← ih]
    cases ofStart? (c :: text) with
    | some read => simp
    | none => simp

end InlineTag
end SqlTemplate
