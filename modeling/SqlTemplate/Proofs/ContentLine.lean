import SqlTemplate.Template.Content

/-!
# Reading a content line, a tag at a time

A content line is read from its nearest tag, and what follows that tag is read as a line of its
own. There are four ways this can go: the line is blank, no tag is in it, the nearest tag cannot be
read, or it is read and leaves a rest. Each has its equation here, and `Line.content_induction` is
the induction that has these four cases. Nothing else needs to open the definition.
-/

set_option autoImplicit false

namespace SqlTemplate
namespace Line

section Cases

variable {line : Line} {before after : List Char} {tag : InlineTag}

theorem content_blank (h : line.trimmed = []) : line.content = .ok [] := by
  rw [content]
  split
  · rfl
  · next hcons => simp [h] at hcons

theorem content_untagged (h : line.trimmed ≠ []) (hs : InlineTag.splitFirst? line.trimmed = none) :
    line.content = if line.trimmed.head? = some '@' then .error ⟨.unknownTag, line⟩
      else .ok [.text (Fragment.lineText line.trimmed)] := by
  rw [content]
  split
  · next hnil => exact absurd hnil h
  · next first more hcons =>
    split
    · simp [hcons]
    · next hsplit => simp [hcons, hsplit] at hs

theorem content_unread (hs : InlineTag.splitFirst? line.trimmed = some (before, tag, after))
    (hr : tag.read? after = none) : line.content = .error ⟨.malformed tag.keyword, line⟩ := by
  rw [content]
  split
  · next hnil => simp [hnil, InlineTag.splitFirst?] at hs
  · next first more hcons =>
    rw [hcons] at hs
    split
    · next hnone => simp [hnone] at hs
    · next hsplit =>
      rw [hs] at hsplit
      cases hsplit
      split
      · rfl
      · next hread => simp [hr] at hread

theorem content_tagged {fragment : Fragment} {rest : List Char}
    (hs : InlineTag.splitFirst? line.trimmed = some (before, tag, after))
    (hr : tag.read? after = some (fragment, rest)) :
    line.content =
      (line.withChars rest).content.map fun more => leadingText before ++ fragment :: more := by
  rw [content]
  split
  · next hnil => simp [hnil, InlineTag.splitFirst?] at hs
  · next first more hcons =>
    rw [hcons] at hs
    split
    · next hnone => simp [hnone] at hs
    · next hsplit =>
      rw [hs] at hsplit
      cases hsplit
      split
      · next hread => simp [hr] at hread
      · next hread =>
        rw [hr] at hread
        cases hread
        split
        · next he => rw [he]; rfl
        · next hfs => rw [hfs]; rfl

end Cases

/-- Induction over the tags of a line. -/
@[elab_as_elim]
theorem content_induction {motive : Line → Prop}
    (blank : ∀ line : Line, line.trimmed = [] → motive line)
    (untagged : ∀ line : Line, line.trimmed ≠ [] →
      InlineTag.splitFirst? line.trimmed = none → motive line)
    (unread : ∀ (line : Line) (before : List Char) (tag : InlineTag) (after : List Char),
      InlineTag.splitFirst? line.trimmed = some (before, tag, after) → tag.read? after = none →
        motive line)
    (tagged : ∀ (line : Line) (before : List Char) (tag : InlineTag) (after : List Char)
      (fragment : Fragment) (rest : List Char),
      InlineTag.splitFirst? line.trimmed = some (before, tag, after) →
        tag.read? after = some (fragment, rest) → motive (line.withChars rest) → motive line)
    (line : Line) : motive line := by
  induction hlen : line.chars.length using Nat.strongRecOn generalizing line with
  | ind n ih =>
    by_cases hnil : line.trimmed = []
    · exact blank line hnil
    · cases hs : InlineTag.splitFirst? line.trimmed with
      | none => exact untagged line hnil hs
      | some parts =>
        obtain ⟨before, tag, after⟩ := parts
        cases hr : tag.read? after with
        | none => exact unread line before tag after hs hr
        | some read =>
          obtain ⟨fragment, rest⟩ := read
          have hafter := InlineTag.length_lt_of_splitFirst? hs
          have hrest := (InlineTag.read?_suffix hr).length_le
          have htrim := length_trimmed_le line
          have hshorter : rest.length < n := by omega
          exact tagged line before tag after fragment rest hs hr (ih _ hshorter _ rfl)

end Line
end SqlTemplate
