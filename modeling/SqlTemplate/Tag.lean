import SqlTemplate.Text.Search

/-!
# Tags

The notation marks its own words with an `@`. **Block tags** stand at the start of a line and take
the more deeply indented lines below them as their body; **inline tags** may stand anywhere in a
line of SQL. A line belongs to a block tag as soon as it begins with the tag's keyword, whatever
follows (`block_tag_of`), so a misspelt header is an error and never SQL.

No keyword of one group is the start of another one of that group, so the order in which they are
tried decides nothing; it is fixed all the same, to leave no question.
-/

set_option autoImplicit false

namespace SqlTemplate

inductive BlockTag where
  | naming
  | paging
  | filter
  | conjunct
  | disjunct
  | guard
  deriving DecidableEq

namespace BlockTag

def keyword : BlockTag → List Char
  | .naming => ['@', 'N', 'A', 'M', 'E']
  | .paging => ['@', 'P', 'A', 'G', 'I', 'N', 'G']
  | .filter => ['@', 'W', 'H', 'E', 'R', 'E']
  | .conjunct => ['@', 'A', 'N', 'D']
  | .disjunct => ['@', 'O', 'R']
  | .guard => ['@', 'I', 'F']

def all : List BlockTag := [.naming, .paging, .filter, .conjunct, .disjunct, .guard]

def ofStart? (text : List Char) : Option BlockTag :=
  all.find? fun tag => Text.startsWith tag.keyword text

/-- The tag found is one that the text begins with. -/
theorem startsWith_of_ofStart? {text : List Char} {tag : BlockTag} (h : ofStart? text = some tag) :
    Text.startsWith tag.keyword text = true := by
  simpa using List.find?_some (p := fun tag => Text.startsWith (keyword tag) text) h

end BlockTag

inductive InlineTag where
  | inclusion
  | like
  | offsetFetch
  | fetch
  deriving DecidableEq

namespace InlineTag

def keyword : InlineTag → List Char
  | .inclusion => ['@', 'I', 'N', 'C', 'L', 'U', 'D', 'E']
  | .like => ['@', 'L', 'I', 'K', 'E']
  | .offsetFetch => ['@', 'O', 'F', 'F', 'S', 'E', 'T', 'F', 'E', 'T', 'C', 'H']
  | .fetch => ['@', 'F', 'E', 'T', 'C', 'H']

/-- What closes the body of a `@LIKE` before the end of its line. -/
def endLike : List Char := ['@', 'E', 'N', 'D', 'L', 'I', 'K', 'E']

def ofStart? (text : List Char) : Option (InlineTag × List Char) :=
  [InlineTag.inclusion, .like, .offsetFetch, .fetch].findSome? fun tag =>
    (Text.dropStart? tag.keyword text).map fun after => (tag, after)

/-- A text that begins with a tag is the tag's keyword and what follows it. -/
theorem eq_of_ofStart? {text after : List Char} {tag : InlineTag}
    (h : ofStart? text = some (tag, after)) : text = tag.keyword ++ after := by
  obtain ⟨t, _, ht⟩ := List.exists_of_findSome?_eq_some h
  simp only [Option.map_eq_some_iff, Prod.mk.injEq] at ht
  obtain ⟨a, ha, rfl, rfl⟩ := ht
  exact Text.dropStart?_eq_some_iff.1 ha

/-- The nearest inline tag: the text before it, the tag, and the text after its keyword. -/
def splitFirst? : List Char → Option (List Char × InlineTag × List Char)
  | [] => none
  | c :: text =>
    match ofStart? (c :: text) with
    | some (tag, after) => some ([], tag, after)
    | none => (splitFirst? text).map fun (before, tag, after) => (c :: before, tag, after)

/-- Cutting at the nearest tag loses nothing. -/
theorem eq_of_splitFirst? {text before after : List Char} {tag : InlineTag}
    (h : splitFirst? text = some (before, tag, after)) :
    text = before ++ tag.keyword ++ after := by
  induction text generalizing before with
  | nil => simp [splitFirst?] at h
  | cons c text ih =>
    unfold splitFirst? at h
    split at h
    · next t a ht =>
      simp only [Option.some.injEq, Prod.mk.injEq] at h
      obtain ⟨rfl, rfl, rfl⟩ := h
      simpa using eq_of_ofStart? ht
    · simp only [Option.map_eq_some_iff, Prod.mk.injEq, Prod.exists] at h
      obtain ⟨b, t, a, hba, rfl, rfl, rfl⟩ := h
      simpa using ih hba

theorem keyword_length_pos (tag : InlineTag) : 0 < tag.keyword.length := by
  cases tag <;> decide

/-- What follows the nearest tag is shorter than the text. -/
theorem length_lt_of_splitFirst? {text before after : List Char} {tag : InlineTag}
    (h : splitFirst? text = some (before, tag, after)) : after.length < text.length := by
  have hk := keyword_length_pos tag
  rw [eq_of_splitFirst? h]
  simp only [List.length_append]
  omega

end InlineTag
end SqlTemplate
