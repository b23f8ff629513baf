import SqlTemplate.Fragment
import SqlTemplate.Line
import SqlTemplate.Tag.Form

/-!
# Content lines

A line that opens no block is SQL with inline tags in it (`_parse_content`). It is read from its
nearest tag: the text before the tag is kept exactly, the tag takes its argument, and **what is left
is a line of its own**, trimmed anew and read the same way. Text that no tag follows ends the line,
and gets one space at its end so that it cannot run into what comes next.

A `@LIKE` takes everything up to the next `@ENDLIKE`, or to the end of the line, as its body, and
compares with the first variable named there. The two paging tags have defaults for their variables,
which apply when no parenthesis follows the keyword directly.

Reading ends because the rest after a tag is always shorter than the line.
-/

set_option autoImplicit false

namespace SqlTemplate

/-- The variables of a paging tag without arguments. -/
def defaultOffset : String := "paging_offset"

def defaultFetch : String := "paging_fetch"

namespace InlineTag

def inclusionForm : Form :=
  ⟨keyword .inclusion, [.exact ['('], .target, .exact [')']], true⟩

def offsetFetchForm : Form := Form.twoVariables (keyword .offsetFetch) true

def fetchVariableForm : Form :=
  ⟨keyword .fetch, [.exact ['(', ':'], .word, .exact [')']], true⟩

def fetchRowsForm : Form :=
  ⟨keyword .fetch, [.exact ['('], .digits, .exact [')']], true⟩

/-- A variable inside the body of a `@LIKE`. -/
def variableForm : Form := ⟨[':'], [.word], false⟩

/-- The number that ASCII digits write. -/
def rowCount (digits : List Char) : Nat :=
  digits.foldl (fun n c => 10 * n + (c.toNat - '0'.toNat)) 0

def readInclusion? (after : List Char) : Option (Fragment × List Char) :=
  match Piece.readAll? inclusionForm.pieces after with
  | some ([some target], rest) => some (.inclusion (Target.ofChars target), rest)
  | _ => none

def readLike? (after : List Char) : Option (Fragment × List Char) :=
  let (body, rest) := (Text.splitFirst? endLike after).getD (after, [])
  match variableForm.search? body with
  | some ⟨_, _, [some name]⟩ =>
    some (.block (.like (String.ofList name)) [.text (Fragment.lineText body)], rest)
  | _ => none

def readOffsetFetch? (after : List Char) : Option (Fragment × List Char) :=
  if Text.startsWith ['('] after then
    match Piece.readAll? offsetFetchForm.pieces after with
    | some ([some offset, some limit], rest) =>
      some (.offsetFetch (some (String.ofList offset)) (some (String.ofList limit)) none, rest)
    | _ => none
  else some (.offsetFetch (some defaultOffset) (some defaultFetch) none, after)

def readFetch? (after : List Char) : Option (Fragment × List Char) :=
  if Text.startsWith ['('] after then
    match Piece.readAll? fetchVariableForm.pieces after with
    | some ([some limit], rest) =>
      some (.offsetFetch none (some (String.ofList limit)) none, rest)
    | _ =>
      match Piece.readAll? fetchRowsForm.pieces after with
      | some ([some digits], rest) => some (.offsetFetch none none (some (rowCount digits)), rest)
      | _ => none
  else some (.offsetFetch none (some defaultFetch) none, after)

/-- Reads a tag after its keyword: the fragment it makes, and the rest of the line
(`_parse_include`, `_parse_like`, `_parse_offset_fetch`, `_parse_fetch`). -/
def read? : InlineTag → List Char → Option (Fragment × List Char)
  | .inclusion => readInclusion?
  | .like => readLike?
  | .offsetFetch => readOffsetFetch?
  | .fetch => readFetch?

theorem readLike?_suffix {after rest : List Char} {f : Fragment}
    (h : readLike? after = some (f, rest)) : rest <:+ after := by
  unfold readLike? at h
  cases hs : Text.splitFirst? endLike after with
  | none =>
    simp only [hs, Option.getD_none] at h
    split at h
    · simp only [Option.some.injEq, Prod.mk.injEq] at h
      exact h.2 ▸ List.nil_suffix
    · cases h
  | some p =>
    obtain ⟨body, r⟩ := p
    simp only [hs, Option.getD_some] at h
    split at h
    · simp only [Option.some.injEq, Prod.mk.injEq] at h
      rw [Text.eq_of_splitFirst? hs, ← h.2]
      exact List.suffix_append _ _
    · cases h

/-- What a tag leaves is the end of what followed its keyword. -/
theorem read?_suffix {tag : InlineTag} {after rest : List Char} {f : Fragment}
    (h : tag.read? after = some (f, rest)) : rest <:+ after := by
  cases tag with
  | inclusion =>
    simp only [read?, readInclusion?] at h
    split at h
    · next hr =>
      simp only [Option.some.injEq, Prod.mk.injEq] at h
      exact h.2 ▸ Piece.readAll?_suffix hr
    · cases h
  | like => exact readLike?_suffix h
  | offsetFetch =>
    simp only [read?, readOffsetFetch?] at h
    split at h
    · split at h
      · next hr =>
        simp only [Option.some.injEq, Prod.mk.injEq] at h
        exact h.2 ▸ Piece.readAll?_suffix hr
      · cases h
    · simp only [Option.some.injEq, Prod.mk.injEq] at h
      exact h.2 ▸ List.suffix_refl _
  | fetch =>
    simp only [read?, readFetch?] at h
    split at h
    · split at h
      · next hr =>
        simp only [Option.some.injEq, Prod.mk.injEq] at h
        exact h.2 ▸ Piece.readAll?_suffix hr
      · split at h
        · next hr =>
          simp only [Option.some.injEq, Prod.mk.injEq] at h
          exact h.2 ▸ Piece.readAll?_suffix hr
        · cases h
    · simp only [Option.some.injEq, Prod.mk.injEq] at h
      exact h.2 ▸ List.suffix_refl _

end InlineTag

namespace Line

/-- The literal text before a tag, which is no node when there is none. -/
def leadingText (before : List Char) : List Fragment :=
  match before with
  | [] => []
  | before => [.text (String.ofList before)]

def content (line : Line) : Except FormatError (List Fragment) :=
  match _ht : line.trimmed with
  | [] => .ok []
  | first :: more =>
    match _hs : InlineTag.splitFirst? (first :: more) with
    | none =>
      if first = '@' then .error ⟨.unknownTag, line⟩
      else .ok [.text (Fragment.lineText (first :: more))]
    | some (before, tag, after) =>
      match _hr : tag.read? after with
      | none => .error ⟨.malformed tag.keyword, line⟩
      | some (fragment, rest) =>
        match content (line.withChars rest) with
        | .error e => .error e
        | .ok fragments => .ok (leadingText before ++ fragment :: fragments)
termination_by line.chars.length
decreasing_by
  have h1 := InlineTag.length_lt_of_splitFirst? _hs
  have h2 := (InlineTag.read?_suffix _hr).length_le
  have h3 := length_trimmed_le line
  rw [_ht] at h3
  simp only [withChars]
  omega

end Line
end SqlTemplate
