import SqlTemplate.Library
import SqlTemplate.Library.Shape
import SqlTemplate.Text.Fields
import SqlTemplate.Text.Quoted

/-!
# Ignore patterns

Which files to pass over is said in lines of the kind that version control keeps in its ignore
files. A line is a glob on a path relative to the directory that is searched. Without a slash, or
with one at its end only, it may match at any depth; with another slash it starts at the top. A
segment of two stars is any number of directories. What matches includes everything under it, and
a slash at the end of a line restricts it to that.

Lines are judged together: **the last line that matches decides**, and a line with an exclamation
mark takes back what earlier ones passed over. The shape of a line is put together segment by
segment, so each of these rules is one equation of `segmentShapes?` or of `readGlob?`.
-/

set_option autoImplicit false

namespace SqlTemplate

inductive PatternFault where
  /-- No segment, or a backslash with nothing after it. -/
  | invalid (pattern : String)
  /-- A span of characters whose second comes before its first. -/
  | backward (first last : Char)
  deriving DecidableEq

/-- A span the wrong way round is only found by what the line is made into, an expression. -/
def PatternFault.raised : PatternFault → LibraryFault
  | .invalid pattern => ⟨.value, s!"Invalid git pattern: {Text.quoted pattern}"⟩
  | .backward first last => ⟨.expression, s!"bad character range {first}-{last}"⟩

structure IgnoreRule where
  /-- Whether what matches is passed over or taken back. -/
  ignored : Bool
  shape : Shape
  deriving DecidableEq

namespace IgnoreRule

/-- The spans of characters that the inside of brackets writes. -/
def readSpans : List Char → List CharSpan
  | first :: '-' :: last :: rest => (first, last) :: readSpans rest
  | c :: rest => (c, c) :: readSpans rest
  | [] => []

/-- What is before the first closing bracket and what is after it. -/
def splitClosing? (text : List Char) : Option (List Char × List Char) :=
  match text.dropWhile (· ≠ ']') with
  | [] => none
  | _ :: following => some (text.takeWhile (· ≠ ']'), following)

/-- The inside of brackets after the opening one, without the mark that negates it, and what
follows the closing one. A closing bracket at the start is inside. -/
def splitBrackets? : (after : List Char) → Option (List Char × List Char)
  | ']' :: rest => (splitClosing? rest).map fun (inside, following) => (']' :: inside, following)
  | after => splitClosing? after

theorem length_splitClosing?_lt {text inside following : List Char}
    (h : splitClosing? text = some (inside, following)) : following.length < text.length := by
  have hle := (@List.dropWhile_suffix _ text (· ≠ ']')).length_le
  rw [splitClosing?] at h
  split at h
  · cases h
  · next hd =>
    obtain ⟨-, rfl⟩ := Prod.mk.inj (Option.some.inj h)
    rw [hd, List.length_cons] at hle
    omega

/-- What follows brackets is shorter than what follows the opening one. -/
theorem length_splitBrackets?_lt {after inside following : List Char}
    (h : splitBrackets? after = some (inside, following)) : following.length < after.length := by
  rw [splitBrackets?.eq_def] at h
  split at h
  · next rest =>
    obtain ⟨⟨inside, _⟩, hclosing, heq⟩ := Option.map_eq_some_iff.mp h
    obtain ⟨-, rfl⟩ := Prod.mk.inj heq
    exact Nat.lt_succ_of_lt (length_splitClosing?_lt hclosing)
  · exact length_splitClosing?_lt h

/-- A negating mark at the start of brackets, and what is after it. -/
def splitNegation : List Char → Bool × List Char
  | '!' :: rest => (true, rest)
  | '^' :: rest => (true, rest)
  | rest => (false, rest)

theorem length_splitNegation_le (after : List Char) :
    (splitNegation after).2.length ≤ after.length := by
  unfold splitNegation
  split <;> simp

/-- The shapes of a segment's characters; none if it ends in a backslash that escapes nothing. -/
def readGlob? (segment : List Char) : Option (List Shape) :=
  match segment with
  | [] => some []
  | ['\\'] => none
  | '\\' :: c :: rest => (readGlob? rest).map (.char c :: ·)
  | '*' :: rest => (readGlob? rest).map (.run :: ·)
  | '?' :: rest => (readGlob? rest).map (.within :: ·)
  | '[' :: rest =>
    match _h : splitBrackets? (splitNegation rest).2 with
    | none => (readGlob? rest).map (.char '[' :: ·)
    | some (inside, following) =>
      (readGlob? following).map (.oneOf (splitNegation rest).1 (readSpans inside) :: ·)
  | c :: rest => (readGlob? rest).map (.char c :: ·)
termination_by segment.length
decreasing_by
  all_goals simp only [List.length_cons]
  all_goals try omega
  have h1 := length_splitBrackets?_lt _h
  have h2 := length_splitNegation_le rest
  omega

def anyDepth : List Char := ['*', '*']

/-- What may come after a segment: the last one includes what is under it. -/
def closing (isLast : Bool) : List Shape := if isLast then [.maybe .under] else []

/-- The shapes of a pattern's segments. `slashDue` tells whether the slash before the next segment
is still to come, and `atStart` whether there is no segment before it. -/
def segmentShapes? (atStart slashDue : Bool) : List (List Char) → Option (List Shape)
  | [] => some []
  | segment :: rest =>
    if segment = anyDepth then
      if rest.isEmpty then some (if atStart then [.name, .maybe .under] else [.under])
      else if atStart then (segmentShapes? false false rest).map (.maybe .above :: ·)
      else (segmentShapes? false true rest).map (.maybe (.seq .slash .something) :: ·)
    else do
      let slash := if slashDue then [Shape.slash] else []
      let own ← if segment = ['*'] then pure [Shape.name] else readGlob? segment
      let others ← segmentShapes? false true rest
      return slash ++ own ++ closing rest.isEmpty ++ others

/-- Leaves one of several segments for any depth that follow each other. -/
def collapse : List (List Char) → List (List Char)
  | [] => []
  | segment :: rest =>
    if segment = anyDepth && rest.head? = some anyDepth then collapse rest
    else segment :: collapse rest

/-- The segments of a pattern as they are matched: from the top if it has a slash at its start or
between two segments, at any depth otherwise. -/
def anchored : List (List Char) → List (List Char)
  | [] :: rest => rest
  | [segment] => if segment = anyDepth then [segment] else [anyDepth, segment]
  | [segment, []] => [anyDepth, segment, []]
  | segments => segments

/-- An empty last segment stands for everything under the one before it. -/
def withUnder (segments : List (List Char)) : List (List Char) :=
  if 1 < segments.length && segments.getLast? = some [] then segments.dropLast ++ [anyDepth]
  else segments

/-- The shape of a pattern without its exclamation mark. -/
def readShape? (pattern : List Char) : Option Shape :=
  let segments := collapse (Text.fields '/' pattern)
  if segments = [anyDepth, []] then some (.seq .something .under)
  else
    match withUnder (anchored segments) with
    | [] => none
    | segments => (segmentShapes? true false segments).map Shape.all

/-- Reads a line. A comment and a lone slash match nothing and are no rules. -/
def read? (line : List Char) : Except PatternFault (Option IgnoreRule) :=
  match line with
  | [] => .ok none
  | ['/'] => .ok none
  | '#' :: _ => .ok none
  | _ =>
    let (ignored, pattern) := match line with
      | '!' :: rest => (false, rest)
      | rest => (true, rest)
    match readShape? pattern with
    | none => .error (.invalid (String.ofList line))
    | some shape =>
      match shape.backward? with
      | some (first, last) => .error (.backward first last)
      | none => .ok (some ⟨ignored, shape⟩)

def readAll (lines : List (List Char)) : Except PatternFault (List IgnoreRule) :=
  (lines.mapM read?).map fun rules => rules.filterMap id

/-- Whether a path is passed over: as the last rule that it matches says. -/
def ignores (rules : List IgnoreRule) (path : List Char) : Bool :=
  match rules.reverse.find? fun rule => rule.shape.fits path with
  | none => false
  | some rule => rule.ignored

end IgnoreRule
end SqlTemplate
