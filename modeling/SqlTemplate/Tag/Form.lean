import SqlTemplate.Text.Search

/-!
# The written forms of tags

Every tag has exactly one form, a regular expression: its keyword, and then pieces with little
freedom, a word here and an optional space there. A `Form` is that list of pieces. Reading it goes
from left to right and never has to take a step back, because **no piece can begin where the piece
before it could still go on**: a word is followed by a closing parenthesis, a space or a comma, none
of which is a word character.

What a reader wants from a match are the arguments, so each piece that stands for one captures it. A
form may also be followed by anything at all, which is then the last capture: the rest of the line
after an inline tag.
-/

set_option autoImplicit false

namespace SqlTemplate

/-- The characters of names and variables: ASCII letters, digits and the underscore. -/
def isWordChar (c : Char) : Bool := c.isAlphanum || c = '_'

inductive Piece where
  /-- Exactly these characters. -/
  | exact (text : List Char)
  /-- A word, captured. -/
  | word
  /-- A colon and a word, captured together. -/
  | reference
  /-- A word with or without a colon before it, captured together. -/
  | target
  /-- Possibly an equals sign and a word, each with at most one space before it, captured. -/
  | matchValue
  /-- ASCII digits, captured. -/
  | digits
  /-- A comma with at most one space on either side. -/
  | comma
  deriving DecidableEq

/-- What a piece or a form captured: each argument, or none for one that was left out. -/
abbrev Captures := List (Option (List Char))

namespace Piece

def skipSpace : List Char → List Char
  | ' ' :: rest => rest
  | text => text

/-- A nonempty run of characters satisfying `p`, and what follows it. -/
def run? (p : Char → Bool) (text : List Char) : Option (List Char × List Char) :=
  match text.takeWhile p with
  | [] => none
  | run => some (run, text.dropWhile p)

/-- A colon and a word, and what follows. -/
def reference? : List Char → Option (List Char × List Char)
  | ':' :: text => (run? isWordChar text).map fun (w, rest) => (':' :: w, rest)
  | _ => none

/-- A match value as it is written, spaces and equals sign included, and what follows. -/
def matchValue? (text : List Char) : Option (List Char × List Char) :=
  match skipSpace text with
  | '=' :: afterSign =>
    (run? isWordChar (skipSpace afterSign)).map fun (_, rest) =>
      (text.take (text.length - rest.length), rest)
  | _ => none

/-- Reads a piece: what it captured, and what follows it. -/
def read? : Piece → List Char → Option (Captures × List Char)
  | .exact start, text => (Text.dropStart? start text).map fun rest => ([], rest)
  | .word, text => (run? isWordChar text).map fun (w, rest) => ([some w], rest)
  | .reference, text => (reference? text).map fun (v, rest) => ([some v], rest)
  | .target, text =>
    ((reference? text).or (run? isWordChar text)).map fun (t, rest) => ([some t], rest)
  | .matchValue, text =>
    match matchValue? text with
    | some (v, rest) => some ([some v], rest)
    | none => some ([none], text)
  | .digits, text => (run? Char.isDigit text).map fun (d, rest) => ([some d], rest)
  | .comma, text =>
    match skipSpace text with
    | ',' :: rest => some ([], skipSpace rest)
    | _ => none

theorem skipSpace_suffix (text : List Char) : skipSpace text <:+ text := by
  unfold skipSpace
  split
  · exact List.suffix_cons _ _
  · exact List.suffix_refl _

theorem run?_suffix {p : Char → Bool} {text run rest : List Char}
    (h : run? p text = some (run, rest)) : rest <:+ text := by
  unfold run? at h
  split at h
  · cases h
  · simp only [Option.some.injEq, Prod.mk.injEq] at h
    exact h.2 ▸ List.dropWhile_suffix p

theorem reference?_suffix {text v rest : List Char} (h : reference? text = some (v, rest)) :
    rest <:+ text := by
  unfold reference? at h
  split at h
  · simp only [Option.map_eq_some_iff, Prod.mk.injEq, Prod.exists] at h
    obtain ⟨w, r, hr, -, rfl⟩ := h
    exact (run?_suffix hr).trans (List.suffix_cons _ _)
  · cases h

theorem matchValue?_suffix {text v rest : List Char} (h : matchValue? text = some (v, rest)) :
    rest <:+ text := by
  unfold matchValue? at h
  split at h
  · next afterSign hs =>
    simp only [Option.map_eq_some_iff, Prod.mk.injEq, Prod.exists] at h
    obtain ⟨w, r, hr, -, rfl⟩ := h
    have hsign : afterSign <:+ text :=
      (List.suffix_cons '=' afterSign).trans (hs ▸ skipSpace_suffix text)
    exact (run?_suffix hr).trans ((skipSpace_suffix afterSign).trans hsign)
  · cases h

/-- What reading a piece leaves is the end of what there was. -/
theorem read?_suffix {piece : Piece} {text rest : List Char} {captured : Captures}
    (h : piece.read? text = some (captured, rest)) : rest <:+ text := by
  cases piece with
  | exact start =>
    simp only [read?, Option.map_eq_some_iff, Prod.mk.injEq] at h
    obtain ⟨r, hr, -, rfl⟩ := h
    rw [Text.dropStart?_eq_some_iff.1 hr]
    exact List.suffix_append _ _
  | word | digits =>
    simp only [read?, Option.map_eq_some_iff, Prod.mk.injEq, Prod.exists] at h
    obtain ⟨w, r, hr, -, rfl⟩ := h
    exact run?_suffix hr
  | reference =>
    simp only [read?, Option.map_eq_some_iff, Prod.mk.injEq, Prod.exists] at h
    obtain ⟨w, r, hr, -, rfl⟩ := h
    exact reference?_suffix hr
  | target =>
    simp only [read?, Option.map_eq_some_iff, Prod.mk.injEq, Prod.exists,
      Option.or_eq_some_iff] at h
    obtain ⟨w, r, hr, -, rfl⟩ := h
    rcases hr with hr | ⟨-, hr⟩
    · exact reference?_suffix hr
    · exact run?_suffix hr
  | matchValue =>
    simp only [read?] at h
    split at h
    · next v r hv =>
      simp only [Option.some.injEq, Prod.mk.injEq] at h
      exact h.2 ▸ matchValue?_suffix hv
    · simp only [Option.some.injEq, Prod.mk.injEq] at h
      exact h.2 ▸ List.suffix_refl _
  | comma =>
    simp only [read?] at h
    split at h
    · next r hr =>
      simp only [Option.some.injEq, Prod.mk.injEq] at h
      have hcomma : r <:+ text := (List.suffix_cons ',' r).trans (hr ▸ skipSpace_suffix text)
      exact h.2 ▸ (skipSpace_suffix r).trans hcomma
    · cases h

def readAll? : List Piece → List Char → Option (Captures × List Char)
  | [], text => some ([], text)
  | piece :: pieces, text =>
    match piece.read? text with
    | none => none
    | some (captured, rest) =>
      (readAll? pieces rest).map fun (more, rest) => (captured ++ more, rest)

theorem readAll?_suffix {pieces : List Piece} {text rest : List Char} {captured : Captures}
    (h : readAll? pieces text = some (captured, rest)) : rest <:+ text := by
  induction pieces generalizing text captured with
  | nil =>
    simp only [readAll?, Option.some.injEq, Prod.mk.injEq] at h
    exact h.2 ▸ List.suffix_refl _
  | cons piece pieces ih =>
    simp only [readAll?] at h
    split at h
    · cases h
    · next c r hr =>
      simp only [Option.map_eq_some_iff, Prod.mk.injEq, Prod.exists] at h
      obtain ⟨more, r', hr', -, rfl⟩ := h
      exact (ih hr').trans (read?_suffix hr)

end Piece

structure Form where
  keyword : List Char
  pieces : List Piece := []
  /-- Whether anything may follow, as the last capture. -/
  trailing : Bool := false

namespace Form

/-- The arguments of a block tag with a condition. -/
def condition (keyword : List Char) : Form :=
  ⟨keyword, [.exact ['('], .reference, .matchValue, .exact [')']], false⟩

def twoVariables (keyword : List Char) (trailing : Bool) : Form :=
  ⟨keyword, [.exact ['(', ':'], .word, .comma, .exact [':'], .word, .exact [')']], trailing⟩

/-- Reads a form at the start of a text: what it captured, and what follows it. -/
def read? (form : Form) (text : List Char) : Option (Captures × List Char) :=
  match Text.dropStart? form.keyword text with
  | none => none
  | some after =>
    match Piece.readAll? form.pieces after with
    | none => none
    | some (captured, rest) =>
      if form.trailing then some (captured ++ [some rest], []) else some (captured, rest)

/-- What a form captures from a text that it makes up whole. -/
def full? (form : Form) (text : List Char) : Option Captures :=
  match form.read? text with
  | some (captured, []) => some captured
  | _ => none

/-- A form found inside a text. -/
structure Found where
  /-- How many characters stand before it. -/
  start : Nat
  /-- The characters that make it up. -/
  matched : List Char
  captured : Captures

/-- The leftmost place where a form can be read. -/
def search? (form : Form) : List Char → Option Found
  | [] => (form.read? []).map fun (captured, _) => ⟨0, [], captured⟩
  | c :: text =>
    match form.read? (c :: text) with
    | some (captured, rest) =>
      some ⟨0, (c :: text).take (text.length + 1 - rest.length), captured⟩
    | none => (form.search? text).map fun found => { found with start := found.start + 1 }

end Form
end SqlTemplate
