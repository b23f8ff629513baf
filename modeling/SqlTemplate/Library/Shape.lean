/-!
# Shapes of paths

A pattern for paths says what a path may look like, and is put together from a few shapes: a
character, one of a set, any one character of a name, a run of characters, one shape after another,
and a shape that may be missing. Matching is done by **all the rests a shape can leave**, so that
nothing is decided too early; a path has the shape if one of them is empty.

The distinction that makes these shapes of paths is whether a run may go on past a slash. The
characters of a set are what the set says and may include the slash.
-/

set_option autoImplicit false

namespace SqlTemplate

abbrev CharSpan := Char × Char

inductive Shape where
  /-- The empty text. -/
  | nothing
  | char (c : Char)
  /-- A character in one of the spans, or if `negated` in none of them. -/
  | oneOf (negated : Bool) (spans : List CharSpan)
  /-- One character within a name. -/
  | within
  /-- Any number of characters within a name. -/
  | run
  /-- Any number of characters on one line, slashes included. -/
  | any
  | seq (first second : Shape)
  | maybe (shape : Shape)
  deriving DecidableEq

namespace Shape

def inSet (negated : Bool) (spans : List CharSpan) (c : Char) : Bool :=
  spans.any (fun span => span.1 ≤ c && c ≤ span.2) != negated

/-- What is left after one character that satisfies `p`. -/
def restsOne (p : Char → Bool) : List Char → List (List Char)
  | [] => []
  | c :: rest => if p c then [rest] else []

/-- What can be left after characters that satisfy `p`. -/
def restsRun (p : Char → Bool) : List Char → List (List Char)
  | [] => [[]]
  | c :: rest => (c :: rest) :: if p c then restsRun p rest else []

/-- What can be left of a text after a beginning of the shape. -/
def rests : Shape → List Char → List (List Char)
  | .nothing, text => [text]
  | .char c, text => restsOne (· = c) text
  | .oneOf negated spans, text => restsOne (inSet negated spans) text
  | .within, text => restsOne (· ≠ '/') text
  | .run, text => restsRun (· ≠ '/') text
  | .any, text => restsRun (· ≠ '\n') text
  | .seq first second, text => (rests first text).flatMap (rests second)
  | .maybe shape, text => text :: rests shape text

/-- The first span of a set whose second character comes before its first. -/
def backward? : Shape → Option CharSpan
  | .oneOf _ spans => spans.find? fun span => span.2 < span.1
  | .seq first second => (backward? first).or (backward? second)
  | .maybe shape => backward? shape
  | _ => none

def fits (shape : Shape) (text : List Char) : Bool := (shape.rests text).contains []

def all (shapes : List Shape) : Shape := shapes.foldr .seq .nothing

def slash : Shape := .char '/'

def name : Shape := .seq .within .run

/-- One or more characters on one line. -/
def something : Shape := .seq (.oneOf true [('\n', '\n')]) .any

/-- Names above something, with the slash after them. -/
def above : Shape := .seq something slash

/-- What is under something, with the slash before it. -/
def under : Shape := .seq slash .any

end Shape
end SqlTemplate
