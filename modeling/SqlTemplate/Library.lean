import SqlTemplate.ErrorKind
import SqlTemplate.Value

/-!
# What is left to others

Two notations are not read here: that of ignore patterns and that of documents. For each of them
there is a library, and all that is used of it is one function from lines, or from a text, to what
they mean. Everything that is said of searches and of runs is said **for any such functions**; what
they make of a pattern or of a document is their own affair, and so is what they raise.
-/

set_option autoImplicit false

namespace SqlTemplate

/-- What a library raises. -/
structure LibraryFault where
  kind : ErrorKind
  message : String

structure Library where
  /-- Reads the lines of ignore patterns: which paths they match as a whole. -/
  readPatterns : (lines : List (List Char)) → Except LibraryFault (List Char → Bool)
  readDocument : (text : List Char) → Except LibraryFault Value

end SqlTemplate
