/-!
# Kinds of error

What goes wrong goes wrong in one of several ways, and who handles it asks of what kind it is. The
kinds that a user can mend form a family with `ElSqlError` at its head; some members of it have
members of their own, and **an error of a kind is also one of every kind above it**. The other kinds
are those of the runtime and of libraries.

The command reports what is of the family and what is a fault of a value. Everything else passes
through it: a number that has no integer part, keys without an order, a document that its notation
does not allow.
-/

set_option autoImplicit false

namespace SqlTemplate

inductive ErrorKind where
  | exception
  | elsql
  | format
  | lookup
  | fragmentNotFound
  | variableNotFound
  | render
  | invalidParameter
  | rawIncludeForbidden
  | dialect
  | dialectNotFound
  | config
  | load
  | type
  /-- Of a value; errors of decoding are of this kind. -/
  | value
  | arithmetic
  | overflow
  /-- Of a regular expression. -/
  | expression
  /-- Of a document that is not written in its notation. -/
  | document
  deriving DecidableEq

namespace ErrorKind

/-- The kinds above a kind, nearest first. -/
def bases : ErrorKind → List ErrorKind
  | .exception => []
  | .fragmentNotFound => [.lookup, .elsql, .exception]
  | .variableNotFound => [.lookup, .elsql, .exception]
  | .invalidParameter => [.render, .elsql, .exception]
  | .rawIncludeForbidden => [.render, .elsql, .exception]
  | .dialectNotFound => [.dialect, .elsql, .exception]
  | .format => [.elsql, .exception]
  | .lookup => [.elsql, .exception]
  | .render => [.elsql, .exception]
  | .dialect => [.elsql, .exception]
  | .config => [.elsql, .exception]
  | .load => [.elsql, .exception]
  | .overflow => [.arithmetic, .exception]
  | _ => [.exception]

def isA (kind other : ErrorKind) : Bool := kind = other || kind.bases.contains other

/-- Whether the command (`main`) reports an error of this kind to its user. -/
def isReported (kind : ErrorKind) : Bool := kind.isA .elsql || kind.isA .value

/-- The name by which a caller knows a kind. -/
def name : ErrorKind → String
  | .exception => "Exception"
  | .elsql => "ElSqlError"
  | .format => "ElSqlFormatError"
  | .lookup => "ElSqlLookupError"
  | .fragmentNotFound => "FragmentNotFoundError"
  | .variableNotFound => "VariableNotFoundError"
  | .render => "ElSqlRenderError"
  | .invalidParameter => "InvalidParameterError"
  | .rawIncludeForbidden => "RawIncludeForbiddenError"
  | .dialect => "DialectError"
  | .dialectNotFound => "DialectNotFoundError"
  | .config => "ElSqlConfigError"
  | .load => "ElSqlLoadError"
  | .type => "TypeError"
  | .value => "ValueError"
  | .arithmetic => "ArithmeticError"
  | .overflow => "OverflowError"
  | .expression => "error"
  | .document => "YAMLError"

end ErrorKind
end SqlTemplate
