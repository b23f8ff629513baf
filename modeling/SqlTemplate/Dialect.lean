import SqlTemplate.ErrorKind
import SqlTemplate.Text.Blank
import SqlTemplate.Text.Search
import SqlTemplate.Value

/-!
# Dialects

Databases disagree about three things that a template leaves open: when a comparison is a pattern
match, what has to follow the pattern, and how a page of rows is asked for. A dialect settles them.
The first is the same for all: a value is a pattern if it holds a `%` or a `_` that no backslash
escapes (`is_like_wildcard`). The second is a text of the dialect's own. The third is its **kind**,
and everything that differs between kinds is in the two functions `Dialect.pagingClause` and
`Dialect.addPaging` (`paging_clause`, `add_paging`).

Three kinds ask for a page by a clause after the query. The fourth has no such clause; it makes
another query of the query, which must be `SELECT columns FROM rest ORDER BY order`, in which the
rows are numbered and the numbers compared. The cut is made at the first ` FROM ` and the last
` ORDER BY `, and is refused only if there is none or they are the wrong way round.
-/

set_option autoImplicit false

namespace SqlTemplate

inductive PagingStyle where
  | offsetFetch
  | limitOffset
  | mySql
  | rowNumber
  deriving DecidableEq

def PagingStyle.label : PagingStyle → String
  | .offsetFetch => "DialectConfig"
  | .limitOffset => "LimitOffsetDialect"
  | .mySql => "MySqlDialect"
  | .rowNumber => "SqlServer2008Dialect"

structure Dialect where
  /-- The dialect's name; what is registered must have a nonempty text for a name. -/
  name : Value
  likeSuffix : String := ""
  style : PagingStyle := .offsetFetch

/-- What a dialect cannot do, or cannot be registered for. -/
inductive DialectError where
  /-- A paging clause for a dialect that has none. -/
  | noPagingClause (dialect : String)
  /-- A query that cannot be cut into its parts. -/
  | notCuttable (dialect : String)
  | unnamed
  | alreadyRegistered (dialect : String)
  /-- A name that no registered dialect has, and those there are. -/
  | unknown (name : String) (available : List String)
  deriving DecidableEq

def DialectError.message : DialectError → String
  | .noPagingClause dialect =>
    s!"Dialect '{dialect}' does not support @OFFSETFETCH/@FETCH, use @PAGING"
  | .notCuttable dialect =>
    s!"Dialect '{dialect}' requires SELECT ... FROM ... ORDER BY ... inside @PAGING"
  | .unnamed => "Dialect must define a non-empty name"
  | .alreadyRegistered dialect => s!"Dialect '{dialect}' is already registered"
  | .unknown name available =>
    s!"Unknown dialect '{name}'. Available: " ++ ", ".intercalate available

def DialectError.kind : DialectError → ErrorKind
  | .unknown _ _ => .dialectNotFound
  | _ => .dialect

namespace Dialect

def nameText (d : Dialect) : String := d.name.text

/-- Whether a text holds a wildcard that is not escaped. The flag says whether the character
before was an escape. -/
def hasWildcard : (escaped : Bool) → List Char → Bool
  | _, [] => false
  | true, _ :: rest => hasWildcard false rest
  | false, c :: rest =>
    if c = '\\' then hasWildcard true rest
    else if c = '%' || c = '_' then true
    else hasWildcard false rest

def isWildcard (value : String) : Bool := hasWildcard false value.toList

/-- The number of rows that stands for all of them where a limit must be given. -/
def allRows : Nat := 18446744073709551615

/-- The clause that asks for a page, ending in a space; empty when nothing is asked for. -/
def pagingClause (d : Dialect) : (offset fetch : Option Int) → Except DialectError String
  | none, none => .ok ""
  | some offset, some fetch =>
    match d.style with
    | .offsetFetch => .ok s!"OFFSET {offset} ROWS FETCH NEXT {fetch} ROWS ONLY "
    | .limitOffset => .ok s!"LIMIT {fetch} OFFSET {offset} "
    | .mySql => .ok s!"LIMIT {fetch} OFFSET {offset} "
    | .rowNumber => .error (.noPagingClause d.nameText)
  | some offset, none =>
    match d.style with
    | .offsetFetch => .ok s!"OFFSET {offset} ROWS "
    | .limitOffset => .ok s!"OFFSET {offset} "
    | .mySql => .ok s!"LIMIT {allRows} OFFSET {offset} "
    | .rowNumber => .error (.noPagingClause d.nameText)
  | none, some fetch =>
    match d.style with
    | .offsetFetch => .ok s!"FETCH FIRST {fetch} ROWS ONLY "
    | .limitOffset => .ok s!"LIMIT {fetch} "
    | .mySql => .ok s!"LIMIT {fetch} "
    | .rowNumber => .error (.noPagingClause d.nameText)

/-- Whether a character is the given capital letter without regard to case. The long s counts as
an S. -/
def isLetter (capital c : Char) : Bool :=
  c = capital || c = capital.toLower || (capital = 'S' && c = 'ſ')

def dropWord? : (word text : List Char) → Option (List Char)
  | [], text => some text
  | _ :: _, [] => none
  | w :: word, c :: text => if isLetter w c then dropWord? word text else none

/-- How many characters the start of a query takes: the word `SELECT` in any case, with any white
space before it and some after it. -/
def selectLength? (query : List Char) : Option Nat :=
  let start := Text.trimLeft query
  match dropWord? ['S', 'E', 'L', 'E', 'C', 'T'] start with
  | none => none
  | some after =>
    let columns := Text.trimLeft after
    if columns.length < after.length then some (query.length - columns.length) else none

def fromWord : List Char := [' ', 'F', 'R', 'O', 'M', ' ']

def orderWord : List Char := [' ', 'O', 'R', 'D', 'E', 'R', ' ', 'B', 'Y', ' ']

/-- The characters of a text from one place up to another, none if the second comes first. -/
def slice (text : List Char) (start stop : Nat) : List Char := (text.take stop).drop start

structure QueryParts where
  columns : List Char
  source : List Char
  order : List Char
  deriving DecidableEq

/-- Cuts a query at its start, the first ` FROM ` and the last ` ORDER BY `. -/
def cut? (query : List Char) : Option QueryParts :=
  match selectLength? query, Text.splitFirst? fromWord query, Text.splitLast? orderWord query with
  | some start, some (beforeFrom, _), some (beforeOrder, order) =>
    if beforeOrder.length < beforeFrom.length then none
    else
      some {
        columns := Text.trim (slice query start beforeFrom.length)
        source :=
          Text.trim (slice query (beforeFrom.length + fromWord.length) beforeOrder.length)
        order := Text.trim order }
  | _, _, _ => none

/-- The query that numbers the rows of a query and selects a page of them. -/
def numbered (parts : QueryParts) (offset fetch : Option Int) : String :=
  let columns := String.ofList parts.columns
  let source := String.ofList parts.source
  let order := String.ofList parts.order
  let start := offset.getD 0 + 1
  let inner := s!"SELECT {columns}, ROW_NUMBER() OVER (ORDER BY {order}) AS ROW_NUM FROM {source}"
  let upper := match fetch with
    | some fetch => s!" AND ROW_NUM < {start + fetch}"
    | none => ""
  s!"SELECT * FROM ({inner}) AS ROW_TABLE WHERE ROW_NUM >= {start}" ++ upper ++
    " ORDER BY ROW_NUM "

def addPaging (d : Dialect) (query : String) (offset fetch : Option Int) :
    Except DialectError String :=
  match d.style with
  | .rowNumber =>
    match offset, fetch with
    | none, none => .ok query
    | _, _ =>
      match cut? query.toList with
      | none => .error (.notCuttable d.nameText)
      | some parts => .ok (numbered parts offset fetch)
  | _ => (d.pagingClause offset fetch).map (query ++ ·)

def default : Dialect := ⟨.str "default", "", .offsetFetch⟩

/-- The suffix by which a database is told that the backslash escapes a wildcard. -/
def escapeSuffix : String := "ESCAPE '\\' "

def builtins : List Dialect := [
  default,
  ⟨.str "hsql", escapeSuffix, .offsetFetch⟩,
  ⟨.str "mysql", "", .mySql⟩,
  ⟨.str "postgres", "", .limitOffset⟩,
  ⟨.str "oracle", escapeSuffix, .offsetFetch⟩,
  ⟨.str "sqlserver2008", "", .rowNumber⟩,
  ⟨.str "vertica", "", .limitOffset⟩]

end Dialect
end SqlTemplate
