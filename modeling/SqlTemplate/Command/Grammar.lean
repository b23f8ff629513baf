import SqlTemplate.Entries
import SqlTemplate.Text.DecimalDigit
import SqlTemplate.Text.Search

/-!
# Command lines

A command line is a list of words, some of which are options. Which ones is decided first and for
the whole line, **before anything is done**: a word that starts with a dash is an option unless it
is a lone dash, a negative number, or unknown with a space in it, and after the word of two dashes
nothing is an option any more. An option can be cut short as long as one only is meant.

Then the line is gone through from left to right. An option takes the word after it as its value,
or what stands after an equals sign in the same word. Operands take words between options, as many
as they can at once, and what nobody takes is left over. Help and the version end the reading where
they stand, so a fault further on is never noticed, and a fault before them is.
-/

set_option autoImplicit false

namespace SqlTemplate

inductive OptionUse where
  | help
  | version
  /-- Said or not said. -/
  | mark
  | value
  deriving DecidableEq

/-- An option in one of its spellings. Options of one letter take no value, so that several can be
written after one dash. -/
structure CommandOption where
  spelling : List Char
  use : OptionUse
  deriving DecidableEq

inductive Operand where
  | one
  | several
  /-- One word and all that follows it, options included. -/
  | command
  deriving DecidableEq

structure Grammar where
  options : List CommandOption
  operands : List Operand

/-- Why a command line is not gone through to its end. -/
inductive Stop where
  | usage
  | help
  | version
  deriving DecidableEq

inductive OptionWord where
  /-- No option that there is. -/
  | unknown
  | alone (option : CommandOption)
  /-- An option with what stands after the equals sign. -/
  | valued (option : CommandOption) (value : List Char)
  /-- A letter with more letters after it. -/
  | lettered (option : CommandOption) (letters : List Char)

inductive Token where
  | word (text : String)
  /-- The two dashes after which nothing is an option. -/
  | dashes
  | option (text : String) (said : OptionWord)

namespace Token

def text : Token → String
  | .word text => text
  | .dashes => "--"
  | .option text _ => text

def isOption : Token → Bool
  | .option _ _ => true
  | _ => false

def isDashes : Token → Bool
  | .dashes => true
  | _ => false

end Token

namespace Grammar

def find? (g : Grammar) (spelling : List Char) : Option CommandOption :=
  g.options.find? fun o => o.spelling == spelling

/-- Whether characters are digits, and some. -/
def areDigits (cs : List Char) : Bool :=
  !cs.isEmpty && cs.all fun c => (Text.digitValue? c).isSome

/-- Whether a word is a negative number, perhaps with a fraction. -/
def isNegativeNumber (word : List Char) : Bool :=
  let word := if word.getLast? = some '\n' then word.dropLast else word
  match word with
  | '-' :: rest =>
    areDigits rest ||
      match Text.splitFirst? ['.'] rest with
      | some (whole, fraction) => (whole.isEmpty || areDigits whole) && areDigits fraction
      | none => false
  | _ => false

/-- An option with what may stand after it in the same word. -/
def withValue (o : CommandOption) : Option (List Char) → OptionWord
  | none => .alone o
  | some value => .valued o value

/-- A word cut at its first equals sign. -/
def splitValue (word : List Char) : List Char × Option (List Char) :=
  match Text.splitFirst? ['='] word with
  | some (before, after) => (before, some after)
  | none => (word, none)

/-- What a word can be short for. -/
def candidates (g : Grammar) (word : List Char) : List OptionWord :=
  match word with
  | '-' :: '-' :: _ =>
    let (start, value) := splitValue word
    (g.options.filter fun o => start.isPrefixOf o.spelling).map fun o => withValue o value
  | first :: letter :: rest =>
    g.options.filterMap fun o =>
      if o.spelling = [first, letter] then some (.lettered o rest)
      else if word.isPrefixOf o.spelling then some (.alone o)
      else none
  | _ => []

/-- What a word says that starts with an option in full. -/
def spelled? (g : Grammar) (word : List Char) : Option OptionWord :=
  match g.find? word with
  | some o => some (.alone o)
  | none =>
    match splitValue word with
    | (start, some value) => (g.find? start).map fun o => .valued o value
    | (_, none) => none

def classifyWord (g : Grammar) (text : String) : Except Stop Token :=
  match text.toList with
  | '-' :: c :: rest =>
    let word := '-' :: c :: rest
    match g.spelled? word with
    | some said => .ok (.option text said)
    | none =>
      match g.candidates word with
      | [said] => .ok (.option text said)
      | [] =>
        if isNegativeNumber word || word.contains ' ' then .ok (.word text)
        else .ok (.option text .unknown)
      | _ => .error .usage
  | _ => .ok (.word text)

def classify (g : Grammar) : (line : List String) → Except Stop (List Token)
  | [] => .ok []
  | text :: rest =>
    if text = "--" then .ok (.dashes :: rest.map .word)
    else do
      let token ← g.classifyWord text
      let tokens ← g.classify rest
      return token :: tokens

/-- The options that letters after a dash stand for, and what is left from the first letter on
that stands for none. A dash or an equals sign among them is a fault. -/
def letters? (g : Grammar) : List Char → Option (List CommandOption × List Char)
  | [] => some ([], [])
  | c :: rest =>
    if c = '-' || rest.head? = some '=' && (g.find? ['-', c]).isSome then none
    else
      match g.find? ['-', c] with
      | none => some ([], c :: rest)
      | some o => (g.letters? rest).map fun (others, left) => (o :: others, left)

end Grammar

structure CommandLine where
  /-- The options with their values, in order; a mark has an empty value. -/
  given : List (List Char × String) := []
  /-- The words of each operand. -/
  operands : List (List String) := []
  /-- The words that nobody takes. -/
  extras : List String := []

namespace CommandLine

def values (line : CommandLine) (spelling : List Char) : List String :=
  (line.given.filter fun entry => entry.1 == spelling).map Prod.snd

/-- The value of an option; the last one wins. -/
def value? (line : CommandLine) (spelling : List Char) : Option String :=
  (line.values spelling).getLast?

def has (line : CommandLine) (spelling : List Char) : Bool := !(line.values spelling).isEmpty

/-- Does what options without a value are for. -/
def mark (line : CommandLine) : List CommandOption → Except Stop CommandLine
  | [] => .ok line
  | o :: rest =>
    match o.use with
    | .help => .error .help
    | .version => .error .version
    | .value => .error .usage
    | .mark => mark { line with given := line.given ++ [(o.spelling, "")] } rest

def give (line : CommandLine) (o : CommandOption) (value : String) : CommandLine :=
  { line with given := line.given ++ [(o.spelling, value)] }

def leave (line : CommandLine) (text : String) : CommandLine :=
  { line with extras := line.extras ++ [text] }

end CommandLine

namespace Operand

/-- The words that an operand takes from the front of a line, and the rest. -/
def take? (operand : Operand) (tokens : List Token) : Option (List String × List Token) :=
  let start := tokens.takeWhile Token.isDashes
  match tokens.dropWhile Token.isDashes with
  | .word text :: rest =>
    match operand with
    | .one =>
      let after := rest.takeWhile Token.isDashes
      some (((start ++ .word text :: after).map Token.text).erase "--",
        rest.dropWhile Token.isDashes)
    | .several =>
      let more := rest.takeWhile fun t => !t.isOption
      some (((start ++ .word text :: more).map Token.text).erase "--",
        rest.dropWhile fun t => !t.isOption)
    | .command => some ((start ++ .word text :: rest).map Token.text, [])
  | _ => none

/-- The words that operands take from the front of a line, the operands that are still to come,
and the rest. -/
def takeAll : List Operand → List Token → List (List String) × List Operand × List Token
  | [], tokens => ([], [], tokens)
  | operand :: more, tokens =>
    match operand.take? tokens with
    | none => ([], operand :: more, tokens)
    | some (words, rest) =>
      let (others, waiting, left) := takeAll more rest
      (words :: others, waiting, left)

end Operand

namespace Grammar

/-- Does what a word that is an option says. The rest of the line is handed back, without the word
that an option has taken as its value. -/
def readOption (g : Grammar) (line : CommandLine) (text : String) (rest : List Token) :
    OptionWord → Except Stop (CommandLine × List Token)
  | .unknown => .ok (line.leave text, rest)
  | .alone o =>
    if o.use = .value then
      match rest with
      | .word value :: rest => .ok (line.give o value, rest)
      | _ => .error .usage
    else (line.mark [o]).map fun line => (line, rest)
  | .valued o value =>
    if o.use = .value then .ok (line.give o (String.ofList value), rest) else .error .usage
  | .lettered o letters =>
    match g.letters? letters with
    | none => .error .usage
    | some (others, left) =>
      let line := if left.isEmpty then line else line.leave (String.ofList ('-' :: left))
      (line.mark (o :: others)).map fun line => (line, rest)

theorem eq_of_map_eq_ok {x : Except Stop CommandLine} {line : CommandLine}
    {rest rest' : List Token} (h : x.map (fun line => (line, rest)) = .ok (line, rest')) :
    rest' = rest := by
  cases x with
  | error e => cases h
  | ok l =>
    simp only [Except.map, Except.ok.injEq, Prod.mk.injEq] at h
    exact h.2.symm

/-- Reading an option never adds to the line. -/
theorem length_readOption_le {g : Grammar} {line line' : CommandLine} {text : String}
    {rest rest' : List Token} {said : OptionWord}
    (h : g.readOption line text rest said = .ok (line', rest')) : rest'.length ≤ rest.length := by
  cases said with
  | unknown =>
    simp only [readOption, Except.ok.injEq, Prod.mk.injEq] at h
    simp [h.2]
  | alone o =>
    simp only [readOption] at h
    split at h
    · split at h
      · simp only [Except.ok.injEq, Prod.mk.injEq] at h
        simp [h.2]
      · cases h
    · exact Nat.le_of_eq (congrArg List.length (eq_of_map_eq_ok h))
  | valued o value =>
    simp only [readOption] at h
    split at h
    · simp only [Except.ok.injEq, Prod.mk.injEq] at h
      simp [h.2]
    · cases h
  | lettered o letters =>
    simp only [readOption] at h
    split at h
    · cases h
    · exact Nat.le_of_eq (congrArg List.length (eq_of_map_eq_ok h))

/-- Goes through a line from left to right. -/
def readTokens (g : Grammar) (line : CommandLine) (waiting : List Operand)
    (tokens : List Token) : Except Stop CommandLine :=
  if tokens.any Token.isOption then
    match tokens with
    | [] => .ok line
    | .option text said :: rest =>
      match _h : g.readOption line text rest said with
      | .error stop => .error stop
      | .ok (line, rest) => g.readTokens line waiting rest
    | token :: rest =>
      let (words, still, left) := Operand.takeAll waiting (token :: rest)
      if _hl : left.length < rest.length + 1 then
        g.readTokens { line with operands := line.operands ++ words } still left
      else g.readTokens (line.leave token.text) waiting rest
  else
    let (words, still, left) := Operand.takeAll waiting tokens
    if still.isEmpty then
      .ok { line with
        operands := line.operands ++ words
        extras := line.extras ++ left.map Token.text }
    else .error .usage
termination_by tokens.length
decreasing_by
  · have := length_readOption_le _h
    simp only [List.length_cons]
    omega
  · simp only [List.length_cons]
    omega
  · simp only [List.length_cons]
    omega

def read (g : Grammar) (words : List String) : Except Stop CommandLine := do
  g.readTokens {} g.operands (← g.classify words)

end Grammar
end SqlTemplate
