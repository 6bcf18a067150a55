set_option autoImplicit false

/-!
# Command lines as lists of words

`split` cuts a command line into words by the quoting rules of a POSIX shell, without comments and
expansions; `join` writes words so that they are read back one by one.
-/
namespace GuestForge.Text.ShellWords

inductive Error where
  | noClosingQuotation
  | noEscapedCharacter
  deriving DecidableEq, Repr

def Error.message : Error → String
  | .noClosingQuotation => "No closing quotation"
  | .noEscapedCharacter => "No escaped character"

def isBlank (c : Char) : Bool := c == ' ' || c == '\t' || c == '\r' || c == '\n'

/-- Where a reader of a command line stands: between words, in the bare part of a word, inside single or
double quotes, or behind a backslash in one of the two places where it escapes. -/
inductive Mode where
  | between
  | bare
  | single
  | double
  | bareEscape
  | doubleEscape
  deriving DecidableEq, Repr

/-- The words from a place in the line on, `word` being what is read of the current one. Inside double
quotes a backslash stands for itself unless a quote or another backslash follows. -/
def splitFrom : Mode → List Char → List Char → Except Error (List (List Char))
  | .between, _, [] => .ok []
  | .bare, word, [] => .ok [word]
  | .single, _, [] => .error .noClosingQuotation
  | .double, _, [] => .error .noClosingQuotation
  | .bareEscape, _, [] => .error .noEscapedCharacter
  | .doubleEscape, _, [] => .error .noEscapedCharacter
  | .between, _, c :: rest =>
    if isBlank c then splitFrom .between [] rest
    else if c = '\'' then splitFrom .single [] rest
    else if c = '"' then splitFrom .double [] rest
    else if c = '\\' then splitFrom .bareEscape [] rest
    else splitFrom .bare [c] rest
  | .bare, word, c :: rest =>
    if isBlank c then (splitFrom .between [] rest).map (word :: ·)
    else if c = '\'' then splitFrom .single word rest
    else if c = '"' then splitFrom .double word rest
    else if c = '\\' then splitFrom .bareEscape word rest
    else splitFrom .bare (word ++ [c]) rest
  | .single, word, c :: rest =>
    if c = '\'' then splitFrom .bare word rest else splitFrom .single (word ++ [c]) rest
  | .double, word, c :: rest =>
    if c = '"' then splitFrom .bare word rest
    else if c = '\\' then splitFrom .doubleEscape word rest
    else splitFrom .double (word ++ [c]) rest
  | .bareEscape, word, c :: rest => splitFrom .bare (word ++ [c]) rest
  | .doubleEscape, word, c :: rest =>
    splitFrom .double (word ++ if c = '"' ∨ c = '\\' then [c] else ['\\', c]) rest

def split (line : String) : Except Error (List String) :=
  (splitFrom .between [] line.toList).map (·.map String.ofList)

def isPlain (c : Char) : Bool :=
  c.isAlphanum || c ∈ ['_', '@', '%', '+', '=', ':', ',', '.', '/', '-']

/-- The inside of a single-quoted word: a quote leaves the quotes, stands between double ones, and enters
them again. -/
def quoteInside : List Char → List Char
  | [] => []
  | c :: rest => (if c = '\'' then ['\'', '"', '\'', '"', '\''] else [c]) ++ quoteInside rest

def quote (word : List Char) : List Char :=
  if word ≠ [] ∧ word.all isPlain then word else '\'' :: (quoteInside word ++ ['\''])

def joinWords : List (List Char) → List Char
  | [] => []
  | [word] => quote word
  | word :: rest => quote word ++ ' ' :: joinWords rest

def join (words : List String) : String := String.ofList (joinWords (words.map String.toList))

end GuestForge.Text.ShellWords
