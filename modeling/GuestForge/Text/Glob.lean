set_option autoImplicit false

/-!
# Patterns for whole names

In a pattern `*` stands for any run of characters, `?` for any one, and a set in brackets for one of its
characters, or with a leading `!` for one outside it; all else stands for itself, as does a bracket that is
never closed. Case counts, and so do line breaks. `tokens` reads a pattern and `accepts` decides it in one
pass over the pattern, whatever the number of stars.
-/
namespace GuestForge.Text.Glob

inductive Item where
  | single (c : Char)
  | span (low high : Char)
  deriving DecidableEq, Repr

def Item.contains : Item → Char → Bool
  | .single d, c => c == d
  | .span low high, c => low ≤ c && c ≤ high

/-- A span that runs backwards holds no character. -/
def Item.isEmpty : Item → Bool
  | .single _ => false
  | .span low high => high < low

structure CharSet where
  negated : Bool
  items : List Item
  deriving DecidableEq, Repr

def CharSet.contains (set : CharSet) (c : Char) : Bool := set.items.any (·.contains c) != set.negated

/-- The singles and spans of a set's body from left to right; a hyphen with a character on both sides that no
span has used up makes one. -/
def readItems : List Char → List Item
  | [] => []
  | [c] => [.single c]
  | [c, d] => [.single c, .single d]
  | c :: d :: e :: rest =>
    if d = '-' then .span c e :: readItems rest else .single c :: readItems (d :: e :: rest)

/-- The exclamation mark of a negated set starts no span. Empty spans are dropped first, and a mark that then
comes to stand at the head negates the set as well, the hyphen behind it becoming a plain character. -/
def CharSet.ofBody (body : List Char) : CharSet :=
  let written : List Item := match body with
    | '!' :: rest => .single '!' :: readItems rest
    | _ => readItems body
  match written.filter (fun item => !item.isEmpty) with
  | .single '!' :: rest => ⟨true, rest⟩
  | .span '!' high :: rest => ⟨true, .single '-' :: .single high :: rest⟩
  | kept => ⟨false, kept⟩

/-- The body of the set that opens just before `text`, if it is closed. A closing bracket at its head, or next
to a leading exclamation mark, belongs to the body. -/
def setBody? (text : List Char) : Option (List Char) :=
  let lead := match text with
    | '!' :: ']' :: _ => 2
    | '!' :: _ => 1
    | ']' :: _ => 1
    | _ => 0
  if ']' ∈ text.drop lead then some (text.take lead ++ (text.drop lead).takeWhile (· ≠ ']')) else none

inductive Token where
  | anyRun
  | anyChar
  | literal (c : Char)
  | oneOf (set : CharSet)
  deriving DecidableEq, Repr

def tokensFrom : Nat → List Char → List Token
  | _, [] => []
  | skipped + 1, _ :: rest => tokensFrom skipped rest
  | 0, c :: rest =>
    if c = '*' then .anyRun :: tokensFrom 0 rest
    else if c = '?' then .anyChar :: tokensFrom 0 rest
    else if c = '[' then
      match setBody? rest with
      | some body => .oneOf (CharSet.ofBody body) :: tokensFrom (body.length + 1) rest
      | none => .literal c :: tokensFrom 0 rest
    else .literal c :: tokensFrom 0 rest

def tokens (pattern : List Char) : List Token := tokensFrom 0 pattern

def Token.takes : Token → Char → Bool
  | .anyRun, _ => false
  | .anyChar, _ => true
  | .literal d, c => c == d
  | .oneOf set, c => set.contains c

def orTails : List Bool → List Bool
  | [] => []
  | b :: rest => match orTails rest with
    | [] => [b]
    | c :: row => (b || c) :: c :: row

def afterOne (passes : Char → Bool) : List Char → List Bool → List Bool
  | c :: text, _ :: row => (passes c && row.headD false) :: afterOne passes text row
  | _, _ => [false]

/-- For each tail of `text`, from the longest to the empty one, whether the tokens match all of it. -/
def matchTails : List Token → List Char → List Bool
  | [], text => text.map (fun _ => false) ++ [true]
  | .anyRun :: rest, text => orTails (matchTails rest text)
  | token :: rest, text => afterOne token.takes text (matchTails rest text)

def accepts (pattern name : String) : Bool :=
  (matchTails (tokens pattern.toList) name.toList).headD false

end GuestForge.Text.Glob
