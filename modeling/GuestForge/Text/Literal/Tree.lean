set_option autoImplicit false

/-!
# Trees of expressions

What an expression is made of, as far as that decides whether it is a literal: a number, which may have a sign or be
the sum of a real and an imaginary one, a text, a constant, or a tuple, set or dictionary of literals.
-/
namespace GuestForge.Text.Literal

/-- Parts of a dictionary are its keys and values in turn; `absent` is the key of an unpacked one. Of other forms of
expressions only a description is kept, and of arguments how many have no name and whether a dictionary is unpacked
among them. -/
inductive Tree where
  | name (text : String)
  | number (isImaginary : Bool)
  | constant (description : String)
  | tuple (items : List Tree)
  | set (items : List Tree)
  | emptySet
  | dictionary (parts : List Tree)
  | absent
  | signed (operand : Tree)
  | sum (left right : Tree)
  | starred (operand : Tree)
  | comparison (left : Tree) (isMembership : Bool)
  | arguments (unnamed : Nat) (unpacks : Bool)
  | other (description : String)

namespace Tree

def description : Tree → String
  | .name _ => "name"
  | .number _ => "literal"
  | .constant description => description
  | .tuple _ => "tuple"
  | .set _ => "set display"
  | .emptySet => "function call"
  | .dictionary _ => "dict literal"
  | .absent => "None"
  | .signed _ => "expression"
  | .sum _ _ => "expression"
  | .starred _ => "starred"
  | .comparison _ _ => "comparison"
  | .arguments _ _ => "function call"
  | .other description => description

/-- Why an expression is no literal: by its form, because a dictionary is unpacked, or because something that may
change is an element of a set or a key. -/
inductive Problem where
  | malformed
  | unpacked
  | unhashable (kind : String)
  deriving DecidableEq, Repr

def Problem.message : Problem → String
  | .malformed => "malformed node or string"
  | .unpacked => "malformed node or string: None"
  | .unhashable kind => "unhashable type: '" ++ kind ++ "'"

def isNumber : Tree → Bool
  | .number _ => true
  | _ => false

def isReal : Tree → Bool
  | .number isImaginary => !isImaginary
  | .signed (.number isImaginary) => !isImaginary
  | _ => false

def changing? : Tree → Option String
  | .set _ => some "set"
  | .emptySet => some "set"
  | .dictionary _ => some "dict"
  | .tuple items => changingIn? items
  | _ => none
where
  changingIn? : List Tree → Option String
    | [] => none
    | item :: items => (changing? item).or (changingIn? items)

def unhashable? (tree : Tree) : Option Problem := tree.changing?.map .unhashable

mutual

def problem? : Tree → Option Problem
  | .number _ => none
  | .constant _ => none
  | .emptySet => none
  | .tuple items => itemProblem? items
  | .set items => elementProblem? items
  | .dictionary parts => partProblem? parts
  | .absent => some .unpacked
  | .signed operand => if operand.isNumber then none else some .malformed
  | .sum left right =>
    match right with
    | .number true => if left.isReal then none else some .malformed
    | _ => some .malformed
  | _ => some .malformed

def itemProblem? : List Tree → Option Problem
  | [] => none
  | item :: items => (problem? item).or (itemProblem? items)

def elementProblem? : List Tree → Option Problem
  | [] => none
  | item :: items => ((problem? item).or item.unhashable?).or (elementProblem? items)

def partProblem? : List Tree → Option Problem
  | key :: value :: parts =>
    (((problem? key).or (problem? value)).or key.unhashable?).or (partProblem? parts)
  | _ => none

end

/-- The first part of what stands behind `for` that nothing can be assigned to. -/
def notTarget? : Tree → Option Tree
  | .name _ => none
  | .tuple items => notTargetIn? items
  | .starred operand => notTarget? operand
  | .comparison left true => notTarget? left
  | .comparison _ false => none
  | .other description => if description = "attribute" then none else some (.other description)
  | tree => some tree
where
  notTargetIn? : List Tree → Option Tree
    | [] => none
    | item :: items => (notTarget? item).or (notTargetIn? items)

end Tree

end GuestForge.Text.Literal
