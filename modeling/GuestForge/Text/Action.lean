import GuestForge.Text.Blank
import GuestForge.Text.Lines
import GuestForge.Text.Literal.Reading
set_option autoImplicit false

/-!
# Actions of markup tags

A tag whose name starts with `@` stands for an action. Its parameter is the name of a handler, arguments in
parentheses, or both, or else a single value; arguments and values are literals.
-/
namespace GuestForge.Text.Action

inductive Error where
  | notExpression (text parameter : String) (error : Literal.SyntaxError)
  | notLiteral (parameter : String) (problem : Literal.Tree.Problem)
  | nul (parameter : String)
  deriving DecidableEq, Repr

def Error.message : Error → String
  | .notExpression text parameter error =>
    "error parsing " ++ quoted text ++ " in " ++ quoted parameter ++ "; " ++ error.message
  | .notLiteral parameter problem => "error parsing " ++ quoted parameter ++ "; " ++ problem.message
  | .nul parameter =>
    "error parsing " ++ quoted parameter ++ "; source code string cannot contain null bytes"

def argumentsOf (text : List Char) : List Char :=
  match text.dropWhile fun c => WordChar.isWord c || c == '.' with
  | [] => "()".toList
  | '(' :: rest => if rest.getLast? = some ')' ∧ '\n' ∉ rest then '(' :: rest else text
  | _ => text

def check (parameter : String) : Except Error Unit :=
  if parameter = "" then .ok ()
  else
    let text := argumentsOf (Blank.trim parameter.toList)
    if '\x00' ∈ text then .error (.nul parameter)
    else match Literal.read (normalizeLines text) with
      | .error error => .error (.notExpression (String.ofList text) parameter error)
      | .ok tree =>
        match tree.problem? with
        | some problem => .error (.notLiteral parameter problem)
        | none => .ok ()

end GuestForge.Text.Action
