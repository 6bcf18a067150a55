import GuestForge.Text.Literal.Display
set_option autoImplicit false

/-!
# Arguments

What stands in the parentheses of a call: arguments without a name, then those with one; an iterable or a dictionary
may be unpacked among them.
-/
namespace GuestForge.Text.Literal
open GuestForge.Text.Literal.Parser

structure Shape where
  unnamed : Nat := 0
  unpacks : Bool := false

def Shape.add (a b : Shape) : Shape := ⟨a.unnamed + b.unnamed, a.unpacks || b.unpacks⟩

def Shape.all (shapes : List Shape) : Shape := shapes.foldl Shape.add {}

def namedArgument (call : Calls) : Parser Shape := do
  let _ ← kind .name
  let _ ← operator "="
  let _ ← call .expression
  pure {}

def wrongArgument {α : Type} (call : Calls) : Parser α := explain [
  do
    let token ← constantWord
    let _ ← operator "="
    pure (some (.assigned token.text)),
  do
    let _ ← namedArgument call
    forClauses call
    pure (some .meantEquality),
  do
    unlessAhead do
      let _ ← kind .name
      operator "="
    let _ ← call .expression
    let _ ← operator "="
    pure (some .assignedArgument)]

def namedOrStarred (call : Calls) : Parser Shape := first [
  wrongArgument call,
  namedArgument call,
  do
    let _ ← starredExpression call
    pure { unnamed := 1 }]

def namedOrUnpacked (call : Calls) : Parser Shape := first [
  wrongArgument call,
  namedArgument call,
  do
    let _ ← operator "**"
    let _ ← call .expression
    pure { unpacks := true }]

def namedArguments (call : Calls) : Parser Shape := first [
  do
    let starred ← separated (namedOrStarred call)
    let _ ← operator ","
    return Shape.all (starred ++ (← separated (namedOrUnpacked call))),
  do return Shape.all (← separated (namedOrStarred call)),
  do return Shape.all (← separated (namedOrUnpacked call))]

def unnamedArgument (call : Calls) : Parser Shape := do
  let _ ← first [
    starredExpression call,
    do
      let tree ← first [assignment call, unassigned call]
      unlessAhead (operator "=")
      pure tree]
  pure { unnamed := 1 }

def allArguments (call : Calls) : Parser Shape := first [
  do
    let unnamed ← separated (unnamedArgument call)
    let rest ← attempt do
      let _ ← operator ","
      namedArguments call
    pure ((Shape.all unnamed).add (rest.getD {})),
  namedArguments call]

def arguments (call : Calls) : Parser Tree :=
  let generatorItem : Parser Unit := do
    let _ ← call .expression
    forClauses call
  first [
    do
      let shape ← allArguments call
      let _ ← attempt (operator ",")
      if ← isNext ")" then pure (.arguments shape.unnamed shape.unpacks) else failure,
    explain [
      do
        let _ ← allArguments call
        let _ ← operator ","
        let _ ← operator "*"
        pure (some .iterableAfterKeyword),
      do
        generatorItem
        let _ ← operator ","
        let _ ← attempt (first [do let _ ← allArguments call, generatorItem])
        pure (some .unparenthesizedGenerator),
      do
        let _ ← namedArgument call
        forClauses call
        pure (some .meantEquality),
      do
        let shape ← allArguments call
        forClauses call
        pure (if shape.unnamed ≤ 1 then none else some .unparenthesizedGenerator),
      do
        let _ ← allArguments call
        let _ ← operator ","
        generatorItem
        pure (some .unparenthesizedGenerator),
      do
        let shape ← allArguments call
        let _ ← operator ","
        let _ ← allArguments call
        pure (some (.positionalAfterKeyword shape.unpacks))]]

end GuestForge.Text.Literal
