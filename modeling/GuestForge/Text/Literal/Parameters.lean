import GuestForge.Text.Literal.Parser
set_option autoImplicit false

/-!
# Parameters of functions

Parameters up to the colon, which is left: those that a slash ends, plain ones, those with a default, those behind a
star, and one behind two stars.
-/
namespace GuestForge.Text.Literal
open GuestForge.Text.Literal.Parser

def parameterEnd : Parser Unit := first [
  do let _ ← operator ",",
  do if ← isNext ":" then pure () else failure]

def defaultValue (call : Calls) : Parser Unit := first [
  do
    let _ ← operator "="
    let _ ← call .expression,
  explain [do
    let _ ← operator "="
    if ← ahead (operatorIn [")", ","]) then pure (some .missingDefault) else failure]]

def plainParameter : Parser Unit := do
  let _ ← kind .name
  parameterEnd

def defaultedParameter (call : Calls) : Parser Unit := do
  let _ ← kind .name
  defaultValue call
  parameterEnd

def parameter (call : Calls) : Parser Unit := do
  let _ ← kind .name
  let _ ← attempt (defaultValue call)
  parameterEnd

def plainSlash : Parser Unit := do
  let _ ← oneOrMore plainParameter
  let _ ← operator "/"
  parameterEnd

def defaultedSlash (call : Calls) : Parser Unit := do
  let _ ← many plainParameter
  let _ ← oneOrMore (defaultedParameter call)
  let _ ← operator "/"
  parameterEnd

def doubleStarParameter : Parser Unit := first [
  explain [
    do
      let _ ← operator "**"
      let _ ← kind .name
      let _ ← operator "="
      pure (some .doubleStarDefault),
    do
      let _ ← operator "**"
      let _ ← kind .name
      let _ ← operator ","
      let _ ← first [kind .name, operatorIn ["*", "**", "/"]]
      pure (some .parameterBehindDoubleStar)],
  do
    let _ ← operator "**"
    plainParameter]

def starParameters (call : Calls) : Parser Unit :=
  let starOrComma : Parser Unit := first [plainParameter, do let _ ← operator ","]
  first [
    explain [
      do
        let _ ← operator "*"
        let _ ← first [
          operator ":",
          do
            let _ ← operator ","
            operatorIn [":", "**"]]
        pure (some .nothingBehindStar),
      do
        let _ ← operator "*"
        let _ ← kind .name
        let _ ← operator "="
        pure (some .starDefault),
      do
        let _ ← operator "*"
        starOrComma
        let _ ← many (parameter call)
        let _ ← operator "*"
        starOrComma
        pure (some .secondStar)],
    do
      let _ ← operator "*"
      plainParameter
      let _ ← many (parameter call)
      let _ ← attempt doubleStarParameter,
    do
      let _ ← operator "*"
      let _ ← operator ","
      let _ ← oneOrMore (parameter call)
      let _ ← attempt doubleStarParameter,
    doubleStarParameter]

def wrongParameters {α : Type} (call : Calls) : Parser α := explain [
  do
    let _ ← many plainParameter
    first [defaultedSlash call, do let _ ← oneOrMore (defaultedParameter call)]
    plainParameter
    pure (some .plainAfterDefault),
  do
    let _ ← many plainParameter
    let _ ← operator "("
    let _ ← listed (kind .name)
    let _ ← operator ")"
    pure (some .parenthesizedParameters),
  do
    let _ ← operator "/"
    let _ ← operator ","
    pure (some .nothingBeforeSlash),
  do
    first [plainSlash, defaultedSlash call]
    let _ ← many (parameter call)
    let _ ← operator "/"
    pure (some .secondSlash),
  do
    let _ ← attempt (first [plainSlash, defaultedSlash call])
    let _ ← many (parameter call)
    let _ ← operator "*"
    first [do let _ ← operator ",", plainParameter]
    let _ ← many (parameter call)
    let _ ← operator "/"
    pure (some .slashBehindStar),
  do
    let _ ← oneOrMore (parameter call)
    let _ ← operator "/"
    let _ ← operator "*"
    pure (some .missingCommaAtSlash)]

def parameters (call : Calls) : Parser Unit :=
  let defaulted : Parser (List Unit) := many (defaultedParameter call)
  let starred : Parser Unit := do let _ ← attempt (starParameters call)
  first [
    wrongParameters call,
    do
      plainSlash
      let _ ← many plainParameter
      let _ ← defaulted
      starred,
    do
      defaultedSlash call
      let _ ← defaulted
      starred,
    do
      let _ ← oneOrMore plainParameter
      let _ ← defaulted
      starred,
    do
      let _ ← oneOrMore (defaultedParameter call)
      starred,
    starParameters call]

end GuestForge.Text.Literal
