import GuestForge.Text.Case
import GuestForge.Text.Emoji.Names
set_option autoImplicit false

/-!
# Codes of emoji

Two colons around the name of an emoji stand for it, in either case. A name may ask for the emoji to be shown
as a picture or as text. Colons around anything else stay.
-/
namespace GuestForge.Text.Emoji

def presentation (code : List Char) : List Char × String :=
  if "-emoji".toList.isSuffixOf code then (code.take (code.length - 6), "\ufe0f")
  else if "-text".toList.isSuffixOf code then (code.take (code.length - 5), "\ufe0e")
  else (code, "")

def ofCode? (code : List Char) : Option (List Char) :=
  let (name, selector) := presentation code
  (named? (Case.lower (String.ofList name))).map fun emoji => (emoji ++ selector).toList

/-- Shows the segments of a text that have a colon before them. One with another colon behind it and no blank in
it is read as a code, and uses up both. -/
def showSegments : List (List Char) → List Char
  | [] => []
  | [last] => ':' :: last
  | code :: next :: rest =>
    if code.any Blank.isBlank then ':' :: code ++ showSegments (next :: rest)
    else (ofCode? code).getD (':' :: code ++ [':']) ++ next ++ showSegments rest

def replaceCodes (text : List Char) : List Char :=
  match segments ':' text with
  | [] => []
  | first :: rest => first ++ showSegments rest

end GuestForge.Text.Emoji
