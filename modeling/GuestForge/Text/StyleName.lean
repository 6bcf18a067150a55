import GuestForge.Text.Blank
import GuestForge.Text.Case
import GuestForge.Text.Digit
import GuestForge.Text.Fields
set_option autoImplicit false

/-!
# Names of text styles

A style is named by words: attributes, which `not` switches off, a colour, `on` and a background colour, `link`
and a target. Names of one style have one normal form; a text that names none is only trimmed and written in
lower case.
-/
namespace GuestForge.Text.StyleName

def attributes : List (String × List String) :=
  [("bold", ["b"]), ("dim", ["d"]), ("italic", ["i"]), ("underline", ["u"]), ("blink", []), ("blink2", []),
    ("reverse", ["r"]), ("conceal", ["c"]), ("strike", ["s"]), ("underline2", ["uu"]), ("frame", []),
    ("encircle", []), ("overline", ["o"])]

def attribute? (word : String) : Option String :=
  (attributes.find? fun entry => entry.1 == word || entry.2.contains word).map Prod.fst

def colorNames : List String :=
  ["black", "red", "green", "yellow", "blue", "magenta", "cyan", "white", "bright_black", "bright_red",
    "bright_green", "bright_yellow", "bright_blue", "bright_magenta", "bright_cyan", "bright_white",
    "grey0", "gray0", "navy_blue", "dark_blue", "blue3", "blue1", "dark_green", "deep_sky_blue4",
    "dodger_blue3", "dodger_blue2", "green4", "spring_green4", "turquoise4", "deep_sky_blue3",
    "dodger_blue1", "green3", "spring_green3", "dark_cyan", "light_sea_green", "deep_sky_blue2",
    "deep_sky_blue1", "spring_green2", "cyan3", "dark_turquoise", "turquoise2", "green1", "spring_green1",
    "medium_spring_green", "cyan2", "cyan1", "dark_red", "deep_pink4", "purple4", "purple3",
    "blue_violet", "orange4", "grey37", "gray37", "medium_purple4", "slate_blue3", "royal_blue1",
    "chartreuse4", "dark_sea_green4", "pale_turquoise4", "steel_blue", "steel_blue3", "cornflower_blue",
    "chartreuse3", "cadet_blue", "sky_blue3", "steel_blue1", "pale_green3", "sea_green3", "aquamarine3",
    "medium_turquoise", "chartreuse2", "sea_green2", "sea_green1", "aquamarine1", "dark_slate_gray2",
    "dark_magenta", "dark_violet", "purple", "light_pink4", "plum4", "medium_purple3", "slate_blue1",
    "yellow4", "wheat4", "grey53", "gray53", "light_slate_grey", "light_slate_gray", "medium_purple",
    "light_slate_blue", "dark_olive_green3", "dark_sea_green", "light_sky_blue3", "sky_blue2",
    "dark_sea_green3", "dark_slate_gray3", "sky_blue1", "chartreuse1", "light_green", "pale_green1",
    "dark_slate_gray1", "red3", "medium_violet_red", "magenta3", "dark_orange3", "indian_red",
    "hot_pink3", "medium_orchid3", "medium_orchid", "medium_purple2", "dark_goldenrod", "light_salmon3",
    "rosy_brown", "grey63", "gray63", "medium_purple1", "gold3", "dark_khaki", "navajo_white3", "grey69",
    "gray69", "light_steel_blue3", "light_steel_blue", "yellow3", "dark_sea_green2", "light_cyan3",
    "light_sky_blue1", "green_yellow", "dark_olive_green2", "dark_sea_green1", "pale_turquoise1",
    "deep_pink3", "magenta2", "hot_pink2", "orchid", "medium_orchid1", "orange3", "light_pink3", "pink3",
    "plum3", "violet", "light_goldenrod3", "tan", "misty_rose3", "thistle3", "plum2", "khaki3",
    "light_goldenrod2", "light_yellow3", "grey84", "gray84", "light_steel_blue1", "yellow2",
    "dark_olive_green1", "honeydew2", "light_cyan1", "red1", "deep_pink2", "deep_pink1", "magenta1",
    "orange_red1", "indian_red1", "hot_pink", "dark_orange", "salmon1", "light_coral", "pale_violet_red1",
    "orchid2", "orchid1", "orange1", "sandy_brown", "light_salmon1", "light_pink1", "pink1", "plum1",
    "gold1", "navajo_white1", "misty_rose1", "thistle1", "yellow1", "light_goldenrod1", "khaki1",
    "wheat1", "cornsilk1", "grey100", "gray100", "grey3", "gray3", "grey7", "gray7", "grey11", "gray11",
    "grey15", "gray15", "grey19", "gray19", "grey23", "gray23", "grey27", "gray27", "grey30", "gray30",
    "grey35", "gray35", "grey39", "gray39", "grey42", "gray42", "grey46", "gray46", "grey50", "gray50",
    "grey54", "gray54", "grey58", "gray58", "grey62", "gray62", "grey66", "gray66", "grey70", "gray70",
    "grey74", "gray74", "grey78", "gray78", "grey82", "gray82", "grey85", "gray85", "grey89", "gray89",
    "grey93", "gray93"]

def isLowerHex (c : Char) : Bool := c.isDigit || ('a' ≤ c && c ≤ 'f')

inductive NumberError where
  | empty
  | tooLong (digits : Nat)
  deriving DecidableEq, Repr

def NumberError.message : NumberError → String
  | .empty => "invalid literal for int() with base 10: ''"
  | .tooLong digits =>
    "Exceeds the limit (4300 digits) for integer string conversion: value has " ++ toString digits ++
      " digits; use sys.set_int_max_str_digits() to increase the limit"

inductive Error where
  | notStyle
  | number (error : NumberError)
  deriving DecidableEq, Repr

def readNumber (digits : List Char) : Except Error Nat :=
  if digits = [] then .error (.number .empty)
  else if 4300 < digits.length then .error (.number (.tooLong digits.length))
  else .ok (Digit.number digits)

def argument? (opening word : List Char) : Option (List Char) :=
  let inside := (word.drop opening.length).dropLast
  if opening.isPrefixOf word ∧ word.getLast? = some ')' ∧ inside ≠ [] then some inside else none

def accept (condition : Bool) : Except Error Unit := if condition then .ok () else .error .notStyle

def checkColorNumber (digits : List Char) : Except Error Unit := do
  accept (digits.all Char.isDigit && digits.length ≤ 3)
  accept ((← readNumber digits) ≤ 255)

/-- Three numbers between commas, which are all read before they are compared with the limit. -/
def checkComponents (numbers : List Char) : Except Error Unit := do
  accept (numbers.all fun c => Digit.isDigit c || c == ',')
  let components := segments ',' numbers
  accept (components.length == 3)
  accept ((← components.mapM readNumber).all (· ≤ 255))

def checkColor (word : String) : Except Error Unit :=
  if word = "default" ∨ word ∈ colorNames then .ok ()
  else match word.toList with
    | '#' :: digits => accept (digits.length == 6 && digits.all isLowerHex)
    | chars =>
      match argument? "color(".toList chars, argument? "rgb(".toList chars with
      | some number, _ => checkColorNumber number
      | none, some numbers => checkComponents numbers
      | none, none => .error .notStyle

structure Style where
  /-- Attributes that are set, on or off, a later setting first. -/
  set : List (String × Bool) := []
  color : Option String := none
  background : Option String := none
  link : Option String := none

def Style.add (style : Style) (word : String) : Except Error Style :=
  match attribute? word with
  | some name => .ok { style with set := (name, true) :: style.set }
  | none => (checkColor word).map fun () => { style with color := some word }

def readWords (style : Style) : List String → Except Error Style
  | [] => .ok style
  | [word] =>
    let word := Case.lower word
    if word = "on" ∨ word = "not" ∨ word = "link" then .error .notStyle else style.add word
  | word :: next :: rest =>
    let word := Case.lower word
    if word = "on" then
      match checkColor (Case.lower next) with
      | .ok () => readWords { style with background := some (Case.lower next) } rest
      | .error error => .error error
    else if word = "not" then
      match attribute? next with
      | some name => readWords { style with set := (name, false) :: style.set } rest
      | none => .error .notStyle
    else if word = "link" then readWords { style with link := some next } rest
    else match style.add word with
      | .ok style => readWords style (next :: rest)
      | .error error => .error error

def Style.words (style : Style) : List String :=
  (attributes.filterMap fun entry =>
    (style.set.lookup entry.1).map fun isOn => if isOn then entry.1 else "not " ++ entry.1) ++
  style.color.toList ++
  (style.background.map ("on " ++ ·)).toList ++
  (style.link.map ("link " ++ ·)).toList

def read (name : String) : Except Error Style :=
  if Blank.trim name.toList = "none".toList then .ok {}
  else readWords {} ((fields Blank.isBlank name.toList).map String.ofList)

def normalForm (name : String) : Except NumberError String :=
  match read name with
  | .ok style => .ok (if style.words = [] then "none" else " ".intercalate style.words)
  | .error .notStyle => .ok (Case.lower (String.ofList (Blank.trim name.toList)))
  | .error (.number error) => .error error

/-- What is wrong with the numbers in a name, which may be the name of no style. -/
def numberError? (name : String) : Option NumberError :=
  match read name with
  | .error (.number error) => some error
  | _ => none

end GuestForge.Text.StyleName
