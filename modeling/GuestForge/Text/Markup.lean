import GuestForge.Text.Action
import GuestForge.Text.CellWidth
import GuestForge.Text.Emoji.Codes
import GuestForge.Text.StyleName
set_option autoImplicit false

/-!
# Markup of console output

Text for the console may hold tags in brackets, which open and close styles, and codes of emoji. `render` gives
the plain text that a console without colours shows: tags are gone, a tag behind a backslash stands as it is,
control characters are dropped and tabs expanded. A closing tag must close one that is open, an action that is closed
must have arguments that can be read, and a style that is shown may not hold a number that cannot be.
-/
namespace GuestForge.Text.Markup

inductive Error where
  | unmatched (tag : String) (position : Nat)
  | nothingToClose (position : Nat)
  | number (error : StyleName.NumberError)
  | action (error : Action.Error)
  deriving DecidableEq, Repr

def Error.message : Error → String
  | .unmatched tag position =>
    "closing tag '" ++ tag ++ "' at position " ++ toString position ++ " doesn't match any open tag"
  | .nothingToClose position =>
    "closing tag '[/]' at position " ++ toString position ++ " has nothing to close"
  | .number error => error.message
  | .action error => error.message

/-- What stands between the brackets of a tag, `position` being that of the opening one. -/
inductive Piece where
  | plain (text : List Char)
  | tag (body : List Char) (position : Nat)
  deriving DecidableEq, Repr

def startsTag (c : Char) : Bool := ('a' ≤ c && c ≤ 'z') || c == '#' || c == '/' || c == '@'

/-- The body of the tag that opens just before `text`: it holds no opening bracket and ends before the first
closing one. -/
def tagBody? (text : List Char) : Option (List Char) :=
  match text with
  | [] => none
  | c :: rest =>
    if startsTag c then
      match rest.dropWhile fun d => d ≠ '[' ∧ d ≠ ']' with
      | ']' :: _ => some (c :: rest.takeWhile fun d => d ≠ '[' ∧ d ≠ ']')
      | _ => none
    else none

/-- Cuts a text into plain pieces and tags. `skipped` characters are already used, `slashes` backslashes stand
directly before the place and `plain` is what precedes those, in reverse. Two backslashes before a tag show one, and a
single one left over makes the tag plain. -/
def piecesFrom (position : Nat) : (skipped slashes : Nat) → (plain : List Char) → List Char → List Piece
  | _, slashes, plain, [] => [.plain (plain.reverse ++ List.replicate slashes '\\')]
  | skipped + 1, slashes, plain, _ :: rest => piecesFrom (position + 1) skipped slashes plain rest
  | 0, slashes, plain, c :: rest =>
    if c = '\\' then piecesFrom (position + 1) 0 (slashes + 1) plain rest
    else
      match if c = '[' then tagBody? rest else none with
      | none => piecesFrom (position + 1) 0 0 (c :: List.replicate slashes '\\' ++ plain) rest
      | some body =>
        let shown := if slashes % 2 = 1 then .plain ('[' :: body ++ [']']) else .tag body position
        .plain plain.reverse :: .plain (List.replicate (slashes / 2) '\\') :: shown ::
          piecesFrom (position + 1) (body.length + 1) 0 [] rest

def pieces (text : List Char) : List Piece := piecesFrom 0 0 0 [] text

def dropEscapes : List Char → List Char
  | '\\' :: '[' :: rest => '[' :: dropEscapes rest
  | c :: rest => c :: dropEscapes rest
  | [] => []

def isHidden (c : Char) : Bool :=
  c == '\x07' || c == '\x08' || c == '\x0b' || c == '\x0c' || c == '\r'

/-- A tag that is open: the normal form of what stands before its first equals sign, what stands behind that, and
how much of the text was shown before. -/
structure Opened where
  name : String
  parameter : Option String
  start : Nat
  deriving DecidableEq, Repr

structure Span where
  start : Nat
  stop : Nat
  style : String
  deriving DecidableEq, Repr

def Opened.span (tag : Opened) (stop : Nat) : Span :=
  match tag.parameter with
  | none => ⟨tag.start, stop, tag.name⟩
  | some parameter => ⟨tag.start, stop, if parameter = "" then tag.name else tag.name ++ " " ++ parameter⟩

def normalForm (name : List Char) : Except Error String :=
  (StyleName.normalForm (String.ofList name)).mapError .number

def splitBody (body : List Char) : List Char × Option String :=
  (body.takeWhile (· ≠ '='), (body.dropWhile (· ≠ '=')).tail?.map String.ofList)

/-- The tag that a closing one with this name closes, and those still open then. Without a name it is the last. -/
def close? (name : String) : List Opened → Option (Opened × List Opened)
  | [] => none
  | tag :: opened =>
    if name = "" ∨ tag.name = name then some (tag, opened)
    else (close? name opened).map fun (found, opened) => (found, tag :: opened)

def Opened.close (tag : Opened) (stop : Nat) : Except Error (List Span) :=
  if tag.name.toList.head? = some '@' then
    ((Action.check (tag.parameter.getD "")).mapError .action).map fun () => []
  else .ok [tag.span stop]

/-- Shows the pieces behind `shown` characters, with the spans of the tags in the order in which they are closed. The
tags in `opened` are open, the last one first; those that nothing closes end with the text. -/
def showPieces (opened : List Opened) (shown : Nat) : List Piece → Except Error (List Char × List Span)
  | [] => .ok ([], opened.map (·.span shown))
  | .plain text :: rest => do
    let text := (Emoji.replaceCodes (dropEscapes text)).filter (!isHidden ·)
    let (more, spans) ← showPieces opened (shown + text.length) rest
    .ok (text ++ more, spans)
  | .tag body position :: rest => do
    match splitBody body with
    | ('/' :: name, _) =>
      let name := Blank.trim name
      let style ← if name = [] then .ok "" else normalForm name
      match close? style opened with
      | none =>
        if name = [] then .error (.nothingToClose position)
        else .error (.unmatched (String.ofList ('[' :: body ++ [']'])) position)
      | some (tag, opened) =>
        let closed ← tag.close shown
        let (text, spans) ← showPieces opened shown rest
        .ok (text, closed ++ spans)
    | (name, parameter) => showPieces (⟨← normalForm name, parameter, shown⟩ :: opened) shown rest

def lineRanges (start : Nat) : List (List Char) → List (Nat × Nat)
  | [] => []
  | line :: lines => (start, start + line.length) :: lineRanges (start + line.length + 1) lines

/-- The spans that a console looks at: in a text of one line without tabs all, and otherwise, line by line, those that
cover a part of the line. The span that starts first comes first, and of two the one that is closed last. -/
def visibleSpans (text : List Char) (spans : List Span) : List Span :=
  let spans := spans.reverse.mergeSort fun a b => a.start ≤ b.start
  if '\n' ∈ text ∨ '\t' ∈ text then
    (lineRanges 0 (segments '\n' text)).flatMap fun (first, last) =>
      spans.filter fun span => max first span.start < min last span.stop
  else spans

def render (markup : String) : Except Error String := do
  let (text, spans) ← showPieces [] 0 (pieces markup.toList)
  match (visibleSpans text spans).findSome? fun span => StyleName.numberError? span.style with
  | some error => .error (.number error)
  | none => .ok (String.ofList (CellWidth.expandTabs text))

end GuestForge.Text.Markup
