import GuestForge.Text.Fields
import GuestForge.Text.Quoted
set_option autoImplicit false

/-!
# Paths

A path is an anchor and a list of names. Reading a text drops empty segments and single dots, so two texts
that differ only there give one path; `..` is a name like any other. A path never ends in a slash.
-/
namespace GuestForge

structure Name where
  text : String
  valid : text ≠ "" ∧ text ≠ "." ∧ '/' ∉ text.toList
  deriving DecidableEq

/-- Where the first name is looked up. Two leading slashes, no more and no fewer, are an anchor of their own. -/
inductive Anchor where
  | relative
  | root
  | doubleRoot
  deriving DecidableEq, Repr

structure Path where
  anchor : Anchor
  names : List Name
  deriving DecidableEq

namespace Name

def ofString? (text : String) : Option Name :=
  if h : text ≠ "" ∧ text ≠ "." ∧ '/' ∉ text.toList then some ⟨text, h⟩ else none

def splitLastDot : List Char → Option (List Char × List Char)
  | [] => none
  | c :: rest => match splitLastDot rest with
    | some (before, after) => some (c :: before, after)
    | none => if c = '.' then some ([], rest) else none

/-- A file name without its last extension. A dot at the head starts none, one at the end an empty one. -/
def stemOf (text : List Char) : List Char :=
  match splitLastDot text with
  | some (c :: before, _) => c :: before
  | _ => text

end Name

namespace Path

def segments (text : List Char) : List (List Char) := Text.segments '/' text

def anchorOf : List Char → Anchor
  | '/' :: '/' :: '/' :: _ => .root
  | '/' :: '/' :: _ => .doubleRoot
  | '/' :: _ => .root
  | _ => .relative

def ofString (text : String) : Path :=
  ⟨anchorOf text.toList, (segments text.toList).filterMap (fun piece => Name.ofString? (String.ofList piece))⟩

def anchorText : Anchor → String
  | .relative => ""
  | .root => "/"
  | .doubleRoot => "//"

def write (anchor : Anchor) (pieces : List String) : String :=
  if anchor = .relative ∧ pieces = [] then "." else anchorText anchor ++ "/".intercalate pieces

def toString (path : Path) : String := write path.anchor (path.names.map Name.text)

def join (left right : Path) : Path :=
  match right.anchor with
  | .relative => ⟨left.anchor, left.names ++ right.names⟩
  | _ => right

def parent (path : Path) : Path := ⟨path.anchor, path.names.dropLast⟩

def name? (path : Path) : Option Name := path.names.getLast?

def fileName (path : Path) : String := (path.name?.map Name.text).getD ""

def stem (path : Path) : String := String.ofList (Name.stemOf path.fileName.toList)

inductive NameError where
  | noName (path : Path)
  | notAName (text : String)
  deriving DecidableEq

def NameError.message : NameError → String
  | .noName path => "PosixPath(" ++ quoted path.toString ++ ") has an empty name"
  | .notAName text => "Invalid name " ++ quoted text

/-- Whether a text amounts to one name: it may hold dots as segments of their own beside it, and slashes
around those, but none at either end. -/
def spellsName (text : String) : Bool :=
  text.toList.head? ≠ some '/' && text.toList.getLast? ≠ some '/' && (ofString text).names.length == 1

def respell (path : Path) (text : String) : Except NameError String :=
  if path.names = [] then .error (.noName path)
  else if spellsName text then .ok (write path.anchor (path.names.dropLast.map Name.text ++ [text]))
  else .error (.notAName text)

def respellExtension (path : Path) (suffix : String) : Except NameError String :=
  path.respell (path.stem ++ suffix)

def withExtension (path : Path) (suffix : String) : Except NameError Path :=
  (path.respellExtension suffix).map ofString

end Path

end GuestForge
