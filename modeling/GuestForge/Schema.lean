import GuestForge.ImageId
import GuestForge.Json.Reader
set_option autoImplicit false

/-!
# Checking JSON values against a schema

A decoder turns a JSON value into a domain value or says everything that is wrong with it: the violations of
all parts are collected in the order of the fields, those of a part before those of the next. Nothing is
converted: a number is no string, and only a nullable part may be null.
-/
namespace GuestForge.Schema
open Json (Value Members lookup)

inductive Complaint where
  | missing
  | notString
  | notList
  | notRecord
  | notTable
  | notPath
  | notContext
  | notLevel
  | badDigest (text : String)
  | digestLength (length : Nat)
  deriving DecidableEq, Repr

def Complaint.message : Complaint → String
  | .missing => "Field required"
  | .notString => "Input should be a valid string"
  | .notList => "Input should be a valid array"
  | .notRecord => "Input should be an object"
  | .notTable => "Input should be an object"
  | .notPath => "Input is not a valid path for <class 'pathlib.Path'>"
  | .notContext => "Input should be 'user' or 'kernel'"
  | .notLevel => "Input should be 'DEBUG', 'INFO', 'WARNING', 'ERROR' or 'CRITICAL'"
  | .badDigest text => "Value error, digest is not valid hex: " ++ quoted text
  | .digestLength length => "Value error, " ++ (Digest.Error.wrongLength length).message

def Complaint.tag : Complaint → String
  | .missing => "missing"
  | .notString => "string_type"
  | .notList => "list_type"
  | .notRecord => "model_type"
  | .notTable => "dict_type"
  | .notPath => "path_type"
  | .notContext => "enum"
  | .notLevel => "literal_error"
  | .badDigest _ => "value_error"
  | .digestLength _ => "value_error"

structure Violation where
  place : List String
  complaint : Complaint
  deriving DecidableEq, Repr

inductive Checked (α : Type) where
  | valid (a : α)
  | invalid (first : Violation) (others : List Violation)
  deriving Repr

namespace Checked
variable {α β : Type}

def map (f : α → β) : Checked α → Checked β
  | .valid a => .valid (f a)
  | .invalid first others => .invalid first others

/-- Both sides are checked, whether or not the first one passes. -/
def apply : Checked (α → β) → Checked α → Checked β
  | .valid f, checked => checked.map f
  | .invalid first others, .valid _ => .invalid first others
  | .invalid first others, .invalid next more => .invalid first (others ++ next :: more)

instance : Applicative Checked where
  pure := .valid
  map := map
  seq f checked := f.apply (checked ())

def violations : Checked α → List Violation
  | .valid _ => []
  | .invalid first others => first :: others

def under (key : String) : Checked α → Checked α
  | .valid a => .valid a
  | .invalid first others =>
    let move := fun (violation : Violation) => ⟨key :: violation.place, violation.complaint⟩
    .invalid (move first) (others.map move)

theorem violations_apply (f : Checked (α → β)) (checked : Checked α) :
    (f.apply checked).violations = f.violations ++ checked.violations := by
  cases f <;> cases checked <;> simp [apply, map, violations]

end Checked

abbrev Decoder (α : Type) := Value → Checked α

def complain {α : Type} (complaint : Complaint) : Checked α := .invalid ⟨[], complaint⟩ []

def string : Decoder String
  | .string text => .valid text
  | _ => complain .notString

def path : Decoder Path
  | .string text => .valid (Path.ofString text)
  | _ => complain .notPath

def digest : Decoder Digest
  | .string text => match Digest.ofHex text with
    | .ok digest => .valid digest
    | .error (.notHex _) => complain (.badDigest text)
    | .error (.wrongLength length) => complain (.digestLength length)
  | _ => complain .notString

def context : Decoder Context
  | .string text => match Context.ofName? text with
    | some context => .valid context
    | none => complain .notContext
  | _ => complain .notContext

def nullable {α : Type} (decode : Decoder α) : Decoder (Option α)
  | .null => .valid none
  | value => (decode value).map some

def table : Decoder Members
  | .object members => .valid members
  | _ => complain .notTable

def record {α : Type} (decode : Members → Checked α) : Decoder α
  | .object members => decode members
  | _ => complain .notRecord

def items {α : Type} (decode : Decoder α) : Nat → List Value → Checked (List α)
  | _, [] => .valid []
  | index, value :: values =>
    List.cons <$> (decode value).under (toString index) <*> items decode (index + 1) values

def list {α : Type} (decode : Decoder α) : Decoder (List α)
  | .array values => items decode 0 values
  | _ => complain .notList

def required {α : Type} (members : Members) (key : String) (decode : Decoder α) : Checked α :=
  match lookup members key with
  | some value => (decode value).under key
  | none => (complain .missing).under key

def optional {α : Type} (members : Members) (key : String) (absent : α) (decode : Decoder α) : Checked α :=
  match lookup members key with
  | some value => (decode value).under key
  | none => .valid absent

inductive DocumentError where
  | malformed (error : Json.SyntaxError)
  | violations (first : Violation) (others : List Violation)

def DocumentError.count : DocumentError → Nat
  | .malformed _ => 1
  | .violations _ others => others.length + 1

def DocumentError.firstMessage : DocumentError → String
  | .malformed error => "Invalid JSON: " ++ error.message
  | .violations first _ => first.complaint.message

def readDocument {α : Type} (decode : Decoder α) (text : String) : Except DocumentError α :=
  match Json.parse text with
  | .error error => .error (.malformed error)
  | .ok value => match decode value with
    | .valid a => .ok a
    | .invalid first others => .error (.violations first others)

end GuestForge.Schema
