import GuestForge.Schema
import GuestForge.Settings.Dotenv
import GuestForge.Text.Case
set_option autoImplicit false

/-!
# Settings

Settings come from variables whose names start with `GUEST_BAKE_`, in any case: from the environment before a
`.env` file, and from that before the defaults.
-/
namespace GuestForge

inductive LogLevel where
  | debug
  | info
  | warning
  | error
  | critical
  deriving DecidableEq, Repr

def LogLevel.name : LogLevel → String
  | .debug => "DEBUG"
  | .info => "INFO"
  | .warning => "WARNING"
  | .error => "ERROR"
  | .critical => "CRITICAL"

def LogLevel.all : List LogLevel := [.debug, .info, .warning, .error, .critical]

def LogLevel.ofName? (text : String) : Option LogLevel := all.find? (·.name == text)

structure Settings where
  packageManager : String := "cargo"
  builder : String := "r0-guest-builder"
  logLevel : LogLevel := .info
  deriving DecidableEq, Repr

namespace Settings

/-- The value of the last variable with this name in lower case. -/
def valueOf? (bindings : List Dotenv.Binding) (name : String) : Option String :=
  match bindings.reverse.find? (fun binding => Text.Case.lower binding.1 == name) with
  | some (_, value) => value
  | none => none

open Schema in
def load (environment : List (String × String)) (dotenv : Option String) : Checked Settings :=
  let fromFile := (dotenv.map (Dotenv.parse environment)).getD []
  let fromEnvironment := environment.map fun (name, value) => (name, some value)
  let value? (field : String) : Option String :=
    (valueOf? fromEnvironment ("guest_bake_" ++ field)).or (valueOf? fromFile ("guest_bake_" ++ field))
  let defaults : Settings := {}
  let level : Checked LogLevel := match value? "log_level" with
    | none => .valid defaults.logLevel
    | some text => match LogLevel.ofName? text with
      | some level => .valid level
      | none => (complain .notLevel).under "log_level"
  level.map fun level =>
    ⟨(value? "cargo_command").getD defaults.packageManager, (value? "builder_command").getD defaults.builder,
      level⟩

def toJson (settings : Settings) : Json.Value :=
  .object [("cargo_command", .string settings.packageManager), ("builder_command", .string settings.builder),
    ("log_level", .string settings.logLevel.name)]

end Settings

end GuestForge
