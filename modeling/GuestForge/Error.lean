import GuestForge.ImageId
import GuestForge.Schema
import GuestForge.Text.Markup
import GuestForge.Text.ShellWords
import GuestForge.Text.Utf8
set_option autoImplicit false

/-!
# Failures

A bake error says what stage of a run failed and why; it is what a run reports and can be written as JSON.
Failures of the file system, values that are none, and the like are faults below it, most of which a stage
turns into a bake error. Every cause has its text in one place.
-/
namespace GuestForge

inductive SystemError where
  | os (number : Int) (reason : String) (subject : Option String)
  | sameFile (source target : Path)
  | noDirectory (target : Path)
  deriving DecidableEq

def SystemError.message : SystemError → String
  | .os number reason subject =>
    "[Errno " ++ toString number ++ "] " ++ reason ++ (subject.map (": " ++ quoted ·)).getD ""
  | .sameFile source target =>
    "PosixPath(" ++ quoted source.toString ++ ") and PosixPath(" ++ quoted target.toString ++
      ") are the same file"
  | .noDirectory target => "Directory does not exist: " ++ target.toString

inductive ValueError where
  | digest (error : Digest.Error)
  | context (text : String)
  | name (error : Path.NameError)
  | words (error : Text.ShellWords.Error)
  | embeddedNul
  | logLevel (text : String)
  | stated (message : String)
  deriving DecidableEq

def ValueError.message : ValueError → String
  | .digest error => error.message
  | .context text => quoted text ++ " is not a valid ImageIdKind"
  | .name error => error.message
  | .words error => error.message
  | .embeddedNul => "embedded null byte"
  | .logLevel text => "Unknown level: " ++ quoted text
  | .stated message => message

inductive MetadataCause where
  | notStarted (error : SystemError)
  | exited (code : Int) (diagnostics : String)
  | badDocument (error : Schema.DocumentError)
  | stated (message : String)

def MetadataCause.message : MetadataCause → String
  | .notStarted error => "Failed to run cargo metadata: " ++ error.message
  | .exited code diagnostics =>
    "cargo metadata failed with exit code " ++ toString code ++ ": " ++ diagnostics
  | .badDocument error =>
    "Invalid cargo metadata output: " ++ toString error.count ++ " error(s), first: " ++ error.firstMessage
  | .stated message => message

inductive BuildCause where
  | notStarted (package : String) (error : SystemError)
  | exited (package : String) (code : Int)
  | badReport (package : Option String) (error : Schema.DocumentError)
  | raised (package reason : String)
  | stated (message : String)

def BuildCause.message : BuildCause → String
  | .notStarted package error => "Failed to execute builder for " ++ package ++ ": " ++ error.message
  | .exited package code =>
    "Build of " ++ package ++ " failed with exit code " ++ toString code
  | .badReport package error =>
    let name := package.getD ""
    "Invalid build report for " ++ (if name = "" then "package" else name) ++ ": " ++ error.firstMessage
  | .raised package reason => "Failed to build " ++ package ++ ": " ++ reason
  | .stated message => message

inductive FileCause where
  | createDirectory (path : Path) (error : SystemError)
  | copy (source target : Path) (error : SystemError)
  | write (path : Path) (error : SystemError)
  | remove (path : Path) (error : SystemError)
  | stated (message : String)

def FileCause.message : FileCause → String
  | .createDirectory path error => "Failed to create directory " ++ path.toString ++ ": " ++ error.message
  | .copy source target error =>
    "Failed to copy " ++ source.toString ++ " to " ++ target.toString ++ ": " ++ error.message
  | .write path error => "Failed to write " ++ path.toString ++ ": " ++ error.message
  | .remove path error => "Failed to remove " ++ path.toString ++ ": " ++ error.message
  | .stated message => message

inductive BakeError where
  | general (code message : String)
  | metadata (cause : MetadataCause)
  | build (cause : BuildCause) (package : Option String) (exitCode : Option Int) (log : Option Path)
  | filesystem (cause : FileCause) (path : Path)

namespace BakeError

def message : BakeError → String
  | .general _ message => message
  | .metadata cause => cause.message
  | .build cause _ _ _ => cause.message
  | .filesystem cause _ => cause.message

def code : BakeError → String
  | .general code _ => code
  | .metadata _ => "metadata_error"
  | .build _ _ _ _ => "build_failed"
  | .filesystem _ _ => "filesystem_error"

def details : BakeError → Json.Members
  | .build _ package exitCode log =>
    (package.map fun name => ("package", .string name)).toList ++
      (exitCode.map fun code => ("exit_code", .ofInt code)).toList ++
      (log.map fun path => ("log_path", .string path.toString)).toList
  | .filesystem _ path => [("path", .string path.toString)]
  | _ => []

def toJson (error : BakeError) : Json.Value :=
  .object (("code", .string error.code) :: ("message", .string error.message) :: error.details)

end BakeError

inductive Fault where
  | bake (error : BakeError)
  | system (error : SystemError)
  | value (error : ValueError)
  | encoding (error : Text.Utf8.Error)
  | markup (error : Text.Markup.Error)
  | violations (first : Schema.Violation) (others : List Schema.Violation)
  | stated (message : String)

def Fault.message : Fault → String
  | .bake error => error.message
  | .system error => error.message
  | .value error => error.message
  | .encoding error => error.message
  | .markup error => error.message
  | .violations first _ => first.complaint.message
  | .stated message => message

end GuestForge
