import GuestForge.Proofs.BuildLogs
import GuestForge.Proofs.CommandRuns
import GuestForge.Proofs.JsonWriting
import GuestForge.Proofs.MetadataDocuments
import GuestForge.Proofs.Reports
import GuestForge.Proofs.SchemaReading
set_option autoImplicit false

/-!
# Machine-readable outcome of a bake

With `--json` a bake prints one JSON document and a line feed: the result, or the bake error that ended it.
-/
namespace GuestForge
open Json (Value Members)
open Schema

/-- The members shown for a published guest, and no others. -/
structure PublishedGuest.Shown (members : Members) (guest : PublishedGuest) : Prop where
  keys : members.map Prod.fst =
    ["package", "elf_path", "image_id_kind", "image_id_path", "image_id", "legacy_image_id_path"]
  package : Has members "package" IsText guest.package
  elfPath : Has members "elf_path" IsText guest.elfPath.toString
  context : Has members "image_id_kind" IsContext guest.imageId.context
  imageIdPath : Has members "image_id_path" IsText guest.imageIdPath.toString
  digest : Has members "image_id" IsText guest.imageId.digest.toHex
  legacyIdPath : Has members "legacy_image_id_path" (IsNullable IsText) (guest.legacyIdPath.map Path.toString)

structure BakeResult.Shown (members : Members) (result : BakeResult) : Prop where
  keys : members.map Prod.fst = ["target_dir", "packages", "guests"]
  targetDirectory : Has members "target_dir" IsText result.targetDirectory.toString
  packages : Has members "packages" (IsList IsText) result.packages
  guests : Has members "guests" (IsList (IsRecord PublishedGuest.Shown)) result.guests

theorem PublishedGuest.shown_toJson (guest : PublishedGuest) : IsRecord PublishedGuest.Shown guest.toJson guest := by
  refine ⟨_, rfl, ⟨rfl, ⟨_, rfl, rfl⟩, ⟨_, rfl, rfl⟩, ⟨_, rfl, rfl⟩, ⟨_, rfl, rfl⟩, ⟨_, rfl, rfl⟩, ⟨_, rfl, ?_⟩⟩⟩
  cases guest.legacyIdPath with
  | none => exact .inl ⟨rfl, rfl⟩
  | some path => exact .inr ⟨nofun, _, rfl, rfl⟩

theorem BakeResult.shown_toJson (result : BakeResult) : IsRecord BakeResult.Shown result.toJson result := by
  refine ⟨_, rfl, ⟨rfl, ⟨_, rfl, rfl⟩, ⟨_, rfl, _, rfl, ?_⟩, ⟨_, rfl, _, rfl, ?_⟩⟩⟩
  · exact List.forall₂_map_left_iff.2 (List.forall₂_same.2 fun _ _ => rfl)
  · exact List.forall₂_map_left_iff.2 (List.forall₂_same.2 fun guest _ => guest.shown_toJson)

theorem PublishedGuest.fits_toJson (guest : PublishedGuest) : guest.toJson.Fits 1 := by
  refine Value.fits_object fun member hmember => ?_
  simp only [List.mem_cons, List.not_mem_nil, or_false] at hmember
  rcases hmember with rfl | rfl | rfl | rfl | rfl | rfl
  · exact Value.fits_string 0 _
  · exact Value.fits_string 0 _
  · exact Value.fits_string 0 _
  · exact Value.fits_string 0 _
  · exact Value.fits_string 0 _
  · cases guest.legacyIdPath with
    | none => exact Value.fits_null 0
    | some path => exact Value.fits_string 0 _

theorem BakeResult.fits_toJson (result : BakeResult) : result.toJson.Fits 3 := by
  refine Value.fits_object fun member hmember => ?_
  simp only [List.mem_cons, List.not_mem_nil, or_false] at hmember
  rcases hmember with rfl | rfl | rfl
  · exact Value.fits_string 2 _
  · refine Value.fits_array fun item hitem => ?_
    obtain ⟨text, -, rfl⟩ := List.mem_map.1 hitem
    exact Value.fits_string 1 text
  · refine Value.fits_array fun item hitem => ?_
    obtain ⟨guest, -, rfl⟩ := List.mem_map.1 hitem
    exact guest.fits_toJson

def BakeError.exitCode? : BakeError → Option Int
  | .build _ _ exitCode _ => exitCode
  | _ => none

theorem BakeError.fits_details {error : BakeError} (h : ∀ code ∈ error.exitCode?, code.natAbs < 10 ^ Json.digitLimit) :
    ∀ member ∈ error.details, member.2.Fits 0 := by
  intro member hmember
  cases error with
  | general code message => cases hmember
  | metadata cause => cases hmember
  | filesystem cause path =>
    rw [List.mem_singleton.1 hmember]
    exact Value.fits_string 0 _
  | build cause package exitCode log =>
    simp only [details, List.mem_append, Option.mem_toList, Option.map_eq_some_iff] at hmember
    rcases hmember with (⟨name, -, rfl⟩ | ⟨code, hcode, rfl⟩) | ⟨path, -, rfl⟩
    · exact Value.fits_string 0 name
    · exact Value.fits_ofInt 0 (h code hcode)
    · exact Value.fits_string 0 _

theorem BakeError.fits_toJson {error : BakeError} (h : ∀ code ∈ error.exitCode?, code.natAbs < 10 ^ Json.digitLimit) :
    error.toJson.Fits 1 := by
  refine Value.fits_object fun member hmember => ?_
  simp only [List.mem_cons] at hmember
  rcases hmember with rfl | rfl | hmember
  · exact Value.fits_string 0 _
  · exact Value.fits_string 0 _
  · exact fits_details h member hmember

open CommandLine in
/-- A bake with `--json` whose arguments and settings are accepted prints one document and a line feed, from which the
result or the error can be read back. Exit codes, if any, have no more digits than a number may have that is read. -/
theorem bake_json_outcome {environment : List (String × String)} {session after : Session}
    (invocation : Invocation "bake" bakeSpecs environment session) (json : isGiven invocation.options "json" = true) :
    (∀ result, invocation.Bakes (.ok result) after →
      ∃ document members,
        execute invocation.arguments environment session = (.exited 0 (document ++ "\n"), after) ∧
        Json.parse document = .ok (.object members) ∧ result.Shown members) ∧
    ∀ error, invocation.Bakes (.error (.bake error)) after →
      (∀ code ∈ error.exitCode?, code.natAbs < 10 ^ Json.digitLimit) →
      ∃ document,
        execute invocation.arguments environment session = (.exited 1 (document ++ "\n"), after) ∧
        Json.parse document = .ok (.object [("error", error.toJson)]) := by
  constructor
  · intro result hbakes
    obtain ⟨members, hmembers, hshown⟩ := result.shown_toJson
    have hfits : result.toJson.Fits 200 :=
      ⟨result.fits_toJson.wellFormed, Nat.le_trans result.fits_toJson.depth_le (by decide)⟩
    refine ⟨Json.write .indented .unicode result.toJson, members, ?_, ?_, hshown⟩
    · have hshow := invocation.runs_echo after "" (Json.write .indented .unicode result.toJson)
      rw [String.empty_append] at hshow
      exact hbakes.execute (by rw [json]; exact hshow)
    · rw [← hmembers]
      exact Json.parse_write .indented .unicode hfits
  · intro error hbakes hcode
    have hfits : (Value.object [("error", error.toJson)]).Fits 2 := by
      refine Value.fits_object fun member hmember => ?_
      rw [List.mem_singleton.1 hmember]
      exact error.fits_toJson hcode
    refine ⟨Json.write .indented .ascii (.object [("error", error.toJson)]), ?_, ?_⟩
    · have hshow := invocation.runs_echo after "" (Json.write .indented .ascii (.object [("error", error.toJson)]))
      rw [String.empty_append] at hshow
      exact hbakes.execute (by rw [json]; exact runs_bind.2 (.inl ⟨(), _, hshow, runs_halt.2 ⟨rfl, rfl⟩⟩))
    · exact Json.parse_write .indented .ascii ⟨hfits.wellFormed, Nat.le_trans hfits.depth_le (by decide)⟩

namespace Minimal
open CommandLine

def session (outcomes : List Outcome) : Session :=
  { host := { tree := FileTree.empty, current := [], clock := "", outcomes := outcomes } }

theorem isDotenv (outcomes : List Outcome) : IsDotenv (session outcomes).host none := ⟨none, rfl, .inl ⟨rfl, rfl⟩⟩

def invoked (name : String) (specs : List OptionSpec) (outcomes : List Outcome) (rest : List String)
    (options : List Given) (reads : readArguments mainSpecs false (name :: rest) = some ([], name :: rest))
    (readsOptions : readArguments specs true rest = some (options, [])) (noHelp : isGiven options "help" = false) :
    Invocation name specs [] (session outcomes) where
  arguments := name :: rest
  given := []
  rest := rest
  options := options
  dotenv := none
  settings := {}
  reads := reads
  plain := nofun
  readsOptions := readsOptions
  noHelp := noHelp
  isDotenv := isDotenv outcomes
  isLoaded := rfl
  isLevel := by decide

def jsonBake (outcomes : List Outcome) : Invocation "bake" bakeSpecs [] (session outcomes) :=
  invoked "bake" bakeSpecs outcomes ["--json"] [⟨"json", ""⟩] rfl rfl rfl

def call : Call := ⟨["cargo", "metadata", "--format-version", "1"], none⟩

def called (outcomes : List Outcome) : Session := { host := { (session outcomes).host with calls := [call] } }

def missing : BakeError :=
  .metadata (.notStarted (.os ErrorCode.noEntry.number ErrorCode.noEntry.reason (some "cargo")))

theorem jsonBake_fails : (jsonBake []).Bakes (.error (.bake missing)) (called []) := ⟨nofun, rfl⟩

def printed : String := document .compact (version :: metadata)

theorem resolves {text : String} (parses : parseMetadata text = .ok workspace) (outcomes : List Outcome) :
    Runs (resolveWorkspace none (some (configurationOf [])) "cargo") (session (.ended 0 text none [] :: outcomes)).host
      (.ok workspace) (called outcomes).host := by
  have hstart : Runs (HostM.startProcess call) (session (.ended 0 text none [] :: outcomes)).host (.ok ⟨0, text, none⟩)
      (called outcomes).host := rfl
  refine runs_bind_ok.2 ⟨call.words, _, rfl, runs_bind_ok.2 ⟨_, _, HostM.runs_orElse_ok.2 (.inl hstart), ?_⟩⟩
  simp only [parses]
  exact runs_pure.2 ⟨rfl, rfl⟩

theorem length_digest : (List.replicate 32 1 : List UInt8).length = 32 := rfl

def digest : Digest := ⟨List.replicate 32 1, length_digest⟩

def guest : BuiltGuest := ⟨Path.ofString "t/b", .zero, ⟨.user, digest⟩⟩

def report : Value := reportOf (fun _ => true) [guest]

def built : Outcome := .ended 0 (Json.write .compact .ascii report) none [(guest.path, [7])]

def baked : BakeResult :=
  ⟨Path.ofString "t/guest", ["g"],
    [⟨"g", Path.ofString "w/elfs/b.elf", ⟨.user, digest⟩, Path.ofString "w/elfs/b.uid", none⟩]⟩

def buildCall : Call :=
  ⟨["r0-guest-builder", "build", "--manifest-path", "w/Cargo.toml", "--target-dir", "t/guest", "--message-format", "json"],
    some package.directory⟩

def logged : Host :=
  External.loggedHost (External.logPath workspace.guestTargetDirectory package) buildCall (called [built]).host

theorem builds : Runs (External.builder "r0-guest-builder" package workspace.guestTargetDirectory {})
    (called [built]).host (.ok [guest]) logged := by
  have hwords : builderCommand "r0-guest-builder" package workspace.guestTargetDirectory {} = .ok buildCall.words := by
    decide +kernel
  have hreports : IsReport (Json.write .compact .ascii report) [guest] := isReport_write .compact .ascii _ _
  exact External.runs_builder_reported hwords rfl rfl (parseReport_eq_ok.2 hreports) (by decide +kernel)
    (by decide +kernel)

theorem bakes : ∃ after, Runs (resolveAndBake {} none (configurationOf []) (selectionOf []))
    (session [.ended 0 printed none [], built]) (.ok baked) after := by
  have hresolves : Runs (BakeM.onHost (resolveWorkspace none (some (configurationOf [])) "cargo"))
      (session [.ended 0 printed none [], built]) (.ok workspace) (called [built]) :=
    runs_onHost.2 ⟨resolves parseMetadata_document [built], rfl⟩
  have hpublishes : Runs ([guest].mapM fun guest => publishGuest package guest) logged (.ok baked.guests) _ :=
    runs_of_toOption (by decide +kernel)
  have hbaked : baked = ⟨workspace.guestTargetDirectory, [package.name], baked.guests⟩ := by decide +kernel
  obtain ⟨after, hbakes⟩ : ∃ after, Runs (bake workspace (External.builder "r0-guest-builder") (configurationOf [])
      (selectionOf []) none) (called [built]) (.ok baked) after := by
    rw [hbaked]
    exact runs_bake_single rfl builds hpublishes
  exact ⟨after, runs_bind_ok.2 ⟨workspace, _, hresolves, hbakes⟩⟩

theorem jsonBake_bakes : ∃ after, (jsonBake [.ended 0 printed none [], built]).Bakes (.ok baked) after := by
  obtain ⟨after, hbakes⟩ := bakes
  exact ⟨after, nofun, hbakes⟩

end Minimal

open CommandLine in
theorem bake_json_outcome_minimal :
    (∃ document members after,
      execute ["bake", "--json"] [] (Minimal.session [.ended 0 Minimal.printed none [], Minimal.built]) =
        (.exited 0 (document ++ "\n"), after) ∧
      Json.parse document = .ok (.object members) ∧ Minimal.baked.Shown members) ∧
    ∃ document,
      execute ["bake", "--json"] [] (Minimal.session []) = (.exited 1 (document ++ "\n"), Minimal.called []) ∧
      Json.parse document = .ok (.object [("error", Minimal.missing.toJson)]) := by
  obtain ⟨after, hbakes⟩ := Minimal.jsonBake_bakes
  obtain ⟨document, members, hshown⟩ := (bake_json_outcome (Minimal.jsonBake _) rfl).1 _ hbakes
  have hfails := (bake_json_outcome (Minimal.jsonBake []) rfl).2 _ Minimal.jsonBake_fails nofun
  exact ⟨⟨document, members, after, hshown⟩, hfails⟩

end GuestForge
