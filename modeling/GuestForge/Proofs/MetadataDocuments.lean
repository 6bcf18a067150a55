import GuestForge.Proofs.JsonWriting
import GuestForge.Proofs.SchemaReading
import GuestForge.Proofs.Shapes
import GuestForge.Workspace.Metadata
set_option autoImplicit false

/-!
# Metadata documents, accepted and refused

What a metadata document says about a workspace, the faults it can have, and the differences between two documents
that do not matter.
-/
namespace GuestForge
open Json (Value Members IsDocument lookup)
open Schema

structure Target.Described (members : Members) (target : Target) : Prop where
  name : Has members "name" IsText target.name
  kinds : HasOr members "kind" [] (IsList IsText) target.kinds
  source : HasOr members "src_path" none (IsNullable IsPath) target.source

structure Package.Described (members : Members) (package : Package) : Prop where
  id : Has members "id" IsText package.id
  name : Has members "name" IsText package.name
  version : HasOr members "version" "0.0.0" IsText package.version
  manifest : Has members "manifest_path" IsPath package.manifest
  table : HasOr members "metadata" none (IsNullable IsTable) package.table
  targets : HasOr members "targets" [] (IsList (IsRecord Target.Described)) package.targets

structure Workspace.Described (members : Members) (workspace : Workspace) : Prop where
  packages : HasOr members "packages" [] (IsList (IsRecord Package.Described)) workspace.packages
  memberIds : HasOr members "workspace_members" [] (IsList IsText) workspace.members
  defaultMembers : HasOr members "workspace_default_members" none (IsNullable (IsList IsText)) workspace.defaultMembers
  targetDirectory : Has members "target_directory" IsPath workspace.targetDirectory
  root : Has members "workspace_root" IsPath workspace.root

theorem Target.decodes : Decodes Target.ofJson (IsRecord Target.Described) := by
  refine Decodes.record fun members target => ?_
  simp only [Checked.seq_eq_valid, Checked.map_eq_valid, decodes_string.required, decodes_string.list.optional,
    decodes_path.nullable.optional]
  constructor
  · rintro ⟨_, source, ⟨_, kinds, ⟨name, hname, rfl⟩, hkinds, rfl⟩, hsource, rfl⟩
    exact ⟨hname, hkinds, hsource⟩
  · rintro ⟨hname, hkinds, hsource⟩
    exact ⟨_, _, ⟨_, _, ⟨_, hname, rfl⟩, hkinds, rfl⟩, hsource, rfl⟩

theorem Package.decodes : Decodes Package.ofJson (IsRecord Package.Described) := by
  refine Decodes.record fun members package => ?_
  simp only [Checked.seq_eq_valid, Checked.map_eq_valid, decodes_string.required, decodes_string.optional,
    decodes_path.required, decodes_table.nullable.optional, Target.decodes.list.optional]
  constructor
  · rintro ⟨_, targets, ⟨_, table, ⟨_, manifest, ⟨_, version, ⟨_, name, ⟨id, hid, rfl⟩, hname, rfl⟩, hversion, rfl⟩,
      hmanifest, rfl⟩, htable, rfl⟩, htargets, rfl⟩
    exact ⟨hid, hname, hversion, hmanifest, htable, htargets⟩
  · rintro ⟨hid, hname, hversion, hmanifest, htable, htargets⟩
    exact ⟨_, _, ⟨_, _, ⟨_, _, ⟨_, _, ⟨_, _, ⟨_, hid, rfl⟩, hname, rfl⟩, hversion, rfl⟩, hmanifest, rfl⟩, htable, rfl⟩,
      htargets, rfl⟩

theorem Workspace.decodes : Decodes Workspace.ofJson (IsRecord Workspace.Described) := by
  refine Decodes.record fun members workspace => ?_
  simp only [Checked.seq_eq_valid, Checked.map_eq_valid, Package.decodes.list.optional, decodes_string.list.optional,
    decodes_string.list.nullable.optional, decodes_path.required]
  constructor
  · rintro ⟨_, root, ⟨_, directory, ⟨_, defaults, ⟨_, names, ⟨packages, hpackages, rfl⟩, hmembers, rfl⟩, hdefaults,
      rfl⟩, hdirectory, rfl⟩, hroot, rfl⟩
    exact ⟨hpackages, hmembers, hdefaults, hdirectory, hroot⟩
  · rintro ⟨hpackages, hmembers, hdefaults, hdirectory, hroot⟩
    exact ⟨_, _, ⟨_, _, ⟨_, _, ⟨_, _, ⟨_, hpackages, rfl⟩, hmembers, rfl⟩, hdefaults, rfl⟩, hdirectory, rfl⟩, hroot,
      rfl⟩

namespace Schema.Shape

def target : Shape :=
  .record [⟨"name", true, .text⟩, ⟨"kind", false, .list .text⟩, ⟨"src_path", false, .nullable .text⟩]

def package : Shape :=
  .record [⟨"id", true, .text⟩, ⟨"name", true, .text⟩, ⟨"version", false, .text⟩, ⟨"manifest_path", true, .text⟩,
    ⟨"metadata", false, .nullable .table⟩, ⟨"targets", false, .list .target⟩]

def workspace : Shape :=
  .record [⟨"packages", false, .list .package⟩, ⟨"workspace_members", false, .list .text⟩,
    ⟨"workspace_default_members", false, .nullable (.list .text)⟩, ⟨"target_directory", true, .text⟩,
    ⟨"workspace_root", true, .text⟩]

end Schema.Shape

structure Package.Same (package package' : Package) : Prop where
  id : package.id = package'.id
  name : package.name = package'.name
  version : package.version = package'.version
  manifest : package.manifest = package'.manifest
  table : Option.Rel Members.Same package.table package'.table
  targets : package.targets = package'.targets

structure Workspace.Same (workspace workspace' : Workspace) : Prop where
  packages : List.Forall₂ Package.Same workspace.packages workspace'.packages
  members : workspace.members = workspace'.members
  defaultMembers : workspace.defaultMembers = workspace'.defaultMembers
  targetDirectory : workspace.targetDirectory = workspace'.targetDirectory
  root : workspace.root = workspace'.root

theorem Target.conforms : Conforms Target.ofJson .target Eq := by
  refine ConformsIn.record (((ConformsIn.map (conforms_string.required "name") ?_).seq
    (conforms_string.list_eq.optional "kind" rfl)).seq (conforms_path.nullable_eq.optional "src_path" rfl))
  rintro name _ rfl kinds _ rfl source _ rfl
  rfl

theorem Package.conforms : Conforms Package.ofJson .package Package.Same := by
  refine ConformsIn.record ((((((ConformsIn.map (conforms_string.required "id") ?_).seq
    (conforms_string.required "name")).seq (conforms_string.optional "version" rfl)).seq
    (conforms_path.required "manifest_path")).seq (conforms_table.nullable.optional "metadata" .none)).seq
    (Target.conforms.list_eq.optional "targets" rfl))
  intro id _ hid name _ hname version _ hversion manifest _ hmanifest table _ htable targets _ htargets
  exact ⟨hid, hname, hversion, hmanifest, htable, htargets⟩

theorem Workspace.conforms : Conforms Workspace.ofJson .workspace Workspace.Same := by
  refine ConformsIn.record (((((ConformsIn.map (Package.conforms.list.optional "packages" .nil) ?_).seq
    (conforms_string.list_eq.optional "workspace_members" rfl)).seq
    (conforms_string.list_eq.nullable_eq.optional "workspace_default_members" rfl)).seq
    (conforms_path.required "target_directory")).seq (conforms_path.required "workspace_root"))
  intro packages _ hpackages members _ hmembers defaults _ hdefaults directory _ hdirectory root _ hroot
  exact ⟨hpackages, hmembers, hdefaults, hdirectory, hroot⟩

theorem parseMetadata_eq_ok {text : String} {workspace : Workspace} :
    parseMetadata text = .ok workspace ↔ ∃ value, IsDocument text value ∧ IsRecord Workspace.Described value workspace := by
  rw [← Workspace.decodes.readDocument, parseMetadata, Json.mapError_eq_ok]

/-- What a text of metadata is read as: the workspace that it describes; or the number of its faults, if there is one,
in the message of a metadata error. Documents that differ in nothing that matters come to the same. -/
theorem parseMetadata_exact :
    (∀ text workspace, parseMetadata text = .ok workspace ↔
      ∃ value, IsDocument text value ∧ IsRecord Workspace.Described value workspace) ∧
    (∀ text, (∃ workspace, parseMetadata text = .ok workspace ∧ Shape.workspace.HasFaults text 0) ∨
      ∃ cause count first, parseMetadata text = .error (.metadata cause) ∧
        0 < count ∧ Shape.workspace.HasFaults text count ∧
        cause.message = "Invalid cargo metadata output: " ++ toString count ++ " error(s), first: " ++ first) ∧
    ∀ text text', Shape.workspace.AlikeTexts text text' →
      (∃ workspace workspace', parseMetadata text = .ok workspace ∧ parseMetadata text' = .ok workspace' ∧
        workspace.Same workspace') ∨
      ∃ error, parseMetadata text = .error error ∧ parseMetadata text' = .error error := by
  refine ⟨fun text workspace => parseMetadata_eq_ok, ?_, ?_⟩
  · intro text
    unfold parseMetadata
    cases hread : readDocument Workspace.ofJson text with
    | ok workspace => exact .inl ⟨workspace, rfl, Workspace.conforms.readDocument_ok hread⟩
    | error error =>
      obtain ⟨hpos, hfaults⟩ := Workspace.conforms.readDocument_error hread
      exact .inr ⟨_, error.count, error.firstMessage, rfl, hpos, hfaults, rfl⟩
  · intro text text' halike
    unfold parseMetadata
    rcases Workspace.conforms.readDocument_alike halike with
      ⟨workspace, workspace', hread, hread', hsame⟩ | ⟨error, hread, hread'⟩
    · rw [hread, hread']
      exact .inl ⟨workspace, workspace', rfl, rfl, hsame⟩
    · rw [hread, hread']
      exact .inr ⟨_, rfl, rfl⟩

namespace Minimal

def packageMembers : Members :=
  [("id", .string "g"), ("name", .string "g"), ("manifest_path", .string "w/Cargo.toml"),
    ("metadata", .object [("risc0", .null)]),
    ("targets", .array [.object [("name", .string "b"), ("kind", .ofStrings ["bin"])]])]

def metadata : Members :=
  [("packages", .array [.object packageMembers]), ("workspace_members", .ofStrings ["g"]),
    ("target_directory", .string "t"), ("workspace_root", .string "w")]

def version : String × Value := ("version", .ofStrings ["1"])

def package : Package :=
  ⟨"g", "g", "0.0.0", Path.ofString "w/Cargo.toml", some [("risc0", .null)], [⟨"b", ["bin"], none⟩]⟩

def workspace : Workspace := ⟨[package], ["g"], none, Path.ofString "t", Path.ofString "w"⟩

def document (layout : Json.Layout) (members : Members) : String := Json.write layout .ascii (.object members)

theorem isDocument (layout : Json.Layout) {members : Members} (h : members ⊆ version :: metadata) :
    IsDocument (document layout members) (.object members) := by
  have hfits : ∀ member ∈ version :: metadata, member.2.Fits 5 := by
    intro member hmember
    simp only [version, metadata, List.mem_cons, List.not_mem_nil, or_false] at hmember
    rcases hmember with rfl | rfl | rfl | rfl | rfl
    all_goals
      refine ⟨?_, by decide +kernel⟩
      simp [Value.WellFormed, Json.itemsWellFormed, Json.membersWellFormed, Value.ofStrings, packageMembers]
  have hobject : (Value.object members).Fits 6 := Value.fits_object fun member hmember => hfits member (h hmember)
  exact Json.isDocument_write layout .ascii ⟨hobject.wellFormed, Nat.le_trans hobject.depth_le (by decide)⟩

theorem package_described : package.Described packageMembers where
  id := ⟨_, rfl, rfl⟩
  name := ⟨_, rfl, rfl⟩
  version := .inl ⟨rfl, rfl⟩
  manifest := ⟨_, rfl, _, rfl, rfl⟩
  table := .inr ⟨_, rfl, .inr ⟨nofun, _, rfl, rfl⟩⟩
  targets := by
    have hkinds : IsList IsText (.ofStrings ["bin"]) ["bin"] := ⟨_, rfl, .cons rfl .nil⟩
    have htarget : Target.Described [("name", .string "b"), ("kind", .ofStrings ["bin"])] ⟨"b", ["bin"], none⟩ :=
      ⟨⟨_, rfl, rfl⟩, .inr ⟨_, rfl, hkinds⟩, .inl ⟨rfl, rfl⟩⟩
    exact .inr ⟨_, rfl, _, rfl, .cons ⟨_, rfl, htarget⟩ .nil⟩

theorem workspace_described : workspace.Described (version :: metadata) where
  packages := .inr ⟨_, rfl, _, rfl, .cons ⟨_, rfl, package_described⟩ .nil⟩
  memberIds := .inr ⟨_, rfl, _, rfl, .cons rfl .nil⟩
  defaultMembers := .inl ⟨rfl, rfl⟩
  targetDirectory := ⟨_, rfl, _, rfl, rfl⟩
  root := ⟨_, rfl, _, rfl, rfl⟩

theorem parseMetadata_document : parseMetadata (document .compact (version :: metadata)) = .ok workspace :=
  parseMetadata_eq_ok.2 ⟨_, isDocument _ (List.Subset.refl _), _, rfl, workspace_described⟩

theorem reverse_subset : metadata.reverse ⊆ version :: metadata :=
  fun _ hmember => List.mem_cons_of_mem _ (List.mem_reverse.1 hmember)

theorem alikeTexts :
    Shape.workspace.AlikeTexts (document .compact (version :: metadata)) (document .indented metadata.reverse) := by
  refine ⟨_, _, isDocument _ (List.Subset.refl _), isDocument _ reverse_subset,
    Shape.record_alike fun field hfield => ?_⟩
  have hversion : field.key ≠ "version" := by
    have hkeys : ∀ key ∈ ["packages", "workspace_members", "workspace_default_members", "target_directory",
        "workspace_root"], key ≠ "version" := by decide
    exact hkeys field.key (List.mem_map_of_mem hfield)
  have hinsert : Json.lookup ([] ++ version :: metadata) field.key = Json.lookup ([] ++ metadata) field.key :=
    Json.lookup_insert hversion
  exact hinsert.trans (Json.lookup_perm (List.reverse_perm _).symm (by decide +kernel) field.key)

end Minimal

theorem parseMetadata_exact_minimal :
    parseMetadata (Minimal.document .compact (Minimal.version :: Minimal.metadata)) = .ok Minimal.workspace ∧
    ∃ workspace, parseMetadata (Minimal.document .indented Minimal.metadata.reverse) = .ok workspace ∧
      Minimal.workspace.Same workspace := by
  obtain ⟨hdescribed, -, halike⟩ := parseMetadata_exact
  have hread : parseMetadata (Minimal.document .compact (Minimal.version :: Minimal.metadata)) = .ok Minimal.workspace :=
    (hdescribed _ _).2 ⟨_, Minimal.isDocument _ (List.Subset.refl _), _, rfl, Minimal.workspace_described⟩
  refine ⟨hread, ?_⟩
  rcases halike _ _ Minimal.alikeTexts with ⟨workspace, workspace', hfirst, hsecond, hsame⟩ | ⟨error, hfirst, -⟩
  · rw [hread] at hfirst
    cases hfirst
    exact ⟨workspace', hsecond, hsame⟩
  · rw [hread] at hfirst
    cases hfirst

end GuestForge
