import GuestForge.Build.Report
import GuestForge.Proofs.JsonWriting
import GuestForge.Proofs.PathText
import GuestForge.Proofs.SchemaReading
set_option autoImplicit false

/-!
# Build reports, accepted and refused

A report denotes a list of guests if it is a JSON array with one object per guest that has what a guest needs. Such
reports are read as the guests they denote; every other text is refused as a whole.
-/
namespace GuestForge
open Json (Value Members IsDocument lookup)
open Schema

structure ImageId.Reported (members : Members) (imageId : ImageId) : Prop where
  kind : Has members "kind" IsContext imageId.context
  digest : Has members "digest" IsDigest imageId.digest

/-- The members of one entry. A legacy identifier that does not apply is left out or null. -/
structure BuiltGuest.Reported (members : Members) (guest : BuiltGuest) : Prop where
  path : Has members "path" IsPath guest.path
  legacy : (lookup members "image_id" = none ∨ lookup members "image_id" = some .null) ∧ guest.legacyId = .zero ∨
    Has members "image_id" IsDigest guest.legacyId
  imageId : Has members "v2_image_id" (IsRecord ImageId.Reported) guest.imageId

def IsReport (text : String) (guests : List BuiltGuest) : Prop :=
  ∃ entries, IsDocument text (.array entries) ∧ List.Forall₂ (IsRecord BuiltGuest.Reported) entries guests

theorem ImageId.decodes : Decodes ImageId.ofJson (IsRecord ImageId.Reported) := by
  refine Decodes.record fun members imageId => ?_
  simp only [Checked.seq_eq_valid, Checked.map_eq_valid, decodes_context.required, decodes_digest.required]
  constructor
  · rintro ⟨_, digest, ⟨context, hkind, rfl⟩, hdigest, rfl⟩
    exact ⟨hkind, hdigest⟩
  · rintro ⟨hkind, hdigest⟩
    exact ⟨_, _, ⟨_, hkind, rfl⟩, hdigest, rfl⟩

theorem legacy_iff {members : Members} {legacyId : Digest} :
    (∃ found, HasOr members "image_id" none (IsNullable IsDigest) found ∧ found.getD .zero = legacyId) ↔
      (lookup members "image_id" = none ∨ lookup members "image_id" = some .null) ∧ legacyId = .zero ∨
        Has members "image_id" IsDigest legacyId := by
  constructor
  · rintro ⟨_, ⟨habsent, rfl⟩ | ⟨value, hvalue, ⟨rfl, rfl⟩ | ⟨-, digest, hdigest, rfl⟩⟩, rfl⟩
    · exact .inl ⟨.inl habsent, rfl⟩
    · exact .inl ⟨.inr hvalue, rfl⟩
    · exact .inr ⟨value, hvalue, hdigest⟩
  · rintro (⟨habsent | hnull, rfl⟩ | ⟨value, hvalue, hdigest⟩)
    · exact ⟨none, .inl ⟨habsent, rfl⟩, rfl⟩
    · exact ⟨none, .inr ⟨_, hnull, .inl ⟨rfl, rfl⟩⟩, rfl⟩
    · have hnull : value ≠ .null := by
        rintro rfl
        obtain ⟨text, htext, -⟩ := hdigest
        cases htext
      exact ⟨some legacyId, .inr ⟨value, hvalue, .inr ⟨hnull, legacyId, hdigest, rfl⟩⟩, rfl⟩

theorem BuiltGuest.decodes : Decodes BuiltGuest.ofJson (IsRecord BuiltGuest.Reported) := by
  refine Decodes.record fun members guest => ?_
  simp only [Checked.seq_eq_valid, Checked.map_eq_valid, decodes_path.required, decodes_digest.nullable.optional,
    ImageId.decodes.required]
  constructor
  · rintro ⟨_, imageId, ⟨_, legacy, ⟨path, hpath, rfl⟩, hlegacy, rfl⟩, himageId, rfl⟩
    exact ⟨hpath, legacy_iff.1 ⟨legacy, hlegacy, rfl⟩, himageId⟩
  · rintro ⟨hpath, hlegacy, himageId⟩
    obtain ⟨legacy, hfound, hlegacyId⟩ := legacy_iff.2 hlegacy
    refine ⟨_, _, ⟨_, legacy, ⟨_, hpath, rfl⟩, hfound, rfl⟩, himageId, ?_⟩
    rw [hlegacyId]

theorem parseReport_eq_ok {text : String} {package : Option String} {guests : List BuiltGuest} :
    parseReport text package = .ok guests ↔ IsReport text guests := by
  have hparse : parseReport text package = .ok guests ↔ readDocument (list BuiltGuest.ofJson) text = .ok guests := by
    rw [parseReport, Json.mapError_eq_ok]
  rw [hparse, BuiltGuest.decodes.list.readDocument]
  constructor
  · rintro ⟨_, hdocument, entries, rfl, hentries⟩
    exact ⟨entries, hdocument, hentries⟩
  · rintro ⟨entries, hdocument, hentries⟩
    exact ⟨_, hdocument, entries, rfl, hentries⟩

theorem parseReport_eq_error {text : String} {package : Option String} {error : BakeError}
    (h : parseReport text package = .error error) :
    ∃ document, error = .build (.badReport package document) package none none := by
  unfold parseReport at h
  cases hread : readDocument (list BuiltGuest.ofJson) text with
  | ok guests =>
    rw [hread] at h
    cases h
  | error document =>
    rw [hread] at h
    cases h
    exact ⟨document, rfl⟩

def ImageId.toJson (imageId : ImageId) : Value :=
  .object [("kind", .string imageId.context.name), ("digest", .string imageId.digest.toHex)]

def BuiltGuest.toJson (omits : Bool) (guest : BuiltGuest) : Value :=
  .object (("path", .string guest.path.toString) ::
    ((if omits && guest.legacyId = .zero then [] else [("image_id", .string guest.legacyId.toHex)]) ++
      [("v2_image_id", guest.imageId.toJson)]))

def reportOf (omits : BuiltGuest → Bool) (guests : List BuiltGuest) : Value :=
  .array (guests.map fun guest => guest.toJson (omits guest))

theorem isDigest_toHex (digest : Digest) : IsDigest (.string digest.toHex) digest :=
  ⟨_, rfl, Digest.ofHex_eq_ok.1 digest.ofHex_encode⟩

theorem ImageId.reported_toJson (imageId : ImageId) : IsRecord ImageId.Reported imageId.toJson imageId :=
  ⟨_, rfl, ⟨⟨_, rfl, rfl⟩, ⟨_, rfl, isDigest_toHex _⟩⟩⟩

theorem BuiltGuest.reported_toJson (omits : Bool) (guest : BuiltGuest) :
    IsRecord BuiltGuest.Reported (guest.toJson omits) guest := by
  have hpath : IsPath (.string guest.path.toString) guest.path := ⟨_, rfl, (Path.ofString_toString _).symm⟩
  refine ⟨_, rfl, ?_⟩
  cases homits : omits && decide (guest.legacyId = .zero) with
  | true =>
    have hzero : guest.legacyId = .zero := of_decide_eq_true (Bool.and_eq_true_iff.1 homits).2
    exact ⟨⟨_, rfl, hpath⟩, .inl ⟨.inl rfl, hzero⟩, ⟨_, rfl, guest.imageId.reported_toJson⟩⟩
  | false => exact ⟨⟨_, rfl, hpath⟩, .inr ⟨_, rfl, isDigest_toHex _⟩, ⟨_, rfl, guest.imageId.reported_toJson⟩⟩

theorem ImageId.fits_toJson (imageId : ImageId) : imageId.toJson.Fits 1 := by
  refine Value.fits_object fun member hmember => ?_
  simp only [List.mem_cons, List.not_mem_nil, or_false] at hmember
  rcases hmember with rfl | rfl <;> exact Value.fits_string 0 _

theorem BuiltGuest.fits_toJson (omits : Bool) (guest : BuiltGuest) : (guest.toJson omits).Fits 2 := by
  refine Value.fits_object fun member hmember => ?_
  rcases List.mem_cons.1 hmember with rfl | hmember
  · exact Value.fits_string 1 _
  · rcases List.mem_append.1 hmember with hlegacy | himageId
    · split at hlegacy
      · cases hlegacy
      · rw [List.mem_singleton.1 hlegacy]
        exact Value.fits_string 1 _
    · rw [List.mem_singleton.1 himageId]
      exact guest.imageId.fits_toJson

theorem isReport_write (layout : Json.Layout) (charset : Json.Charset) (omits : BuiltGuest → Bool)
    (guests : List BuiltGuest) : IsReport (Json.write layout charset (reportOf omits guests)) guests := by
  have hfits : (reportOf omits guests).Fits 3 := by
    refine Value.fits_array fun entry hentry => ?_
    obtain ⟨guest, -, rfl⟩ := List.mem_map.1 hentry
    exact guest.fits_toJson (omits guest)
  refine ⟨_, Json.isDocument_write layout charset ⟨hfits.wellFormed, Nat.le_trans hfits.depth_le (by decide)⟩, ?_⟩
  refine List.forall₂_map_left_iff.2 (List.forall₂_same.2 fun guest _ => ?_)
  exact guest.reported_toJson (omits guest)

/-- A text is read as the guests it reports, or it reports none and is a build error about the package. What is
written for a list of guests reports that list. -/
theorem parseReport_exact (text : String) (package : Option String) :
    (∀ guests, parseReport text package = .ok guests ↔ IsReport text guests) ∧
      ((∃ guests, parseReport text package = .ok guests) ∨
        ∃ error, parseReport text package = .error (.build (.badReport package error) package none none)) ∧
      ∀ layout charset omits guests,
        parseReport (Json.write layout charset (reportOf omits guests)) package = .ok guests := by
  refine ⟨fun guests => parseReport_eq_ok, ?_, ?_⟩
  · cases hread : parseReport text package with
    | ok guests => exact .inl ⟨guests, rfl⟩
    | error error =>
      obtain ⟨document, rfl⟩ := parseReport_eq_error hread
      exact .inr ⟨document, rfl⟩
  · intro layout charset omits guests
    exact parseReport_eq_ok.2 (isReport_write layout charset omits guests)

end GuestForge
