import GuestForge.Proofs.CommandRuns
import GuestForge.Proofs.FeatureFlags
set_option autoImplicit false

/-!
# Features as tokens

The values of a feature option are cut into the runs of characters between commas and blanks. How values and separators
are put together makes no difference, so the one word that holds the features in a command line is read back as the
features that it was made of.
-/
namespace GuestForge

namespace Text
variable {isSeparator : Char → Bool}

/-- The text is separators and fields in turn. A field is not empty, and ends where a separator or nothing follows. -/
inductive IsFields (isSeparator : Char → Bool) : List Char → List (List Char) → Prop
  | gap {gap : List Char} (separates : ∀ c ∈ gap, isSeparator c = true) : IsFields isSeparator gap []
  | field {gap field rest : List Char} {others : List (List Char)} (separates : ∀ c ∈ gap, isSeparator c = true)
      (nonempty : field ≠ []) (whole : ∀ c ∈ field, isSeparator c = false)
      (maximal : ∀ c ∈ rest.head?, isSeparator c = true) (next : IsFields isSeparator rest others) :
      IsFields isSeparator (gap ++ field ++ rest) (field :: others)

theorem IsFields.cons {c : Char} {text : List Char} {found : List (List Char)} (h : isSeparator c = true)
    (hfields : IsFields isSeparator text found) : IsFields isSeparator (c :: text) found := by
  cases hfields with
  | gap separates => exact .gap (List.forall_mem_cons.2 ⟨h, separates⟩)
  | @field gap field rest others separates nonempty whole maximal next =>
    have hlonger : IsFields isSeparator ((c :: gap) ++ field ++ rest) (field :: others) :=
      .field (List.forall_mem_cons.2 ⟨h, separates⟩) nonempty whole maximal next
    exact hlonger

theorem IsFields.prepend {gap text : List Char} {found : List (List Char)} (h : ∀ c ∈ gap, isSeparator c = true)
    (hfields : IsFields isSeparator text found) : IsFields isSeparator (gap ++ text) found := by
  induction gap with
  | nil => exact hfields
  | cons c others ih =>
    obtain ⟨hc, hothers⟩ := List.forall_mem_cons.1 h
    exact (ih hothers).cons hc

theorem IsFields.first {field rest : List Char} {others : List (List Char)} (nonempty : field ≠ [])
    (whole : ∀ c ∈ field, isSeparator c = false) (maximal : ∀ c ∈ rest.head?, isSeparator c = true)
    (next : IsFields isSeparator rest others) : IsFields isSeparator (field ++ rest) (field :: others) := by
  have hfield : IsFields isSeparator ([] ++ field ++ rest) (field :: others) :=
    .field (List.forall_mem_nil _) nonempty whole maximal next
  exact hfield

theorem IsFields.nil : IsFields isSeparator [] [] := .gap (List.forall_mem_nil _)

theorem fieldsFrom_gap {gap : List Char} (h : ∀ c ∈ gap, isSeparator c = true) (rest : List Char) :
    fieldsFrom isSeparator [] (gap ++ rest) = fieldsFrom isSeparator [] rest := by
  induction gap with
  | nil => rfl
  | cons c others ih =>
    obtain ⟨hc, hothers⟩ := List.forall_mem_cons.1 h
    rw [List.cons_append, fieldsFrom, if_pos hc, if_pos rfl, ih hothers]

theorem fieldsFrom_run {run : List Char} (h : ∀ c ∈ run, isSeparator c = false) (field rest : List Char) :
    fieldsFrom isSeparator field (run ++ rest) = fieldsFrom isSeparator (field ++ run) rest := by
  induction run generalizing field with
  | nil => rw [List.nil_append, List.append_nil]
  | cons c others ih =>
    obtain ⟨hc, hothers⟩ := List.forall_mem_cons.1 h
    rw [List.cons_append, fieldsFrom, hc, if_neg Bool.false_ne_true, ih hothers, List.append_assoc]
    rfl

theorem fieldsFrom_end {field rest : List Char} (h : field ≠ []) (hrest : ∀ c ∈ rest.head?, isSeparator c = true) :
    fieldsFrom isSeparator field rest = field :: fieldsFrom isSeparator [] rest := by
  cases rest with
  | nil => rw [fieldsFrom, if_neg h]; rfl
  | cons c others =>
    have hc : isSeparator c = true := hrest c rfl
    rw [fieldsFrom, if_pos hc, if_neg h, fieldsFrom, if_pos hc, if_pos rfl]

theorem isFields_fieldsFrom {field : List Char} (h : ∀ c ∈ field, isSeparator c = false) (text : List Char) :
    IsFields isSeparator (field ++ text) (fieldsFrom isSeparator field text) := by
  induction text generalizing field with
  | nil =>
    by_cases hnil : field = []
    · subst hnil
      exact .nil
    · rw [fieldsFrom_end hnil (by simp)]
      exact .first hnil h (by simp) .nil
  | cons c rest ih =>
    cases hc : isSeparator c with
    | true =>
      -- A separator ends the current field, if there is one, and goes to the gap before the next.
      have hnext : IsFields isSeparator (c :: rest) (fieldsFrom isSeparator [] (c :: rest)) := by
        rw [fieldsFrom, if_pos hc, if_pos rfl]
        exact (ih (List.forall_mem_nil _)).cons hc
      by_cases hnil : field = []
      · subst hnil
        exact hnext
      · rw [fieldsFrom_end hnil (by simpa using hc)]
        exact .first hnil h (by simpa using hc) hnext
    | false =>
      have hrun : ∀ d ∈ field ++ [c], isSeparator d = false :=
        List.forall_mem_append.2 ⟨h, List.forall_mem_singleton.2 hc⟩
      have hfields := ih hrun
      rw [List.append_assoc] at hfields
      rw [fieldsFrom, hc, if_neg Bool.false_ne_true]
      exact hfields

theorem fields_eq_iff {text : List Char} {found : List (List Char)} :
    fields isSeparator text = found ↔ IsFields isSeparator text found := by
  constructor
  · rintro rfl
    exact isFields_fieldsFrom (List.forall_mem_nil _) text
  · intro h
    unfold fields
    induction h with
    | @gap gap separates =>
      have hgap := fieldsFrom_gap separates []
      rwa [List.append_nil] at hgap
    | field separates nonempty whole maximal _ ih =>
      rw [List.append_assoc, fieldsFrom_gap separates, fieldsFrom_run whole, List.nil_append,
        fieldsFrom_end nonempty maximal, ih]

theorem IsFields.mem {text : List Char} {found : List (List Char)} (h : IsFields isSeparator text found) :
    ∀ field ∈ found, field ≠ [] ∧ ∀ c ∈ field, isSeparator c = false := by
  induction h with
  | gap _ => exact List.forall_mem_nil _
  | field _ nonempty whole _ _ ih => exact List.forall_mem_cons.2 ⟨⟨nonempty, whole⟩, ih⟩

theorem IsFields.append {text rest : List Char} {found others : List (List Char)}
    (hrest : ∀ c ∈ rest.head?, isSeparator c = true) (hothers : IsFields isSeparator rest others)
    (h : IsFields isSeparator text found) : IsFields isSeparator (text ++ rest) (found ++ others) := by
  induction h with
  | gap separates => exact hothers.prepend separates
  | @field gap field behind _ separates nonempty whole maximal _ ih =>
    have hmaximal : ∀ c ∈ (behind ++ rest).head?, isSeparator c = true := by
      cases behind with
      | nil => exact hrest
      | cons d _ => exact maximal
    rw [List.append_assoc]
    exact .field separates nonempty whole hmaximal ih

theorem fields_join {gap : List Char} (hnil : gap ≠ []) (h : ∀ c ∈ gap, isSeparator c = true)
    (text rest : List Char) :
    fields isSeparator (text ++ gap ++ rest) = fields isSeparator text ++ fields isSeparator rest := by
  obtain ⟨c, others, rfl⟩ := List.exists_cons_of_ne_nil hnil
  have hc : ∀ d ∈ (c :: others ++ rest).head?, isSeparator d = true := by
    simpa using h c List.mem_cons_self
  rw [List.append_assoc, fields_eq_iff]
  have hrest : IsFields isSeparator (c :: others ++ rest) (fields isSeparator rest) := (fields_eq_iff.1 rfl).prepend h
  exact hrest.append hc (fields_eq_iff.1 rfl)

theorem fields_field {field : List Char} (hnil : field ≠ []) (h : ∀ c ∈ field, isSeparator c = false) :
    fields isSeparator field = [field] := by
  have hfield : IsFields isSeparator (field ++ []) [field] := .first hnil h (by simp) .nil
  rw [List.append_nil] at hfield
  exact fields_eq_iff.2 hfield

end Text

open Text (IsFields fields_eq_iff)

def separatesFeatures (c : Char) : Bool := c == ',' || Text.Blank.isBlank c

def IsFeature (token : String) : Prop := token ≠ "" ∧ ∀ c ∈ token.toList, separatesFeatures c = false

section features
variable {values tokens : List String}

theorem splitFeatures_append (values others : List String) :
    splitFeatures (values ++ others) = splitFeatures values ++ splitFeatures others := List.flatMap_append

theorem splitFeatures_cons (value : String) (values : List String) :
    splitFeatures (value :: values) = splitFeatures [value] ++ splitFeatures values := splitFeatures_append [value] values

theorem splitFeatures_singleton (value : String) :
    splitFeatures [value] = (Text.fields separatesFeatures value.toList).map String.ofList := List.flatMap_singleton ..

theorem map_ofList_eq_iff {found : List (List Char)} :
    found.map String.ofList = tokens ↔ found = tokens.map String.toList := by
  constructor
  · rintro rfl
    simp
  · rintro rfl
    simp

theorem splitFeatures_value_iff {value : String} :
    splitFeatures [value] = tokens ↔ IsFields separatesFeatures value.toList (tokens.map String.toList) := by
  rw [splitFeatures_singleton, map_ofList_eq_iff, fields_eq_iff]

theorem splitFeatures_join {gap : String} (hnil : gap ≠ "") (h : ∀ c ∈ gap.toList, separatesFeatures c = true)
    (value other : String) :
    splitFeatures [value ++ gap ++ other] = splitFeatures [value] ++ splitFeatures [other] := by
  have hgap : gap.toList ≠ [] := fun heq => hnil (String.toList_eq_nil_iff.1 heq)
  rw [splitFeatures_singleton, splitFeatures_singleton, splitFeatures_singleton, String.toList_append,
    String.toList_append, Text.fields_join hgap h, List.map_append]

theorem isFeature_of_mem {token : String} (h : token ∈ splitFeatures values) : IsFeature token := by
  obtain ⟨value, -, htoken⟩ := List.mem_flatMap.1 h
  obtain ⟨field, hfield, rfl⟩ := List.mem_map.1 htoken
  have hfields : IsFields separatesFeatures value.toList _ := fields_eq_iff.1 rfl
  obtain ⟨hnil, hwhole⟩ := hfields.mem field hfield
  refine ⟨fun heq => hnil (by simpa using heq), ?_⟩
  rwa [String.toList_ofList]

theorem splitFeatures_feature {token : String} (h : IsFeature token) : splitFeatures [token] = [token] := by
  obtain ⟨hnil, hwhole⟩ := h
  have htoken : token.toList ≠ [] := fun heq => hnil (String.toList_eq_nil_iff.1 heq)
  rw [splitFeatures_singleton, Text.fields_field htoken hwhole, List.map_singleton, String.ofList_toList]

theorem splitFeatures_features (h : ∀ token ∈ tokens, IsFeature token) : splitFeatures tokens = tokens := by
  induction tokens with
  | nil => rfl
  | cons token others ih =>
    obtain ⟨htoken, hothers⟩ := List.forall_mem_cons.1 h
    rw [splitFeatures_cons, splitFeatures_feature htoken, ih hothers]
    rfl

theorem splitFeatures_intercalate (values : List String) :
    splitFeatures [",".intercalate values] = splitFeatures values := by
  have hcomma : ∀ c ∈ ",".toList, separatesFeatures c = true := List.forall_mem_singleton.2 rfl
  induction values with
  | nil => rfl
  | cons value others ih =>
    cases others with
    | nil => rw [String.intercalate_singleton]
    | cons next others =>
      rw [String.intercalate_cons_cons, splitFeatures_join (by decide) hcomma, ih]
      exact (splitFeatures_cons value (next :: others)).symm

theorem splitFeatures_listing (features : List String) :
    splitFeatures (FeatureFlags.listing features).features.toList = splitFeatures features := by
  by_cases hnil : features = []
  · subst hnil
    rfl
  · rw [FeatureFlags.listing, if_neg hnil]
    exact splitFeatures_intercalate features

end features

open CommandLine FeatureFlags
open Text.ShellWords (split)

/-- Each value is cut into what stands between its separators. So values can be taken together or joined by separators,
the features hold no separators and are left as they are by cutting them again, joined by commas too, and the word that
either command line carries is cut into the features that the options of the call give. -/
theorem splitFeatures_lossless :
    (∀ values, splitFeatures values = values.flatMap fun value => splitFeatures [value]) ∧
    (∀ value tokens, splitFeatures [value] = tokens ↔
      IsFields separatesFeatures value.toList (tokens.map String.toList)) ∧
    (∀ values others, splitFeatures (values ++ others) = splitFeatures values ++ splitFeatures others) ∧
    (∀ value gap other : String, gap ≠ "" → (∀ c ∈ gap.toList, separatesFeatures c = true) →
      splitFeatures [value ++ gap ++ other] = splitFeatures [value, other]) ∧
    (∀ values, ∀ token ∈ splitFeatures values, IsFeature token) ∧
    (∀ values, splitFeatures (splitFeatures values) = splitFeatures values) ∧
    (∀ tokens, (∀ token ∈ tokens, IsFeature token) → splitFeatures [",".intercalate tokens] = tokens) ∧
    ∀ options cargo tool cargoWords toolWords manifest package targetDirectory root,
      split cargo = .ok cargoWords → split tool = .ok toolWords → ∃ resolving building,
        metadataCommand cargo manifest (some (configurationOf options)) = .ok (cargoWords ++ resolving) ∧
        builderCommand tool package targetDirectory ((configurationOf options).guestOptions root) =
          .ok (toolWords ++ building) ∧
        splitFeatures (read resolving).features.toList = splitFeatures (valuesOf options "features") ∧
        splitFeatures (read building).features.toList = splitFeatures (valuesOf options "features") := by
  have hagain : ∀ values, splitFeatures (splitFeatures values) = splitFeatures values :=
    fun values => splitFeatures_features fun token => isFeature_of_mem
  refine ⟨?_, fun _ _ => splitFeatures_value_iff, splitFeatures_append, ?_, fun _ _ => isFeature_of_mem, hagain, ?_, ?_⟩
  · intro values
    induction values with
    | nil => rfl
    | cons value others ih => rw [splitFeatures_cons, ih, List.flatMap_cons]
  · intro value gap other hnil hgap
    rw [splitFeatures_join hnil hgap, splitFeatures_cons value [other]]
  · intro tokens htokens
    rw [splitFeatures_intercalate, splitFeatures_features htokens]
  · intro options cargo tool cargoWords toolWords manifest package targetDirectory root hcargo htool
    obtain ⟨resolving, hmetadata, hresolving⟩ := metadataCommand_reads hcargo manifest (configurationOf options)
    obtain ⟨building, hbuilder, hbuilding⟩ :=
      builderCommand_reads htool package targetDirectory ((configurationOf options).guestOptions root)
    refine ⟨resolving, building, hmetadata, hbuilder, ?_, ?_⟩
    · rw [hresolving]
      exact (splitFeatures_listing (configurationOf options).features).trans (hagain _)
    · rw [hbuilding]
      exact (splitFeatures_listing (configurationOf options).features).trans (hagain _)

theorem splitFeatures_lossless_mixed :
    splitFeatures ["x" ++ ", \t" ++ "y"] = splitFeatures ["x", "y"] ∧
    IsFeature "a" ∧ splitFeatures [",".intercalate ["a", "b/c"]] = ["a", "b/c"] ∧
    ∃ resolving building,
      metadataCommand "cargo" none (some (configurationOf [⟨"features", "a,, b"⟩, ⟨"features", " c "⟩])) =
        .ok (["cargo"] ++ resolving) ∧
      builderCommand "tool" Small.package Small.result.targetDirectory
        ((configurationOf [⟨"features", "a,, b"⟩, ⟨"features", " c "⟩]).guestOptions Small.workspace.root) =
        .ok (["tool"] ++ building) ∧
      splitFeatures (read resolving).features.toList = ["a", "b", "c"] ∧
      splitFeatures (read building).features.toList = ["a", "b", "c"] := by
  obtain ⟨-, -, -, hjoins, hfeatures, -, hback, hcommands⟩ := splitFeatures_lossless
  have hcargo : split "cargo" = .ok ["cargo"] := by decide +kernel
  have htool : split "tool" = .ok ["tool"] := by decide +kernel
  have htokens : splitFeatures ["a b/c"] = ["a", "b/c"] := by decide +kernel
  have hvalues : splitFeatures (valuesOf [⟨"features", "a,, b"⟩, ⟨"features", " c "⟩] "features") = ["a", "b", "c"] := by
    decide +kernel
  obtain ⟨resolving, building, hmetadata, hbuilder, hresolving, hbuilding⟩ :=
    hcommands [⟨"features", "a,, b"⟩, ⟨"features", " c "⟩] "cargo" "tool" ["cargo"] ["tool"] none Small.package
      Small.result.targetDirectory Small.workspace.root hcargo htool
  have hgap : ", \t".toList.all separatesFeatures = true := by decide +kernel
  refine ⟨hjoins "x" ", \t" "y" (by decide) (List.all_eq_true.1 hgap), hfeatures ["a b/c"] "a" ?_, hback _ ?_, resolving,
    building, hmetadata, hbuilder, hresolving.trans hvalues, hbuilding.trans hvalues⟩
  · rw [htokens]
    exact List.mem_cons_self
  · intro token htoken
    rw [← htokens] at htoken
    exact hfeatures _ token htoken

end GuestForge
