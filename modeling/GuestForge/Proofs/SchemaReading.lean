import GuestForge.Proofs.DigestText
import GuestForge.Proofs.JsonGrammar
import GuestForge.Schema
import Mathlib.Data.List.Forall2
set_option autoImplicit false

/-!
# What decoders accept

Relations between JSON values and what they denote, said without the decoders: a text, a path, a list of something, a
member that must be there. `Decodes` says that a decoder passes exactly the values that denote something, as that.
-/
namespace GuestForge.Schema
open Json (Value Members lookup IsDocument)
variable {α β : Type}

def IsText (value : Value) (text : String) : Prop := value = .string text

def IsPath (value : Value) (path : Path) : Prop := ∃ text, value = .string text ∧ path = Path.ofString text

def IsDigest (value : Value) (digest : Digest) : Prop :=
  ∃ text : String, value = .string text ∧ Text.Hex.Spells text.toList digest.bytes

def IsContext (value : Value) (context : Context) : Prop := value = .string context.name

def IsTable (value : Value) (members : Members) : Prop := value = .object members

def IsNullable (denotes : Value → α → Prop) (value : Value) (found : Option α) : Prop :=
  (value = .null ∧ found = none) ∨ (value ≠ .null ∧ ∃ a, denotes value a ∧ found = some a)

def IsList (denotes : Value → α → Prop) (value : Value) (found : List α) : Prop :=
  ∃ values, value = .array values ∧ List.Forall₂ denotes values found

/-- An object whose members are as they should be. Whatever else it holds does not matter. -/
def IsRecord (fits : Members → α → Prop) (value : Value) (a : α) : Prop :=
  ∃ members, value = .object members ∧ fits members a

def Has (members : Members) (key : String) (denotes : Value → α → Prop) (a : α) : Prop :=
  ∃ value, lookup members key = some value ∧ denotes value a

/-- The member with this key denotes `a`, or it is not there and `a` is the default. -/
def HasOr (members : Members) (key : String) (absent : α) (denotes : Value → α → Prop) (a : α) : Prop :=
  (lookup members key = none ∧ a = absent) ∨ Has members key denotes a

def Decodes (decode : Decoder α) (denotes : Value → α → Prop) : Prop :=
  ∀ value a, decode value = .valid a ↔ denotes value a

theorem Checked.map_eq_valid {f : α → β} {checked : Checked α} {b : β} :
    f <$> checked = .valid b ↔ ∃ a, checked = .valid a ∧ f a = b := by
  change checked.map f = .valid b ↔ _
  cases checked with
  | valid a => simp [Checked.map]
  | invalid first others => simp [Checked.map]

theorem Checked.seq_eq_valid {f : Checked (α → β)} {checked : Checked α} {b : β} :
    f <*> checked = .valid b ↔ ∃ g a, f = .valid g ∧ checked = .valid a ∧ g a = b := by
  change f.apply checked = .valid b ↔ _
  cases f with
  | valid g =>
    rw [Checked.apply, ← show g <$> checked = checked.map g from rfl, map_eq_valid]
    simp
  | invalid first others => cases checked <;> simp [Checked.apply]

theorem Checked.under_eq_valid {key : String} {checked : Checked α} {a : α} :
    checked.under key = .valid a ↔ checked = .valid a := by
  cases checked with
  | valid b => exact Iff.rfl
  | invalid first others => simp [Checked.under]

theorem decodes_string : Decodes string IsText := by
  intro value a
  cases value <;> simp [string, IsText, complain]

theorem decodes_path : Decodes path IsPath := by
  intro value a
  cases value <;> simp [path, IsPath, complain, eq_comm]

theorem decodes_digest : Decodes digest IsDigest := by
  intro value a
  cases value with
  | string text =>
    simp only [digest, IsDigest, Value.string.injEq, exists_eq_left', ← Digest.ofHex_eq_ok]
    cases Digest.ofHex text with
    | ok found => simp
    | error error => cases error <;> simp [complain]
  | _ => simp [digest, IsDigest, complain]

theorem Context.ofName?_eq_some {text : String} {context : Context} :
    Context.ofName? text = some context ↔ text = context.name := by
  constructor
  · intro h
    unfold Context.ofName? at h
    split at h
    · cases h
      assumption
    · split at h
      · cases h
        assumption
      · cases h
  · rintro rfl
    exact Context.ofName?_name context

theorem decodes_context : Decodes context IsContext := by
  intro value a
  cases value with
  | string text =>
    simp only [context, IsContext, Value.string.injEq, ← Context.ofName?_eq_some]
    cases Context.ofName? text with
    | some found => simp
    | none => simp [complain]
  | _ => simp [context, IsContext, complain]

theorem decodes_table : Decodes table IsTable := by
  intro value a
  cases value <;> simp [table, IsTable, complain]

theorem Decodes.nullable {decode : Decoder α} {denotes : Value → α → Prop} (h : Decodes decode denotes) :
    Decodes (nullable decode) (IsNullable denotes) := by
  intro value found
  have hsome : value ≠ .null → (Schema.nullable decode value = .valid found ↔ IsNullable denotes value found) := by
    intro hnull
    have hdecode : Schema.nullable decode value = some <$> decode value := by
      cases value with
      | null => exact absurd rfl hnull
      | _ => rfl
    rw [hdecode, Checked.map_eq_valid, IsNullable]
    simp [hnull, h value, eq_comm]
  by_cases hnull : value = .null
  · subst hnull
    simp [Schema.nullable, IsNullable, eq_comm]
  · exact hsome hnull

theorem Decodes.items {decode : Decoder α} {denotes : Value → α → Prop} (h : Decodes decode denotes) (index : Nat)
    (values : List Value) (found : List α) :
    items decode index values = .valid found ↔ List.Forall₂ denotes values found := by
  induction values generalizing index found with
  | nil => simp [Schema.items, eq_comm]
  | cons value values ih =>
    rw [Schema.items, Checked.seq_eq_valid, List.forall₂_cons_left_iff]
    simp only [Checked.map_eq_valid, Checked.under_eq_valid, ih, h value]
    constructor
    · rintro ⟨_, others, ⟨a, ha, rfl⟩, hothers, rfl⟩
      exact ⟨a, others, ha, hothers, rfl⟩
    · rintro ⟨a, others, ha, hothers, rfl⟩
      exact ⟨_, others, ⟨a, ha, rfl⟩, hothers, rfl⟩

theorem Decodes.list {decode : Decoder α} {denotes : Value → α → Prop} (h : Decodes decode denotes) :
    Decodes (list decode) (IsList denotes) := by
  intro value found
  cases value with
  | array values => simp [Schema.list, IsList, h.items]
  | _ => simp [Schema.list, IsList, complain]

theorem Decodes.record {decode : Members → Checked α} {fits : Members → α → Prop}
    (h : ∀ members a, decode members = .valid a ↔ fits members a) : Decodes (record decode) (IsRecord fits) := by
  intro value a
  cases value with
  | object members => simp [Schema.record, IsRecord, h]
  | _ => simp [Schema.record, IsRecord, complain]

theorem Decodes.required {decode : Decoder α} {denotes : Value → α → Prop} (h : Decodes decode denotes)
    {members : Members} {key : String} {a : α} :
    required members key decode = .valid a ↔ Has members key denotes a := by
  unfold Schema.required Has
  cases lookup members key with
  | none => simp [Checked.under_eq_valid, complain]
  | some value => simp [Checked.under_eq_valid, h value]

theorem Decodes.optional {decode : Decoder α} {denotes : Value → α → Prop} (h : Decodes decode denotes)
    {members : Members} {key : String} {absent a : α} :
    optional members key absent decode = .valid a ↔ HasOr members key absent denotes a := by
  unfold Schema.optional HasOr Has
  cases lookup members key with
  | none => simp [eq_comm]
  | some value => simp [Checked.under_eq_valid, h value]

theorem Decodes.readDocument {decode : Decoder α} {denotes : Value → α → Prop} (h : Decodes decode denotes)
    {text : String} {a : α} :
    readDocument decode text = .ok a ↔ ∃ value, IsDocument text value ∧ denotes value a := by
  simp only [← Json.parse_eq_ok, ← h _ a]
  unfold Schema.readDocument
  cases Json.parse text with
  | error error => simp
  | ok value =>
    simp only [Except.ok.injEq, exists_eq_left']
    cases decode value with
    | valid found => simp
    | invalid first others => simp

end GuestForge.Schema
