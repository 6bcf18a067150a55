import GuestForge.Proofs.JsonGrammar
import GuestForge.Schema
import Mathlib.Algebra.GroupWithZero.Nat
import Mathlib.Data.List.Forall2
import Mathlib.Data.List.Nodup
import Mathlib.Data.Option.Basic
import Mathlib.Logic.Relator
set_option autoImplicit false

/-!
# Counting what is wrong, and what does not matter

The shape of a value says how many faults a value has and which differences between two values do not matter: the
order of keys anywhere, and members that no field asks for. A decoder that conforms to a shape complains once for each
fault and treats values alike that differ in nothing that matters.
-/
namespace GuestForge

namespace Json

/-- Equal but for the order of keys, at every depth. -/
inductive Value.Same : Value → Value → Prop
  | null : Same .null .null
  | bool (b : Bool) : Same (.bool b) (.bool b)
  | number (text : String) : Same (.number text) (.number text)
  | string (text : String) : Same (.string text) (.string text)
  | array {items items' : List Value} : List.Forall₂ Value.Same items items' → Same (.array items) (.array items')
  | object {members members' : Members} :
      (∀ key, Option.Rel Value.Same (lookup members key) (lookup members' key)) →
        Same (.object members) (.object members')

def Members.Same (members members' : Members) : Prop :=
  ∀ key, Option.Rel Value.Same (lookup members key) (lookup members' key)

theorem mem_of_lookup {members : Members} {key : String} {value : Value} (h : lookup members key = some value) :
    (key, value) ∈ members := by
  obtain ⟨member, hfound, rfl⟩ := Option.map_eq_some_iff.1 h
  have hkey : member.1 = key := by simpa using List.find?_some hfound
  have hmem := List.mem_reverse.1 (List.mem_of_find?_eq_some hfound)
  rwa [← hkey]

theorem Value.Same.refl (value : Value) : value.Same value := by
  match value with
  | .null => exact .null
  | .bool b => exact .bool b
  | .number text => exact .number text
  | .string text => exact .string text
  | .array items =>
    refine .array (List.forall₂_same.2 fun item hitem => ?_)
    exact Value.Same.refl item
  | .object members =>
    refine .object fun key => ?_
    cases hvalue : lookup members key with
    | none => exact .none
    | some value =>
      have hmem := mem_of_lookup hvalue
      exact .some (Value.Same.refl value)
termination_by sizeOf value
decreasing_by
  · have hsize := List.sizeOf_lt_of_mem hitem
    simp only [Value.array.sizeOf_spec]
    omega
  · have hsize := List.sizeOf_lt_of_mem hmem
    simp only [Prod.mk.sizeOf_spec, Value.object.sizeOf_spec] at hsize ⊢
    omega

theorem lookup_eq_some {members : Members} (hkeys : (members.map Prod.fst).Nodup) {key : String} {value : Value} :
    lookup members key = some value ↔ (key, value) ∈ members := by
  refine ⟨mem_of_lookup, fun hmem => ?_⟩
  cases hfound : lookup members key with
  | none =>
    rw [lookup, Option.map_eq_none_iff, List.find?_eq_none] at hfound
    exact absurd (beq_self_eq_true key) (hfound _ (List.mem_reverse.2 hmem))
  | some other =>
    have hpair := List.inj_on_of_nodup_map hkeys (mem_of_lookup hfound) hmem rfl
    rw [(Prod.mk.inj hpair).2]

theorem lookup_perm {members members' : Members} (h : members.Perm members') (hkeys : (members.map Prod.fst).Nodup)
    (key : String) : lookup members key = lookup members' key := by
  have hkeys' : (members'.map Prod.fst).Nodup := (h.map Prod.fst).nodup_iff.1 hkeys
  refine Option.ext fun value => ?_
  rw [lookup_eq_some hkeys, lookup_eq_some hkeys', h.mem_iff]

theorem lookup_insert {before after : Members} {key other : String} {value : Value} (h : key ≠ other) :
    lookup (before ++ (other, value) :: after) key = lookup (before ++ after) key := by
  simp [lookup, List.find?_append, h.symm]

end Json

namespace Schema
open Json (Value Members lookup IsDocument)
variable {α β : Type}

theorem rel_mono {r s : α → β → Prop} {a : Option α} {b : Option β} (h : Option.Rel r a b)
    (hrs : ∀ a b, r a b → s a b) : Option.Rel s a b := by
  cases h with
  | some hr => exact .some (hrs _ _ hr)
  | none => exact .none

structure Shape where
  faults : Value → Nat
  Alike : Value → Value → Prop
  alike_of_same : ∀ {value value' : Value}, value.Same value' → Alike value value'

structure Field where
  key : String
  isRequired : Bool
  shape : Shape

namespace Field

def faults (field : Field) (members : Members) : Nat :=
  match lookup members field.key with
  | some value => field.shape.faults value
  | none => if field.isRequired then 1 else 0

def Alike (field : Field) (members members' : Members) : Prop :=
  Option.Rel field.shape.Alike (lookup members field.key) (lookup members' field.key)

end Field

namespace Shape

def isString : Value → Bool
  | .string _ => true
  | _ => false

def isObject : Value → Bool
  | .object _ => true
  | _ => false

def leaf (fits : Value → Bool) : Shape where
  faults value := if fits value then 0 else 1
  Alike := Value.Same
  alike_of_same h := h

def text : Shape := leaf isString

def table : Shape := leaf isObject

def nullable (shape : Shape) : Shape where
  faults
    | .null => 0
    | value => shape.faults value
  Alike value value' := value = .null ∧ value' = .null ∨ value ≠ .null ∧ value' ≠ .null ∧ shape.Alike value value'
  alike_of_same := by
    intro value value' h
    cases h with
    | null => exact .inl ⟨rfl, rfl⟩
    | bool b => exact .inr ⟨nofun, nofun, shape.alike_of_same (.bool b)⟩
    | number text => exact .inr ⟨nofun, nofun, shape.alike_of_same (.number text)⟩
    | string text => exact .inr ⟨nofun, nofun, shape.alike_of_same (.string text)⟩
    | array hitems => exact .inr ⟨nofun, nofun, shape.alike_of_same (.array hitems)⟩
    | object hmembers => exact .inr ⟨nofun, nofun, shape.alike_of_same (.object hmembers)⟩

def list (shape : Shape) : Shape where
  faults
    | .array items => (items.map shape.faults).sum
    | _ => 1
  Alike
    | .array items, .array items' => List.Forall₂ shape.Alike items items'
    | value, value' => value.Same value'
  alike_of_same := by
    intro value value' h
    cases h with
    | null => exact .null
    | bool b => exact .bool b
    | number text => exact .number text
    | string text => exact .string text
    | array hitems => exact hitems.imp fun _ _ => shape.alike_of_same
    | object hmembers => exact .object hmembers

def record (fields : List Field) : Shape where
  faults
    | .object members => (fields.map (·.faults members)).sum
    | _ => 1
  Alike
    | .object members, .object members' => ∀ field ∈ fields, field.Alike members members'
    | value, value' => value.Same value'
  alike_of_same := by
    intro value value' h
    cases h with
    | null => exact .null
    | bool b => exact .bool b
    | number text => exact .number text
    | string text => exact .string text
    | array hitems => exact .array hitems
    | object hmembers =>
      intro field _
      exact rel_mono (hmembers field.key) fun _ _ => field.shape.alike_of_same

/-- Only what stands under the keys of the fields matters. -/
theorem record_alike {fields : List Field} {members members' : Members}
    (h : ∀ field ∈ fields, lookup members field.key = lookup members' field.key) :
    (record fields).Alike (.object members) (.object members') := by
  intro field hfield
  unfold Field.Alike
  rw [h field hfield]
  cases lookup members' field.key with
  | none => exact .none
  | some value => exact .some (field.shape.alike_of_same (.refl value))

def HasFaults (shape : Shape) (text : String) (count : Nat) : Prop :=
  (∃ value, IsDocument text value ∧ count = shape.faults value) ∨ (∀ value, ¬ IsDocument text value) ∧ count = 1

def AlikeTexts (shape : Shape) (text text' : String) : Prop :=
  ∃ value value', IsDocument text value ∧ IsDocument text' value' ∧ shape.Alike value value'

end Shape

inductive Checked.Alike (same : α → α → Prop) : Checked α → Checked α → Prop
  | valid {a a' : α} : same a a' → Checked.Alike same (.valid a) (.valid a')
  | invalid (first : Violation) (others : List Violation) :
      Checked.Alike same (.invalid first others) (.invalid first others)

section alike
variable {same : α → α → Prop} {same' : β → β → Prop} {checked checked' : Checked α}

theorem Checked.Alike.map {f f' : α → β} (h : Checked.Alike same checked checked')
    (hf : ∀ a a', same a a' → same' (f a) (f' a')) : Checked.Alike same' (f <$> checked) (f' <$> checked') := by
  cases h with
  | valid hsame => exact .valid (hf _ _ hsame)
  | invalid first others => exact .invalid first others

theorem Checked.Alike.seq {f f' : Checked (α → β)} (hf : Checked.Alike (Relator.LiftFun same same') f f')
    (h : Checked.Alike same checked checked') : Checked.Alike same' (f <*> checked) (f' <*> checked') := by
  cases hf with
  | valid hf => exact h.map fun a a' hsame => hf hsame
  | invalid first others =>
    cases h with
    | valid _ => exact .invalid first others
    | invalid next more => exact .invalid first (others ++ next :: more)

theorem Checked.Alike.under (h : Checked.Alike same checked checked') (key : String) :
    Checked.Alike same (checked.under key) (checked'.under key) := by
  cases h with
  | valid hsame => exact .valid hsame
  | invalid first others => exact .invalid _ _

end alike

@[simp] theorem violations_map (f : α → β) (checked : Checked α) :
    (f <$> checked).violations = checked.violations := by
  cases checked <;> rfl

@[simp] theorem violations_seq (f : Checked (α → β)) (checked : Checked α) :
    (f <*> checked).violations = f.violations ++ checked.violations := Checked.violations_apply f checked

@[simp] theorem length_violations_under (key : String) (checked : Checked α) :
    (checked.under key).violations.length = checked.violations.length := by
  cases checked <;> simp [Checked.under, Checked.violations]

/-- One complaint for each fault, and no difference between values that are alike. -/
structure Conforms (decode : Decoder α) (shape : Shape) (same : α → α → Prop) : Prop where
  count : ∀ value, (decode value).violations.length = shape.faults value
  agree : ∀ {value value' : Value}, shape.Alike value value' → Checked.Alike same (decode value) (decode value')

structure ConformsIn (decode : Members → Checked α) (fields : List Field) (same : α → α → Prop) : Prop where
  count : ∀ members, (decode members).violations.length = (fields.map (·.faults members)).sum
  agree : ∀ {members members' : Members}, (∀ field ∈ fields, field.Alike members members') →
    Checked.Alike same (decode members) (decode members')

theorem conforms_string : Conforms string .text Eq where
  count value := by cases value <;> rfl
  agree h := by cases h <;> first | exact .valid rfl | exact .invalid _ _

theorem conforms_path : Conforms path .text Eq where
  count value := by cases value <;> rfl
  agree h := by cases h <;> first | exact .valid rfl | exact .invalid _ _

theorem conforms_table : Conforms table .table Members.Same where
  count value := by cases value <;> rfl
  agree h := by
    cases h with
    | object hmembers => exact .valid hmembers
    | _ => exact .invalid _ _

section combinators
variable {decode : Decoder α} {shape : Shape} {same : α → α → Prop} {same' : β → β → Prop}

theorem nullable_eq_map {value : Value} (h : value ≠ .null) : nullable decode value = some <$> decode value := by
  cases value with
  | null => exact absurd rfl h
  | _ => rfl

theorem Conforms.nullable (h : Conforms decode shape same) :
    Conforms (nullable decode) shape.nullable (Option.Rel same) where
  count value := by
    by_cases hnull : value = .null
    · rw [hnull]
      rfl
    · have hfaults : shape.nullable.faults value = shape.faults value := by
        cases value with
        | null => exact absurd rfl hnull
        | _ => rfl
      rw [nullable_eq_map hnull, violations_map, h.count, hfaults]
  agree := by
    rintro value value' (⟨rfl, rfl⟩ | ⟨hnull, hnull', halike⟩)
    · exact .valid .none
    · rw [nullable_eq_map hnull, nullable_eq_map hnull']
      exact (h.agree halike).map fun a a' hsame => .some hsame

theorem Conforms.mono {other : α → α → Prop} (h : Conforms decode shape same)
    (hsame : ∀ a a', same a a' → other a a') : Conforms decode shape other where
  count := h.count
  agree := by
    intro value value' halike
    have hchecked := h.agree halike
    generalize decode value = checked at hchecked ⊢
    generalize decode value' = checked' at hchecked ⊢
    cases hchecked with
    | valid ha => exact .valid (hsame _ _ ha)
    | invalid first others => exact .invalid first others

theorem Conforms.nullable_eq (h : Conforms decode shape Eq) : Conforms (Schema.nullable decode) shape.nullable Eq :=
  h.nullable.mono fun a a' hrel => by
    cases hrel with
    | some ha => rw [ha]
    | none => rfl

theorem Conforms.count_items (h : Conforms decode shape same) (values : List Value) (index : Nat) :
    (items decode index values).violations.length = (values.map shape.faults).sum := by
  induction values generalizing index with
  | nil => rfl
  | cons value values ih => simp [items, h.count, ih]

theorem Conforms.agree_items (h : Conforms decode shape same) {values values' : List Value}
    (halike : List.Forall₂ shape.Alike values values') (index : Nat) :
    Checked.Alike (List.Forall₂ same) (items decode index values) (items decode index values') := by
  induction halike generalizing index with
  | nil => exact .valid .nil
  | cons hvalue _ ih =>
    have hhead : Checked.Alike (Relator.LiftFun (List.Forall₂ same) (List.Forall₂ same)) _ _ :=
      (h.agree hvalue).under (toString index) |>.map fun a a' hsame as as' hrest => .cons hsame hrest
    exact hhead.seq (ih (index + 1))

theorem Conforms.list (h : Conforms decode shape same) : Conforms (list decode) shape.list (List.Forall₂ same) where
  count value := by
    cases value with
    | array values => exact h.count_items values 0
    | _ => rfl
  agree := by
    intro value value' halike
    cases value with
    | array values =>
      cases value' with
      | array values' => exact h.agree_items halike 0
      | _ => cases halike
    | _ =>
      cases halike
      exact .invalid _ _

theorem Conforms.list_eq (h : Conforms decode shape Eq) : Conforms (Schema.list decode) shape.list Eq :=
  h.list.mono fun as as' hrel => by rwa [List.forall₂_eq_eq_eq] at hrel

theorem ConformsIn.record {decode : Members → Checked α} {fields : List Field} (h : ConformsIn decode fields same) :
    Conforms (record decode) (.record fields) same where
  count value := by
    cases value with
    | object members => exact h.count members
    | _ => rfl
  agree := by
    intro value value' halike
    cases value with
    | object members =>
      cases value' with
      | object members' => exact h.agree halike
      | _ => cases halike
    | _ =>
      cases halike
      exact .invalid _ _

theorem Conforms.required (h : Conforms decode shape same) (key : String) :
    ConformsIn (fun members => required members key decode) [⟨key, true, shape⟩] same where
  count members := by
    simp only [Schema.required, Field.faults, List.map_cons, List.map_nil, List.sum_cons, List.sum_nil, Nat.add_zero]
    cases lookup members key with
    | none => rfl
    | some value => rw [length_violations_under, h.count]
  agree := by
    intro members members' halike
    have hfield := halike _ (List.mem_singleton_self _)
    unfold Field.Alike at hfield
    unfold Schema.required
    generalize lookup members key = found at hfield ⊢
    generalize lookup members' key = found' at hfield ⊢
    cases hfield with
    | some hvalue => exact (h.agree hvalue).under _
    | none => exact .invalid _ _

theorem Conforms.optional (h : Conforms decode shape same) (key : String) {absent : α} (habsent : same absent absent) :
    ConformsIn (fun members => optional members key absent decode) [⟨key, false, shape⟩] same where
  count members := by
    simp only [Schema.optional, Field.faults, List.map_cons, List.map_nil, List.sum_cons, List.sum_nil, Nat.add_zero]
    cases lookup members key with
    | none => rfl
    | some value => rw [length_violations_under, h.count]
  agree := by
    intro members members' halike
    have hfield := halike _ (List.mem_singleton_self _)
    unfold Field.Alike at hfield
    unfold Schema.optional
    generalize lookup members key = found at hfield ⊢
    generalize lookup members' key = found' at hfield ⊢
    cases hfield with
    | some hvalue => exact (h.agree hvalue).under _
    | none => exact .valid habsent

theorem ConformsIn.map {decode : Members → Checked α} {fields : List Field} {f : α → β}
    (h : ConformsIn decode fields same) (hf : Relator.LiftFun same same' f f) :
    ConformsIn (fun members => f <$> decode members) fields same' where
  count members := by rw [violations_map, h.count]
  agree halike := (h.agree halike).map fun a a' hsame => hf hsame

theorem ConformsIn.seq {decodeFun : Members → Checked (α → β)} {decode : Members → Checked α} {before : List Field}
    {field : Field} (hfun : ConformsIn decodeFun before (Relator.LiftFun same same'))
    (h : ConformsIn decode [field] same) :
    ConformsIn (fun members => decodeFun members <*> decode members) (before ++ [field]) same' where
  count members := by simp [hfun.count, h.count]
  agree halike := by
    obtain ⟨hbefore, hfield⟩ := List.forall_mem_append.1 halike
    exact (hfun.agree hbefore).seq (h.agree hfield)

end combinators

section documents
variable {decode : Decoder α} {shape : Shape} {same : α → α → Prop} {text text' : String}

theorem Conforms.readDocument_ok (h : Conforms decode shape same) {a : α} (hread : readDocument decode text = .ok a) :
    shape.HasFaults text 0 := by
  unfold readDocument at hread
  cases hparse : Json.parse text with
  | error error => simp [hparse] at hread
  | ok value =>
    have hcount := h.count value
    simp only [hparse] at hread
    cases hdecode : decode value with
    | invalid first others => simp [hdecode] at hread
    | valid found =>
      rw [hdecode] at hcount
      exact .inl ⟨value, Json.parse_eq_ok.1 hparse, hcount⟩

theorem Conforms.readDocument_error (h : Conforms decode shape same) {error : DocumentError}
    (hread : readDocument decode text = .error error) : 0 < error.count ∧ shape.HasFaults text error.count := by
  unfold readDocument at hread
  cases hparse : Json.parse text with
  | error found =>
    simp only [hparse, Except.error.injEq] at hread
    subst hread
    refine ⟨Nat.one_pos, .inr ⟨fun value hdocument => ?_, rfl⟩⟩
    rw [Json.parse_eq_ok.2 hdocument] at hparse
    cases hparse
  | ok value =>
    have hcount := h.count value
    simp only [hparse] at hread
    cases hdecode : decode value with
    | valid found => simp [hdecode] at hread
    | invalid first others =>
      simp only [hdecode, Except.error.injEq] at hread
      subst hread
      rw [hdecode] at hcount
      exact ⟨Nat.succ_pos _, .inl ⟨value, Json.parse_eq_ok.1 hparse, hcount⟩⟩

theorem Conforms.readDocument_alike (h : Conforms decode shape same) (halike : shape.AlikeTexts text text') :
    (∃ a a', readDocument decode text = .ok a ∧ readDocument decode text' = .ok a' ∧ same a a') ∨
      ∃ error, readDocument decode text = .error error ∧ readDocument decode text' = .error error := by
  obtain ⟨value, value', hdocument, hdocument', hvalue⟩ := halike
  have hchecked := h.agree hvalue
  simp only [readDocument, Json.parse_eq_ok.2 hdocument, Json.parse_eq_ok.2 hdocument']
  generalize decode value = checked at hchecked ⊢
  generalize decode value' = checked' at hchecked ⊢
  cases hchecked with
  | valid hsame => exact .inl ⟨_, _, rfl, rfl, hsame⟩
  | invalid first others => exact .inr ⟨_, rfl, rfl⟩

end documents

end Schema

end GuestForge
