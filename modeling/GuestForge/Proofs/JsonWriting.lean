import GuestForge.Json.Writer
import GuestForge.Proofs.DigestText
import GuestForge.Proofs.JsonGrammar
import Mathlib.Tactic.Ring
set_option autoImplicit false

/-!
# Written JSON is read back

In both layouts and both character sets, what is written spells the value it was written for, whatever characters its
texts and keys hold. So the reader gives the value back.
-/
namespace GuestForge.Json
open Text.Hex (digitValue? digitChar)
open Text.Quoted (fixedHex)

mutual

/-- Texts of numbers can be anything; those of a well-formed value are numerals. -/
def Value.WellFormed : Value → Prop
  | .number text => Numeral text.toList
  | .array items => itemsWellFormed items
  | .object members => membersWellFormed members
  | _ => True

def itemsWellFormed : List Value → Prop
  | [] => True
  | item :: items => item.WellFormed ∧ itemsWellFormed items

def membersWellFormed : List (String × Value) → Prop
  | [] => True
  | (_, value) :: members => value.WellFormed ∧ membersWellFormed members

end

theorem length_fixedHex (n digits : Nat) : (fixedHex n digits).length = digits := by
  induction digits with
  | zero => rfl
  | succ digits ih => rw [fixedHex, List.length_cons, ih]

theorem hexFrom_fixedHex (value n digits : Nat) :
    hexFrom value (fixedHex n digits) = some (value * 16 ^ digits + n % 16 ^ digits) := by
  induction digits generalizing value with
  | zero => simp [fixedHex, hexFrom, Nat.mod_one]
  | succ digits ih =>
    obtain ⟨hvalue, -, -⟩ := Text.Hex.digit_facts (n / 16 ^ digits % 16) (Nat.mod_lt _ (by decide))
    rw [fixedHex, Nat.pow_eq, hexFrom, hvalue]
    simp only [ih, Option.some.injEq]
    rw [Nat.mod_pow_succ, Nat.pow_succ]
    ring

theorem hexFrom_unit {unit : Nat} (h : unit < 0x10000) : hexFrom 0 (fixedHex unit 4) = some unit := by
  have hmod : unit % 16 ^ 4 = unit := Nat.mod_eq_of_lt h
  rw [hexFrom_fixedHex, hmod, Nat.zero_mul, Nat.zero_add]

theorem Char.isSurrogate_eq_false (c : Char) : isHigh c.toNat = false ∧ isLow c.toNat = false := by
  have hvalid : c.toNat < 0xd800 ∨ 0xdfff < c.toNat ∧ c.toNat < 0x110000 := c.valid
  simp only [isHigh, isLow, Bool.and_eq_false_iff, decide_eq_false_iff_not]
  omega

theorem characters_codeEscape (c : Char) {spelled text : List Char} (h : Characters spelled text) :
    Characters (codeEscape c.toNat ++ spelled) (c :: text) := by
  have hvalid : c.toNat < 0xd800 ∨ 0xdfff < c.toNat ∧ c.toNat < 0x110000 := c.valid
  unfold codeEscape
  split
  · rename_i hunit
    have hcode := Characters.code (length_fixedHex c.toNat 4) (hexFrom_unit hunit) (Char.isSurrogate_eq_false c).1
      (Char.isSurrogate_eq_false c).2 h
    rwa [Char.ofNat_toNat] at hcode
  · rename_i hpair
    have hhigh : 0xd800 + (c.toNat - 0x10000) / 0x400 < 0xdc00 := by omega
    have hlow : 0xdc00 + (c.toNat - 0x10000) % 0x400 < 0xe000 := by omega
    have hcode : pairCode (0xd800 + (c.toNat - 0x10000) / 0x400) (0xdc00 + (c.toNat - 0x10000) % 0x400) = c.toNat := by
      unfold pairCode
      omega
    have hpairs := Characters.pair (length_fixedHex (0xd800 + (c.toNat - 0x10000) / 0x400) 4)
      (length_fixedHex (0xdc00 + (c.toNat - 0x10000) % 0x400) 4) (hexFrom_unit (by omega)) (hexFrom_unit (by omega))
      (by simp only [isHigh, Bool.and_eq_true, decide_eq_true_eq]; omega)
      (by simp only [isLow, Bool.and_eq_true, decide_eq_true_eq]; omega) h
    rw [hcode, Char.ofNat_toNat] at hpairs
    simpa [unitEscape] using hpairs

theorem characters_escapeChar (charset : Charset) (c : Char) {spelled text : List Char} (h : Characters spelled text) :
    Characters (escapeChar charset c ++ spelled) (c :: text) := by
  unfold escapeChar
  split
  · rename_i hquote
    refine Characters.escape ?_ h
    rcases hquote with rfl | rfl <;> rfl
  · rename_i hquote
    split
    · rename_i hc
      exact .escape (by rw [hc]; rfl) h
    · split
      · rename_i hc
        exact .escape (by rw [hc]; rfl) h
      · split
        · rename_i hc
          exact .escape (by rw [hc]; rfl) h
        · split
          · rename_i hc
            exact .escape (by rw [hc]; rfl) h
          · split
            · rename_i hc
              exact .escape (by rw [hc]; rfl) h
            · split
              · exact characters_codeEscape c h
              · rename_i hplain
                exact .plain (fun hc => hquote (.inl hc)) (fun hc => hquote (.inr hc))
                  (fun hc => hplain (.inl hc)) h

theorem characters_escaped (charset : Charset) (text : List Char) :
    Characters (text.flatMap (escapeChar charset)) text := by
  induction text with
  | nil => exact .nil
  | cons c text ih =>
    rw [List.flatMap_cons]
    exact characters_escapeChar charset c ih

theorem spells_writeString (charset : Charset) (text : String) : Spells (writeString charset text) (.string text) := by
  have hspells := Spells.string (characters_escaped charset text.toList)
  rwa [String.ofList_toList] at hspells

theorem blanks_lineStart (layout : Layout) (depth : Nat) : Blanks (layout.lineStart depth) := by
  cases layout with
  | compact => exact .nil
  | indented =>
    intro c hc
    rcases List.mem_cons.1 hc with rfl | hc
    · rfl
    · rw [List.eq_of_mem_replicate hc]
      rfl

theorem spellsMember_write (layout : Layout) (charset : Charset) (key : String) {before text after : List Char}
    {value : Value} (hbefore : Blanks before) (hvalue : Spells text value) (hafter : Blanks after) :
    SpellsMember (before ++ (writeString charset key ++ layout.colon ++ text ++ after)) (key, value) := by
  have hgap : ∃ gap, layout.colon = ':' :: gap ∧ Blanks gap := by
    cases layout with
    | compact => exact ⟨[], rfl, .nil⟩
    | indented =>
      refine ⟨[' '], rfl, ?_⟩
      intro c hc
      rw [List.mem_singleton.1 hc]
      rfl
  obtain ⟨gap, hcolon, hgap⟩ := hgap
  have hmember := SpellsMember.mk hbefore (characters_escaped charset key.toList) .nil (.mk hgap hvalue hafter)
  rw [String.ofList_toList] at hmember
  simpa [writeString, hcolon] using hmember

section writing
variable (layout : Layout) (charset : Charset)

mutual

theorem spells_writeValue (depth : Nat) : (value : Value) → value.WellFormed →
    Spells (writeValue layout charset depth value) value
  | .null, _ => .null
  | .bool true, _ => .true
  | .bool false, _ => .false
  | .number text, h => by
    have hnumeral : Numeral text.toList := by simpa [Value.WellFormed] using h
    have hspells := Spells.number hnumeral
    rwa [String.ofList_toList] at hspells
  | .string text, _ => spells_writeString charset text
  | .array [], _ => .emptyArray .nil
  | .array (item :: items), h => by
    simp only [Value.WellFormed, itemsWellFormed] at h
    have hitems := spellsItems_write (depth + 1) items h.2 (blanks_lineStart layout (depth + 1))
      (spells_writeValue (depth + 1) item h.1) (blanks_lineStart layout depth)
    simpa [writeValue] using Spells.array hitems
  | .object [], _ => .emptyObject .nil
  | .object ((key, value) :: members), h => by
    simp only [Value.WellFormed, membersWellFormed] at h
    have hmembers := spellsMembers_write (depth + 1) members h.2 key (blanks_lineStart layout (depth + 1))
      (spells_writeValue (depth + 1) value h.1) (blanks_lineStart layout depth)
    simpa [writeValue] using Spells.object hmembers

theorem spellsItems_write (depth : Nat) : (items : List Value) → itemsWellFormed items →
    ∀ {before text after : List Char} {first : Value}, Blanks before → Spells text first → Blanks after →
      SpellsItems (before ++ (text ++ (writeItems layout charset depth items ++ after))) (first :: items)
  | [], _, _, _, _, _, hbefore, hfirst, hafter => .last (.mk hbefore hfirst hafter)
  | item :: items, h, before, text, after, first, hbefore, hfirst, hafter => by
    simp only [itemsWellFormed] at h
    have hitems := spellsItems_write depth items h.2 (blanks_lineStart layout depth)
      (spells_writeValue depth item h.1) hafter
    simpa [writeItems] using SpellsItems.next (.mk hbefore hfirst .nil) hitems

theorem spellsMembers_write (depth : Nat) : (members : Members) → membersWellFormed members →
    ∀ (key : String) {before text after : List Char} {first : Value}, Blanks before → Spells text first →
      Blanks after →
      SpellsMembers (before ++ (writeString charset key ++ layout.colon ++ text ++
        (writeMembers layout charset depth members ++ after))) ((key, first) :: members)
  | [], _, key, _, _, _, _, hbefore, hfirst, hafter => by
    have hmember := spellsMember_write layout charset key hbefore hfirst hafter
    simpa [writeMembers] using SpellsMembers.last hmember
  | (next, value) :: members, h, key, before, text, after, first, hbefore, hfirst, hafter => by
    simp only [membersWellFormed] at h
    have hmember := spellsMember_write layout charset key hbefore hfirst .nil
    have hmembers := spellsMembers_write depth members h.2 next (blanks_lineStart layout depth)
      (spells_writeValue depth value h.1) hafter
    simpa [writeMembers] using SpellsMembers.next hmember hmembers

end

end writing

structure Value.Fits (room : Nat) (value : Value) : Prop where
  wellFormed : value.WellFormed
  depth_le : value.depth ≤ room

theorem Value.fits_null (room : Nat) : Value.null.Fits room :=
  ⟨by simp only [Value.WellFormed], by simp only [Value.depth, Nat.zero_le]⟩

theorem Value.fits_string (room : Nat) (text : String) : (Value.string text).Fits room :=
  ⟨by simp only [Value.WellFormed], by simp only [Value.depth, Nat.zero_le]⟩

theorem Value.fits_array {room : Nat} {items : List Value} (h : ∀ item ∈ items, item.Fits room) :
    (Value.array items).Fits (room + 1) := by
  suffices hitems : itemsWellFormed items ∧ itemsDepth items ≤ room + 1 by
    exact ⟨by simpa only [Value.WellFormed] using hitems.1, by simpa only [Value.depth] using hitems.2⟩
  induction items with
  | nil => simp [itemsWellFormed, itemsDepth]
  | cons item items ih =>
    obtain ⟨hitem, hitems⟩ := List.forall_mem_cons.1 h
    obtain ⟨hformed, hdepth⟩ := ih hitems
    have hroom := hitem.depth_le
    simp only [itemsWellFormed, itemsDepth]
    exact ⟨⟨hitem.wellFormed, hformed⟩, by omega⟩

theorem Value.fits_object {room : Nat} {members : Members} (h : ∀ member ∈ members, member.2.Fits room) :
    (Value.object members).Fits (room + 1) := by
  suffices hmembers : membersWellFormed members ∧ membersDepth members ≤ room + 1 by
    exact ⟨by simpa only [Value.WellFormed] using hmembers.1, by simpa only [Value.depth] using hmembers.2⟩
  induction members with
  | nil => simp [membersWellFormed, membersDepth]
  | cons member members ih =>
    obtain ⟨hmember, hmembers⟩ := List.forall_mem_cons.1 h
    obtain ⟨hformed, hdepth⟩ := ih hmembers
    have hroom := hmember.depth_le
    simp only [membersWellFormed, membersDepth]
    exact ⟨⟨hmember.wellFormed, hformed⟩, by omega⟩

/-- What is written is a document that says the value. -/
theorem isDocument_write (layout : Layout) (charset : Charset) {value : Value} (h : value.Fits 200) :
    IsDocument (write layout charset value) value := by
  refine ⟨?_, h.depth_le⟩
  rw [write, String.toList_ofList, ← List.append_nil (writeValue layout charset 0 value)]
  exact .mk .nil (spells_writeValue layout charset 0 value h.wellFormed) .nil

theorem parse_write (layout : Layout) (charset : Charset) {value : Value} (h : value.Fits 200) :
    parse (write layout charset value) = .ok value :=
  parse_eq_ok.2 (isDocument_write layout charset h)

theorem toDigits_head (n : Nat) : (Nat.toDigits 10 n).head? = some '0' → n = 0 := by
  induction n using Nat.strongRecOn with
  | _ n ih =>
    by_cases hn : n < 10
    · rw [Nat.toDigits_of_lt_base hn]
      intro h
      have hall : ∀ i : Fin 10, i.val.digitChar = '0' → i.val = 0 := by decide
      exact hall ⟨n, hn⟩ (by simpa using h)
    · rw [Nat.toDigits_of_base_le (by decide) (by omega)]
      intro h
      have hquotient := ih (n / 10) (by omega) (by
        cases hdigits : Nat.toDigits 10 (n / 10) with
        | nil => exact absurd hdigits Nat.toDigits_ne_nil
        | cons c rest =>
          rw [hdigits] at h
          exact h)
      omega

theorem whole_toDigits {n : Nat} (h : n < 10 ^ digitLimit) : Whole (Nat.toDigits 10 n) := by
  refine ⟨⟨Nat.toDigits_ne_nil, ?_⟩, ?_, ?_⟩
  · exact fun c hc => Nat.isDigit_of_mem_toDigits (by decide) (by decide) hc
  · intro hhead
    rw [toDigits_head n hhead]
    rfl
  · exact (Nat.length_toDigits_le_iff (by decide) (by decide)).2 h

theorem magnitude_toDigits {n : Nat} (h : n < 10 ^ digitLimit) : Magnitude (Nat.toDigits 10 n) :=
  ⟨Nat.toDigits 10 n, [], [], by simp, whole_toDigits h, .inl rfl, .inl rfl⟩

theorem wellFormed_ofInt {n : Int} (h : n.natAbs < 10 ^ digitLimit) : (Value.ofInt n).WellFormed := by
  simp only [Value.ofInt, Value.WellFormed]
  cases n with
  | ofNat n =>
    change Numeral n.repr.toList
    rw [Nat.toList_repr]
    exact .positive (magnitude_toDigits h)
  | negSucc n =>
    change Numeral ("-" ++ (n + 1).repr).toList
    rw [String.toList_append, Nat.toList_repr]
    exact .negative (magnitude_toDigits h)

theorem Value.fits_ofInt (room : Nat) {n : Int} (h : n.natAbs < 10 ^ digitLimit) : (Value.ofInt n).Fits room :=
  ⟨wellFormed_ofInt h, by simp only [Value.ofInt, Value.depth, Nat.zero_le]⟩

end GuestForge.Json
