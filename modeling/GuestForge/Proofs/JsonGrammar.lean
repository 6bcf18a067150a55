import GuestForge.Proofs.JsonLexemes
set_option autoImplicit false

/-!
# The grammar of JSON documents

Which texts spell which values, by one rule for each form of a value. A document is a value with blanks around it;
the reader takes exactly the documents whose value is not nested too deep, and answers with that value.
-/
namespace GuestForge.Json

mutual

/-- A text without blanks around it that stands for a value. -/
inductive Spells : List Char → Value → Prop where
  | null : Spells "null".toList .null
  | true : Spells "true".toList (.bool true)
  | false : Spells "false".toList (.bool false)
  | number {text : List Char} : Numeral text → Spells text (.number (String.ofList text))
  | string {spelled text : List Char} : Characters spelled text →
      Spells ('"' :: (spelled ++ ['"'])) (.string (String.ofList text))
  | emptyArray {blanks : List Char} : Blanks blanks → Spells ('[' :: (blanks ++ [']'])) (.array [])
  | array {text : List Char} {items : List Value} : SpellsItems text items →
      Spells ('[' :: (text ++ [']'])) (.array items)
  | emptyObject {blanks : List Char} : Blanks blanks → Spells ('\x7b' :: (blanks ++ ['\x7d'])) (.object [])
  | object {text : List Char} {members : Members} : SpellsMembers text members →
      Spells ('\x7b' :: (text ++ ['\x7d'])) (.object members)

inductive SpellsPadded : List Char → Value → Prop where
  | mk {before text after : List Char} {value : Value} : Blanks before → Spells text value → Blanks after →
      SpellsPadded (before ++ (text ++ after)) value

inductive SpellsItems : List Char → List Value → Prop where
  | last {text : List Char} {item : Value} : SpellsPadded text item → SpellsItems text [item]
  | next {text more : List Char} {item : Value} {items : List Value} : SpellsPadded text item →
      SpellsItems more items → SpellsItems (text ++ ',' :: more) (item :: items)

inductive SpellsMember : List Char → String × Value → Prop where
  | mk {before spelled key after text : List Char} {value : Value} : Blanks before → Characters spelled key →
      Blanks after → SpellsPadded text value →
      SpellsMember (before ++ '"' :: (spelled ++ '"' :: (after ++ ':' :: text))) (String.ofList key, value)

inductive SpellsMembers : List Char → Members → Prop where
  | last {text : List Char} {member : String × Value} : SpellsMember text member → SpellsMembers text [member]
  | next {text more : List Char} {member : String × Value} {members : Members} : SpellsMember text member →
      SpellsMembers more members → SpellsMembers (text ++ ',' :: more) (member :: members)

end

mutual

def Value.depth : Value → Nat
  | .array items => itemsDepth items
  | .object members => membersDepth members
  | _ => 0

def itemsDepth : List Value → Nat
  | [] => 0
  | item :: items => max (item.depth + 1) (itemsDepth items)

def membersDepth : List (String × Value) → Nat
  | [] => 0
  | (_, value) :: members => max (value.depth + 1) (membersDepth members)

end

theorem SpellsPadded.blanks {blanks text : List Char} {value : Value} (h : Blanks blanks)
    (hvalue : SpellsPadded text value) : SpellsPadded (blanks ++ text) value := by
  obtain ⟨hbefore, hspells, hafter⟩ := hvalue
  rw [← List.append_assoc]
  exact .mk (h.append hbefore) hspells hafter

theorem SpellsItems.blanks {blanks text : List Char} {items : List Value} (h : Blanks blanks)
    (hitems : SpellsItems text items) : SpellsItems (blanks ++ text) items := by
  cases hitems with
  | last hitem => exact .last (hitem.blanks h)
  | next hitem hitems =>
    rw [← List.append_assoc]
    exact .next (hitem.blanks h) hitems

theorem SpellsMember.blanks {blanks text : List Char} {member : String × Value} (h : Blanks blanks)
    (hmember : SpellsMember text member) : SpellsMember (blanks ++ text) member := by
  obtain ⟨hbefore, hkey, hafter, hvalue⟩ := hmember
  rw [← List.append_assoc]
  exact .mk (h.append hbefore) hkey hafter hvalue

theorem SpellsMembers.blanks {blanks text : List Char} {members : Members} (h : Blanks blanks)
    (hmembers : SpellsMembers text members) : SpellsMembers (blanks ++ text) members := by
  cases hmembers with
  | last hmember => exact .last (hmember.blanks h)
  | next hmember hmembers =>
    rw [← List.append_assoc]
    exact .next (hmember.blanks h) hmembers

/-- What readers with this much fuel answer with is spelled by what they took, and fits into the room they had. -/
structure Sound (fuel : Nat) : Prop where
  value : ∀ {room text value rest}, readValue fuel room text = .ok (value, rest) →
    ∃ before spelled, text = before ++ (spelled ++ rest) ∧ Blanks before ∧ Spells spelled value ∧ value.depth ≤ room
  items : ∀ {room text items rest}, readItems fuel room text = .ok (items, rest) →
    ∃ spelled, text = spelled ++ ']' :: rest ∧ SpellsItems spelled items ∧ itemsDepth items ≤ room
  members : ∀ {room text members rest}, readMembers fuel room text = .ok (members, rest) →
    ∃ spelled, text = spelled ++ '\x7d' :: rest ∧ SpellsMembers spelled members ∧ membersDepth members ≤ room

theorem Sound.padded {fuel room : Nat} {text rest behind : List Char} {value : Value} {c : Char} (sound : Sound fuel)
    (h : readValue fuel room text = .ok (value, rest)) (hskip : skipBlanks rest = c :: behind) :
    ∃ spelled, text = spelled ++ c :: behind ∧ SpellsPadded spelled value ∧ value.depth ≤ room := by
  obtain ⟨before, spelled, rfl, hbefore, hspells, hdepth⟩ := sound.value h
  obtain ⟨after, rfl, hafter⟩ := skipBlanks_eq_cons hskip
  exact ⟨before ++ (spelled ++ after), by simp only [List.append_assoc], .mk hbefore hspells hafter, hdepth⟩

theorem Sound.value_succ {fuel : Nat} (sound : Sound fuel) {room : Nat} {text rest : List Char} {value : Value}
    (h : readValue (fuel + 1) room text = .ok (value, rest)) :
    ∃ before spelled, text = before ++ (spelled ++ rest) ∧ Blanks before ∧ Spells spelled value ∧
      value.depth ≤ room := by
  obtain ⟨before, htext, hbefore⟩ := exists_blanks text
  refine ⟨before, ?_⟩
  rw [htext]
  rw [readValue] at h
  have hnumeral : ∀ {numeral : List Char}, Numeral numeral → skipBlanks text = numeral ++ rest →
      value = .number (String.ofList numeral) →
      ∃ spelled, before ++ skipBlanks text = before ++ (spelled ++ rest) ∧ Blanks before ∧ Spells spelled value ∧
        value.depth ≤ room := by
    rintro numeral hnumeral hskip rfl
    exact ⟨numeral, by rw [hskip], hbefore, .number hnumeral, Nat.zero_le _⟩
  split at h
  · cases h
  · rename_i hskip
    obtain ⟨⟨text, behind⟩, hread, hresult⟩ := map_eq_ok.1 h
    obtain ⟨rfl, rfl⟩ := Prod.mk.inj hresult
    obtain ⟨spelled, chars, rfl, hchars, rfl⟩ := readText_eq_ok.1 hread
    exact ⟨_, by rw [hskip]; simp, hbefore, .string hchars, Nat.zero_le _⟩
  · rename_i inner hskip
    split at h
    · cases h
    · rename_i hclose
      obtain ⟨rfl, rfl⟩ := Prod.mk.inj (Except.ok.inj h)
      obtain ⟨blanks, rfl, hblanks⟩ := skipBlanks_eq_cons hclose
      exact ⟨_, by rw [hskip]; simp, hbefore, .emptyArray hblanks, Nat.zero_le _⟩
    · obtain ⟨⟨items, behind⟩, hread, hresult⟩ := map_eq_ok.1 h
      obtain ⟨rfl, rfl⟩ := Prod.mk.inj hresult
      obtain ⟨spelled, hspelled, hitems, hdepth⟩ := sound.items hread
      obtain ⟨blanks, hinner, hblanks⟩ := exists_blanks inner
      refine ⟨_, ?_, hbefore, .array (hitems.blanks hblanks), hdepth⟩
      rw [hskip, hinner, hspelled]
      simp
  · rename_i inner hskip
    split at h
    · cases h
    · rename_i hclose
      obtain ⟨rfl, rfl⟩ := Prod.mk.inj (Except.ok.inj h)
      obtain ⟨blanks, rfl, hblanks⟩ := skipBlanks_eq_cons hclose
      exact ⟨_, by rw [hskip]; simp, hbefore, .emptyObject hblanks, Nat.zero_le _⟩
    · obtain ⟨⟨members, behind⟩, hread, hresult⟩ := map_eq_ok.1 h
      obtain ⟨rfl, rfl⟩ := Prod.mk.inj hresult
      obtain ⟨spelled, hspelled, hmembers, hdepth⟩ := sound.members hread
      obtain ⟨blanks, hinner, hblanks⟩ := exists_blanks inner
      refine ⟨_, ?_, hbefore, .object (hmembers.blanks hblanks), hdepth⟩
      rw [hskip, hinner, hspelled]
      simp
  · rename_i hskip
    obtain ⟨rfl, rfl⟩ := readWord_eq_ok.1 h
    exact ⟨_, by rw [hskip]; rfl, hbefore, .true, Nat.zero_le _⟩
  · rename_i hskip
    obtain ⟨rfl, rfl⟩ := readWord_eq_ok.1 h
    exact ⟨_, by rw [hskip]; rfl, hbefore, .false, Nat.zero_le _⟩
  · rename_i hskip
    obtain ⟨rfl, rfl⟩ := readWord_eq_ok.1 h
    exact ⟨_, by rw [hskip]; rfl, hbefore, .null, Nat.zero_le _⟩
  · rename_i hskip
    obtain ⟨hvalue, rfl⟩ := readWord_eq_ok.1 h
    exact hnumeral .nan hskip hvalue
  · rename_i hskip
    obtain ⟨hvalue, rfl⟩ := readWord_eq_ok.1 h
    exact hnumeral .infinity hskip hvalue
  · rename_i hskip
    split at h
    · obtain ⟨numeral, hread, hnumber, hvalue⟩ := readNumber_sound h
      exact hnumeral hnumber (hskip.trans hread) hvalue
    · cases h

theorem Sound.items_succ {fuel : Nat} (sound : Sound fuel) {room : Nat} {text rest : List Char} {items : List Value}
    (h : readItems (fuel + 1) room text = .ok (items, rest)) :
    ∃ spelled, text = spelled ++ ']' :: rest ∧ SpellsItems spelled items ∧ itemsDepth items ≤ room := by
  cases room with
  | zero =>
    rw [readItems] at h
    cases h
  | succ room =>
    rw [readItems] at h
    split at h
    · cases h
    · rename_i item behind hread
      split at h
      · cases h
      · rename_i hskip
        obtain ⟨rfl, rfl⟩ := Prod.mk.inj (Except.ok.inj h)
        obtain ⟨spelled, rfl, hitem, hdepth⟩ := sound.padded hread hskip
        exact ⟨spelled, rfl, .last hitem, by simp only [itemsDepth]; omega⟩
      · rename_i more hskip
        obtain ⟨spelled, rfl, hitem, hdepth⟩ := sound.padded hread hskip
        split at h
        · cases h
        · cases h
        · obtain ⟨⟨others, last⟩, hrest, hresult⟩ := map_eq_ok.1 h
          obtain ⟨rfl, rfl⟩ := Prod.mk.inj hresult
          obtain ⟨spelledRest, hspelled, hothers, hdepth'⟩ := sound.items hrest
          obtain ⟨blanks, hmore, hblanks⟩ := exists_blanks more
          refine ⟨_, ?_, .next hitem (hothers.blanks hblanks), by simp only [itemsDepth]; omega⟩
          rw [hmore, hspelled]
          simp
      · cases h

theorem Sound.members_succ {fuel : Nat} (sound : Sound fuel) {room : Nat} {text rest : List Char} {members : Members}
    (h : readMembers (fuel + 1) room text = .ok (members, rest)) :
    ∃ spelled, text = spelled ++ '\x7d' :: rest ∧ SpellsMembers spelled members ∧ membersDepth members ≤ room := by
  rw [readMembers] at h
  split at h
  case h_2 => cases h
  rename_i quoted hquote
  obtain ⟨before, rfl, hbefore⟩ := skipBlanks_eq_cons hquote
  split at h
  · cases h
  rename_i key behindKey hkey
  obtain ⟨spelledKey, chars, rfl, hchars, rfl⟩ := readText_eq_ok.1 hkey
  split at h
  case h_1 => cases h
  case h_3 => cases h
  rename_i behindColon hcolon
  obtain ⟨between, rfl, hbetween⟩ := skipBlanks_eq_cons hcolon
  split at h
  · cases h
  · cases h
  rename_i room _
  split at h
  · cases h
  rename_i value behind hread
  obtain ⟨gap, hgap, hblanks⟩ := exists_blanks behindColon
  -- The blanks behind the colon were skipped once already, so they are put back in front of the value.
  have hmember : ∀ {c : Char} {more : List Char}, skipBlanks behind = c :: more →
      ∃ spelled, before ++ '"' :: (spelledKey ++ '"' :: (between ++ ':' :: behindColon)) = spelled ++ c :: more ∧
        SpellsMember spelled (String.ofList chars, value) ∧ value.depth ≤ room := by
    intro c more hskip
    obtain ⟨spelled, hspelled, hvalue, hdepth⟩ := sound.padded hread hskip
    refine ⟨_, ?_, .mk hbefore hchars hbetween (hvalue.blanks hblanks), hdepth⟩
    rw [hgap, hspelled]
    simp
  split at h
  · cases h
  · rename_i hskip
    obtain ⟨rfl, rfl⟩ := Prod.mk.inj (Except.ok.inj h)
    obtain ⟨spelled, hspelled, hmember, hdepth⟩ := hmember hskip
    exact ⟨spelled, hspelled, .last hmember, by simp only [membersDepth]; omega⟩
  · rename_i more hskip
    obtain ⟨spelled, hspelled, hmember, hdepth⟩ := hmember hskip
    split at h
    · cases h
    · cases h
    · obtain ⟨⟨others, last⟩, hrest, hresult⟩ := map_eq_ok.1 h
      obtain ⟨rfl, rfl⟩ := Prod.mk.inj hresult
      obtain ⟨spelledRest, hspelledRest, hothers, hdepth'⟩ := sound.members hrest
      obtain ⟨blanks, hmore, hblanks⟩ := exists_blanks more
      refine ⟨_, ?_, .next hmember (hothers.blanks hblanks), by simp only [membersDepth]; omega⟩
      rw [hspelled, hmore, hspelledRest]
      simp
  · cases h

theorem sound (fuel : Nat) : Sound fuel := by
  induction fuel with
  | zero =>
    refine ⟨?_, ?_, ?_⟩
    · intro room text value rest h
      rw [readValue] at h
      cases h
    · intro room text items rest h
      rw [readItems] at h
      cases h
    · intro room text members rest h
      rw [readMembers] at h
      cases h
  | succ fuel ih => exact ⟨ih.value_succ, ih.items_succ, ih.members_succ⟩

theorem isBlank_of_isDigit {c : Char} (h : c.isDigit = true) : isBlank c = false := by
  cases hblank : isBlank c with
  | false => rfl
  | true =>
    simp only [isBlank, Bool.or_eq_true, beq_iff_eq] at hblank
    rcases hblank with ((rfl | rfl) | rfl) | rfl <;> exact absurd h (by decide)

def StartsValue (c : Char) : Prop := isBlank c = false ∧ c ≠ ']' ∧ c ≠ '\x7d'

theorem StartsValue.digit {c : Char} (h : c.isDigit = true) : StartsValue c := by
  refine ⟨isBlank_of_isDigit h, ?_, ?_⟩
  · rintro rfl
    exact absurd h (by decide)
  · rintro rfl
    exact absurd h (by decide)

theorem Numeral.head {text : List Char} (h : Numeral text) : ∃ c more, text = c :: more ∧ StartsValue c := by
  cases h with
  | positive h =>
    obtain ⟨c, more, rfl, hc⟩ := h.head
    exact ⟨c, more, rfl, .digit hc⟩
  | negative h => exact ⟨'-', _, rfl, by decide, by decide, by decide⟩
  | nan => exact ⟨'N', _, rfl, by decide, by decide, by decide⟩
  | infinity => exact ⟨'I', _, rfl, by decide, by decide, by decide⟩
  | negativeInfinity => exact ⟨'-', _, rfl, by decide, by decide, by decide⟩

theorem Spells.head {text : List Char} {value : Value} (h : Spells text value) :
    ∃ c more, text = c :: more ∧ StartsValue c := by
  cases h with
  | number h => exact h.head
  | null => exact ⟨'n', _, rfl, by decide, by decide, by decide⟩
  | true => exact ⟨'t', _, rfl, by decide, by decide, by decide⟩
  | false => exact ⟨'f', _, rfl, by decide, by decide, by decide⟩
  | string _ => exact ⟨'"', _, rfl, by decide, by decide, by decide⟩
  | emptyArray _ => exact ⟨'[', _, rfl, by decide, by decide, by decide⟩
  | array _ => exact ⟨'[', _, rfl, by decide, by decide, by decide⟩
  | emptyObject _ => exact ⟨'\x7b', _, rfl, by decide, by decide, by decide⟩
  | object _ => exact ⟨'\x7b', _, rfl, by decide, by decide, by decide⟩

theorem SpellsPadded.trim {text : List Char} {value : Value} (h : SpellsPadded text value) :
    ∃ blanks c more, text = blanks ++ c :: more ∧ Blanks blanks ∧ StartsValue c ∧ SpellsPadded (c :: more) value := by
  obtain ⟨hbefore, hspells, hafter⟩ := h
  obtain ⟨c, more, rfl, hc⟩ := hspells.head
  exact ⟨_, c, _, rfl, hbefore, hc, .mk .nil hspells hafter⟩

theorem SpellsItems.trim {text : List Char} {items : List Value} (h : SpellsItems text items) :
    ∃ blanks c more, text = blanks ++ c :: more ∧ Blanks blanks ∧ StartsValue c ∧ SpellsItems (c :: more) items := by
  cases h with
  | last hitem =>
    obtain ⟨blanks, c, more, rfl, hblanks, hc, hitem⟩ := hitem.trim
    exact ⟨blanks, c, more, rfl, hblanks, hc, .last hitem⟩
  | next hitem hitems =>
    obtain ⟨blanks, c, more, rfl, hblanks, hc, hitem⟩ := hitem.trim
    exact ⟨blanks, c, _, by simp, hblanks, hc, .next hitem hitems⟩

theorem SpellsMember.trim {text : List Char} {member : String × Value} (h : SpellsMember text member) :
    ∃ blanks more, text = blanks ++ '"' :: more ∧ Blanks blanks ∧ SpellsMember ('"' :: more) member := by
  obtain ⟨hbefore, hkey, hafter, hvalue⟩ := h
  exact ⟨_, _, rfl, hbefore, .mk .nil hkey hafter hvalue⟩

theorem SpellsMembers.trim {text : List Char} {members : Members} (h : SpellsMembers text members) :
    ∃ blanks more, text = blanks ++ '"' :: more ∧ Blanks blanks ∧ SpellsMembers ('"' :: more) members := by
  cases h with
  | last hmember =>
    obtain ⟨blanks, more, rfl, hblanks, hmember⟩ := hmember.trim
    exact ⟨blanks, more, rfl, hblanks, .last hmember⟩
  | next hmember hmembers =>
    obtain ⟨blanks, more, rfl, hblanks, hmember⟩ := hmember.trim
    exact ⟨blanks, _, by simp, hblanks, .next hmember hmembers⟩

theorem readValue_blanks {blanks : List Char} (h : Blanks blanks) (fuel room : Nat) (text : List Char) :
    readValue (fuel + 1) room (blanks ++ text) = readValue (fuel + 1) room text := by
  rw [readValue, readValue, skipBlanks_append h]

theorem EndsNumber.nil : EndsNumber [] := fun _ h => absurd h (by simp)

theorem EndsNumber.cons {c : Char} (h : c = ',' ∨ c = ']' ∨ c = '\x7d') (rest : List Char) :
    EndsNumber (c :: rest) := by
  intro d hd
  cases hd
  rcases h with rfl | rfl | rfl <;> decide

theorem EndsNumber.blanks {blanks rest : List Char} (h : Blanks blanks) (hrest : EndsNumber rest) :
    EndsNumber (blanks ++ rest) := by
  cases blanks with
  | nil => exact hrest
  | cons c blanks =>
    intro d hd
    cases hd
    have hc : isBlank c = true := h c List.mem_cons_self
    simp only [isBlank, Bool.or_eq_true, beq_iff_eq] at hc
    rcases hc with ((rfl | rfl) | rfl) | rfl <;> decide

/-- Readers with this much fuel read what is spelled, unless it is nested too deep or too long. -/
structure Complete (fuel : Nat) : Prop where
  value : ∀ {room spelled value rest}, Spells spelled value → value.depth ≤ room → EndsNumber rest →
    2 * (spelled ++ rest).length < fuel → readValue fuel room (spelled ++ rest) = .ok (value, rest)
  items : ∀ {room spelled items rest}, SpellsItems spelled items → itemsDepth items ≤ room →
    2 * (spelled ++ ']' :: rest).length + 1 < fuel → readItems fuel room (spelled ++ ']' :: rest) = .ok (items, rest)
  members : ∀ {room spelled members rest}, SpellsMembers spelled members → membersDepth members ≤ room →
    2 * (spelled ++ '\x7d' :: rest).length + 1 < fuel →
    readMembers fuel room (spelled ++ '\x7d' :: rest) = .ok (members, rest)

theorem readValue_numeral {text rest : List Char} (h : Numeral text) (hrest : EndsNumber rest) (fuel room : Nat) :
    readValue (fuel + 1) room (text ++ rest) = .ok (.number (String.ofList text), rest) := by
  have hnumber : ∀ {c : Char} {more : List Char}, text ++ rest = c :: more → c.isDigit = true ∨ c = '-' →
      readValue (fuel + 1) room (text ++ rest) = readNumber (text ++ rest) := by
    intro c more htext hc
    have hblank : isBlank c = false := by
      rcases hc with hc | rfl
      · exact isBlank_of_isDigit hc
      · decide
    rw [htext, readValue, skipBlanks_cons hblank]
    split
    case h_1 =>
      rename_i hskip
      cases hskip
    case h_10 =>
      rename_i hskip
      cases hskip
      rw [if_pos hc]
    all_goals
      rename_i hskip
      cases hskip
      exact absurd hc (by decide)
  cases h with
  | positive h =>
    obtain ⟨c, more, hmore, hc⟩ := h.head
    rw [hnumber (by rw [hmore]; rfl) (.inl hc), readNumber_positive h hrest]
  | negative h => rw [hnumber rfl (.inr rfl), List.cons_append, readNumber_negative h hrest]
  | nan => rfl
  | infinity => rfl
  | negativeInfinity => rfl

theorem Complete.value_succ {fuel : Nat} (complete : Complete fuel) {room : Nat} {spelled rest : List Char}
    {value : Value} (h : Spells spelled value) (hdepth : value.depth ≤ room) (hrest : EndsNumber rest)
    (hfuel : 2 * (spelled ++ rest).length < fuel + 1) :
    readValue (fuel + 1) room (spelled ++ rest) = .ok (value, rest) := by
  cases h with
  | null => rfl
  | true => rfl
  | false => rfl
  | number h => exact readValue_numeral h hrest fuel room
  | @string spelled text h =>
    have hread : readText (spelled ++ '"' :: rest) = .ok (String.ofList text, rest) :=
      readText_eq_ok.2 ⟨spelled, text, rfl, h, rfl⟩
    rw [List.cons_append, List.append_assoc, readValue, skipBlanks_cons (by decide)]
    simp only [List.cons_append, List.nil_append, hread]
    rfl
  | emptyArray h =>
    rw [List.cons_append, List.append_assoc, readValue, skipBlanks_cons (by decide)]
    simp only [List.cons_append, List.nil_append, skipBlanks_append h, skipBlanks_cons (show isBlank ']' = false from rfl)]
  | emptyObject h =>
    rw [List.cons_append, List.append_assoc, readValue, skipBlanks_cons (by decide)]
    simp only [List.cons_append, List.nil_append, skipBlanks_append h,
      skipBlanks_cons (show isBlank '\x7d' = false from rfl)]
  | @array text items h =>
    obtain ⟨blanks, c, more, rfl, hblanks, ⟨hblank, hclose, -⟩, hitems⟩ := h.trim
    have hread : readItems fuel room (c :: more ++ ']' :: rest) = .ok (items, rest) := by
      refine complete.items hitems hdepth ?_
      simp only [List.length_cons, List.length_append, List.length_nil] at hfuel ⊢
      omega
    have hskip : skipBlanks (blanks ++ c :: more ++ ']' :: rest) = c :: more ++ ']' :: rest := by
      rw [List.append_assoc, skipBlanks_append hblanks]
      exact skipBlanks_cons hblank _
    rw [List.cons_append, List.append_assoc, readValue, skipBlanks_cons (by decide)]
    simp only [List.cons_append, List.nil_append] at hskip hread ⊢
    rw [hskip]
    split
    · rename_i hnil
      cases hnil
    · rename_i hcons
      exact absurd (List.cons.inj hcons).1 hclose
    · rw [hread]
      rfl
  | @object text members h =>
    obtain ⟨blanks, more, rfl, hblanks, hmembers⟩ := h.trim
    have hread : readMembers fuel room ('"' :: more ++ '\x7d' :: rest) = .ok (members, rest) := by
      refine complete.members hmembers hdepth ?_
      simp only [List.length_cons, List.length_append, List.length_nil] at hfuel ⊢
      omega
    have hskip : skipBlanks (blanks ++ '"' :: more ++ '\x7d' :: rest) = '"' :: more ++ '\x7d' :: rest := by
      rw [List.append_assoc, skipBlanks_append hblanks]
      exact skipBlanks_cons (by decide) _
    rw [List.cons_append, List.append_assoc, readValue, skipBlanks_cons (by decide)]
    simp only [List.cons_append, List.nil_append] at hskip hread ⊢
    rw [hskip]
    split
    · rename_i hnil
      cases hnil
    · rename_i hcons
      exact absurd (List.cons.inj hcons).1 (by decide)
    · rw [hread]
      rfl

theorem Complete.padded {fuel room : Nat} (complete : Complete fuel) {text rest : List Char} {value : Value} {c : Char}
    (h : SpellsPadded text value) (hdepth : value.depth ≤ room) (hc : c = ',' ∨ c = ']' ∨ c = '\x7d')
    (hfuel : 2 * (text ++ c :: rest).length < fuel) :
    ∃ behind, readValue fuel room (text ++ c :: rest) = .ok (value, behind) ∧ skipBlanks behind = c :: rest := by
  obtain ⟨hbefore, hspells, hafter⟩ := h
  rename_i before spelled after
  have hblank : isBlank c = false := by
    rcases hc with rfl | rfl | rfl <;> decide
  refine ⟨after ++ c :: rest, ?_, by rw [skipBlanks_append hafter, skipBlanks_cons hblank]⟩
  cases fuel with
  | zero => exact absurd hfuel (Nat.not_lt_zero _)
  | succ fuel =>
    rw [List.append_assoc, List.append_assoc, readValue_blanks hbefore]
    refine complete.value hspells hdepth ((EndsNumber.cons hc rest).blanks hafter) ?_
    simp only [List.length_append] at hfuel ⊢
    omega

theorem Complete.items_succ {fuel : Nat} (complete : Complete fuel) {room : Nat} {spelled rest : List Char}
    {items : List Value} (h : SpellsItems spelled items) (hdepth : itemsDepth items ≤ room)
    (hfuel : 2 * (spelled ++ ']' :: rest).length + 1 < fuel + 1) :
    readItems (fuel + 1) room (spelled ++ ']' :: rest) = .ok (items, rest) := by
  cases room with
  | zero => cases h <;> simp [itemsDepth] at hdepth
  | succ room =>
    cases h with
    | last hitem =>
      simp only [itemsDepth] at hdepth
      obtain ⟨behind, hread, hskip⟩ := complete.padded hitem (show _ ≤ room by omega) (.inr (.inl rfl))
        (show 2 * (spelled ++ ']' :: rest).length < fuel by omega)
      simp only [readItems, hread, hskip]
    | @next text more item items hitem hitems =>
      simp only [itemsDepth] at hdepth
      have hlength : 2 * (text ++ ',' :: (more ++ ']' :: rest)).length < fuel := by
        simp only [List.length_cons, List.length_append] at hfuel ⊢
        omega
      obtain ⟨behind, hread, hskip⟩ := complete.padded hitem (show _ ≤ room by omega) (.inl rfl) hlength
      obtain ⟨blanks, c, start, rfl, hblanks, ⟨hblank, hclose, -⟩, hstart⟩ := hitems.trim
      have hrest : readItems fuel (room + 1) (c :: start ++ ']' :: rest) = .ok (items, rest) := by
        refine complete.items hstart (by omega) ?_
        simp only [List.length_cons, List.length_append] at hlength ⊢
        omega
      have hskip' : skipBlanks (blanks ++ c :: start ++ ']' :: rest) = c :: (start ++ ']' :: rest) := by
        rw [List.append_assoc, skipBlanks_append hblanks]
        exact skipBlanks_cons hblank _
      rw [List.append_assoc, List.cons_append, readItems]
      simp only [hread, hskip, hskip']
      split
      · rename_i hnil
        cases hnil
      · rename_i hcons
        exact absurd (List.cons.inj hcons).1 hclose
      · rw [← List.cons_append, hrest]
        rfl

def readBehind (fuel room : Nat) (member : String × Value) (c : Char) (rest : List Char) : Read Members :=
  if c = '\x7d' then .ok ([member], rest)
  else match skipBlanks rest with
    | [] => .error ⟨.endInValue, []⟩
    | '\x7d' :: rest => .error ⟨.trailingComma, '\x7d' :: rest⟩
    | rest => (readMembers fuel room rest).map fun (members, rest) => (member :: members, rest)

theorem Complete.member {fuel room : Nat} (complete : Complete fuel) {text rest : List Char} {member : String × Value}
    {c : Char} (h : SpellsMember text member) (hdepth : member.2.depth ≤ room) (hc : c = ',' ∨ c = '\x7d')
    (hfuel : 2 * (text ++ c :: rest).length < fuel + 1) :
    readMembers (fuel + 1) (room + 1) (text ++ c :: rest) = readBehind fuel (room + 1) member c rest := by
  obtain ⟨hbefore, hkey, hafter, hvalue⟩ := h
  rename_i before spelled key after text value
  obtain ⟨blanks, d, start, rfl, hblanks, ⟨hblank, -, -⟩, hstart⟩ := hvalue.trim
  have hread : readText (spelled ++ '"' :: (after ++ ':' :: (blanks ++ d :: start ++ c :: rest))) =
      .ok (String.ofList key, after ++ ':' :: (blanks ++ d :: start ++ c :: rest)) :=
    readText_eq_ok.2 ⟨spelled, key, rfl, hkey, rfl⟩
  have hcolon : skipBlanks (after ++ ':' :: (blanks ++ d :: start ++ c :: rest)) =
      ':' :: (blanks ++ d :: start ++ c :: rest) := by
    rw [skipBlanks_append hafter, skipBlanks_cons (by decide)]
  have hskip : skipBlanks (blanks ++ d :: start ++ c :: rest) = d :: start ++ c :: rest := by
    rw [List.append_assoc, skipBlanks_append hblanks]
    exact skipBlanks_cons hblank _
  have hends : c = ',' ∨ c = ']' ∨ c = '\x7d' := hc.imp_right .inr
  have hlength : 2 * (d :: start ++ c :: rest).length < fuel := by
    simp only [List.length_cons, List.length_append] at hfuel ⊢
    omega
  obtain ⟨behind, hbehind, hclose⟩ := complete.padded hstart hdepth hends hlength
  rw [readMembers, List.append_assoc, skipBlanks_append hbefore, List.cons_append, skipBlanks_cons (by decide)]
  simp only [List.append_assoc, List.cons_append] at hread hcolon hskip hbehind ⊢
  rw [hread]
  simp only [hcolon, hskip, hbehind, hclose]
  rcases hc with rfl | rfl
  · rfl
  · rfl

theorem Complete.members_succ {fuel : Nat} (complete : Complete fuel) {room : Nat} {spelled rest : List Char}
    {members : Members} (h : SpellsMembers spelled members) (hdepth : membersDepth members ≤ room)
    (hfuel : 2 * (spelled ++ '\x7d' :: rest).length + 1 < fuel + 1) :
    readMembers (fuel + 1) room (spelled ++ '\x7d' :: rest) = .ok (members, rest) := by
  cases room with
  | zero => cases h <;> simp [membersDepth] at hdepth
  | succ room =>
    cases h with
    | last hmember =>
      simp only [membersDepth] at hdepth
      rw [complete.member hmember (by omega) (.inr rfl) (by omega), readBehind, if_pos rfl]
    | @next text more member members hmember hmembers =>
      simp only [membersDepth] at hdepth
      have hlength : 2 * (text ++ ',' :: (more ++ '\x7d' :: rest)).length < fuel := by
        simp only [List.length_cons, List.length_append] at hfuel ⊢
        omega
      obtain ⟨blanks, start, rfl, hblanks, hstart⟩ := hmembers.trim
      have hrest : readMembers fuel (room + 1) ('"' :: start ++ '\x7d' :: rest) = .ok (members, rest) := by
        refine complete.members hstart (by omega) ?_
        simp only [List.length_cons, List.length_append] at hlength ⊢
        omega
      have hskip : skipBlanks (blanks ++ '"' :: start ++ '\x7d' :: rest) = '"' :: start ++ '\x7d' :: rest := by
        rw [List.append_assoc, skipBlanks_append hblanks]
        exact skipBlanks_cons (by decide) _
      rw [List.append_assoc, List.cons_append, complete.member hmember (by omega) (.inl rfl) (by omega), readBehind,
        if_neg (by decide), hskip]
      change (readMembers fuel (room + 1) ('"' :: start ++ '\x7d' :: rest)).map _ = _
      rw [hrest]
      rfl

theorem complete (fuel : Nat) : Complete fuel := by
  induction fuel with
  | zero => exact ⟨fun _ _ _ h => absurd h (Nat.not_lt_zero _), fun _ _ h => absurd h (Nat.not_lt_zero _),
      fun _ _ h => absurd h (Nat.not_lt_zero _)⟩
  | succ fuel ih => exact ⟨ih.value_succ, ih.items_succ, ih.members_succ⟩

/-- The text spells the value, which is nested no deeper than the reader goes. -/
def IsDocument (text : String) (value : Value) : Prop := SpellsPadded text.toList value ∧ value.depth ≤ 200

theorem readDocument_eq_ok {room : Nat} {text : List Char} {value : Value} :
    readDocument room text = .ok value ↔ SpellsPadded text value ∧ value.depth ≤ room := by
  constructor
  · intro h
    unfold readDocument at h
    split at h
    · cases h
    · rename_i found rest hread
      split at h
      · rename_i hskip
        cases h
        obtain ⟨before, spelled, rfl, hbefore, hspells, hdepth⟩ := (sound _).value hread
        exact ⟨.mk hbefore hspells (skipBlanks_eq_nil.1 hskip), hdepth⟩
      · cases h
  · rintro ⟨⟨hbefore, hspells, hafter⟩, hdepth⟩
    rename_i before spelled after
    have hread : readValue (2 * (before ++ (spelled ++ after)).length + 2) room (before ++ (spelled ++ after)) =
        .ok (value, after) := by
      rw [readValue_blanks hbefore]
      refine (complete _).value hspells hdepth ?_ (by simp only [List.length_append]; omega)
      simpa using EndsNumber.nil.blanks hafter
    unfold readDocument
    rw [hread]
    simp only [skipBlanks_eq_nil.2 hafter]

/-- The reader accepts exactly the documents, and answers with the value that they spell. -/
theorem parse_eq_ok {text : String} {value : Value} : parse text = .ok value ↔ IsDocument text value := by
  unfold parse parseWithin IsDocument
  rw [← readDocument_eq_ok, mapError_eq_ok]

end GuestForge.Json
