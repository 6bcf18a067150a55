import GuestForge.Json.Reader
set_option autoImplicit false

/-!
# Blanks, numbers and strings of JSON texts

What the smallest parts of a JSON text are, said without the reader, and that the reader takes exactly those: it
stops where the digits of a number stop, and at the quote that closes a string.
-/
namespace GuestForge.Json
open Text.Hex (digitValue?)

def Blanks (text : List Char) : Prop := ∀ c ∈ text, isBlank c = true

theorem Blanks.append {text more : List Char} (h : Blanks text) (h' : Blanks more) : Blanks (text ++ more) := by
  intro c hc
  exact (List.mem_append.1 hc).elim (h c) (h' c)

theorem Blanks.nil : Blanks [] := fun _ h => absurd h List.not_mem_nil

theorem skipBlanks_append {blanks : List Char} (h : Blanks blanks) (rest : List Char) :
    skipBlanks (blanks ++ rest) = skipBlanks rest := List.dropWhile_append_of_pos h

theorem skipBlanks_cons {c : Char} (h : isBlank c = false) (rest : List Char) :
    skipBlanks (c :: rest) = c :: rest := List.dropWhile_cons_of_neg (by simp [h])

theorem exists_blanks (text : List Char) : ∃ blanks, text = blanks ++ skipBlanks text ∧ Blanks blanks := by
  refine ⟨text.takeWhile isBlank, List.takeWhile_append_dropWhile.symm, ?_⟩
  intro c hc
  exact List.all_eq_true.1 List.all_takeWhile c hc

theorem skipBlanks_eq_nil {text : List Char} : skipBlanks text = [] ↔ Blanks text := by
  constructor
  · intro h
    obtain ⟨blanks, htext, hblanks⟩ := exists_blanks text
    rw [h, List.append_nil] at htext
    rwa [htext]
  · intro h
    have hskip := skipBlanks_append h []
    rwa [List.append_nil] at hskip

theorem skipBlanks_eq_cons {text rest : List Char} {c : Char} (h : skipBlanks text = c :: rest) :
    ∃ blanks, text = blanks ++ c :: rest ∧ Blanks blanks := by
  obtain ⟨blanks, htext, hblanks⟩ := exists_blanks text
  rw [h] at htext
  exact ⟨blanks, htext, hblanks⟩

theorem readWord_eq_ok {α : Type} {value a : α} {word text rest : List Char} :
    readWord value word text = .ok (a, rest) ↔ a = value ∧ text = word ++ rest := by
  induction word generalizing text with
  | nil =>
    rw [readWord, Except.ok.injEq, Prod.mk.injEq, eq_comm]
    exact and_congr_right fun _ => Iff.rfl
  | cons letter word ih =>
    cases text with
    | nil => simp [readWord]
    | cons c text =>
      rw [readWord]
      by_cases hc : c = letter
      · rw [if_pos hc, ih, hc, List.cons_append, List.cons.injEq]
        simp
      · rw [if_neg hc, List.cons_append, List.cons.injEq]
        simp [hc]

def Digits (text : List Char) : Prop := text ≠ [] ∧ ∀ c ∈ text, c.isDigit = true

/-- A zero alone, or digits that do not start with one and are not too many. -/
def Whole (text : List Char) : Prop :=
  Digits text ∧ (text.head? = some '0' → text = ['0']) ∧ text.length ≤ digitLimit

def Fraction (text : List Char) : Prop := text = [] ∨ ∃ digits, text = '.' :: digits ∧ Digits digits

def Exponent (text : List Char) : Prop :=
  text = [] ∨ ∃ letter sign digits, text = letter :: (sign ++ digits) ∧ (letter = 'e' ∨ letter = 'E') ∧
    (sign = [] ∨ sign = ['+'] ∨ sign = ['-']) ∧ Digits digits

def Magnitude (text : List Char) : Prop :=
  ∃ whole fraction exponent, text = whole ++ fraction ++ exponent ∧ Whole whole ∧ Fraction fraction ∧
    Exponent exponent

/-- A number of the standard, or one of the three that it does not have. -/
inductive Numeral : List Char → Prop where
  | positive {text : List Char} : Magnitude text → Numeral text
  | negative {text : List Char} : Magnitude text → Numeral ('-' :: text)
  | nan : Numeral "NaN".toList
  | infinity : Numeral "Infinity".toList
  | negativeInfinity : Numeral "-Infinity".toList

/-- What can stand behind a number: nothing that would go on with it. -/
def EndsNumber (rest : List Char) : Prop :=
  ∀ c ∈ rest.head?, c.isDigit = false ∧ c ≠ '.' ∧ c ≠ 'e' ∧ c ≠ 'E'

def NoDigit (rest : List Char) : Prop := ∀ c ∈ rest.head?, c.isDigit = false

theorem EndsNumber.noDigit {rest : List Char} (h : EndsNumber rest) : NoDigit rest := fun c hc => (h c hc).1

theorem takeWhile_digits {digits rest : List Char} (h : ∀ c ∈ digits, c.isDigit = true) (hrest : NoDigit rest) :
    (digits ++ rest).takeWhile Char.isDigit = digits ∧ (digits ++ rest).dropWhile Char.isDigit = rest := by
  have hstop : rest.takeWhile Char.isDigit = [] ∧ rest.dropWhile Char.isDigit = rest := by
    cases rest with
    | nil => exact ⟨rfl, rfl⟩
    | cons c rest =>
      have hc : c.isDigit = false := hrest c rfl
      simp [hc]
  rw [List.takeWhile_append_of_pos h, List.dropWhile_append_of_pos h, hstop.1, hstop.2, List.append_nil]
  exact ⟨rfl, rfl⟩

theorem readDigits_eq_ok {text digits rest : List Char} :
    readDigits text = .ok (digits, rest) ↔ text = digits ++ rest ∧ Digits digits ∧ NoDigit rest := by
  constructor
  · intro h
    have hdigits : ∀ c ∈ text.takeWhile Char.isDigit, c.isDigit = true := fun c hc =>
      List.all_eq_true.1 List.all_takeWhile c hc
    have hstop : NoDigit (text.dropWhile Char.isDigit) := by
      intro c hc
      have hhead := List.head?_dropWhile_not Char.isDigit text
      rw [Option.mem_def.1 hc] at hhead
      exact hhead
    unfold readDigits at h
    split at h
    · cases h
    · cases h
    · rename_i hnil _
      obtain ⟨rfl, rfl⟩ := Prod.mk.inj (Except.ok.inj h)
      exact ⟨List.takeWhile_append_dropWhile.symm, ⟨hnil, hdigits⟩, hstop⟩
  · rintro ⟨rfl, ⟨hnil, hdigits⟩, hrest⟩
    obtain ⟨htake, hdrop⟩ := takeWhile_digits hdigits hrest
    unfold readDigits
    rw [htake, hdrop]
    cases digits with
    | nil => exact absurd rfl hnil
    | cons c digits => rfl

theorem isDigit_zero_rest {text digits rest : List Char} {c : Char} (h : '0' :: c :: text = digits ++ rest)
    (hdigits : Whole digits) : digits = ['0'] ∧ rest = c :: text := by
  obtain ⟨⟨hnil, -⟩, hzero, -⟩ := hdigits
  cases digits with
  | nil => exact absurd rfl hnil
  | cons d digits =>
    obtain ⟨rfl, hrest⟩ := List.cons.inj h
    obtain ⟨-, rfl⟩ := List.cons.inj (hzero rfl)
    exact ⟨rfl, hrest.symm⟩

theorem readWhole_eq_ok {text digits rest : List Char} :
    readWhole text = .ok (digits, rest) ↔ text = digits ++ rest ∧ Whole digits ∧ NoDigit rest := by
  unfold readWhole
  split
  · rename_i c more
    constructor
    · intro h
      split at h
      · cases h
      · rename_i hc
        obtain ⟨rfl, rfl⟩ := Prod.mk.inj (Except.ok.inj h)
        refine ⟨rfl, ⟨⟨by simp, by simp⟩, fun _ => rfl, by decide⟩, ?_⟩
        intro d hd
        cases hd
        simpa using hc
    · rintro ⟨htext, hwhole, hrest⟩
      obtain ⟨rfl, rfl⟩ := isDigit_zero_rest htext hwhole
      rw [if_neg (by simp [hrest c rfl])]
  · rename_i hzero
    cases hread : readDigits text with
    | error stop =>
      constructor
      · intro h
        cases h
      · rintro ⟨htext, ⟨hdigits, -⟩, hrest⟩
        rw [readDigits_eq_ok.2 ⟨htext, hdigits, hrest⟩] at hread
        cases hread
    | ok found =>
      obtain ⟨found, behind⟩ := found
      obtain ⟨rfl, hfound, hbehind⟩ := readDigits_eq_ok.1 hread
      have hhead : found.head? = some '0' → found = ['0'] := by
        intro h
        cases found with
        | nil => cases h
        | cons c found =>
          cases h
          cases found with
          | nil => rfl
          | cons d found => exact absurd rfl (hzero d (found ++ behind))
      constructor
      · intro h
        simp only at h
        split at h
        · rename_i hlength
          obtain ⟨rfl, rfl⟩ := Prod.mk.inj (Except.ok.inj h)
          exact ⟨rfl, ⟨hfound, hhead, hlength⟩, hbehind⟩
        · cases h
      · rintro ⟨htext, ⟨hdigits, hzero', hlength⟩, hrest⟩
        rw [htext, readDigits_eq_ok.2 ⟨rfl, hdigits, hrest⟩] at hread
        cases hread
        simp only [hlength, if_true]

theorem map_eq_ok {ε α β : Type} {f : α → β} {read : Except ε α} {b : β} :
    read.map f = .ok b ↔ ∃ a, read = .ok a ∧ f a = b := by
  cases read with
  | error stop => simp [Except.map]
  | ok a => simp [Except.map]

theorem mapError_eq_ok {ε δ α : Type} {f : ε → δ} {read : Except ε α} {a : α} :
    read.mapError f = .ok a ↔ read = .ok a := by
  cases read with
  | error stop => constructor <;> intro h <;> cases h
  | ok b =>
    constructor
    · intro h
      cases h
      rfl
    · intro h
      cases h
      rfl

theorem bind_eq_ok {ε α β : Type} {read : Except ε α} {next : α → Except ε β} {b : β} :
    (do next (← read)) = .ok b ↔ ∃ a, read = .ok a ∧ next a = .ok b := by
  cases read with
  | error stop => simp [bind, Except.bind]
  | ok a => simp [bind, Except.bind]

theorem readFraction_sound {text fraction rest : List Char} (h : readFraction text = .ok (fraction, rest)) :
    text = fraction ++ rest ∧ Fraction fraction := by
  unfold readFraction at h
  split at h
  · obtain ⟨⟨digits, behind⟩, hread, hresult⟩ := map_eq_ok.1 h
    obtain ⟨rfl, rfl⟩ := Prod.mk.inj hresult
    obtain ⟨rfl, hdigits, -⟩ := readDigits_eq_ok.1 hread
    exact ⟨rfl, .inr ⟨digits, rfl, hdigits⟩⟩
  · obtain ⟨rfl, rfl⟩ := Prod.mk.inj (Except.ok.inj h)
    exact ⟨rfl, .inl rfl⟩

theorem readFraction_complete {fraction rest : List Char} (h : Fraction fraction) (hrest : NoDigit rest)
    (hpoint : rest.head? ≠ some '.') : readFraction (fraction ++ rest) = .ok (fraction, rest) := by
  rcases h with rfl | ⟨digits, rfl, hdigits⟩
  · unfold readFraction
    split
    · rename_i digits htext
      rw [List.nil_append] at htext
      exact absurd (congrArg List.head? htext) hpoint
    · rfl
  · change (readDigits (digits ++ rest)).map _ = _
    rw [readDigits_eq_ok.2 ⟨rfl, hdigits, hrest⟩]
    rfl

theorem readExponent_sound {text exponent rest : List Char} (h : readExponent text = .ok (exponent, rest)) :
    text = exponent ++ rest ∧ Exponent exponent := by
  unfold readExponent at h
  split at h
  · rename_i letter more
    split at h
    · rename_i hletter
      split at h
      · rename_i sign digits
        split at h
        · rename_i hsign
          obtain ⟨⟨digits, behind⟩, hread, hresult⟩ := map_eq_ok.1 h
          obtain ⟨rfl, rfl⟩ := Prod.mk.inj hresult
          obtain ⟨rfl, hdigits, -⟩ := readDigits_eq_ok.1 hread
          refine ⟨rfl, .inr ⟨letter, [sign], digits, rfl, hletter, ?_, hdigits⟩⟩
          rcases hsign with rfl | rfl
          · exact .inr (.inl rfl)
          · exact .inr (.inr rfl)
        · obtain ⟨⟨digits, behind⟩, hread, hresult⟩ := map_eq_ok.1 h
          obtain ⟨rfl, rfl⟩ := Prod.mk.inj hresult
          obtain ⟨htext, hdigits, -⟩ := readDigits_eq_ok.1 hread
          rw [htext]
          exact ⟨rfl, .inr ⟨letter, [], digits, rfl, hletter, .inl rfl, hdigits⟩⟩
      · cases h
    · obtain ⟨rfl, rfl⟩ := Prod.mk.inj (Except.ok.inj h)
      exact ⟨rfl, .inl rfl⟩
  · obtain ⟨rfl, rfl⟩ := Prod.mk.inj (Except.ok.inj h)
    exact ⟨rfl, .inl rfl⟩

theorem readExponent_complete {exponent rest : List Char} (h : Exponent exponent) (hrest : EndsNumber rest) :
    readExponent (exponent ++ rest) = .ok (exponent, rest) := by
  rcases h with rfl | ⟨letter, sign, digits, rfl, hletter, hsign, hdigits⟩
  · cases rest with
    | nil => rfl
    | cons c rest =>
      obtain ⟨-, -, hsmall, hcapital⟩ := hrest c rfl
      simp [readExponent, hsmall, hcapital]
  · have hread : readDigits (digits ++ rest) = .ok (digits, rest) :=
      readDigits_eq_ok.2 ⟨rfl, hdigits, hrest.noDigit⟩
    have hsigned : ∀ c, c = '+' ∨ c = '-' →
        readExponent (letter :: c :: (digits ++ rest)) = .ok (letter :: c :: digits, rest) := by
      intro c hc
      simp only [readExponent, hletter, hc, if_true, hread]
      rfl
    rcases hsign with rfl | rfl | rfl
    · obtain ⟨hnil, hall⟩ := hdigits
      cases digits with
      | nil => exact absurd rfl hnil
      | cons d digits =>
        have hd : d.isDigit = true := hall d List.mem_cons_self
        have hplus : ¬ (d = '+' ∨ d = '-') := by
          rintro (rfl | rfl) <;> exact absurd hd (by decide)
        simp only [List.nil_append, List.cons_append, readExponent, hletter, if_true, if_neg hplus]
        rw [← List.cons_append, hread]
        rfl
    · exact hsigned '+' (.inl rfl)
    · exact hsigned '-' (.inr rfl)

theorem readMagnitude_sound {text number rest : List Char} (h : readMagnitude text = .ok (number, rest)) :
    text = number ++ rest ∧ Magnitude number := by
  obtain ⟨⟨whole, behindWhole⟩, hreadWhole, hparts⟩ := bind_eq_ok.1 h
  obtain ⟨⟨fraction, behindFraction⟩, hreadFraction, hpart⟩ := bind_eq_ok.1 hparts
  obtain ⟨⟨exponent, behind⟩, hreadExponent, hresult⟩ := bind_eq_ok.1 hpart
  obtain ⟨rfl, rfl⟩ := Prod.mk.inj (Except.ok.inj hresult)
  obtain ⟨rfl, hwhole, -⟩ := readWhole_eq_ok.1 hreadWhole
  obtain ⟨rfl, hfraction⟩ := readFraction_sound hreadFraction
  obtain ⟨rfl, hexponent⟩ := readExponent_sound hreadExponent
  exact ⟨by simp only [List.append_assoc], whole, fraction, exponent, rfl, hwhole, hfraction, hexponent⟩

theorem noDigit_parts {fraction exponent rest : List Char} (hfraction : Fraction fraction)
    (hexponent : Exponent exponent) (hrest : EndsNumber rest) :
    NoDigit (fraction ++ (exponent ++ rest)) ∧ NoDigit (exponent ++ rest) ∧
      (exponent ++ rest).head? ≠ some '.' := by
  have hbehind : NoDigit (exponent ++ rest) ∧ (exponent ++ rest).head? ≠ some '.' := by
    rcases hexponent with rfl | ⟨letter, sign, digits, rfl, hletter, -⟩
    · exact ⟨hrest.noDigit, fun h => (hrest '.' h).2.1 rfl⟩
    · rcases hletter with rfl | rfl
      · exact ⟨fun c hc => by cases hc; rfl, by simp⟩
      · exact ⟨fun c hc => by cases hc; rfl, by simp⟩
  refine ⟨?_, hbehind⟩
  rcases hfraction with rfl | ⟨digits, rfl, -⟩
  · exact hbehind.1
  · intro c hc
    cases hc
    rfl

theorem readMagnitude_complete {number rest : List Char} (h : Magnitude number) (hrest : EndsNumber rest) :
    readMagnitude (number ++ rest) = .ok (number, rest) := by
  obtain ⟨whole, fraction, exponent, rfl, hwhole, hfraction, hexponent⟩ := h
  obtain ⟨hbehindWhole, hbehind, hpoint⟩ := noDigit_parts hfraction hexponent hrest
  refine bind_eq_ok.2 ⟨(whole, fraction ++ (exponent ++ rest)), ?_, ?_⟩
  · exact readWhole_eq_ok.2 ⟨by simp only [List.append_assoc], hwhole, hbehindWhole⟩
  · refine bind_eq_ok.2 ⟨(fraction, exponent ++ rest), readFraction_complete hfraction hbehind hpoint, ?_⟩
    exact bind_eq_ok.2 ⟨(exponent, rest), readExponent_complete hexponent hrest, rfl⟩

theorem Magnitude.head {text : List Char} (h : Magnitude text) :
    ∃ c rest, text = c :: rest ∧ c.isDigit = true := by
  obtain ⟨whole, fraction, exponent, rfl, ⟨⟨hnil, hdigits⟩, -⟩, -⟩ := h
  cases whole with
  | nil => exact absurd rfl hnil
  | cons c whole => exact ⟨c, _, rfl, hdigits c List.mem_cons_self⟩

theorem readNumber_sound {text rest : List Char} {value : Value} (h : readNumber text = .ok (value, rest)) :
    ∃ number, text = number ++ rest ∧ Numeral number ∧ value = .number (String.ofList number) := by
  unfold readNumber at h
  split at h
  · obtain ⟨rfl, rfl⟩ := readWord_eq_ok.1 h
    exact ⟨"-Infinity".toList, rfl, .negativeInfinity, by rw [String.ofList_toList]⟩
  · obtain ⟨⟨digits, behind⟩, hread, hresult⟩ := map_eq_ok.1 h
    obtain ⟨rfl, rfl⟩ := Prod.mk.inj hresult
    obtain ⟨rfl, hdigits⟩ := readMagnitude_sound hread
    exact ⟨'-' :: digits, rfl, .negative hdigits, rfl⟩
  · obtain ⟨⟨digits, behind⟩, hread, hresult⟩ := map_eq_ok.1 h
    obtain ⟨rfl, rfl⟩ := Prod.mk.inj hresult
    obtain ⟨rfl, hdigits⟩ := readMagnitude_sound hread
    exact ⟨digits, rfl, .positive hdigits, rfl⟩

theorem readNumber_positive {number rest : List Char} (h : Magnitude number) (hrest : EndsNumber rest) :
    readNumber (number ++ rest) = .ok (.number (String.ofList number), rest) := by
  have hread := readMagnitude_complete h hrest
  obtain ⟨c, digits, rfl, hc⟩ := h.head
  unfold readNumber
  split
  · rename_i htext
    cases (List.cons.inj htext).1
    exact absurd hc (by decide)
  · rename_i htext
    cases (List.cons.inj htext).1
    exact absurd hc (by decide)
  · rw [hread]
    rfl

theorem readNumber_negative {number rest : List Char} (h : Magnitude number) (hrest : EndsNumber rest) :
    readNumber ('-' :: (number ++ rest)) = .ok (.number (String.ofList ('-' :: number)), rest) := by
  have hread := readMagnitude_complete h hrest
  obtain ⟨c, digits, rfl, hc⟩ := h.head
  have hletter : c ≠ 'I' := by
    rintro rfl
    exact absurd hc (by decide)
  unfold readNumber
  split
  · rename_i htext
    exact absurd (List.cons.inj (List.cons.inj htext).2).1 hletter
  · rename_i htext
    rw [← (List.cons.inj htext).2, hread]
    rfl
  · rename_i hminus
    exact absurd rfl (hminus _)

def hexFrom (value : Nat) : List Char → Option Nat
  | [] => some value
  | c :: rest => match digitValue? c with
    | some digit => hexFrom (16 * value + digit) rest
    | none => none

/-- What stands between the quotes of a string, and the characters that it denotes. -/
inductive Characters : List Char → List Char → Prop where
  | nil : Characters [] []
  | plain {c : Char} {spelled text : List Char} : c ≠ '"' → c ≠ '\\' → ¬ c < ' ' → Characters spelled text →
      Characters (c :: spelled) (c :: text)
  | escape {c d : Char} {spelled text : List Char} : escaped? c = some d → Characters spelled text →
      Characters ('\\' :: c :: spelled) (d :: text)
  | code {digits spelled text : List Char} {code : Nat} : digits.length = 4 → hexFrom 0 digits = some code →
      isHigh code = false → isLow code = false → Characters spelled text →
      Characters ('\\' :: 'u' :: (digits ++ spelled)) (Char.ofNat code :: text)
  | pair {first second spelled text : List Char} {high low : Nat} : first.length = 4 → second.length = 4 →
      hexFrom 0 first = some high → hexFrom 0 second = some low → isHigh high = true → isLow low = true →
      Characters spelled text →
      Characters ('\\' :: 'u' :: (first ++ '\\' :: 'u' :: (second ++ spelled)))
        (Char.ofNat (pairCode high low) :: text)

theorem pushChar_eq_ok {c : Char} {read : Read (List Char)} {text rest : List Char} :
    pushChar c read = .ok (text, rest) ↔ ∃ more, text = c :: more ∧ read = .ok (more, rest) := by
  unfold pushChar
  rw [map_eq_ok]
  constructor
  · rintro ⟨⟨more, behind⟩, hread, hresult⟩
    obtain ⟨rfl, rfl⟩ := Prod.mk.inj hresult
    exact ⟨more, rfl, hread⟩
  · rintro ⟨more, rfl, hread⟩
    exact ⟨(more, rest), hread, rfl⟩

/-- A reader inside the digits of an escape: each is read in turn, and `after` says how it goes on behind the last. -/
structure TakesDigits (inside : Nat → Nat → Inside) (result : List Char × List Char)
    (after : Nat → List Char → Prop) : Prop where
  ends : ∀ owed value, readString (inside owed value) [] ≠ .ok result
  refuses : ∀ owed value c rest, digitValue? c = none → readString (inside owed value) (c :: rest) ≠ .ok result
  next : ∀ owed value c rest digit, digitValue? c = some digit →
    readString (inside (owed + 2) value) (c :: rest) = readString (inside (owed + 1) (16 * value + digit)) rest
  last : ∀ value c rest digit, digitValue? c = some digit →
    (readString (inside 1 value) (c :: rest) = .ok result ↔ after (16 * value + digit) rest)

theorem TakesDigits.eq_ok {inside : Nat → Nat → Inside} {result : List Char × List Char}
    {after : Nat → List Char → Prop} (h : TakesDigits inside result after) {owed value : Nat} {text : List Char} :
    readString (inside (owed + 1) value) text = .ok result ↔
      ∃ digits code rest, text = digits ++ rest ∧ digits.length = owed + 1 ∧ hexFrom value digits = some code ∧
        after code rest := by
  constructor
  · intro hread
    induction owed generalizing value text with
    | zero =>
      cases text with
      | nil => exact absurd hread (h.ends _ _)
      | cons c rest =>
        cases hc : digitValue? c with
        | none => exact absurd hread (h.refuses _ _ _ _ hc)
        | some digit =>
          refine ⟨[c], 16 * value + digit, rest, rfl, rfl, ?_, (h.last _ _ _ _ hc).1 hread⟩
          simp only [hexFrom, hc]
    | succ owed ih =>
      cases text with
      | nil => exact absurd hread (h.ends _ _)
      | cons c rest =>
        cases hc : digitValue? c with
        | none => exact absurd hread (h.refuses _ _ _ _ hc)
        | some digit =>
          rw [h.next _ _ _ _ _ hc] at hread
          obtain ⟨digits, code, rest, rfl, hlength, hcode, hafter⟩ := ih hread
          refine ⟨c :: digits, code, rest, rfl, by rw [List.length_cons, hlength], ?_, hafter⟩
          simp only [hexFrom, hc, hcode]
  · rintro ⟨digits, code, rest, rfl, hlength, hcode, hafter⟩
    induction owed generalizing value digits with
    | zero =>
      obtain ⟨c, rfl⟩ := List.length_eq_one_iff.1 hlength
      cases hc : digitValue? c with
      | none => simp [hexFrom, hc] at hcode
      | some digit =>
        simp only [hexFrom, hc, Option.some.injEq] at hcode
        subst hcode
        exact (h.last _ _ _ _ hc).2 hafter
    | succ owed ih =>
      cases digits with
      | nil => cases hlength
      | cons c digits =>
        cases hc : digitValue? c with
        | none => simp [hexFrom, hc] at hcode
        | some digit =>
          simp only [hexFrom, hc] at hcode
          rw [List.cons_append, h.next _ _ _ _ _ hc]
          exact ih digits (Nat.succ.inj hlength) hcode

theorem takesDigits_code (result : List Char × List Char) :
    TakesDigits .digits result fun code rest =>
      (isHigh code = true ∧ readString (.highRead code) rest = .ok result) ∨
      (isHigh code = false ∧ isLow code = false ∧
        pushChar (Char.ofNat code) (readString .plain rest) = .ok result) where
  ends owed value h := by cases h
  refuses owed value c rest hc h := by
    simp only [readString, hc] at h
    cases h
  next owed value c rest digit hc := by
    have howed : 1 < owed + 2 := by omega
    simp only [readString, hc, howed, if_true]
    rfl
  last value c rest digit hc := by
    simp only [readString, hc, Nat.lt_irrefl, if_false]
    cases hhigh : isHigh (16 * value + digit) with
    | true => simp
    | false =>
      cases hlow : isLow (16 * value + digit) with
      | true => simp
      | false => simp

theorem takesDigits_low (high : Nat) (result : List Char × List Char) :
    TakesDigits (.lowDigits high) result fun low rest =>
      isLow low = true ∧ pushChar (Char.ofNat (pairCode high low)) (readString .plain rest) = .ok result where
  ends owed value h := by cases h
  refuses owed value c rest hc h := by
    simp only [readString, hc] at h
    cases h
  next owed value c rest digit hc := by
    have howed : 1 < owed + 2 := by omega
    simp only [readString, hc, howed, if_true]
    rfl
  last value c rest digit hc := by
    simp only [readString, hc, Nat.lt_irrefl, if_false]
    cases hlow : isLow (16 * value + digit) with
    | true => simp
    | false => simp

theorem endsEscape_append {digits : List Char} (h : digits.length = 4) (rest : List Char) :
    endsEscape (digits ++ rest) = false := by
  match digits, h with
  | [a, b, c, d], _ =>
    have ha := a.utf8Size_pos
    have hb := b.utf8Size_pos
    have hc := c.utf8Size_pos
    have hd := d.utf8Size_pos
    simp only [endsEscape, List.cons_append, List.nil_append, List.take_succ_cons, List.take_zero,
      String.ofList_cons, String.utf8ByteSize_append, String.utf8ByteSize_singleton, decide_eq_false_iff_not]
    omega

theorem readString_highRead {high : Nat} {text : List Char} {result : List Char × List Char}
    (h : readString (.highRead high) text = .ok result) :
    ∃ rest, text = '\\' :: 'u' :: rest ∧ readString (.lowDigits high 4 0) rest = .ok result := by
  cases text with
  | nil => cases h
  | cons c text =>
    rw [readString] at h
    split at h
    · rename_i hc
      cases text with
      | nil => cases h
      | cons d rest =>
        rw [readString] at h
        split at h
        · cases h
        · rename_i hd
          split at h
          · cases h
          · exact ⟨rest, by rw [hc, Decidable.not_not.1 hd], h⟩
    · cases h

theorem readString_sound {text chars rest : List Char} (h : readString .plain text = .ok (chars, rest)) :
    ∃ spelled, text = spelled ++ '"' :: rest ∧ Characters spelled chars := by
  -- An escape takes several characters at a time, so the induction is on the length of the text.
  induction hlength : text.length using Nat.strongRecOn generalizing text chars with
  | _ length ih =>
    have hshorter : ∀ {c : Char} {more chars : List Char}, more.length < text.length →
        pushChar c (readString .plain more) = .ok (chars, rest) →
        ∃ spelled text, chars = c :: text ∧ more = spelled ++ '"' :: rest ∧ Characters spelled text := by
      intro c more chars hmore hpush
      obtain ⟨others, rfl, hread⟩ := pushChar_eq_ok.1 hpush
      obtain ⟨spelled, hspelled, hcharacters⟩ := ih more.length (hlength ▸ hmore) hread rfl
      exact ⟨spelled, others, rfl, hspelled, hcharacters⟩
    cases text with
    | nil => cases h
    | cons c text =>
      rw [readString] at h
      split at h
      · rename_i hc
        obtain ⟨rfl, rfl⟩ := Prod.mk.inj (Except.ok.inj h)
        exact ⟨[], by rw [hc]; rfl, .nil⟩
      rename_i hquote
      split at h
      · rename_i hc
        subst hc
        cases text with
        | nil => cases h
        | cons d more =>
          rw [readString] at h
          split at h
          · rename_i e he
            obtain ⟨spelled, others, rfl, rfl, hcharacters⟩ :=
              hshorter (by simp only [List.length_cons]; omega) h
            exact ⟨_, rfl, .escape he hcharacters⟩
          split at h
          · cases h
          rename_i hd
          split at h
          · cases h
          obtain ⟨digits, code, behind, rfl, hdigits, hcode, hafter⟩ := (takesDigits_code _).eq_ok.1 h
          rw [Decidable.not_not.1 hd]
          rcases hafter with ⟨hhigh, hhighRead⟩ | ⟨hhigh, hlow, hread⟩
          · obtain ⟨second, rfl, hread⟩ := readString_highRead hhighRead
            obtain ⟨digits', low, behind, rfl, hdigits', hcode', hlow, hpush⟩ :=
              (takesDigits_low code _).eq_ok.1 hread
            obtain ⟨spelled, others, rfl, rfl, hcharacters⟩ :=
              hshorter (by simp only [List.length_cons, List.length_append]; omega) hpush
            exact ⟨_, by simp, .pair hdigits hdigits' hcode hcode' hhigh hlow hcharacters⟩
          · obtain ⟨spelled, others, rfl, rfl, hcharacters⟩ :=
              hshorter (by simp only [List.length_cons, List.length_append]; omega) hread
            exact ⟨_, by simp, .code hdigits hcode hhigh hlow hcharacters⟩
      rename_i hbackslash
      split at h
      · cases h
      rename_i hcontrol
      obtain ⟨spelled, others, rfl, rfl, hcharacters⟩ := hshorter (by simp) h
      exact ⟨_, rfl, .plain hquote hbackslash hcontrol hcharacters⟩

theorem readString_complete {spelled chars : List Char} (h : Characters spelled chars) (rest : List Char) :
    readString .plain (spelled ++ '"' :: rest) = .ok (chars, rest) := by
  have hu : escaped? 'u' = none := by decide
  induction h with
  | nil => rfl
  | plain hquote hbackslash hcontrol _ ih =>
    rw [List.cons_append, readString, if_neg hquote, if_neg hbackslash, if_neg hcontrol, ih]
    rfl
  | escape hescaped _ ih =>
    simp only [List.cons_append, readString, hescaped, ih]
    rfl
  | @code digits spelled text code hdigits hcode hhigh hlow _ ih =>
    have hread : readString (.digits 4 0) (digits ++ (spelled ++ '"' :: rest)) = .ok (Char.ofNat code :: text, rest) := by
      refine (takesDigits_code _).eq_ok.2 ⟨digits, code, _, rfl, hdigits, hcode, .inr ⟨hhigh, hlow, ?_⟩⟩
      exact pushChar_eq_ok.2 ⟨text, rfl, ih⟩
    have hends := endsEscape_append hdigits (spelled ++ '"' :: rest)
    simp [readString, hu, hends, hread]
  | @pair first second spelled text high low hfirst hsecond hcode hcode' hhigh hlow _ ih =>
    have hlowRead : readString (.lowDigits high 4 0) (second ++ (spelled ++ '"' :: rest)) =
        .ok (Char.ofNat (pairCode high low) :: text, rest) := by
      refine (takesDigits_low high _).eq_ok.2 ⟨second, low, _, rfl, hsecond, hcode', hlow, ?_⟩
      exact pushChar_eq_ok.2 ⟨text, rfl, ih⟩
    have hends := endsEscape_append hsecond (spelled ++ '"' :: rest)
    have hhighRead : readString (.highRead high) ('\\' :: 'u' :: (second ++ (spelled ++ '"' :: rest))) =
        .ok (Char.ofNat (pairCode high low) :: text, rest) := by
      simp [readString, hends, hlowRead]
    have hread : readString (.digits 4 0)
        (first ++ '\\' :: 'u' :: (second ++ (spelled ++ '"' :: rest))) =
        .ok (Char.ofNat (pairCode high low) :: text, rest) :=
      (takesDigits_code _).eq_ok.2 ⟨first, high, _, rfl, hfirst, hcode, .inl ⟨hhigh, hhighRead⟩⟩
    have hends' := endsEscape_append hfirst ('\\' :: 'u' :: (second ++ (spelled ++ '"' :: rest)))
    simp [readString, hu, hends', hread]

theorem readText_eq_ok {text rest : List Char} {value : String} :
    readText text = .ok (value, rest) ↔
      ∃ spelled chars, text = spelled ++ '"' :: rest ∧ Characters spelled chars ∧ value = String.ofList chars := by
  unfold readText
  rw [map_eq_ok]
  constructor
  · rintro ⟨⟨chars, behind⟩, hread, hresult⟩
    obtain ⟨rfl, rfl⟩ := Prod.mk.inj hresult
    obtain ⟨spelled, htext, hcharacters⟩ := readString_sound hread
    exact ⟨spelled, chars, htext, hcharacters, rfl⟩
  · rintro ⟨spelled, chars, rfl, hcharacters, rfl⟩
    exact ⟨(chars, rest), readString_complete hcharacters rest, rfl⟩

end GuestForge.Json
