import GuestForge.Proofs.SchemaReading
set_option autoImplicit false

/-!
# The texts that spell digests

A text spells a digest if it is thirty-two pairs of hexadecimal digits, in either case, with ASCII white space around
pairs and none inside them. The digest is written as that text without the white space and in lower case, so a digest
has one written form, and the reader of reports refuses just the texts that spell none.
-/
namespace GuestForge

namespace Text.Hex

def spaces : List Char := [' ', '\t', '\n', '\x0b', '\x0c', '\r']

def lowerDigits : List Char := ['0', '1', '2', '3', '4', '5', '6', '7', '8', '9', 'a', 'b', 'c', 'd', 'e', 'f']

def digits : List Char := lowerDigits ++ ['A', 'B', 'C', 'D', 'E', 'F']

/-- So many pairs of digits, with white space before, between and behind pairs and none inside them. -/
inductive Pairs : Nat → List Char → Prop
  | nil : Pairs 0 []
  | space {count : Nat} {c : Char} {text : List Char} : c ∈ spaces → Pairs count text → Pairs count (c :: text)
  | pair {count : Nat} {c d : Char} {text : List Char} : c ∈ digits → d ∈ digits → Pairs count text →
      Pairs (count + 1) (c :: d :: text)

def compact (text : List Char) : List Char := (text.filter (· ∉ spaces)).map Char.toLower

theorem exists_code {c : Char} {bound : Nat} (h : c.toNat < bound) : ∃ code : Fin bound, Char.ofNat code = c :=
  ⟨⟨c.toNat, h⟩, Char.ofNat_toNat c⟩

theorem isGap_iff {c : Char} : isGap c = true ↔ c ∈ spaces := by
  constructor
  · intro h
    have hcodes : ∀ code : Fin 33, isGap (Char.ofNat code) = true → Char.ofNat code ∈ spaces := by decide
    obtain ⟨code, rfl⟩ := exists_code (Nat.lt_succ_of_le (gap_bound h))
    exact hcodes code h
  · have hspaces : spaces.all isGap = true := by decide
    exact List.all_eq_true.1 hspaces c

theorem digitValue?_facts {c : Char} {value : Nat} (h : digitValue? c = some value) :
    c ∈ digits ∧ c ∉ spaces ∧ value < 16 ∧ digitChar value = c.toLower := by
  have hcodes : ∀ code : Fin 103, ∀ value ∈ digitValue? (Char.ofNat code), Char.ofNat code ∈ digits ∧
      Char.ofNat code ∉ spaces ∧ value < 16 ∧ digitChar value = (Char.ofNat code).toLower := by decide
  obtain ⟨code, rfl⟩ := exists_code (Nat.lt_succ_of_le (digit_bounds h).2)
  exact hcodes code value h

theorem exists_digitValue? {c : Char} (h : c ∈ digits) : ∃ value, digitValue? c = some value := by
  have hdigits : digits.all (fun digit => (digitValue? digit).isSome) = true := by decide
  exact Option.isSome_iff_exists.1 (List.all_eq_true.1 hdigits c h)

theorem digitChar_mem {value : Nat} (h : value < 16) : digitChar value ∈ lowerDigits := by
  have hvalues : ∀ value : Fin 16, digitChar value ∈ lowerDigits := by decide
  exact hvalues ⟨value, h⟩

theorem Spells.pairs {text : List Char} {bytes : List UInt8} (h : Spells text bytes) : Pairs bytes.length text := by
  induction h with
  | nil => exact .nil
  | gap hgap _ ih => exact .space (isGap_iff.1 hgap) ih
  | pair hhigh hlow _ ih => exact .pair (digitValue?_facts hhigh).1 (digitValue?_facts hlow).1 ih

theorem Pairs.exists_spells {count : Nat} {text : List Char} (h : Pairs count text) :
    ∃ bytes, Spells text bytes ∧ bytes.length = count := by
  induction h with
  | nil => exact ⟨[], .nil, rfl⟩
  | space hspace _ ih =>
    obtain ⟨bytes, hspells, hlength⟩ := ih
    exact ⟨bytes, .gap (isGap_iff.2 hspace) hspells, hlength⟩
  | pair hc hd _ ih =>
    obtain ⟨bytes, hspells, hlength⟩ := ih
    obtain ⟨high, hhigh⟩ := exists_digitValue? hc
    obtain ⟨low, hlow⟩ := exists_digitValue? hd
    exact ⟨_ :: bytes, .pair hhigh hlow hspells, congrArg Nat.succ hlength⟩

theorem compact_space {c : Char} (h : c ∈ spaces) (text : List Char) : compact (c :: text) = compact text := by
  rw [compact, List.filter_cons_of_neg (by simpa using h)]
  rfl

theorem compact_digit {c : Char} (h : c ∉ spaces) (text : List Char) :
    compact (c :: text) = c.toLower :: compact text := by
  rw [compact, List.filter_cons_of_pos (by simpa using h)]
  rfl

theorem encodeByte_ofNat {high low : Nat} (hhigh : high < 16) (hlow : low < 16) :
    encodeByte (UInt8.ofNat (16 * high + low)) = [digitChar high, digitChar low] := by
  have hbound : 16 * high + low < 2 ^ 8 := by omega
  have hbyte : (UInt8.ofNat (16 * high + low)).toNat = 16 * high + low := UInt8.toNat_ofNat_of_lt' hbound
  rw [encodeByte, hbyte, show (16 * high + low) / 16 = high by omega, show (16 * high + low) % 16 = low by omega]

/-- Writing the bytes that a text spells leaves out its white space and its upper case. -/
theorem Spells.encode_eq {text : List Char} {bytes : List UInt8} (h : Spells text bytes) :
    encode bytes = compact text := by
  induction h with
  | nil => rfl
  | gap hgap _ ih => rw [ih, compact_space (isGap_iff.1 hgap)]
  | pair hc hd _ ih =>
    obtain ⟨-, hcspace, hhigh, hcvalue⟩ := digitValue?_facts hc
    obtain ⟨-, hdspace, hlow, hdvalue⟩ := digitValue?_facts hd
    rw [compact_digit hcspace, compact_digit hdspace, ← ih, ← hcvalue, ← hdvalue, encode, List.flatMap_cons,
      encodeByte_ofNat hhigh hlow]
    rfl

theorem length_encode (bytes : List UInt8) : (encode bytes).length = 2 * bytes.length := by
  induction bytes with
  | nil => rfl
  | cons byte rest ih =>
    change (encode rest).length + 2 = 2 * (rest.length + 1)
    omega

theorem encode_lower {bytes : List UInt8} : ∀ c ∈ encode bytes, c ∈ lowerDigits := by
  intro c hc
  obtain ⟨byte, -, hbyte⟩ := List.mem_flatMap.1 hc
  obtain ⟨hhigh, hlow, -⟩ := halves byte
  rcases List.mem_cons.1 hbyte with rfl | hbyte
  · exact digitChar_mem hhigh
  · rw [List.mem_singleton.1 hbyte]
    exact digitChar_mem hlow

theorem decode_eq_error {text : List Char} {position : Nat} (h : decode text = .error position) (count : Nat) :
    ¬ Pairs count text := by
  intro hpairs
  obtain ⟨bytes, hspells, -⟩ := hpairs.exists_spells
  rw [decode_eq_ok.2 hspells] at h
  cases h

end Text.Hex

open Text.Hex

namespace Digest

theorem exists_ofHex_iff {text : String} : (∃ digest, ofHex text = .ok digest) ↔ Pairs 32 text.toList := by
  constructor
  · rintro ⟨digest, h⟩
    have hpairs := (ofHex_eq_ok.1 h).pairs
    rwa [digest.length_bytes] at hpairs
  · intro h
    obtain ⟨bytes, hspells, hlength⟩ := h.exists_spells
    exact ⟨⟨bytes, hlength⟩, ofHex_eq_ok.2 hspells⟩

theorem toHex_of_ofHex {text : String} {digest : Digest} (h : ofHex text = .ok digest) :
    digest.toHex = String.ofList (compact text.toList) := by
  rw [toHex, (ofHex_eq_ok.1 h).encode_eq]

theorem toHex_injective : Function.Injective toHex := by
  intro digest other h
  have hread := digest.ofHex_encode
  rw [h, other.ofHex_encode] at hread
  exact (Except.ok.inj hread).symm

theorem ofBytes_eq_error {bytes : List UInt8} {error : Error} (h : ofBytes bytes = .error error) :
    error = .wrongLength bytes.length ∧ bytes.length ≠ 32 := by
  unfold ofBytes at h
  split at h
  · cases h
  · exact ⟨(Except.error.inj h).symm, ‹_›⟩

theorem ofHex_eq_error {text : String} {error : Error} (h : ofHex text = .error error) :
    (∃ position, error = .notHex position ∧ ∀ count, ¬ Pairs count text.toList) ∨
      ∃ count, error = .wrongLength count ∧ Pairs count text.toList ∧ count ≠ 32 := by
  unfold ofHex at h
  cases hdecode : decode text.toList with
  | error position =>
    rw [hdecode] at h
    exact .inl ⟨position, (Except.error.inj h).symm, decode_eq_error hdecode⟩
  | ok bytes =>
    rw [hdecode] at h
    obtain ⟨herror, hlength⟩ := ofBytes_eq_error h
    exact .inr ⟨bytes.length, herror, (decode_eq_ok.1 hdecode).pairs, hlength⟩

end Digest

namespace Schema
open Json (Value)

/-- The check alone, which passes a text as it stands. -/
def digestText : Decoder String
  | .string text => match decode text.toList with
    | .error _ => complain (.badDigest text)
    | .ok bytes => if bytes.length = 32 then .valid text else complain (.digestLength bytes.length)
  | _ => complain .notString

theorem digestText_string (text : String) : digestText (.string text) = match Digest.ofHex text with
    | .ok _ => .valid text
    | .error (.notHex _) => complain (.badDigest text)
    | .error (.wrongLength length) => complain (.digestLength length) := by
  rw [digestText, Digest.ofHex]
  cases decode text.toList with
  | error position => rfl
  | ok bytes =>
    dsimp only
    unfold Digest.ofBytes
    split <;> rfl

theorem digestText_eq_valid {value : Value} {text : String} :
    digestText value = .valid text ↔ value = .string text ∧ ∃ digest, Digest.ofHex text = .ok digest := by
  cases value with
  | string found =>
    rw [Value.string.injEq, digestText_string]
    constructor
    · intro h
      cases hread : Digest.ofHex found with
      | ok digest =>
        rw [hread] at h
        cases h
        exact ⟨rfl, digest, hread⟩
      | error error =>
        rw [hread] at h
        cases error <;> cases h
    · rintro ⟨rfl, digest, hread⟩
      rw [hread]
  | _ => simp [digestText, complain]

/-- Checking and decoding at once comes to checking the text first and decoding it later. -/
theorem digest_eq_valid_iff {value : Value} {digest : Digest} :
    Schema.digest value = .valid digest ↔
      ∃ text, digestText value = .valid text ∧ Digest.ofHex text = .ok digest := by
  simp only [decodes_digest value digest, IsDigest, ← Digest.ofHex_eq_ok, digestText_eq_valid]
  constructor
  · rintro ⟨text, rfl, hread⟩
    exact ⟨text, ⟨rfl, digest, hread⟩, hread⟩
  · rintro ⟨text, ⟨rfl, -⟩, hread⟩
    exact ⟨text, rfl, hread⟩

theorem violations_digest (value : Value) : (Schema.digest value).violations = (digestText value).violations := by
  cases value with
  | string text =>
    rw [digestText_string, Schema.digest]
    cases Digest.ofHex text with
    | ok digest => rfl
    | error error => cases error <;> rfl
  | _ => rfl

end Schema

/-- A text is read as a digest if it is thirty-two pairs of digits, and the digest is then written as the compact text;
else reading fails, with the number of pairs if the text is pairs. Every digest is written as sixty-four lower-case
digits that are read as that digest and no other. The check of reports passes the texts that can be read, which it
leaves to be decoded, and refuses the others. -/
theorem hex_digests_exact :
    (∀ text, (∃ digest, Digest.ofHex text = .ok digest) ↔ Pairs 32 text.toList) ∧
    (∀ text digest, Digest.ofHex text = .ok digest → digest.toHex = String.ofList (compact text.toList)) ∧
    (∀ text error, Digest.ofHex text = .error error →
      (∃ position, error = .notHex position ∧ ∀ count, ¬ Pairs count text.toList) ∨
        ∃ count, error = .wrongLength count ∧ Pairs count text.toList ∧ count ≠ 32) ∧
    (∀ digest : Digest, Digest.ofHex digest.toHex = .ok digest ∧ digest.toHex.toList.length = 64 ∧
      ∀ c ∈ digest.toHex.toList, c ∈ lowerDigits) ∧
    Function.Injective Digest.toHex ∧
    (∀ value text, Schema.digestText value = .valid text ↔
      value = .string text ∧ ∃ digest, Digest.ofHex text = .ok digest) ∧
    (∀ value digest, Schema.digest value = .valid digest ↔
      ∃ text, Schema.digestText value = .valid text ∧ Digest.ofHex text = .ok digest) ∧
    ∀ value, (Schema.digest value).violations = (Schema.digestText value).violations := by
  refine ⟨fun _ => Digest.exists_ofHex_iff, fun _ _ => Digest.toHex_of_ofHex, fun _ _ => Digest.ofHex_eq_error, ?_,
    Digest.toHex_injective, fun _ _ => Schema.digestText_eq_valid, fun _ _ => Schema.digest_eq_valid_iff,
    Schema.violations_digest⟩
  intro digest
  refine ⟨digest.ofHex_encode, ?_, ?_⟩
  · rw [Digest.toHex, String.toList_ofList, length_encode, digest.length_bytes]
  · rw [Digest.toHex, String.toList_ofList]
    exact encode_lower

theorem hex_digests_exact_spaced :
    (∃ digest, Digest.ofHex "\t0A fF\n000000000000000000000000000000000000000000000000000000000000 " = .ok digest ∧
      digest.toHex = "0aff000000000000000000000000000000000000000000000000000000000000") ∧
    Digest.ofHex "0 0" = .error (.notHex 1) ∧ ∀ count, ¬ Pairs count "0 0".toList := by
  obtain ⟨-, hwritten, hrefused, -⟩ := hex_digests_exact
  have hread : Digest.ofHex "\t0A fF\n000000000000000000000000000000000000000000000000000000000000 " =
      .ok ⟨10 :: 255 :: List.replicate 30 0, rfl⟩ := by decide +kernel
  have herror : Digest.ofHex "0 0" = .error (.notHex 1) := by decide +kernel
  refine ⟨⟨_, hread, (hwritten _ _ hread).trans (by decide +kernel)⟩, herror, ?_⟩
  rcases hrefused _ _ herror with ⟨-, -, hpairs⟩ | ⟨_, ⟨⟩, -⟩
  exact hpairs

end GuestForge
