import GuestForge.ImageId
set_option autoImplicit false

/-!
# Digests as texts

Reading the digits of a digest gives the digest back.
-/
namespace GuestForge

namespace Text.Hex

theorem digit_facts (n : Nat) (h : n < 16) :
    digitValue? (digitChar n) = some n ∧ isGap (digitChar n) = false ∧ (digitChar n).toNat < 128 := by
  have hall : ∀ i : Fin 16, digitValue? (digitChar i) = some i.val ∧ isGap (digitChar i) = false ∧
      (digitChar i).toNat < 128 := by decide
  exact hall ⟨n, h⟩

theorem halves (byte : UInt8) : byte.toNat / 16 < 16 ∧ byte.toNat % 16 < 16 ∧
    UInt8.ofNat (16 * (byte.toNat / 16) + byte.toNat % 16) = byte := by
  have hbound : byte.toNat < 256 := byte.toNat_lt
  have hsum : 16 * (byte.toNat / 16) + byte.toNat % 16 = byte.toNat := by omega
  rw [hsum]
  exact ⟨by omega, by omega, UInt8.ofNat_toNat⟩

theorem decodeFrom_encode (bytes : List UInt8) (position : Nat) :
    decodeFrom position (encode bytes) = .ok bytes := by
  induction bytes generalizing position with
  | nil => rfl
  | cons byte rest ih =>
    obtain ⟨hhigh, hlow, hbyte⟩ := halves byte
    obtain ⟨hvalue, hgap, -⟩ := digit_facts _ hhigh
    obtain ⟨hvalue', -, -⟩ := digit_facts _ hlow
    change decodeFrom position
      (digitChar (byte.toNat / 16) :: digitChar (byte.toNat % 16) :: encode rest) = _
    rw [decodeFrom]
    simp only [hgap, hvalue, hvalue', ih]
    simp [Except.map, hbyte]

theorem decode_encode (bytes : List UInt8) : decode (encode bytes) = .ok bytes := by
  have hascii : (encode bytes).findIdx? (fun c => 128 ≤ c.toNat) = none := by
    rw [List.findIdx?_eq_none_iff]
    intro c hc
    obtain ⟨byte, -, hdigit⟩ := List.mem_flatMap.1 hc
    obtain ⟨hhigh, hlow, -⟩ := halves byte
    rw [decide_eq_false_iff_not, Nat.not_le]
    rcases List.mem_cons.1 hdigit with rfl | hdigit
    · exact (digit_facts _ hhigh).2.2
    · rw [List.mem_singleton.1 hdigit]
      exact (digit_facts _ hlow).2.2
  rw [decode, hascii]
  exact decodeFrom_encode bytes 0

/-- The characters spell the bytes: two digits a byte, and gaps around pairs. -/
inductive Spells : List Char → List UInt8 → Prop
  | nil : Spells [] []
  | gap {c : Char} {text : List Char} {bytes : List UInt8} : isGap c = true → Spells text bytes →
      Spells (c :: text) bytes
  | pair {c d : Char} {high low : Nat} {text : List Char} {bytes : List UInt8} : digitValue? c = some high →
      digitValue? d = some low → Spells text bytes → Spells (c :: d :: text) (UInt8.ofNat (16 * high + low) :: bytes)

theorem digit_bounds {c : Char} {n : Nat} (h : digitValue? c = some n) : 48 ≤ c.toNat ∧ c.toNat ≤ 102 := by
  unfold digitValue? at h
  simp only [Char.le_def, UInt32.le_iff_toNat_le] at h
  change _ ≤ c.val.toNat ∧ c.val.toNat ≤ _
  split at h
  · rename_i hc
    exact ⟨hc.1, Nat.le_trans hc.2 (by decide)⟩
  · split at h
    · rename_i hc
      exact ⟨Nat.le_trans (by decide) hc.1, hc.2⟩
    · split at h
      · rename_i hc
        exact ⟨Nat.le_trans (by decide) hc.1, Nat.le_trans hc.2 (by decide)⟩
      · cases h

theorem gap_bound {c : Char} (h : isGap c = true) : c.toNat ≤ 32 := by
  rw [isGap, Bool.or_eq_true, beq_iff_eq, Bool.and_eq_true, decide_eq_true_eq, decide_eq_true_eq] at h
  rcases h with rfl | ⟨-, hc⟩
  · decide
  · exact Nat.le_trans hc (by decide)

theorem isGap_eq_false {c : Char} {n : Nat} (h : digitValue? c = some n) : ¬ isGap c = true := by
  intro hgap
  have hlow := (digit_bounds h).1
  have hhigh := gap_bound hgap
  omega

theorem decodeFrom_eq_ok {position : Nat} {text : List Char} {bytes : List UInt8} :
    decodeFrom position text = .ok bytes ↔ Spells text bytes := by
  constructor
  · intro h
    induction position, text using decodeFrom.induct generalizing bytes with
    | case1 =>
      cases h
      exact .nil
    | case2 position c hgap =>
      rw [decodeFrom, if_pos hgap] at h
      cases h
      exact .gap hgap .nil
    | case3 position c hgap hvalue => simp [decodeFrom, hgap, hvalue] at h
    | case4 position c hgap value hvalue => simp [decodeFrom, hgap, hvalue] at h
    | case5 position c d rest hgap ih =>
      rw [decodeFrom, if_pos hgap] at h
      exact .gap hgap (ih h)
    | case6 position c d rest hgap hvalue => simp [decodeFrom, hgap, hvalue] at h
    | case7 position c d rest hgap high hvalue hhigh => simp [decodeFrom, hgap, hhigh, hvalue] at h
    | case8 position c d rest hgap high low hlow hhigh ih =>
      simp only [decodeFrom, hgap, hhigh, hlow] at h
      cases hrest : decodeFrom (position + 2) rest with
      | error blamed =>
        rw [hrest] at h
        cases h
      | ok others =>
        rw [hrest] at h
        cases h
        exact .pair hhigh hlow (ih hrest)
  · intro h
    induction h generalizing position with
    | nil => rfl
    | @gap c text bytes hgap hrest ih =>
      cases text with
      | nil =>
        cases hrest
        rw [decodeFrom, if_pos hgap]
      | cons d rest => rw [decodeFrom, if_pos hgap, ih]
    | pair hhigh hlow _ ih => simp [decodeFrom, isGap_eq_false hhigh, hhigh, hlow, ih, Except.map]

theorem Spells.ascii {text : List Char} {bytes : List UInt8} (h : Spells text bytes) : ∀ c ∈ text, c.toNat < 128 := by
  induction h with
  | nil => exact fun c hc => nomatch hc
  | gap hgap _ ih =>
    have hbound := gap_bound hgap
    exact List.forall_mem_cons.2 ⟨by omega, ih⟩
  | pair hhigh hlow _ ih =>
    have hhigh := digit_bounds hhigh
    have hlow := digit_bounds hlow
    exact List.forall_mem_cons.2 ⟨by omega, List.forall_mem_cons.2 ⟨by omega, ih⟩⟩

/-- What `decode` reads, with no mention of how it goes about it. -/
theorem decode_eq_ok {text : List Char} {bytes : List UInt8} : decode text = .ok bytes ↔ Spells text bytes := by
  have hdecode : decodeFrom 0 text = .ok bytes ↔ Spells text bytes := decodeFrom_eq_ok
  rw [← hdecode, decode]
  cases hblamed : text.findIdx? (fun c => 128 ≤ c.toNat) with
  | none => exact Iff.rfl
  | some position =>
    constructor
    · intro h
      cases h
    · intro h
      obtain ⟨hposition, hc, -⟩ := List.findIdx?_eq_some_iff_getElem.1 hblamed
      have hascii := (decodeFrom_eq_ok.1 h).ascii _ (List.getElem_mem hposition)
      exact absurd (of_decide_eq_true hc) (Nat.not_le.2 hascii)

end Text.Hex

theorem Digest.ofHex_eq_ok {text : String} {digest : Digest} :
    Digest.ofHex text = .ok digest ↔ Text.Hex.Spells text.toList digest.bytes := by
  rw [← Text.Hex.decode_eq_ok, Digest.ofHex]
  cases Text.Hex.decode text.toList with
  | error position => simp
  | ok bytes =>
    by_cases hlength : bytes.length = 32
    · cases digest
      simp [Digest.ofBytes, hlength]
    · have hne : bytes ≠ digest.bytes := by
        rintro rfl
        exact hlength digest.length_bytes
      simp [Digest.ofBytes, hlength, hne]

theorem Digest.ofHex_encode (digest : Digest) : Digest.ofHex digest.toHex = .ok digest := by
  rw [Digest.ofHex, Digest.toHex, String.toList_ofList, Text.Hex.decode_encode]
  exact dif_pos digest.length_bytes

end GuestForge
