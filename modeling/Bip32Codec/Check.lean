import Bip32Codec.Base58

/-! # Base58Check

`decode_b58_check` / `encode_b58_check` (§4.1): the payload, followed by the first four bytes of
its `Hash256` digest, in Base58. The hash is an external collaborator, so every result here holds
for every function `hash256` standing in for it.

`decode_b58_check` computes `data.len() - 4` on `usize` with no guard, so it is modelled with an
`Option` outcome: `none` is a panic. The results:

* **`decodeB58Check_encodeB58Check`** — every payload decodes back from its encoding;
* **`encodeB58Check_decodeB58Check`** — every string that decodes is the encoding of its payload;
* **`decodeB58Check_wrong_checksum`** — a payload followed by four bytes other than its checksum
  is rejected with `BadB58Checksum`;
* **`decodeB58Check_eq_none_iff`** — the decoder panics exactly on Base58 text of fewer than
  four bytes. -/

namespace Bip32Codec

/-- `a - b` on `usize`, as a debug build runs it: `none` is the panic "attempt to subtract with
overflow". (A release build wraps instead, and the slice `&data[..idx]` that follows panics.) -/
def usizeSub (a b : Nat) : Option Nat := if b ≤ a then some (a - b) else none

@[simp] theorem usizeSub_eq_none {a b : Nat} : usizeSub a b = none ↔ a < b := by
  unfold usizeSub; split <;> simp <;> omega

/-- A hash function standing in for `Hash256` in concrete runs: every digest is zero. -/
def zeroHash (_ : List UInt8) : Bytes 32 := Bytes.zero 32

section Checksum

variable (hash256 : List UInt8 → Bytes 32)

/-- The first four bytes of `Hash256::digest(payload)`. -/
def b58Checksum (payload : List UInt8) : Bytes 4 :=
  ⟨(hash256 payload).toList.take 4,
    List.length_take_of_le (by rw [(hash256 payload).length_toList]; decide)⟩

/-- `encode_b58_check`: the payload with its checksum appended, in Base58. -/
def encodeB58Check (v : List UInt8) : String :=
  bs58Encode (v ++ (b58Checksum hash256 v).toList)

/-- `decode_b58_check`: `none` is a panic; otherwise the payload, or the error. -/
def decodeB58Check (s : String) : Option (Except Bip32Error (List UInt8)) :=
  match bs58Decode s with
  | .error e => some (.error e)
  | .ok data => (usizeSub data.length 4).map fun idx =>
      let payload := data.take idx
      let checksum := data.drop idx
      if (b58Checksum hash256 payload).toList ≠ checksum then .error .badB58Checksum
      else .ok payload

/-- What `decode_b58_check` does once Base58 has produced `data`. -/
theorem decodeB58Check_of_bs58Decode {s : String} {data : List UInt8} (h : bs58Decode s = .ok data) :
    decodeB58Check hash256 s = (usizeSub data.length 4).map fun idx =>
      if (b58Checksum hash256 (data.take idx)).toList ≠ data.drop idx then .error .badB58Checksum
      else .ok (data.take idx) := by
  rw [decodeB58Check, h]

/-- **Base58Check round trip**: every payload decodes back from its encoding. -/
theorem decodeB58Check_encodeB58Check (v : List UInt8) :
    decodeB58Check hash256 (encodeB58Check hash256 v) = some (.ok v) := by
  rw [encodeB58Check, decodeB58Check_of_bs58Decode hash256 (bs58Decode_bs58Encode _), usizeSub,
    if_pos (by simp)]
  simp

/-- **Base58Check canonicity**: a string that decodes is the encoding of its payload. -/
theorem encodeB58Check_decodeB58Check {s : String} {payload : List UInt8}
    (h : decodeB58Check hash256 s = some (.ok payload)) : encodeB58Check hash256 payload = s := by
  cases hs : bs58Decode s with
  | error e => simp [decodeB58Check, hs] at h
  | ok data =>
    rw [decodeB58Check_of_bs58Decode hash256 hs] at h
    simp only [usizeSub, ne_eq, ite_not] at h
    split at h <;> simp only [Option.map_some', Option.map_none', Option.some.injEq,
      reduceCtorEq] at h
    split at h
    · next hcs =>
      cases h
      rw [encodeB58Check, hcs, List.take_append_drop]
      exact bs58Encode_bs58Decode hs
    · cases h

/-- **`decode_b58_check` panics exactly when** the text is Base58 for fewer than four bytes. -/
theorem decodeB58Check_eq_none_iff (s : String) :
    decodeB58Check hash256 s = none ↔ ∃ data, bs58Decode s = .ok data ∧ data.length < 4 := by
  cases hs : bs58Decode s with
  | error e => simp [decodeB58Check, hs]
  | ok data => simp [decodeB58Check_of_bs58Decode hash256 hs]

/-- `decode_b58_check` does not panic on a string of six or more characters. -/
theorem decodeB58Check_ne_none {s : String} (hs : 6 ≤ s.length) : decodeB58Check hash256 s ≠ none :=
  fun h => by
    obtain ⟨data, hd, hlt⟩ := (decodeB58Check_eq_none_iff hash256 s).mp h
    have := four_le_length_of_bs58Decode hd hs
    omega

/-- **A wrong checksum is rejected**: Base58 text of a payload followed by any four bytes other
than its checksum decodes to `BadB58Checksum`. -/
theorem decodeB58Check_wrong_checksum (v : List UInt8) (c : Bytes 4)
    (hc : c ≠ b58Checksum hash256 v) :
    decodeB58Check hash256 (bs58Encode (v ++ c.toList)) = some (.error .badB58Checksum) := by
  have hne : (b58Checksum hash256 v).toList ≠ c.toList := fun h => hc (Bytes.ext h).symm
  rw [decodeB58Check_of_bs58Decode hash256 (bs58Decode_bs58Encode _), usizeSub, if_pos (by simp)]
  simp [hne]

/-- Under the zero hash, the empty payload followed by four one bytes fails its checksum. -/
theorem decodeB58Check_wrong_checksum_ones :
    (⟨[1, 1, 1, 1], rfl⟩ : Bytes 4) ≠ b58Checksum zeroHash [] ∧
      decodeB58Check zeroHash (bs58Encode ([] ++ [1, 1, 1, 1])) = some (.error .badB58Checksum) :=
  have hc : (⟨[1, 1, 1, 1], rfl⟩ : Bytes 4) ≠ b58Checksum zeroHash [] := fun h => by
    cases congrArg Bytes.toList h
  ⟨hc, decodeB58Check_wrong_checksum zeroHash [] ⟨[1, 1, 1, 1], rfl⟩ hc⟩

/-- **Base58Check is a bijection** between byte vectors and the strings it accepts. -/
theorem b58_check_bijection :
    (∀ v : List UInt8, decodeB58Check hash256 (encodeB58Check hash256 v) = some (.ok v)) ∧
    (∀ (s : String) (p : List UInt8),
      decodeB58Check hash256 s = some (.ok p) → encodeB58Check hash256 p = s) :=
  ⟨decodeB58Check_encodeB58Check hash256, fun _ _ => encodeB58Check_decodeB58Check hash256⟩

/-- A stand-in for `Hash256` in concrete runs whose checksum depends on the payload: every digest
byte is the payload's length. -/
def lengthHash (payload : List UInt8) : Bytes 32 :=
  ⟨List.replicate 32 (UInt8.ofNat payload.length), List.length_replicate _ _⟩

/-- Under `lengthHash`, `"17bWUph"` is the Base58Check text of `[0, 1]`: the leading zero byte is
the leading `'1'`, and `6 34 29 27 47 40` are the base-58 digits of the bytes `1 2 2 2 2`, the
payload's last byte followed by its checksum `[2, 2, 2, 2]`. -/
theorem b58_check_bijection_17bWUph :
    decodeB58Check lengthHash "17bWUph" = some (.ok [0, 1]) ∧
      encodeB58Check lengthHash [0, 1] = "17bWUph" := by
  have hdigits : "17bWUph".data.map b58Digit = [0, 6, 34, 29, 27, 47, 40] := by decide
  have hrecode : recode 58 256 [0, 6, 34, 29, 27, 47, 40] = List.replicate 1 0 ++ [1, 2, 2, 2, 2] :=
    recode_eq_of_ofDigitsBE_eq (by norm_num) (by decide) (by decide) (by decide)
  have hdata : bs58Decode "17bWUph" = .ok [0, 1, 2, 2, 2, 2] := by
    rw [bs58Decode, if_pos (by decide), hdigits, hrecode]
    rfl
  have h : decodeB58Check lengthHash "17bWUph" = some (.ok [0, 1]) := by
    rw [decodeB58Check_of_bs58Decode lengthHash hdata]
    rfl
  exact ⟨h, (b58_check_bijection lengthHash).2 _ _ h⟩

end Checksum

end Bip32Codec
