import Bip32Codec.RoundTrip
import Bip32Codec.Separation

/-! # The text of an extended key

`xpriv_to_base58` / `xpub_to_base58` write the 78-byte layout, append the 4-byte checksum and
Base58-encode the 82 bytes. The version constant leads those bytes, so it fixes the leading
digits of the number Base58 writes out: every key of one network, key type and hint gets a text
of the same length that starts with the same four characters (`xprv` for a mainnet BIP32
private key, `vpub` for a testnet BIP84 public key, …), whatever its other fields and whatever
the checksum.

* `toDigitsBE_pow_mul_add` — the base-`b` numeral of `b ^ k * q + r` with `r < b ^ k` is the
  numeral of `q`, then zeros, then the numeral of `r`, the last two filling exactly `k` places;
* `bs58Encode_of_div_eq` — bytes with no leading zero whose value has quotient `q` by `58 ^ k`
  encode to the digits of `q` followed by exactly `k` characters;
* `SpellsPrefix v pre` — the facts about a version constant `v` (checked by `decide` on the twelve
  constants, `KeyDecoder.spellsPrefix`) that make every 82-byte payload it leads encode to
  111 characters starting with `pre` (`bs58Encode_u32ToBeBytes_append`);
* **`KeyKind.toBase58_text`** — so the text form of every key of either kind starts with the
  prefix its network's constant spells; **`xpriv_text_form`** / **`xpub_text_form`** state this
  for every key on `Main` and `Test`. -/

namespace Bip32Codec

/-! ## Numerals split at a power of the base -/

/-- Bytes read as a base-256 numeral denote less than `256 ^ length`. -/
theorem ofDigitsBE_bytes_lt (data : List UInt8) :
    ofDigitsBE 256 (data.map UInt8.toNat) < 256 ^ data.length := by
  have h := @Nat.ofDigits_lt_base_pow_length 256 (data.map UInt8.toNat).reverse (by norm_num)
    (by simpa using fun b _ => byte_toNat_lt b)
  simpa [ofDigitsBE] using h

/-- The four big-endian bytes of `v` denote `v`. -/
@[simp] theorem ofDigitsBE_u32ToBeBytes (v : UInt32) :
    ofDigitsBE 256 ((u32ToBeBytes v).toList.map UInt8.toNat) = v.toNat := by
  have hv := v.toNat_lt_size
  simp only [UInt32.size] at hv
  simp only [ofDigitsBE, u32ToBeBytes, List.map, List.reverse_cons, List.reverse_nil,
    List.nil_append, List.cons_append, Nat.ofDigits_cons, Nat.ofDigits_nil, byte_toNat_ofNat,
    Nat.cast_id]
  omega

/-- **Splitting a numeral**: the digits of `b ^ k * q + r`, for `0 < q` and `r < b ^ k`, are those
of `q`, then zeros, then those of `r`, the last two filling exactly `k` places. -/
theorem toDigitsBE_pow_mul_add {b k q r : Nat} (hb : 1 < b) (hq : 0 < q) (hr : r < b ^ k) :
    toDigitsBE b (b ^ k * q + r) =
      toDigitsBE b q ++ List.replicate (k - (toDigitsBE b r).length) 0 ++ toDigitsBE b r := by
  have hlen := length_digits_le hb hr
  have h := @Nat.digits_append_zeroes_append_digits b (k - (Nat.digits b r).length) q r hb hq
  rw [Nat.add_sub_of_le hlen, Nat.add_comm] at h
  simp only [toDigitsBE, List.length_reverse, ← h, List.reverse_append, List.reverse_replicate,
    List.append_assoc]

/-! ## The Base58 text of a payload -/

/-- **Base58 text by quotient**: bytes with no leading zero, whose value has quotient `q > 0` by
`58 ^ k`, encode to the digits of `q` followed by exactly `k` characters. -/
theorem bs58Encode_of_div_eq {data : List UInt8} {k q : Nat}
    (hz : leadingZeros (data.map UInt8.toNat) = 0) (hq : 0 < q)
    (hdiv : ofDigitsBE 256 (data.map UInt8.toNat) / 58 ^ k = q) :
    (bs58Encode data).length = (toDigitsBE 58 q).length + k ∧
      (toDigitsBE 58 q).map b58Char <+: (bs58Encode data).data := by
  set N := ofDigitsBE 256 (data.map UInt8.toNat)
  have hr : N % 58 ^ k < 58 ^ k := Nat.mod_lt N (Nat.pos_pow_of_pos k (by norm_num))
  have hsplit : toDigitsBE 58 N = toDigitsBE 58 q ++
      List.replicate (k - (toDigitsBE 58 (N % 58 ^ k)).length) 0 ++ toDigitsBE 58 (N % 58 ^ k) := by
    rw [← toDigitsBE_pow_mul_add (by norm_num) hq hr, ← hdiv, Nat.div_add_mod]
  have hlen : (toDigitsBE 58 (N % 58 ^ k)).length ≤ k := by
    simpa [toDigitsBE] using length_digits_le (by norm_num) hr
  have hrec : bs58Encode data = ⟨(toDigitsBE 58 N).map b58Char⟩ := by
    simp only [bs58Encode, recode, hz, List.replicate_zero, List.nil_append]
  rw [hrec, hsplit]
  refine ⟨?_, ?_⟩
  · show (List.map _ _).length = _
    simp only [List.length_map, List.length_append, List.length_replicate]
    omega
  · simp only [List.map_append, List.append_assoc]
    exact List.prefix_append _ _

/-- **What a version constant spells.** The top byte of `v` is nonzero, every number in
`[v * 256 ^ 78, (v + 1) * 256 ^ 78)` has the same quotient by `58 ^ 107`, and that quotient is the
number whose Base58 digits are the four characters `pre`. -/
structure SpellsPrefix (v : UInt32) (pre : String) : Prop where
  /-- The payload starts with a nonzero byte, so its text has no leading `'1'`. -/
  top_ne_zero : v.toNat >>> 24 ≠ 0
  /-- The last number that starts with `v` has the same quotient as the first. -/
  quotient_last : (v.toNat + 1) * 256 ^ 78 ≤ 58 ^ 107 * (v.toNat * 256 ^ 78 / 58 ^ 107 + 1)
  /-- The quotient is the number `pre` denotes. -/
  quotient_eq : v.toNat * 256 ^ 78 / 58 ^ 107 = ofDigitsBE 58 (pre.data.map b58Digit)
  /-- `pre` is written in the alphabet. -/
  mem_alphabet : ∀ c ∈ pre.data, c ∈ b58Alphabet
  /-- `pre` does not start with `'1'`, the zero digit. -/
  leadingZeros_eq : leadingZeros (pre.data.map b58Digit) = 0
  /-- `pre` has four characters. -/
  length_eq : pre.length = 4

/-- The numeral of 82 bytes that start with the big-endian bytes of `v` has no leading zero
when `v`'s top byte is not zero. -/
theorem leadingZeros_u32ToBeBytes_append {v : UInt32} (htop : v.toNat >>> 24 ≠ 0)
    (rest : List UInt8) :
    leadingZeros (((u32ToBeBytes v).toList ++ rest).map UInt8.toNat) = 0 := by
  have hv := v.toNat_lt_size
  simp only [UInt32.size] at hv
  simp [leadingZeros, u32ToBeBytes, List.takeWhile_cons]
  omega

/-- **The text of a versioned payload**: 4 version bytes spelling `pre` and any 78 more bytes
encode to 111 characters starting with `pre`. -/
theorem bs58Encode_u32ToBeBytes_append {v : UInt32} {pre : String} (h : SpellsPrefix v pre)
    {rest : List UInt8} (hrest : rest.length = 78) :
    (bs58Encode ((u32ToBeBytes v).toList ++ rest)).length = 111 ∧
      pre.data <+: (bs58Encode ((u32ToBeBytes v).toList ++ rest)).data := by
  obtain ⟨htop, hhi, hq_eq, hmem, hz, hlen⟩ := h
  set q := v.toNat * 256 ^ 78 / 58 ^ 107
  have hdigits : toDigitsBE 58 q = pre.data.map b58Digit := by
    rw [hq_eq]
    exact toDigitsBE_ofDigitsBE (by norm_num) (by simpa using fun c hc => b58Digit_lt (hmem c hc)) hz
  have hpre : (toDigitsBE 58 q).map b58Char = pre.data := by
    rw [hdigits, List.map_map]
    exact (List.map_congr_left fun c hc => b58Char_b58Digit (hmem c hc)).trans (List.map_id _)
  have hM := ofDigitsBE_bytes_lt rest
  have hN : ofDigitsBE 256 (((u32ToBeBytes v).toList ++ rest).map UInt8.toNat) =
      v.toNat * 256 ^ 78 + ofDigitsBE 256 (rest.map UInt8.toNat) := by
    rw [List.map_append, ofDigitsBE_append, ofDigitsBE_u32ToBeBytes, List.length_map, hrest]
  have hpl : (toDigitsBE 58 q).length = 4 := by rw [hdigits, List.length_map]; exact hlen
  have hq : 0 < q := Nat.pos_of_ne_zero fun h0 => by simp [h0, toDigitsBE] at hpl
  have hdiv : ofDigitsBE 256 (((u32ToBeBytes v).toList ++ rest).map UInt8.toNat) / 58 ^ 107 = q := by
    rw [hN]
    rw [hrest] at hM
    apply Nat.div_eq_of_lt_le
    · exact (Nat.div_mul_le_self _ _).trans (Nat.le_add_right _ _)
    · calc v.toNat * 256 ^ 78 + _ < (v.toNat + 1) * 256 ^ 78 := by rw [Nat.succ_mul]; omega
        _ ≤ 58 ^ 107 * (q + 1) := hhi
        _ = (q + 1) * 58 ^ 107 := Nat.mul_comm _ _
  obtain ⟨hl, hp⟩ := bs58Encode_of_div_eq (leadingZeros_u32ToBeBytes_append htop rest) hq hdiv
  rw [hpre] at hp
  exact ⟨by rw [hl, hpl], hp⟩

/-! ## The twelve constants -/

namespace KeyDecoder

/-- The four characters a decoder's version constants are chosen to put in front of the text
of a key, by hint: the BIP32 prefixes `xprv` / `xpub` (testnet `tprv` / `tpub`), BIP49's `y…`
(`u…`) and BIP84's `z…` (`v…`). -/
def textPrefix : KeyDecoder → Hint → String
  | mainnetXpriv, .legacy => "xprv"
  | mainnetXpriv, .compatibility => "yprv"
  | mainnetXpriv, .segWit => "zprv"
  | mainnetXpub, .legacy => "xpub"
  | mainnetXpub, .compatibility => "ypub"
  | mainnetXpub, .segWit => "zpub"
  | testnetXpriv, .legacy => "tprv"
  | testnetXpriv, .compatibility => "uprv"
  | testnetXpriv, .segWit => "vprv"
  | testnetXpub, .legacy => "tpub"
  | testnetXpub, .compatibility => "upub"
  | testnetXpub, .segWit => "vpub"

/-- Each of the twelve constants spells its prefix. -/
theorem spellsPrefix (d : KeyDecoder) (hint : Hint) :
    SpellsPrefix (d.versions.forHint hint) (d.textPrefix hint) := by
  cases d <;> cases hint <;> exact ⟨by decide, by decide, by decide, by decide, by decide, rfl⟩

end KeyDecoder

/-! ## The text of every key -/

variable {B : Secp256k1Backend} (hash256 : List UInt8 → Bytes 32)

/-- Four version bytes spelling `pre` and any 74 more bytes have a Base58Check text of 111
characters that starts with `pre`, whatever the checksum. -/
theorem encodeB58Check_u32ToBeBytes_append {v : UInt32} {pre : String} (h : SpellsPrefix v pre)
    {body : List UInt8} (hbody : body.length = 74) :
    (encodeB58Check hash256 ((u32ToBeBytes v).toList ++ body)).length = 111 ∧
      pre.data <+: (encodeB58Check hash256 ((u32ToBeBytes v).toList ++ body)).data := by
  rw [encodeB58Check, List.append_assoc]
  exact bs58Encode_u32ToBeBytes_append h (by simp [hbody])

/-- **The text of a key of any kind**: on a network whose constants for the kind are a decoder's,
the text form of every key is 111 characters that start with the decoder's prefix for the key's
hint. -/
theorem KeyKind.toBase58_text (K : KeyKind B) {P : NetworkParams} {d : KeyDecoder}
    (hd : K.versions P = d.versions) (k : K.Key) :
    ∃ s, K.toBase58 hash256 P k = .ok s ∧ s.length = 111 ∧
      (d.textPrefix (K.info k).hint).data <+: s.data := by
  refine ⟨_, K.toBase58_eq hash256 P k, ?_⟩
  rw [K.layout_eq_append, hd]
  exact encodeB58Check_u32ToBeBytes_append hash256 (d.spellsPrefix _) (by simp [K.length_keyBytes])

/-- **The text of every private key**: on `Main` and on `Test`, `xpriv_to_base58` returns 111
characters that start with the prefix of the network and the key's hint (`xprv`, `yprv`, `zprv`;
`tprv`, `uprv`, `vprv`), whatever the key's other fields and its checksum. -/
theorem xpriv_text_form (k : GenericXPriv B) :
    (∃ s, xprivToBase58 hash256 Main k = .ok s ∧ s.length = 111 ∧
      (KeyDecoder.mainnetXpriv.textPrefix k.info.hint).data <+: s.data) ∧
    (∃ s, xprivToBase58 hash256 Test k = .ok s ∧ s.length = 111 ∧
      (KeyDecoder.testnetXpriv.textPrefix k.info.hint).data <+: s.data) :=
  ⟨@KeyKind.toBase58_text _ hash256 (xprivKind B) Main .mainnetXpriv rfl k,
    @KeyKind.toBase58_text _ hash256 (xprivKind B) Test .testnetXpriv rfl k⟩

/-- **The text of every public key**: on `Main` and on `Test`, `xpub_to_base58` returns 111
characters that start with the prefix of the network and the key's hint (`xpub`, `ypub`, `zpub`;
`tpub`, `upub`, `vpub`), whatever the key's other fields and its checksum. -/
theorem xpub_text_form (k : GenericXPub B) :
    (∃ s, xpubToBase58 hash256 Main k = .ok s ∧ s.length = 111 ∧
      (KeyDecoder.mainnetXpub.textPrefix k.info.hint).data <+: s.data) ∧
    (∃ s, xpubToBase58 hash256 Test k = .ok s ∧ s.length = 111 ∧
      (KeyDecoder.testnetXpub.textPrefix k.info.hint).data <+: s.data) :=
  ⟨@KeyKind.toBase58_text _ hash256 (xpubKind B) Main .mainnetXpub rfl k,
    @KeyKind.toBase58_text _ hash256 (xpubKind B) Test .testnetXpub rfl k⟩

end Bip32Codec
