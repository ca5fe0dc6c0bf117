import Bip32Codec.Primitives
import Mathlib.Data.Nat.Digits
import Mathlib.Data.List.GetD

/-! # Base58

The `bs58` crate that `decode_b58_check` / `encode_b58_check` call, with its default Bitcoin
alphabet: each leading zero byte becomes a leading `'1'`, and the bytes after them, read as a
big-endian base-256 number, are written as the shortest big-endian base-58 numeral; decoding
reverses both steps and rejects any character outside the alphabet.

Both directions are one operation on digit lists, **`recode src dst`**: keep the leading zero
digits, convert the rest from base `src` to the shortest base-`dst` numeral. The whole file rests
on `recode_recode` — recoding there and back is the identity on every digit list of the source
base — which gives both round trips of the codec:

* `bs58Decode_bs58Encode`: every byte vector decodes back from its encoding;
* `bs58Encode_bs58Decode`: every string that decodes is the encoding of what it decodes to.

How long a recoded numeral is follows from the number it denotes (`lt_length_toDigitsBE`,
`length_digits_le`): in particular six Base58 characters always decode to at least four bytes
(`four_le_length_recode`). -/

namespace Bip32Codec

/-! ## Big-endian numerals -/

/-- The number that the digits `ds` denote in base `b`, most significant digit first. -/
def ofDigitsBE (b : Nat) (ds : List Nat) : Nat := Nat.ofDigits b ds.reverse

/-- The shortest big-endian base-`b` digits of `n`: none for `0`, else a nonzero leading digit. -/
def toDigitsBE (b n : Nat) : List Nat := (Nat.digits b n).reverse

/-- The number of leading zero digits. -/
def leadingZeros (ds : List Nat) : Nat := (ds.takeWhile (· == 0)).length

/-- **Base conversion keeping leading zeros**: each leading zero digit stays a zero digit, and the
number the rest denotes in base `src` is rewritten as the shortest base-`dst` numeral. -/
def recode (src dst : Nat) (ds : List Nat) : List Nat :=
  List.replicate (leadingZeros ds) 0 ++ toDigitsBE dst (ofDigitsBE src ds)

/-- Zero digits denote zero. -/
theorem ofDigits_replicate_zero (b z : Nat) : Nat.ofDigits b (List.replicate z 0) = 0 := by
  induction z with
  | zero => rfl
  | succ z ih => simp [List.replicate_succ, Nat.ofDigits_cons, ih]

/-- Leading zero digits add nothing to a numeral. -/
@[simp] theorem ofDigitsBE_replicate_append (b z : Nat) (ds : List Nat) :
    ofDigitsBE b (List.replicate z 0 ++ ds) = ofDigitsBE b ds := by
  simp [ofDigitsBE, Nat.ofDigits_append, ofDigits_replicate_zero]

/-- The shortest digits of `n` denote `n`. -/
@[simp] theorem ofDigitsBE_toDigitsBE (b n : Nat) : ofDigitsBE b (toDigitsBE b n) = n := by
  simp [ofDigitsBE, toDigitsBE, Nat.ofDigits_digits]

/-- The shortest digits of a number have no leading zero. -/
@[simp] theorem leadingZeros_toDigitsBE (b n : Nat) : leadingZeros (toDigitsBE b n) = 0 := by
  rcases Nat.eq_zero_or_pos n with rfl | hn
  · simp [leadingZeros, toDigitsBE]
  · have hne : Nat.digits b n ≠ [] := Nat.digits_ne_nil_iff_ne_zero.mpr hn.ne'
    have hlast := Nat.getLast_digit_ne_zero b hn.ne'
    rw [leadingZeros, toDigitsBE, ← List.dropLast_append_getLast hne]
    simp [hlast]

/-- A list without leading zero digits that starts with `z` zeros has `z` leading zeros. -/
theorem leadingZeros_replicate_append (z : Nat) {ds : List Nat} (h : leadingZeros ds = 0) :
    leadingZeros (List.replicate z 0 ++ ds) = z := by
  simp_all [leadingZeros, List.takeWhile_append, List.takeWhile_replicate]

/-- A list is its leading zeros followed by the rest. -/
theorem replicate_leadingZeros_append_dropWhile (ds : List Nat) :
    List.replicate (leadingZeros ds) 0 ++ ds.dropWhile (· == 0) = ds := by
  conv_rhs => rw [← List.takeWhile_append_dropWhile (· == 0) ds]
  congr 1
  exact (List.eq_replicate_iff.mpr ⟨rfl, fun d hd => by
    simpa using List.mem_takeWhile_imp hd⟩).symm

/-- What follows the leading zeros has none. -/
theorem leadingZeros_dropWhile (ds : List Nat) : leadingZeros (ds.dropWhile (· == 0)) = 0 := by
  cases h : ds.dropWhile (· == 0) with
  | nil => rfl
  | cons d rest =>
    have hd := List.head_dropWhile_not (· == 0) ds (by simp [h])
    simp only [h, List.head_cons, beq_eq_false_iff_ne] at hd
    simp [leadingZeros, hd]

/-- Digits without a leading zero are the shortest digits of the number they denote. -/
theorem toDigitsBE_ofDigitsBE {b : Nat} (hb : 1 < b) {ds : List Nat} (hds : ∀ d ∈ ds, d < b)
    (hz : leadingZeros ds = 0) : toDigitsBE b (ofDigitsBE b ds) = ds := by
  cases ds with
  | nil => simp [toDigitsBE, ofDigitsBE]
  | cons d rest =>
    have hd : d ≠ 0 := by simpa [leadingZeros] using hz
    rw [toDigitsBE, ofDigitsBE, Nat.digits_ofDigits b hb _ (fun l hl => hds l
      (List.mem_reverse.mp hl)) (by simp [hd]), List.reverse_reverse]

/-- Every digit `recode` produces is a digit of the target base. -/
theorem lt_of_mem_recode {src dst : Nat} (hdst : 1 < dst) (ds : List Nat) :
    ∀ d ∈ recode src dst ds, d < dst := by
  intro d hd
  rcases List.mem_append.mp hd with h | h
  · rw [List.eq_of_mem_replicate h]; omega
  · exact Nat.digits_lt_base hdst (List.mem_reverse.mp h)

/-- **Recoding there and back is the identity** on every list of base-`a` digits. -/
theorem recode_recode {a : Nat} (ha : 1 < a) (b : Nat) {ds : List Nat}
    (hds : ∀ d ∈ ds, d < a) : recode b a (recode a b ds) = ds := by
  have hrest : ∀ d ∈ ds.dropWhile (· == 0), d < a :=
    fun d hd => hds d ((List.dropWhile_sublist _).subset hd)
  have hvalue : ofDigitsBE a ds = ofDigitsBE a (ds.dropWhile (· == 0)) := by
    conv_lhs => rw [← replicate_leadingZeros_append_dropWhile ds]
    exact ofDigitsBE_replicate_append ..
  calc recode b a (recode a b ds)
      = List.replicate (leadingZeros ds) 0 ++ toDigitsBE a (ofDigitsBE a ds) := by
        simp [recode, leadingZeros_replicate_append]
    _ = List.replicate (leadingZeros ds) 0 ++ ds.dropWhile (· == 0) := by
        rw [hvalue, toDigitsBE_ofDigitsBE ha hrest (leadingZeros_dropWhile ds)]
    _ = ds := replicate_leadingZeros_append_dropWhile ds

/-! ## How many digits -/

/-- The value of a concatenation: the first part shifted by the length of the second. -/
theorem ofDigitsBE_append (b : Nat) (xs ys : List Nat) :
    ofDigitsBE b (xs ++ ys) = ofDigitsBE b xs * b ^ ys.length + ofDigitsBE b ys := by
  rw [ofDigitsBE, ofDigitsBE, ofDigitsBE, List.reverse_append, Nat.ofDigits_append,
    List.length_reverse, Nat.add_comm, Nat.mul_comm]

/-- A numeral with a nonzero leading digit and `t` more digits is at least `b ^ t`. -/
theorem pow_le_ofDigitsBE (b : Nat) {d : Nat} (hd : d ≠ 0) (ds : List Nat) :
    b ^ ds.length ≤ ofDigitsBE b (d :: ds) := by
  have hd' : ofDigitsBE b [d] = d := by simp [ofDigitsBE, Nat.ofDigits]
  calc b ^ ds.length ≤ d * b ^ ds.length := Nat.le_mul_of_pos_left _ (Nat.pos_of_ne_zero hd)
    _ ≤ ofDigitsBE b ([d] ++ ds) := by rw [ofDigitsBE_append, hd']; exact Nat.le_add_right _ _

/-- A number of at least `b ^ j` has more than `j` digits. -/
theorem lt_length_toDigitsBE {b j n : Nat} (hb : 1 < b) (h : b ^ j ≤ n) :
    j < (toDigitsBE b n).length := by
  have hn : n ≠ 0 := by have := Nat.pos_pow_of_pos j (by omega : 0 < b); omega
  rw [toDigitsBE, List.length_reverse, Nat.digits_len b n hb hn]
  exact Nat.lt_succ_of_le (Nat.le_log_of_pow_le hb h)

/-- A number below `b ^ k` has at most `k` digits. -/
theorem length_digits_le {b k r : Nat} (hb : 1 < b) (hr : r < b ^ k) :
    (Nat.digits b r).length ≤ k := by
  rcases Nat.eq_zero_or_pos r with rfl | hpos
  · simp
  · rw [Nat.digits_len b r hb hpos.ne']
    exact Nat.log_lt_of_lt_pow hpos.ne' hr

/-- **Six Base58 digits make at least four bytes.** Each leading zero digit stays a zero byte,
and the other digits, led by a nonzero one, denote at least `58 ^ (5 - z)` after `z` zeros,
which takes `4 - z` bytes to write. -/
theorem four_le_length_recode {ds : List Nat} (h : 6 ≤ ds.length) :
    4 ≤ (recode 58 256 ds).length := by
  have hsplit := replicate_leadingZeros_append_dropWhile ds
  have hlen := congrArg List.length hsplit
  rw [List.length_append, List.length_replicate] at hlen
  rw [recode, List.length_append, List.length_replicate]
  rcases Nat.lt_or_ge (leadingZeros ds) 4 with hz | hz
  · cases hrest : ds.dropWhile (· == 0) with
    | nil => rw [hrest, List.length_nil] at hlen; omega
    | cons d t =>
      have hd : d ≠ 0 := by
        have h0 := leadingZeros_dropWhile ds
        rw [hrest] at h0
        simpa [leadingZeros] using h0
      rw [hrest, List.length_cons] at hlen
      have hval : ofDigitsBE 58 ds = ofDigitsBE 58 (d :: t) := by
        rw [← hrest]
        conv_lhs => rw [← hsplit]
        exact ofDigitsBE_replicate_append ..
      have hbytes : ∀ z < 4, 256 ^ (3 - z) ≤ 58 ^ (5 - z) := by decide
      have hpow : 256 ^ (3 - leadingZeros ds) ≤ ofDigitsBE 58 ds := calc
        256 ^ (3 - leadingZeros ds) ≤ 58 ^ (5 - leadingZeros ds) := hbytes _ hz
        _ ≤ 58 ^ t.length := Nat.pow_le_pow_right (by norm_num) (by omega)
        _ ≤ ofDigitsBE 58 (d :: t) := pow_le_ofDigitsBE 58 hd t
        _ = ofDigitsBE 58 ds := hval.symm
      have := lt_length_toDigitsBE (by norm_num) hpow
      omega
  · omega

/-! ## The Base58 alphabet -/

/-- The Bitcoin Base58 alphabet; the position of a character is the digit it stands for. -/
def b58Alphabet : List Char := "123456789ABCDEFGHJKLMNPQRSTUVWXYZabcdefghijkmnopqrstuvwxyz".toList

/-- The character for digit `d`. -/
def b58Char (d : Nat) : Char := b58Alphabet.getD d '1'

/-- The digit a character of the alphabet stands for. -/
def b58Digit (c : Char) : Nat := b58Alphabet.indexOf c

theorem b58Alphabet_length : b58Alphabet.length = 58 := rfl

/-- No character occurs twice in the alphabet. -/
theorem b58Alphabet_nodup : b58Alphabet.Nodup :=
  List.Nodup.of_map Char.toNat (by decide)

/-- A digit's character reads back as the digit. -/
theorem b58Digit_b58Char {d : Nat} (hd : d < 58) : b58Digit (b58Char d) = d := by
  rw [b58Char, List.getD_eq_getElem _ _ (b58Alphabet_length.symm ▸ hd)]
  exact List.indexOf_getElem b58Alphabet_nodup d _

/-- A character of the alphabet is the character of its digit. -/
theorem b58Char_b58Digit {c : Char} (hc : c ∈ b58Alphabet) : b58Char (b58Digit c) = c := by
  have hlt : b58Digit c < b58Alphabet.length := List.indexOf_lt_length.mpr hc
  rw [b58Char, List.getD_eq_getElem _ _ hlt]
  exact List.getElem_indexOf hlt

theorem b58Char_mem {d : Nat} (hd : d < 58) : b58Char d ∈ b58Alphabet := by
  rw [b58Char, List.getD_eq_getElem _ _ (b58Alphabet_length.symm ▸ hd)]
  exact List.getElem_mem _

theorem b58Digit_lt {c : Char} (hc : c ∈ b58Alphabet) : b58Digit c < 58 :=
  List.indexOf_lt_length.mpr hc

/-! ## The codec -/

/-- `bs58::encode(data).into_string()`. -/
def bs58Encode (data : List UInt8) : String :=
  ⟨(recode 256 58 (data.map UInt8.toNat)).map b58Char⟩

/-- `bs58::decode(s).into_vec()`: fails on any character outside the alphabet. -/
def bs58Decode (s : String) : Except Bip32Error (List UInt8) :=
  if s.data.all (fun c => decide (c ∈ b58Alphabet)) then
    .ok ((recode 58 256 (s.data.map b58Digit)).map UInt8.ofNat)
  else .error .b58Error

/-- Zero digits recode to as many zero digits. -/
theorem recode_replicate_zero (src dst n : Nat) :
    recode src dst (List.replicate n 0) = List.replicate n 0 := by
  have hz : leadingZeros (List.replicate n 0) = n := by
    simpa using leadingZeros_replicate_append n (rfl : leadingZeros [] = 0)
  have hv : ofDigitsBE src (List.replicate n 0) = 0 := by
    simpa using ofDigitsBE_replicate_append src n []
  simp [recode, hz, hv, toDigitsBE]

/-- **Leading `'1'`s are zero bytes**: a string of `n` ones decodes to `n` zero bytes. -/
theorem bs58Decode_replicate_one (n : Nat) :
    bs58Decode ⟨List.replicate n '1'⟩ = .ok (List.replicate n 0) := by
  have h1 : b58Digit '1' = 0 := rfl
  have hmem : '1' ∈ b58Alphabet := List.mem_cons_self _ _
  simp [bs58Decode, h1, hmem, recode_replicate_zero]

/-- A string of six or more characters that decodes is at least four bytes. -/
theorem four_le_length_of_bs58Decode {s : String} {data : List UInt8} (h : bs58Decode s = .ok data)
    (hs : 6 ≤ s.length) : 4 ≤ data.length := by
  simp only [bs58Decode] at h
  split at h
  · cases h
    rw [List.length_map]
    exact four_le_length_recode (by rw [List.length_map]; exact hs)
  · cases h

/-- **A recoding from its value**: digits that denote the number `es` denotes, for `es` a
numeral of the target base with no leading zero, recode to their leading zeros followed by
`es`. Concrete runs of `bs58` are computed through this, since `Nat.digits` does not reduce. -/
theorem recode_eq_of_ofDigitsBE_eq {src dst : Nat} (hdst : 1 < dst) {ds es : List Nat}
    (hes : ∀ e ∈ es, e < dst) (hz : leadingZeros es = 0)
    (hv : ofDigitsBE src ds = ofDigitsBE dst es) :
    recode src dst ds = List.replicate (leadingZeros ds) 0 ++ es := by
  rw [recode, hv, toDigitsBE_ofDigitsBE hdst hes hz]

/-- `"21111"` (the digits `1 0 0 0 0`, so `58 ^ 4`) decodes to three bytes. -/
theorem bs58Decode_21111 : bs58Decode "21111" = .ok [172, 173, 16] := by
  have hdigits : "21111".data.map b58Digit = [1, 0, 0, 0, 0] := by decide
  have hrecode : recode 58 256 [1, 0, 0, 0, 0] = List.replicate 0 0 ++ [172, 173, 16] :=
    recode_eq_of_ofDigitsBE_eq (by norm_num) (by decide) (by decide) (by decide)
  rw [bs58Decode, if_pos (by decide), hdigits, hrecode]
  rfl

/-- **Base58 round trip**: every byte vector decodes back from its encoding. -/
theorem bs58Decode_bs58Encode (data : List UInt8) : bs58Decode (bs58Encode data) = .ok data := by
  have hlt : ∀ d ∈ recode 256 58 (data.map UInt8.toNat), d < 58 := lt_of_mem_recode (by norm_num) _
  have hdigits : ((recode 256 58 (data.map UInt8.toNat)).map b58Char).map b58Digit =
      recode 256 58 (data.map UInt8.toNat) := by
    rw [List.map_map]
    exact List.map_congr_left (fun d hd => b58Digit_b58Char (hlt d hd)) |>.trans (List.map_id _)
  have hbytes : ∀ d ∈ data.map UInt8.toNat, d < 256 := by
    simpa using fun b _ => byte_toNat_lt b
  have hall : ((recode 256 58 (data.map UInt8.toNat)).map b58Char).all
      (fun c => decide (c ∈ b58Alphabet)) := by
    simpa using fun d hd => b58Char_mem (hlt d hd)
  rw [bs58Decode, bs58Encode, if_pos hall, hdigits, recode_recode (by norm_num) _ hbytes]
  simp [Function.comp_def]

/-- **Base58 canonicity**: a string that decodes is the encoding of the bytes it decodes to. -/
theorem bs58Encode_bs58Decode {s : String} {data : List UInt8} (h : bs58Decode s = .ok data) :
    bs58Encode data = s := by
  simp only [bs58Decode] at h
  split at h
  · next hall =>
    simp only [List.all_eq_true, decide_eq_true_eq] at hall
    cases h
    have hdigits : ∀ d ∈ s.data.map b58Digit, d < 58 := by
      simpa using fun c hc => b58Digit_lt (hall c hc)
    have hbytes : ((recode 58 256 (s.data.map b58Digit)).map UInt8.ofNat).map UInt8.toNat =
        recode 58 256 (s.data.map b58Digit) := by
      rw [List.map_map]
      refine List.map_congr_left (fun d hd => ?_) |>.trans (List.map_id _)
      simpa using lt_of_mem_recode (by norm_num) _ d hd
    rw [bs58Encode, hbytes, recode_recode (by norm_num) _ hdigits, List.map_map]
    exact String.ext (List.map_congr_left (fun c hc => b58Char_b58Digit (hall c hc)) |>.trans
      (List.map_id _))
  · cases h

end Bip32Codec
