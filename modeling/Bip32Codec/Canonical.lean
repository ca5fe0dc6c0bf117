import Bip32Codec.ReadInversion
import Bip32Codec.RoundTrip

/-! # How canonical the byte and text forms are

The readers are exact inverses of the writers on bytes, but `xpriv_from_base58` /
`xpub_from_base58` run the 78-byte reader on the Base58Check payload and never check that it was
used up. So the text form is canonical only up to trailing bytes:

* **`read_accepts_exactly_encodings`** — on `Main` and `Test`, a read succeeds exactly on a key's
  78-byte layout followed by anything, which it leaves unread;
* **`xkey_text_identifies_key`** — two keys have the same text exactly when they agree on
  everything but the borrowed backend handle;
* **`xpriv_text_with_trailing_byte`** — on `Main`, a key's 78 bytes followed by one more byte,
  Base58Check-encoded, decode to the key: a 79-byte payload is accepted, and the key's own text
  is a different string. This holds whatever function stands in for `Hash256`
  (`trailing_byte_accepted`);
* **`xkey_text_canonical_up_to_trailing`** — on every network, an accepted string's payload is
  the key's 78-byte layout followed by some trailing bytes, and re-encoding the key gives the
  string back exactly when there are none; and on networks with distinct constants, the text of
  a key's layout followed by any bytes at all is accepted as the key.

Each is proved for any `KeyKind` from the reader inversions of `KeyKind` and Base58Check
canonicity (`encodeB58Check_decodeB58Check`), and stated for private and public keys. -/

namespace Bip32Codec

variable {B : Secp256k1Backend} (hash256 : List UInt8 → Bytes 32)

/-- Base58Check encoding is injective. -/
theorem encodeB58Check_injective : Function.Injective (encodeB58Check hash256) := by
  intro v w h
  have hv := decodeB58Check_encodeB58Check hash256 v
  rw [h, decodeB58Check_encodeB58Check] at hv
  simpa using hv.symm

/-- The key's own text is the accepted string exactly when the layout is the whole payload. -/
theorem encodeB58Check_eq_iff (bytes rest : List UInt8) :
    encodeB58Check hash256 bytes = encodeB58Check hash256 (bytes ++ rest) ↔ rest = [] := by
  constructor
  · intro h
    simpa using (encodeB58Check_injective hash256 h).symm
  · rintro rfl; simp

namespace KeyKind

variable (K : KeyKind B)

/-- **The text identifies the key but for its backend**: on distinct constants, two keys whose
key bytes parse back have the same text exactly when they have the same details and key. -/
theorem toBase58_eq_toBase58_iff {P : NetworkParams} (hvs : (K.versions P).Distinct)
    {k₁ k₂ : K.Key} (h₁ : K.Parses (K.key k₁)) (h₂ : K.Parses (K.key k₂)) :
    K.toBase58 hash256 P k₁ = K.toBase58 hash256 P k₂ ↔
      K.info k₁ = K.info k₂ ∧ K.key k₁ = K.key k₂ := by
  rw [K.toBase58_eq, K.toBase58_eq, Except.ok.injEq]
  refine ⟨fun h => K.eq_of_layout_eq hvs h₁ h₂ (encodeB58Check_injective hash256 h), ?_⟩
  rintro ⟨hinfo, hkey⟩
  rw [layout, layout, hinfo, hkey]

/-- **An accepted string is the key's layout and trailing bytes**: under the backend's contract,
a string the text decoder accepts has the key's layout followed by some `rest` as its payload,
and is the key's own text exactly when `rest` is empty. -/
theorem exists_rest_of_fromBase58 (hC : K.Contract) {P : NetworkParams} {s : String}
    {b : Option B.Handle} {k : K.Key} (h : K.fromBase58 hash256 P s b = some (.ok k)) :
    ∃ rest, decodeB58Check hash256 s = some (.ok (K.layout P k ++ rest)) ∧
      (K.toBase58 hash256 P k = .ok s ↔ rest = []) := by
  obtain ⟨data, rest, hd, hr⟩ := exists_of_fromBase58 hash256 h
  obtain ⟨-, rfl, -⟩ := K.eq_layout_of_run_read hC hr
  refine ⟨rest, hd, ?_⟩
  rw [K.toBase58_eq, ← encodeB58Check_decodeB58Check hash256 hd, Except.ok.injEq,
    encodeB58Check_eq_iff]

end KeyKind

/-- **`read_xpriv` / `read_xpub` accept exactly the encodings of keys.** On `Main` and `Test`, for
a backend that serializes back what it parses, a read returns `(k, rest)` exactly when the buffer
is `k`'s 78-byte layout followed by `rest`, `k` carries the requested backend, and the backend
parses `k`'s key bytes back to `k`'s key. -/
theorem read_accepts_exactly_encodings {P : NetworkParams} (hP : P = Main ∨ P = Test)
    (B : Secp256k1Backend) (backend : Option B.Handle) :
    ((∀ a p, B.fromPrivkeyArray a = .ok p → B.privkeyBytes p = a) →
      ∀ (r rest : List UInt8) (k : GenericXPriv B),
        (readXpriv P B backend).run r = .ok (k, rest) ↔
          r = xprivBytes P k ++ rest ∧ k.privkey.backend = backend ∧
            B.fromPrivkeyArray (B.privkeyBytes k.privkey.key) = .ok k.privkey.key) ∧
    ((∀ a p, B.fromPubkeyArray a = .ok p → B.pubkeyBytes p = a) →
      ∀ (r rest : List UInt8) (k : GenericXPub B),
        (readXpub P B backend).run r = .ok (k, rest) ↔
          r = xpubBytes P k ++ rest ∧ k.pubkey.backend = backend ∧
            B.fromPubkeyArray (B.pubkeyBytes k.pubkey.key) = .ok k.pubkey.key) := by
  obtain ⟨hpriv, hpub⟩ := versions_distinct_of_network hP
  exact ⟨fun hC _ _ _ => (xprivKind B).run_read_eq_ok_iff hpriv hC,
    fun hC _ _ _ => (xpubKind B).run_read_eq_ok_iff hpub hC⟩

/-- The sample key's layout is read back as the sample key on `Main`. -/
theorem read_accepts_exactly_encodings_sample :
    (readXpriv Main rawBackend none).run (xprivBytes Main sampleXPriv ++ []) = .ok (sampleXPriv, []) :=
  ((read_accepts_exactly_encodings (Or.inl rfl) rawBackend none).1 rawBackend_privkeyBytes _ [] _).mpr
    ⟨rfl, rfl, rfl⟩

/-- **A key's text identifies the key.** On `Main` and `Test`, two keys whose key bytes the
backend parses back have the same Base58Check text exactly when they agree on depth, parent,
index, chain code, hint and key: only the borrowed backend handle is not in the text. -/
theorem xkey_text_identifies_key {P : NetworkParams} (hP : P = Main ∨ P = Test)
    (B : Secp256k1Backend) :
    (∀ k₁ k₂ : GenericXPriv B,
      B.fromPrivkeyArray (B.privkeyBytes k₁.privkey.key) = .ok k₁.privkey.key →
      B.fromPrivkeyArray (B.privkeyBytes k₂.privkey.key) = .ok k₂.privkey.key →
      (xprivToBase58 hash256 P k₁ = xprivToBase58 hash256 P k₂ ↔
        k₁.info = k₂.info ∧ k₁.privkey.key = k₂.privkey.key)) ∧
    (∀ k₁ k₂ : GenericXPub B,
      B.fromPubkeyArray (B.pubkeyBytes k₁.pubkey.key) = .ok k₁.pubkey.key →
      B.fromPubkeyArray (B.pubkeyBytes k₂.pubkey.key) = .ok k₂.pubkey.key →
      (xpubToBase58 hash256 P k₁ = xpubToBase58 hash256 P k₂ ↔
        k₁.info = k₂.info ∧ k₁.pubkey.key = k₂.pubkey.key)) := by
  obtain ⟨hpriv, hpub⟩ := versions_distinct_of_network hP
  exact ⟨fun _ _ h₁ h₂ => (xprivKind B).toBase58_eq_toBase58_iff hash256 hpriv h₁ h₂,
    fun _ _ h₁ h₂ => (xpubKind B).toBase58_eq_toBase58_iff hash256 hpub h₁ h₂⟩

/-- The sample key borrowing a backend has the same text as without one. -/
theorem xkey_text_identifies_key_backend :
    xprivToBase58 zeroHash Main sampleXPriv =
      xprivToBase58 zeroHash Main
        { sampleXPriv with privkey := { sampleXPriv.privkey with backend := some () } } :=
  ((xkey_text_identifies_key zeroHash (Or.inl rfl) rawBackend).1 _ _ rfl rfl).mpr ⟨rfl, rfl⟩

/-- **Canonical up to trailing bytes.** On every network, a string `xpriv_from_base58` /
`xpub_from_base58` accepts has the key's 78-byte layout followed by some `rest` as its payload,
and the key's own text is that string exactly when `rest` is empty, assuming the backend
serializes back every key it parses. Conversely, on a network with distinct constants, the text
of a key's layout followed by any `rest` is accepted as the key, so every key has as many
accepted strings as there are trailing byte strings. -/
theorem xkey_text_canonical_up_to_trailing (P : NetworkParams) (B : Secp256k1Backend)
    (backend : Option B.Handle) :
    ((∀ a p, B.fromPrivkeyArray a = .ok p → B.privkeyBytes p = a) →
      ∀ s k, xprivFromBase58 hash256 P B s backend = some (.ok k) →
        ∃ rest, decodeB58Check hash256 s = some (.ok (xprivBytes P k ++ rest)) ∧
          (xprivToBase58 hash256 P k = .ok s ↔ rest = [])) ∧
    (P.privVersions.Distinct → ∀ k : GenericXPriv B,
      B.fromPrivkeyArray (B.privkeyBytes k.privkey.key) = .ok k.privkey.key → ∀ rest,
        xprivFromBase58 hash256 P B (encodeB58Check hash256 (xprivBytes P k ++ rest))
          k.privkey.backend = some (.ok k)) ∧
    ((∀ a p, B.fromPubkeyArray a = .ok p → B.pubkeyBytes p = a) →
      ∀ s k, xpubFromBase58 hash256 P B s backend = some (.ok k) →
        ∃ rest, decodeB58Check hash256 s = some (.ok (xpubBytes P k ++ rest)) ∧
          (xpubToBase58 hash256 P k = .ok s ↔ rest = [])) ∧
    (P.pubVersions.Distinct → ∀ k : GenericXPub B,
      B.fromPubkeyArray (B.pubkeyBytes k.pubkey.key) = .ok k.pubkey.key → ∀ rest,
        xpubFromBase58 hash256 P B (encodeB58Check hash256 (xpubBytes P k ++ rest))
          k.pubkey.backend = some (.ok k)) :=
  ⟨fun hC _ _ => (xprivKind B).exists_rest_of_fromBase58 hash256 hC,
    fun hvs _ hk => (xprivKind B).fromBase58_encodeB58Check_layout hash256 hvs hk,
    fun hC _ _ => (xpubKind B).exists_rest_of_fromBase58 hash256 hC,
    fun hvs _ hk => (xpubKind B).fromBase58_encodeB58Check_layout hash256 hvs hk⟩

/-- A trailing byte after the sample key's layout: on `Main`, the string is accepted as the
sample key, and its payload is the layout followed by a `rest` that is not empty exactly when the
string is not the key's own text. -/
theorem xkey_text_canonical_up_to_trailing_sample :
    xprivFromBase58 zeroHash Main rawBackend
        (encodeB58Check zeroHash (xprivBytes Main sampleXPriv ++ [0])) none = some (.ok sampleXPriv) ∧
      ∃ rest, decodeB58Check zeroHash
          (encodeB58Check zeroHash (xprivBytes Main sampleXPriv ++ [0])) =
          some (.ok (xprivBytes Main sampleXPriv ++ rest)) ∧
        (xprivToBase58 zeroHash Main sampleXPriv =
          .ok (encodeB58Check zeroHash (xprivBytes Main sampleXPriv ++ [0])) ↔ rest = []) :=
  have h := xkey_text_canonical_up_to_trailing zeroHash Main rawBackend none
  have hacc := h.2.1 Main_privVersions_distinct sampleXPriv rfl [0]
  ⟨hacc, h.1 rawBackend_privkeyBytes _ _ hacc⟩

/-- Whatever stands in for `Hash256`, the text of the sample key's 78 bytes followed by one zero
byte is accepted by `xpriv_from_base58` on `Main`, and is not the key's own text. -/
theorem trailing_byte_accepted :
    xprivFromBase58 hash256 Main rawBackend
        (encodeB58Check hash256 (xprivBytes Main sampleXPriv ++ [0])) none = some (.ok sampleXPriv) ∧
      decodeB58Check hash256 (encodeB58Check hash256 (xprivBytes Main sampleXPriv ++ [0])) =
        some (.ok (xprivBytes Main sampleXPriv ++ [0])) ∧
      xprivToBase58 hash256 Main sampleXPriv ≠
        .ok (encodeB58Check hash256 (xprivBytes Main sampleXPriv ++ [0])) := by
  refine ⟨@KeyKind.fromBase58_encodeB58Check_layout _ (xprivKind rawBackend) hash256 Main
    Main_privVersions_distinct sampleXPriv rfl [0], decodeB58Check_encodeB58Check hash256 _, ?_⟩
  rw [Ne, show xprivToBase58 hash256 Main sampleXPriv = _ from
    (xprivKind rawBackend).toBase58_eq hash256 Main sampleXPriv, Except.ok.injEq]
  exact fun h => nomatch (encodeB58Check_eq_iff hash256 _ [0]).mp h

/-- **A key's text form is not unique.** Under the zero hash (the argument holds for any hash,
`trailing_byte_accepted`), the Base58Check text of the sample key's 78 bytes followed by one zero
byte is accepted by `xpriv_from_base58` on `Main`, with `rawBackend` (which serializes back what
it parses): its payload has 79 bytes, and the key's own text is another string. -/
theorem xpriv_text_with_trailing_byte :
    (∀ a p, rawBackend.fromPrivkeyArray a = .ok p → rawBackend.privkeyBytes p = a) ∧
      xprivFromBase58 zeroHash Main rawBackend
          (encodeB58Check zeroHash (xprivBytes Main sampleXPriv ++ [0])) none =
        some (.ok sampleXPriv) ∧
      decodeB58Check zeroHash (encodeB58Check zeroHash (xprivBytes Main sampleXPriv ++ [0])) =
        some (.ok (xprivBytes Main sampleXPriv ++ [0])) ∧
      (xprivBytes Main sampleXPriv ++ [0]).length = 79 ∧
      xprivToBase58 zeroHash Main sampleXPriv ≠
        .ok (encodeB58Check zeroHash (xprivBytes Main sampleXPriv ++ [0])) :=
  have h := trailing_byte_accepted zeroHash
  ⟨rawBackend_privkeyBytes, h.1, h.2.1, by simp, h.2.2⟩

end Bip32Codec
