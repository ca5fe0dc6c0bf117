import Bip32Codec.KeyKind

/-! # Round trip of the extended-key format

**`xkey_round_trip`**: for `MainnetEncoder` and `TestnetEncoder`, every extended private or
public key whose key bytes the backend parses back is written into a `Vec<u8>` as exactly 78
bytes, is read back from them whatever follows (which is left unread), and survives the Base58Check
text form. It is proved once for any kind of key (`KeyKind.round_trip`), from the writer's spec
lemma (`KeyKind.run_write_vecSink`), the reader inverting the writer on distinct constants
(`KeyKind.run_read_append`) and the Base58Check round trip (`decodeB58Check_encodeB58Check`), and
holds for both kinds since each network's constants are distinct (`Main_privVersions_distinct` …).

**`decode_b58_check_short_panics`**: the other side of Base58Check: text that decodes to fewer
than four bytes, such as `""` or `"1"`, makes `decode_b58_check` panic, and with it
`xpriv_from_base58` / `xpub_from_base58`. **`decode_b58_check_panics_only_on_short_text`** bounds
the damage: no text of six or more characters panics (`four_le_length_recode`). -/

namespace Bip32Codec

variable {B : Secp256k1Backend} (hash256 : List UInt8 → Bytes 32)

/-! ## The round trip -/

/-- Both networks have distinct constants for each key type. -/
theorem versions_distinct_of_network {P : NetworkParams} (hP : P = Main ∨ P = Test) :
    P.privVersions.Distinct ∧ P.pubVersions.Distinct := by
  rcases hP with rfl | rfl
  exacts [⟨Main_privVersions_distinct, Main_pubVersions_distinct⟩,
    ⟨Test_privVersions_distinct, Test_pubVersions_distinct⟩]

/-- **Round trip of one kind of key** on distinct constants: the writer appends the 78-byte
layout to a `Vec<u8>` and reports 78, the reader reads the key back from it whatever follows, and
the key survives its text form. -/
theorem KeyKind.round_trip (K : KeyKind B) {P : NetworkParams} (hvs : (K.versions P).Distinct)
    {k : K.Key} (hk : K.Parses (K.key k)) (received rest : List UInt8) :
    ∃ bytes : List UInt8, bytes.length = 78 ∧
      (K.write P vecSink k).run received = .ok (78, received ++ bytes) ∧
      (K.read P (K.handle k)).run (bytes ++ rest) = .ok (k, rest) ∧
      ∃ s, K.toBase58 hash256 P k = .ok s ∧ K.fromBase58 hash256 P s (K.handle k) = some (.ok k) :=
  ⟨K.layout P k, K.length_layout P k, K.run_write_vecSink P k received, K.run_read_append hvs hk rest,
    _, K.toBase58_eq hash256 P k, by simpa using K.fromBase58_encodeB58Check_layout hash256 hvs hk []⟩

/-- **Round trip over the whole extended-key format.** On `Main` and `Test`, every key whose key
bytes the backend parses back is written into a `Vec<u8>` as 78 bytes, read back from them
whatever follows, and read back from its Base58Check text. -/
theorem xkey_round_trip {P : NetworkParams} (hP : P = Main ∨ P = Test) :
    (∀ k : GenericXPriv B,
      B.fromPrivkeyArray (B.privkeyBytes k.privkey.key) = .ok k.privkey.key →
      ∀ received rest : List UInt8, ∃ bytes : List UInt8, bytes.length = 78 ∧
        (writeXpriv P vecSink k).run received = .ok (78, received ++ bytes) ∧
        (readXpriv P B k.privkey.backend).run (bytes ++ rest) = .ok (k, rest) ∧
        ∃ s, xprivToBase58 hash256 P k = .ok s ∧
          xprivFromBase58 hash256 P B s k.privkey.backend = some (.ok k)) ∧
    (∀ k : GenericXPub B,
      B.fromPubkeyArray (B.pubkeyBytes k.pubkey.key) = .ok k.pubkey.key →
      ∀ received rest : List UInt8, ∃ bytes : List UInt8, bytes.length = 78 ∧
        (writeXpub P vecSink k).run received = .ok (78, received ++ bytes) ∧
        (readXpub P B k.pubkey.backend).run (bytes ++ rest) = .ok (k, rest) ∧
        ∃ s, xpubToBase58 hash256 P k = .ok s ∧
          xpubFromBase58 hash256 P B s k.pubkey.backend = some (.ok k)) := by
  obtain ⟨hpriv, hpub⟩ := versions_distinct_of_network hP
  exact ⟨fun _ hk => (xprivKind B).round_trip hash256 hpriv hk,
    fun _ hk => (xpubKind B).round_trip hash256 hpub hk⟩

/-- A root key of `rawBackend` with zero chain code and scalar. -/
def sampleXPriv : GenericXPriv rawBackend where
  info := { depth := 0, parent := ⟨Bytes.zero 4⟩, index := 0, chainCode := ⟨Bytes.zero 32⟩,
            hint := .legacy }
  privkey := { key := Bytes.zero 32, backend := none }

/-- The sample key survives its Base58Check text on `Main`. -/
theorem xkey_round_trip_sample :
    ∃ s, xprivToBase58 zeroHash Main sampleXPriv = .ok s ∧
      xprivFromBase58 zeroHash Main rawBackend s none = some (.ok sampleXPriv) := by
  obtain ⟨_, -, -, -, h⟩ := (xkey_round_trip zeroHash (Or.inl rfl)).1 sampleXPriv rfl [] []
  exact h

/-! ## Short text makes the decoder panic -/

/-- **`decode_b58_check` panics on `""` and `"1"`**, and so do `xpriv_from_base58` and
`xpub_from_base58` on every network: `data.len() - 4` underflows. -/
theorem decode_b58_check_short_panics :
    decodeB58Check hash256 "" = none ∧ decodeB58Check hash256 "1" = none ∧
    ∀ (P : NetworkParams) (B : Secp256k1Backend) (backend : Option B.Handle),
      xprivFromBase58 hash256 P B "" backend = none ∧ xpubFromBase58 hash256 P B "" backend = none ∧
      xprivFromBase58 hash256 P B "1" backend = none ∧ xpubFromBase58 hash256 P B "1" backend = none := by
  have h0 : decodeB58Check hash256 "" = none :=
    (decodeB58Check_eq_none_iff hash256 "").mpr ⟨[], bs58Decode_replicate_one 0, by decide⟩
  have h1 : decodeB58Check hash256 "1" = none :=
    (decodeB58Check_eq_none_iff hash256 "1").mpr ⟨[0], bs58Decode_replicate_one 1, by decide⟩
  exact ⟨h0, h1, fun P B backend => by simp [xprivFromBase58, xpubFromBase58, fromBase58, h0, h1]⟩

/-- **Only text of at most five characters makes the decoder panic.** On a string of six or more
characters, `decode_b58_check` does not panic, and neither do `xpriv_from_base58` and
`xpub_from_base58` on any network: six Base58 digits make at least four bytes. Five characters
can panic already: `"21111"` is Base58 for three bytes. -/
theorem decode_b58_check_panics_only_on_short_text :
    (∀ s : String, 6 ≤ s.length → decodeB58Check hash256 s ≠ none ∧
      ∀ (P : NetworkParams) (B : Secp256k1Backend) (backend : Option B.Handle),
        xprivFromBase58 hash256 P B s backend ≠ none ∧ xpubFromBase58 hash256 P B s backend ≠ none) ∧
    decodeB58Check hash256 "21111" = none := by
  refine ⟨fun s hs => ⟨decodeB58Check_ne_none hash256 hs, fun P B backend => ?_⟩,
    (decodeB58Check_eq_none_iff hash256 _).mpr ⟨_, bs58Decode_21111, by decide⟩⟩
  simp [xprivFromBase58, xpubFromBase58, fromBase58, decodeB58Check_ne_none hash256 hs]

end Bip32Codec
