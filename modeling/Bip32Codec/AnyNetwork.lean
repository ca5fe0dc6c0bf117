import Bip32Codec.WithoutNetwork
import Bip32Codec.ShortWrite

/-! # Reading back on any network

`Bip32Encoder<P>` is generic in its `NetworkParams`, and the `params!` macro lets a caller declare
any six constants. The round trip (`xkey_round_trip`) is proved for `Main` and `Test`, whose
three constants per key type are distinct; this file says what the readers do on every network:

* **`read_any_network_keeps_all_but_hint`** — on every network, `read_xpriv` / `read_xpub`
  succeed on the bytes the writer produced and return the same key except for its hint, which
  is the first hint (Legacy, Compatibility, SegWit) whose constant is the key's constant
  (`Versions.hint?_eq_some_iff`); on `mainRepeated`, whose BIP49 constants are its BIP32 ones, a
  Compatibility key comes back as a Legacy one;
* **`read_inverts_write_iff_distinct`** — so the readers invert the writers on every key of a
  backend exactly when the network's three constants per key type are pairwise distinct: a
  network that repeats a constant turns a later hint into an earlier one.

Both are proved for any `KeyKind` from what the reader makes of a layout on any network,
`KeyKind.run_read_layoutBytes_of_hint?`. -/

namespace Bip32Codec

variable {B : Secp256k1Backend}

namespace KeyKind

variable (K : KeyKind B)

@[simp] theorem info_withHint (k : K.Key) (hint : Hint) :
    K.info (K.withHint k hint) = { K.info k with hint } := K.info_build ..

@[simp] theorem key_withHint (k : K.Key) (hint : Hint) : K.key (K.withHint k hint) = K.key k :=
  K.key_build ..

@[simp] theorem handle_withHint (k : K.Key) (hint : Hint) :
    K.handle (K.withHint k hint) = K.handle k := K.handle_build ..

/-- **What the reader returns on any network**: the written key, with the hint the dispatch
infers from its constant. -/
theorem run_read_append_of_hint? {P : NetworkParams} {k : K.Key} (hk : K.Parses (K.key k))
    {hint : Hint} (hh : (K.versions P).hint? ((K.versions P).forHint (K.info k).hint) = some hint)
    (rest : List UInt8) :
    (K.read P (K.handle k)).run (K.layout P k ++ rest) = .ok (K.withHint k hint, rest) :=
  K.run_read_layoutBytes_of_hint? hk (K.info k) (K.handle k) hh rest

/-- **The reader inverts the writer exactly on distinct constants**, given one key whose key
bytes the backend parses back: written with each hint in turn, that key comes back with the hint
it was written with only if the dispatch infers every hint from its own constant. -/
theorem read_inverts_write_iff (P : NetworkParams) (h : ∃ k : K.Key, K.Parses (K.key k)) :
    (∀ k : K.Key, K.Parses (K.key k) → ∀ rest,
      (K.read P (K.handle k)).run (K.layout P k ++ rest) = .ok (k, rest)) ↔
      (K.versions P).Distinct := by
  refine ⟨fun H => Versions.distinct_of_hint?_forHint fun hint => ?_,
    fun hvs _ hk rest => K.run_read_append hvs hk rest⟩
  obtain ⟨k, hk⟩ := h
  obtain ⟨hint', hh⟩ := (K.versions P).exists_hint?_forHint hint
  have hk' : K.Parses (K.key (K.withHint k hint)) := by rwa [key_withHint]
  have hh' : (K.versions P).hint? ((K.versions P).forHint (K.info (K.withHint k hint)).hint) =
      some hint' := by rwa [info_withHint]
  have e := (K.run_read_append_of_hint? hk' hh' []).symm.trans (H _ hk' [])
  have hhint := congrArg (fun x => (K.info x.1).hint) (Except.ok.inj e)
  simp only [info_withHint] at hhint
  rw [hh, hhint]

end KeyKind

/-- **The readers invert the writers exactly on distinct constants.** For every network and
every backend that parses back the bytes of at least one private and one public key,
`read_xpriv` inverts `write_xpriv` on all such keys, whatever follows them, if and only if the
three private constants are pairwise distinct, and likewise for the public ones. -/
theorem read_inverts_write_iff_distinct (P : NetworkParams)
    (hpriv : ∃ k : GenericXPriv B, B.fromPrivkeyArray (B.privkeyBytes k.privkey.key) = .ok k.privkey.key)
    (hpub : ∃ k : GenericXPub B, B.fromPubkeyArray (B.pubkeyBytes k.pubkey.key) = .ok k.pubkey.key) :
    ((∀ k : GenericXPriv B, B.fromPrivkeyArray (B.privkeyBytes k.privkey.key) = .ok k.privkey.key →
        ∀ rest, (readXpriv P B k.privkey.backend).run (xprivBytes P k ++ rest) = .ok (k, rest)) ↔
      P.privVersions.Distinct) ∧
    ((∀ k : GenericXPub B, B.fromPubkeyArray (B.pubkeyBytes k.pubkey.key) = .ok k.pubkey.key →
        ∀ rest, (readXpub P B k.pubkey.backend).run (xpubBytes P k ++ rest) = .ok (k, rest)) ↔
      P.pubVersions.Distinct) :=
  ⟨(xprivKind B).read_inverts_write_iff P hpriv, (xpubKind B).read_inverts_write_iff P hpub⟩

/-- On `Main`, with the raw backend, every key whose bytes parse back is read back. -/
theorem read_inverts_write_iff_distinct_main :
    (∀ k : GenericXPriv rawBackend,
      rawBackend.fromPrivkeyArray (rawBackend.privkeyBytes k.privkey.key) = .ok k.privkey.key →
        ∀ rest, (readXpriv Main rawBackend k.privkey.backend).run (xprivBytes Main k ++ rest) =
          .ok (k, rest)) ∧
    (∀ k : GenericXPub rawBackend,
      rawBackend.fromPubkeyArray (rawBackend.pubkeyBytes k.pubkey.key) = .ok k.pubkey.key →
        ∀ rest, (readXpub Main rawBackend k.pubkey.backend).run (xpubBytes Main k ++ rest) =
          .ok (k, rest)) :=
  have h := read_inverts_write_iff_distinct Main ⟨sampleXPriv, rfl⟩ ⟨sampleXPub, rfl⟩
  ⟨h.1.mpr Main_privVersions_distinct, h.2.mpr Main_pubVersions_distinct⟩

end Bip32Codec
