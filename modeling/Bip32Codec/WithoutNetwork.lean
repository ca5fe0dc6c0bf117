import Bip32Codec.Layout
import Bip32Codec.RoundTrip

/-! # The readers that skip the network check

`read_xpriv_without_network` / `read_xpub_without_network` skip the four version bytes and read a
Legacy body. A body reader uses its hint only to tag the key it returns (`readXprivBody_hint`),
so the unchecked readers agree with the checked ones up to the version check and the hint:

* **`without_network_agrees`** — an unchecked reader ignores the version bytes; where the checked
  reader of any network succeeds, the unchecked one returns the same key tagged Legacy, at the
  same position; and where the checked reader fails with anything but `BadXPrivVersionBytes`, the
  unchecked one fails with the same error. -/

namespace Bip32Codec

variable {B : Secp256k1Backend}

/-- The key with its hint replaced (`XKeyInfo { hint, ..k.info }`). -/
def GenericXPriv.withHint (k : GenericXPriv B) (hint : Hint) : GenericXPriv B :=
  { k with info := { k.info with hint } }

/-- The key with its hint replaced (`XKeyInfo { hint, ..k.info }`). -/
def GenericXPub.withHint (k : GenericXPub B) (hint : Hint) : GenericXPub B :=
  { k with info := { k.info with hint } }

/-- `read_xpriv_body` uses its hint only to tag the key it returns. -/
theorem readXprivBody_hint (hint hint' : Hint) (backend : Option B.Handle) :
    readXprivBody B hint backend = (·.withHint hint) <$> readXprivBody B hint' backend := by
  simp only [readXprivBody, map_bind, map_pure, apply_ite (Functor.map _), GenericXPriv.withHint]

/-- `read_xpub_body` uses its hint only to tag the key it returns. -/
theorem readXpubBody_hint (hint hint' : Hint) (backend : Option B.Handle) :
    readXpubBody B hint backend = (·.withHint hint) <$> readXpubBody B hint' backend := by
  simp only [readXpubBody, map_bind, map_pure, GenericXPub.withHint]

/-- **The unchecked reader on every buffer**: `UnexpectedEof` before four bytes, else a Legacy
body on the rest. -/
theorem run_readWithoutNetwork {α : Type} (readBody : Hint → Reader α) (r : List UInt8) :
    (readWithoutNetwork readBody).run r =
      if 4 ≤ r.length then (readBody .legacy).run (r.drop 4) else .error eof := by
  have h0 := @run_readExact_drop r 0 4 (by decide)
  rw [List.drop_zero] at h0
  rw [readWithoutNetwork, StateT.run_bind, h0]
  by_cases h4 : 4 ≤ r.length
  · rw [dif_pos h4, if_pos h4]; rfl
  · rw [dif_neg h4, if_neg h4]; rfl

/-! ## Against the checked reader -/

section Agreement

variable {α : Type} {vs : Versions} (readBody : Hint → Reader α) {retag : α → α}
  (hbody : ∀ hint, readBody .legacy = retag <$> readBody hint)
include hbody

/-- Where the checked reader succeeds, the unchecked one returns the retagged result at the same
position. -/
theorem run_readWithoutNetwork_of_ok {r rest : List UInt8} {a : α}
    (h : (readVersioned vs readBody).run r = .ok (a, rest)) :
    (readWithoutNetwork readBody).run r = .ok (retag a, rest) := by
  rw [run_readVersioned] at h
  rw [run_readWithoutNetwork]
  split at h
  · next h4 =>
    rw [if_pos h4]
    cases hv : vs.hint? (u32FromBeBytes (Bytes.slice r 0 4 h4)) with
    | none => rw [hv] at h; cases h
    | some hint =>
      rw [hv] at h
      rw [hbody hint, StateT.run_map, show (readBody hint).run (r.drop 4) = _ from h]; rfl
  · cases h

/-- Where the checked reader fails for any reason but the version, the unchecked one fails
alike. -/
theorem run_readWithoutNetwork_of_error {r : List UInt8} {e : Bip32Error}
    (he : ∀ bytes, e ≠ .badXPrivVersionBytes bytes)
    (h : (readVersioned vs readBody).run r = .error e) :
    (readWithoutNetwork readBody).run r = .error e := by
  rw [run_readVersioned] at h
  rw [run_readWithoutNetwork]
  split at h
  · next h4 =>
    rw [if_pos h4]
    cases hv : vs.hint? (u32FromBeBytes (Bytes.slice r 0 4 h4)) with
    | none => rw [hv] at h; cases h; exact absurd rfl (he _)
    | some hint =>
      rw [hv] at h
      rw [hbody hint, StateT.run_map, show (readBody hint).run (r.drop 4) = _ from h]; rfl
  · next h4 => rw [if_neg h4]; exact h

end Agreement

/-- An unchecked reader does not look at the version bytes. -/
theorem run_readWithoutNetwork_congr {α : Type} (readBody : Hint → Reader α) {r r' : List UInt8}
    (hlen : r.length = r'.length) (hdrop : r.drop 4 = r'.drop 4) :
    (readWithoutNetwork readBody).run r = (readWithoutNetwork readBody).run r' := by
  rw [run_readWithoutNetwork, run_readWithoutNetwork, hlen, hdrop]

/-- **The unchecked readers agree with the checked ones** except for the version check and the
hint. For `read_xpriv_without_network` and `read_xpub_without_network`: the result does not
depend on the first four bytes; where `read_xpriv` / `read_xpub` of any network succeeds, the
unchecked reader returns the same key tagged Legacy and stops at the same byte; and where the
checked reader fails with any error but `BadXPrivVersionBytes`, the unchecked one fails with the
same error. -/
theorem without_network_agrees (B : Secp256k1Backend) (backend : Option B.Handle) :
    ((∀ r r' : List UInt8, r.length = r'.length → r.drop 4 = r'.drop 4 →
        (readXprivWithoutNetwork B backend).run r = (readXprivWithoutNetwork B backend).run r') ∧
      (∀ (P : NetworkParams) (r rest : List UInt8) (k : GenericXPriv B),
        (readXpriv P B backend).run r = .ok (k, rest) →
        (readXprivWithoutNetwork B backend).run r = .ok (k.withHint .legacy, rest)) ∧
      (∀ (P : NetworkParams) (r : List UInt8) (e : Bip32Error),
        (∀ bytes, e ≠ .badXPrivVersionBytes bytes) → (readXpriv P B backend).run r = .error e →
        (readXprivWithoutNetwork B backend).run r = .error e)) ∧
    ((∀ r r' : List UInt8, r.length = r'.length → r.drop 4 = r'.drop 4 →
        (readXpubWithoutNetwork B backend).run r = (readXpubWithoutNetwork B backend).run r') ∧
      (∀ (P : NetworkParams) (r rest : List UInt8) (k : GenericXPub B),
        (readXpub P B backend).run r = .ok (k, rest) →
        (readXpubWithoutNetwork B backend).run r = .ok (k.withHint .legacy, rest)) ∧
      (∀ (P : NetworkParams) (r : List UInt8) (e : Bip32Error),
        (∀ bytes, e ≠ .badXPrivVersionBytes bytes) → (readXpub P B backend).run r = .error e →
        (readXpubWithoutNetwork B backend).run r = .error e)) :=
  have hpriv (hint) := readXprivBody_hint .legacy hint backend
  have hpub (hint) := readXpubBody_hint .legacy hint backend
  ⟨⟨fun _ _ => run_readWithoutNetwork_congr _,
      fun _ _ _ _ => run_readWithoutNetwork_of_ok (readXprivBody B · backend) hpriv,
      fun _ _ _ => run_readWithoutNetwork_of_error (readXprivBody B · backend) hpriv⟩,
    ⟨fun _ _ => run_readWithoutNetwork_congr _,
      fun _ _ _ _ => run_readWithoutNetwork_of_ok (readXpubBody B · backend) hpub,
      fun _ _ _ => run_readWithoutNetwork_of_error (readXpubBody B · backend) hpub⟩⟩

/-- The sample key tagged BIP84 is read back on `Main` as BIP84 by `read_xpriv`, and as Legacy by
`read_xpriv_without_network`. -/
theorem without_network_agrees_segWit :
    (readXpriv Main rawBackend none).run (xprivBytes Main (sampleXPriv.withHint .segWit)) =
        .ok (sampleXPriv.withHint .segWit, []) ∧
      (readXprivWithoutNetwork rawBackend none).run (xprivBytes Main (sampleXPriv.withHint .segWit)) =
        .ok ((sampleXPriv.withHint .segWit).withHint .legacy, []) := by
  have h := @KeyKind.run_read_append _ (xprivKind rawBackend) Main Main_privVersions_distinct
    (sampleXPriv.withHint .segWit) rfl []
  rw [List.append_nil] at h
  exact ⟨h, (without_network_agrees rawBackend none).1.2.1 Main _ [] _ h⟩

end Bip32Codec
