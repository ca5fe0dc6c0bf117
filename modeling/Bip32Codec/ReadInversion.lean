import Bip32Codec.Encoder

/-! # What a successful read says about its input

The converse of the read-back lemmas of `Encoder`: when a reader succeeds, the bytes it consumed
are exactly the writer's bytes for what it returned. Each field reader gets an `iff`
(`run_readDepth_eq_ok_iff` …), and the body and version readers are peeled apart with them,
using `run_bind_eq_ok_iff` once per step:

* `eq_of_run_readXprivBody` / `eq_of_run_readXpubBody` — a body read consumed the key details
  and key bytes of the key it returned, given that the backend serializes back what it parsed;
* `eq_of_run_readVersioned` — a version read consumed the writer's constant for some hint.

`KeyKind` puts the two together: a successful `read_xpriv` / `read_xpub` consumed exactly the
78-byte layout of the key it returned (`KeyKind.eq_layout_of_run_read`). -/

namespace Bip32Codec

variable {B : Secp256k1Backend}

/-! ## Field readers -/

/-- `read_depth` succeeds exactly on a buffer that starts with the byte it returns. -/
theorem run_readDepth_eq_ok_iff {r r' : List UInt8} {d : UInt8} :
    readDepth.run r = .ok (d, r') ↔ r = d :: r' := by
  simp only [readDepth, run_bind_eq_ok_iff, run_readExact_eq_ok_iff, StateT.run_pure, except_pure,
    Except.ok.injEq, Prod.mk.injEq]
  constructor
  · rintro ⟨a, _, rfl, rfl, rfl⟩
    rw [Bytes.toList_one]; rfl
  · rintro rfl
    exact ⟨⟨[d], rfl⟩, r', rfl, rfl, rfl⟩

/-- `read_parent` succeeds exactly on a buffer that starts with the fingerprint it returns. -/
theorem run_readParent_eq_ok_iff {r r' : List UInt8} {p : KeyFingerprint} :
    readParent.run r = .ok (p, r') ↔ r = p.bytes.toList ++ r' := by
  simp only [readParent, run_bind_eq_ok_iff, run_readExact_eq_ok_iff, StateT.run_pure, except_pure,
    Except.ok.injEq, Prod.mk.injEq]
  constructor
  · rintro ⟨a, _, rfl, rfl, rfl⟩; rfl
  · rintro rfl; exact ⟨p.bytes, r', rfl, rfl, rfl⟩

/-- `read_index` succeeds exactly on a buffer that starts with the big-endian bytes of the index
it returns. -/
theorem run_readIndex_eq_ok_iff {r r' : List UInt8} {i : UInt32} :
    readIndex.run r = .ok (i, r') ↔ r = (u32ToBeBytes i).toList ++ r' := by
  simp only [readIndex, run_bind_eq_ok_iff, run_readExact_eq_ok_iff, StateT.run_pure, except_pure,
    Except.ok.injEq, Prod.mk.injEq]
  constructor
  · rintro ⟨a, _, rfl, rfl, rfl⟩; simp
  · rintro rfl; exact ⟨u32ToBeBytes i, r', rfl, by simp, rfl⟩

/-- `read_chain_code` succeeds exactly on a buffer that starts with the chain code it returns. -/
theorem run_readChainCode_eq_ok_iff {r r' : List UInt8} {c : ChainCode} :
    readChainCode.run r = .ok (c, r') ↔ r = c.bytes.toList ++ r' := by
  simp only [readChainCode, run_bind_eq_ok_iff, run_readExact_eq_ok_iff, StateT.run_pure,
    except_pure, Except.ok.injEq, Prod.mk.injEq]
  constructor
  · rintro ⟨a, _, rfl, rfl, rfl⟩; rfl
  · rintro rfl; exact ⟨c.bytes, r', rfl, rfl, rfl⟩

/-- A backend parse lifted into a reader succeeds exactly when the parse does, reading nothing. -/
theorem run_monadLift_eq_ok_iff {α : Type} {x : Except Bip32Error α} {r r' : List UInt8} {a : α} :
    (monadLift x : Reader α).run r = .ok (a, r') ↔ x = .ok a ∧ r = r' := by
  cases x <;> simp [StateT.run_monadLift, eq_comm]

/-! ## Body and version readers -/

/-- A successful `read_xpriv_body` consumed the key details, a zero byte and the scalar bytes of
the key it returned, which carries the requested hint and backend and whose scalar the backend
parses back. -/
theorem eq_of_run_readXprivBody (hB : ∀ a p, B.fromPrivkeyArray a = .ok p → B.privkeyBytes p = a)
    {hint : Hint} {backend : Option B.Handle} {r rest : List UInt8} {k : GenericXPriv B}
    (h : (readXprivBody B hint backend).run r = .ok (k, rest)) :
    k.info.hint = hint ∧ k.privkey.backend = backend ∧
      r = keyDetailsBytes k.info ++ 0 :: (B.privkeyBytes k.privkey.key).toList ++ rest ∧
      B.fromPrivkeyArray (B.privkeyBytes k.privkey.key) = .ok k.privkey.key := by
  simp only [readXprivBody, run_bind_eq_ok_iff, run_readDepth_eq_ok_iff, run_readParent_eq_ok_iff,
    run_readIndex_eq_ok_iff, run_readChainCode_eq_ok_iff, run_readExact_eq_ok_iff] at h
  obtain ⟨d, _, rfl, p, _, rfl, i, _, rfl, c, _, rfl, pad, _, rfl, h⟩ := h
  split_ifs at h with hpad
  · simp [StateT.run_bind] at h
  · obtain rfl : pad = zeroPadding := not_not.mp hpad
    simp only [pure_bind, run_bind_eq_ok_iff, run_readExact_eq_ok_iff, run_monadLift_eq_ok_iff,
      StateT.run_pure, except_pure, Except.ok.injEq, Prod.mk.injEq] at h
    obtain ⟨buf, _, rfl, key, _, ⟨hkey, rfl⟩, rfl, rfl⟩ := h
    simp [keyDetailsBytes, zeroPadding, hB _ _ hkey, hkey]

/-- A successful `read_xpub_body` consumed the key details and the point bytes of the key it
returned, which carries the requested hint and backend and whose point the backend parses back. -/
theorem eq_of_run_readXpubBody (hB : ∀ a p, B.fromPubkeyArray a = .ok p → B.pubkeyBytes p = a)
    {hint : Hint} {backend : Option B.Handle} {r rest : List UInt8} {k : GenericXPub B}
    (h : (readXpubBody B hint backend).run r = .ok (k, rest)) :
    k.info.hint = hint ∧ k.pubkey.backend = backend ∧
      r = keyDetailsBytes k.info ++ (B.pubkeyBytes k.pubkey.key).toList ++ rest ∧
      B.fromPubkeyArray (B.pubkeyBytes k.pubkey.key) = .ok k.pubkey.key := by
  simp only [readXpubBody, run_bind_eq_ok_iff, run_readDepth_eq_ok_iff, run_readParent_eq_ok_iff,
    run_readIndex_eq_ok_iff, run_readChainCode_eq_ok_iff, run_readExact_eq_ok_iff,
    run_monadLift_eq_ok_iff, StateT.run_pure, except_pure, Except.ok.injEq, Prod.mk.injEq] at h
  obtain ⟨d, _, rfl, p, _, rfl, i, _, rfl, c, _, rfl, buf, _, rfl, key, _, ⟨hkey, rfl⟩, rfl, rfl⟩ := h
  simp [keyDetailsBytes, hB _ _ hkey, hkey]

/-- A successful version read consumed the writer's constant for some hint, and the body read
succeeded on the rest. -/
theorem eq_of_run_readVersioned {α : Type} {vs : Versions} {readBody : Hint → Reader α}
    {r rest : List UInt8} {a : α} (h : (readVersioned vs readBody).run r = .ok (a, rest)) :
    ∃ hint r', r = (u32ToBeBytes (vs.forHint hint)).toList ++ r' ∧
      (readBody hint).run r' = .ok (a, rest) := by
  simp only [readVersioned, run_bind_eq_ok_iff, run_readExact_eq_ok_iff] at h
  obtain ⟨buf, r', rfl, h⟩ := h
  cases hv : vs.hint? (u32FromBeBytes buf) with
  | none => simp [hv] at h
  | some hint =>
    rw [hv] at h
    exact ⟨hint, r', by rw [Versions.forHint_of_hint? hv, u32ToBeBytes_u32FromBeBytes], h⟩

end Bip32Codec
