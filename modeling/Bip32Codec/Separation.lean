import Bip32Codec.RoundTrip

/-! # A version prefix fixes network and key type

The four decoders a caller can point at untrusted input are `read_xpriv` and `read_xpub` of
`MainnetEncoder` and of `TestnetEncoder` (`KeyDecoder`). Each succeeds only on a buffer that
starts with the big-endian bytes of one of its three constants (`prefix_of_accepts`), and no
constant belongs to two decoders (`versions_disjoint`, checked on the twelve constants), so:

* **`version_prefix_fixes_decoder`** — on every buffer at most one of the four readers returns
  `Ok`, and on every string at most one of the four `*_from_base58` does: a mainnet key is never
  read as a testnet key, nor a public key as a private one;
* **`from_base58_other_network_rejects_version`** — the text of a key of one network, decoded on
  the other, fails with `BadXPrivVersionBytes` carrying the key's own version bytes;
* **`from_base58_other_key_type_rejects_version`** — so does the text of a public key given to
  `xpriv_from_base58`, or of a private key given to `xpub_from_base58`, on either network. -/

namespace Bip32Codec

variable {B : Secp256k1Backend} {backend : Option B.Handle}

/-- A successful version read consumed the big-endian bytes of one of the three constants. -/
theorem prefix_of_run_readVersioned_isOk {α : Type} {vs : Versions} {readBody : Hint → Reader α}
    {r : List UInt8} (h : ((readVersioned vs readBody).run r).isOk) :
    ∃ v ∈ vs.toList, (u32ToBeBytes v).toList <+: r := by
  rcases hr : (readVersioned vs readBody).run r with _ | ⟨a, rest⟩ <;> rw [hr] at h
  · cases h
  · obtain ⟨hint, r', rfl, -⟩ := eq_of_run_readVersioned hr
    exact ⟨_, vs.forHint_mem_toList hint, List.prefix_append _ _⟩

/-- Two big-endian `u32` prefixes of one buffer denote the same number. -/
theorem eq_of_u32ToBeBytes_prefixes {v w : UInt32} {r : List UInt8}
    (hv : (u32ToBeBytes v).toList <+: r) (hw : (u32ToBeBytes w).toList <+: r) : v = w := by
  have h : u32ToBeBytes v = u32ToBeBytes w :=
    Bytes.ext ((List.prefix_of_prefix_length_le hv hw (by simp)).eq_of_length (by simp))
  simpa using congrArg u32FromBeBytes h

/-- A version reader rejects a buffer that starts with none of its constants, whatever follows. -/
theorem run_readVersioned_append_of_not_mem {α : Type} {vs : Versions} (readBody : Hint → Reader α)
    {v : UInt32} (hv : v ∉ vs.toList) (rest : List UInt8) :
    (readVersioned vs readBody).run ((u32ToBeBytes v).toList ++ rest) =
      .error (.badXPrivVersionBytes (u32ToBeBytes v)) := by
  simp [readVersioned, Versions.hint?_eq_none_iff.mpr hv]

/-! ## The four decoders -/

/-- The decoders of untrusted input: `read_xpriv` and `read_xpub` of `MainnetEncoder` and of
`TestnetEncoder`. -/
inductive KeyDecoder where
  /-- `MainnetEncoder::read_xpriv`. -/
  | mainnetXpriv
  /-- `MainnetEncoder::read_xpub`. -/
  | mainnetXpub
  /-- `TestnetEncoder::read_xpriv`. -/
  | testnetXpriv
  /-- `TestnetEncoder::read_xpub`. -/
  | testnetXpub
  deriving DecidableEq, Repr

namespace KeyDecoder

/-- The three version constants a decoder dispatches on. -/
def versions : KeyDecoder → Versions
  | mainnetXpriv => Main.privVersions
  | mainnetXpub => Main.pubVersions
  | testnetXpriv => Test.privVersions
  | testnetXpub => Test.pubVersions

/-- Whether the decoder returns `Ok` on the buffer `r`. -/
def accepts (B : Secp256k1Backend) (backend : Option B.Handle) : KeyDecoder → List UInt8 → Bool
  | mainnetXpriv, r => ((readXpriv Main B backend).run r).isOk
  | mainnetXpub, r => ((readXpub Main B backend).run r).isOk
  | testnetXpriv, r => ((readXpriv Test B backend).run r).isOk
  | testnetXpub, r => ((readXpub Test B backend).run r).isOk

/-- Whether the decoder's `*_from_base58` returns `Ok` on the string `s` (a panic is not `Ok`). -/
def acceptsText (hash256 : List UInt8 → Bytes 32) (B : Secp256k1Backend)
    (backend : Option B.Handle) : KeyDecoder → String → Bool
  | mainnetXpriv, s => (xprivFromBase58 hash256 Main B s backend).any Except.isOk
  | mainnetXpub, s => (xpubFromBase58 hash256 Main B s backend).any Except.isOk
  | testnetXpriv, s => (xprivFromBase58 hash256 Test B s backend).any Except.isOk
  | testnetXpub, s => (xpubFromBase58 hash256 Test B s backend).any Except.isOk

/-- No version constant belongs to two decoders. -/
theorem versions_disjoint {d₁ d₂ : KeyDecoder} (hne : d₁ ≠ d₂) {v : UInt32}
    (h₁ : v ∈ d₁.versions.toList) : v ∉ d₂.versions.toList := by
  revert v
  cases d₁ <;> cases d₂ <;> first | exact absurd rfl hne | decide

/-- A decoder's constant for any hint is none of another decoder's. -/
theorem forHint_not_mem {d₁ d₂ : KeyDecoder} (hne : d₁ ≠ d₂) (hint : Hint) :
    d₁.versions.forHint hint ∉ d₂.versions.toList :=
  versions_disjoint hne (Versions.forHint_mem_toList _ hint)

/-- A decoder accepts only buffers that start with one of its constants. -/
theorem prefix_of_accepts {d : KeyDecoder} {r : List UInt8} (h : d.accepts B backend r) :
    ∃ v ∈ d.versions.toList, (u32ToBeBytes v).toList <+: r := by
  cases d <;> exact prefix_of_run_readVersioned_isOk h

/-- **At most one decoder accepts a buffer.** -/
theorem accepts_unique {r : List UInt8} {d₁ d₂ : KeyDecoder} (h₁ : d₁.accepts B backend r)
    (h₂ : d₂.accepts B backend r) : d₁ = d₂ := by
  obtain ⟨v, hv, hpv⟩ := prefix_of_accepts h₁
  obtain ⟨w, hw, hpw⟩ := prefix_of_accepts h₂
  by_contra hne
  exact versions_disjoint hne hv (eq_of_u32ToBeBytes_prefixes hpv hpw ▸ hw)

/-- A text decode succeeds only by decoding a Base58Check payload that the reader accepts. -/
theorem exists_of_fromBase58_isOk {hash256 : List UInt8 → Bytes 32} {α : Type} {read : Reader α}
    {s : String} (h : (fromBase58 hash256 read s).any Except.isOk) :
    ∃ data, decodeB58Check hash256 s = some (.ok data) ∧ (read.run data).isOk := by
  unfold fromBase58 at h
  rcases hd : decodeB58Check hash256 s with _ | _ | data <;> rw [hd] at h
  · cases h
  · cases h
  · refine ⟨data, rfl, ?_⟩
    simp only [Option.map_some', Option.any_some, except_ok_bind, StateT.run'_eq] at h
    cases hr : read.run data <;> simp_all [Except.isOk, Except.toBool]

/-- A decoder accepts a string only when it accepts the string's Base58Check payload. -/
theorem exists_of_acceptsText {hash256 : List UInt8 → Bytes 32} {d : KeyDecoder} {s : String}
    (h : d.acceptsText hash256 B backend s) :
    ∃ data, decodeB58Check hash256 s = some (.ok data) ∧ d.accepts B backend data := by
  cases d <;> exact exists_of_fromBase58_isOk h

end KeyDecoder

/-- **The version prefix fixes network and key type.** On every buffer at most one of
`read_xpriv` / `read_xpub` of `MainnetEncoder` / `TestnetEncoder` returns `Ok`, and on every
string at most one of the four `*_from_base58` does. -/
theorem version_prefix_fixes_decoder (B : Secp256k1Backend) (backend : Option B.Handle) :
    (∀ (r : List UInt8) (d₁ d₂ : KeyDecoder),
      d₁.accepts B backend r → d₂.accepts B backend r → d₁ = d₂) ∧
    (∀ (hash256 : List UInt8 → Bytes 32) (s : String) (d₁ d₂ : KeyDecoder),
      d₁.acceptsText hash256 B backend s → d₂.acceptsText hash256 B backend s → d₁ = d₂) := by
  refine ⟨fun _ _ _ => KeyDecoder.accepts_unique, fun hash256 s d₁ d₂ h₁ h₂ => ?_⟩
  obtain ⟨data₁, hd₁, h₁⟩ := KeyDecoder.exists_of_acceptsText h₁
  obtain ⟨data₂, hd₂, h₂⟩ := KeyDecoder.exists_of_acceptsText h₂
  obtain rfl : data₁ = data₂ := by simpa [hd₁] using hd₂
  exact KeyDecoder.accepts_unique h₁ h₂

/-- The sample key's bytes are a mainnet private key to `MainnetEncoder::read_xpriv` and to no
other decoder. -/
theorem version_prefix_fixes_decoder_sample :
    KeyDecoder.mainnetXpriv.accepts rawBackend none (xprivBytes Main sampleXPriv) ∧
      ∀ d : KeyDecoder, d.accepts rawBackend none (xprivBytes Main sampleXPriv) →
        d = .mainnetXpriv := by
  have h : KeyDecoder.mainnetXpriv.accepts rawBackend none (xprivBytes Main sampleXPriv) := by
    have hr := @KeyKind.run_read_append _ (xprivKind rawBackend) Main Main_privVersions_distinct
      sampleXPriv rfl []
    rw [List.append_nil] at hr
    rw [KeyDecoder.accepts, show (readXpriv Main rawBackend none).run (xprivBytes Main sampleXPriv) = _
      from hr]
    rfl
  exact ⟨h, fun d hd => (version_prefix_fixes_decoder rawBackend none).1 _ d _ hd h⟩

/-! ## Text of the other network -/

section OtherNetwork

variable (hash256 : List UInt8 → Bytes 32)

/-- A version reader rejects, for its version, the text of every payload that starts with a
version none of its constants is. -/
theorem fromBase58_u32ToBeBytes_append {α : Type} {vs : Versions} (readBody : Hint → Reader α)
    {v : UInt32} (hv : v ∉ vs.toList) (body : List UInt8) :
    fromBase58 hash256 (readVersioned vs readBody)
        (encodeB58Check hash256 ((u32ToBeBytes v).toList ++ body)) =
      some (.error (.badXPrivVersionBytes (u32ToBeBytes v))) := by
  rw [fromBase58_encodeB58Check, StateT.run'_eq, run_readVersioned_append_of_not_mem _ hv]
  rfl

/-- **A key's text is rejected for its version** by every version reader that lacks the version
the key was written with. -/
theorem KeyKind.fromBase58_of_toBase58_of_not_mem (K : KeyKind B) {α : Type} {vs : Versions}
    (readBody : Hint → Reader α) {P : NetworkParams} {k : K.Key} {s : String}
    (h : (K.versions P).forHint (K.info k).hint ∉ vs.toList) (hs : K.toBase58 hash256 P k = .ok s) :
    Bip32Codec.fromBase58 hash256 (readVersioned vs readBody) s =
      some (.error (.badXPrivVersionBytes (u32ToBeBytes ((K.versions P).forHint (K.info k).hint)))) := by
  rw [K.toBase58_eq, Except.ok.injEq] at hs
  rw [← hs, K.layout_eq_append]
  exact fromBase58_u32ToBeBytes_append hash256 readBody h _

/-- **A key's text is rejected by the other network for its version.** The text of a mainnet key
read as a testnet key, or the other way round, fails with `BadXPrivVersionBytes` carrying the
key's own version bytes. -/
theorem from_base58_other_network_rejects_version (B : Secp256k1Backend)
    (backend : Option B.Handle) :
    (∀ (k : GenericXPriv B) s, xprivToBase58 hash256 Main k = .ok s →
      xprivFromBase58 hash256 Test B s backend =
        some (.error (.badXPrivVersionBytes (u32ToBeBytes (Main.privVersions.forHint k.info.hint))))) ∧
    (∀ (k : GenericXPriv B) s, xprivToBase58 hash256 Test k = .ok s →
      xprivFromBase58 hash256 Main B s backend =
        some (.error (.badXPrivVersionBytes (u32ToBeBytes (Test.privVersions.forHint k.info.hint))))) ∧
    (∀ (k : GenericXPub B) s, xpubToBase58 hash256 Main k = .ok s →
      xpubFromBase58 hash256 Test B s backend =
        some (.error (.badXPrivVersionBytes (u32ToBeBytes (Main.pubVersions.forHint k.info.hint))))) ∧
    (∀ (k : GenericXPub B) s, xpubToBase58 hash256 Test k = .ok s →
      xpubFromBase58 hash256 Main B s backend =
        some (.error (.badXPrivVersionBytes (u32ToBeBytes (Test.pubVersions.forHint k.info.hint))))) := by
  exact ⟨fun _ _ => (xprivKind B).fromBase58_of_toBase58_of_not_mem hash256 _
      (@KeyDecoder.forHint_not_mem .mainnetXpriv .testnetXpriv (by decide) _),
    fun _ _ => (xprivKind B).fromBase58_of_toBase58_of_not_mem hash256 _
      (@KeyDecoder.forHint_not_mem .testnetXpriv .mainnetXpriv (by decide) _),
    fun _ _ => (xpubKind B).fromBase58_of_toBase58_of_not_mem hash256 _
      (@KeyDecoder.forHint_not_mem .mainnetXpub .testnetXpub (by decide) _),
    fun _ _ => (xpubKind B).fromBase58_of_toBase58_of_not_mem hash256 _
      (@KeyDecoder.forHint_not_mem .testnetXpub .mainnetXpub (by decide) _)⟩

/-- **A key's text is rejected by the other key type for its version.** On `Main` and `Test`, in
any combination, the text of a public key read by `xpriv_from_base58` fails with
`BadXPrivVersionBytes` carrying the key's own version bytes, and so does the text of a private
key read by `xpub_from_base58`. -/
theorem from_base58_other_key_type_rejects_version (B : Secp256k1Backend)
    (backend : Option B.Handle) {P Q : NetworkParams} (hP : P = Main ∨ P = Test)
    (hQ : Q = Main ∨ Q = Test) :
    (∀ (k : GenericXPub B) s, xpubToBase58 hash256 P k = .ok s →
      xprivFromBase58 hash256 Q B s backend =
        some (.error (.badXPrivVersionBytes (u32ToBeBytes (P.pubVersions.forHint k.info.hint))))) ∧
    (∀ (k : GenericXPriv B) s, xprivToBase58 hash256 P k = .ok s →
      xpubFromBase58 hash256 Q B s backend =
        some (.error (.badXPrivVersionBytes (u32ToBeBytes (P.privVersions.forHint k.info.hint))))) := by
  have hnot : (∀ hint, P.pubVersions.forHint hint ∉ Q.privVersions.toList) ∧
      ∀ hint, P.privVersions.forHint hint ∉ Q.pubVersions.toList := by
    rcases hP with rfl | rfl <;> rcases hQ with rfl | rfl <;>
      exact ⟨fun hint => by cases hint <;> decide, fun hint => by cases hint <;> decide⟩
  exact ⟨fun _ _ => (xpubKind B).fromBase58_of_toBase58_of_not_mem hash256 _ (hnot.1 _),
    fun _ _ => (xprivKind B).fromBase58_of_toBase58_of_not_mem hash256 _ (hnot.2 _)⟩

/-- A mainnet public key's text is rejected by the testnet private-key decoder for its version,
and a mainnet private key's text by the testnet public-key decoder. -/
theorem from_base58_other_key_type_rejects_version_main_test :
    (Main = Main ∨ Main = Test) ∧ (Test = Main ∨ Test = Test) ∧
    (∀ (k : GenericXPub rawBackend) s, xpubToBase58 zeroHash Main k = .ok s →
      xprivFromBase58 zeroHash Test rawBackend s none =
        some (.error (.badXPrivVersionBytes (u32ToBeBytes (Main.pubVersions.forHint k.info.hint))))) ∧
    (∀ (k : GenericXPriv rawBackend) s, xprivToBase58 zeroHash Main k = .ok s →
      xpubFromBase58 zeroHash Test rawBackend s none =
        some (.error (.badXPrivVersionBytes (u32ToBeBytes (Main.privVersions.forHint k.info.hint))))) :=
  ⟨Or.inl rfl, Or.inr rfl,
    from_base58_other_key_type_rejects_version zeroHash rawBackend none (Or.inl rfl) (Or.inr rfl)⟩

end OtherNetwork

end Bip32Codec
