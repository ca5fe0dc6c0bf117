import Bip32Codec.ReadInversion

/-! # The two kinds of extended key

`enc.rs` handles private and public keys the same way. `write_xpriv` / `write_xpub` write the
version for the key's hint, the key details and the key bytes; `read_xpriv` / `read_xpub` are the
version dispatch in front of a body reader; the text forms wrap both in Base58Check. Only the key
bytes differ: a zero byte and a 32-byte scalar, or a 33-byte point.

A **`KeyKind`** is what the results need of one kind of key: how a key is built from its details,
its key proper and its backend handle; the bytes after its details; when the backend parses them
back; the network's constants; the writer and the body reader; and, as fields, the laws that tie
these together, which are the spec lemmas of `Encoder` and `ReadInversion`. `xprivKind` and
`xpubKind` are the two kinds of `enc.rs`. What the version dispatch and the text forms do is then
proved once, over any kind:

* **`KeyKind.run_read_layoutBytes_of_hint?`** — on any network, the reader reads a layout back as
  the key it was written from, with the hint the dispatch infers from the version; on distinct
  constants, that is the key itself (`run_read_append`);
* **`KeyKind.run_read_eq_ok_iff`** — under the backend's contract, a read succeeds exactly on a
  key's layout followed by anything, which it leaves unread;
* **`KeyKind.eq_of_layout_eq`** — two keys with one layout agree on all but the backend handle;
* **`KeyKind.toBase58_eq`**, **`fromBase58_encodeB58Check`**, **`exists_of_fromBase58`** — the
  text form is Base58Check of the layout, and the text decoder runs the reader on the payload. -/

namespace Bip32Codec

/-- One kind of extended key, as the version dispatch and the text forms see it. -/
structure KeyKind (B : Secp256k1Backend) where
  /-- The extended key type. -/
  Key : Type
  /-- The key proper: a scalar or a point. -/
  Inner : Type
  /-- The key with the given details, key proper and borrowed backend. -/
  build : XKeyInfo → Inner → Option B.Handle → Key
  /-- The key details. -/
  info : Key → XKeyInfo
  /-- The key proper. -/
  key : Key → Inner
  /-- The backend the key borrows. -/
  handle : Key → Option B.Handle
  /-- The bytes the writer puts after the key details. -/
  keyBytes : Inner → List UInt8
  /-- The backend parses the key bytes back to the key. -/
  Parses : Inner → Prop
  /-- The backend serializes back every key it parses. -/
  Contract : Prop
  /-- The network's three constants for this kind. -/
  versions : NetworkParams → Versions
  /-- The writer: `write_xpriv` or `write_xpub`. -/
  write : NetworkParams → (W : Sink) → Key → Writer W Nat
  /-- The body reader: `read_xpriv_body` or `read_xpub_body`. -/
  readBody : Hint → Option B.Handle → Reader Key
  /-- A key is built from its parts. -/
  build_parts : ∀ k, build (info k) (key k) (handle k) = k
  /-- The details of a built key. -/
  info_build : ∀ i p b, info (build i p b) = i
  /-- The key proper of a built key. -/
  key_build : ∀ i p b, key (build i p b) = p
  /-- The backend of a built key. -/
  handle_build : ∀ i p b, handle (build i p b) = b
  /-- The key bytes fill the 33 bytes after the key details. -/
  length_keyBytes : ∀ p, (keyBytes p).length = 33
  /-- The writer appends the key's layout to a `Vec<u8>` and reports 78. -/
  run_write_vecSink : ∀ P k (received : List UInt8), (write P vecSink k).run received =
    .ok (78, received ++ layoutBytes (versions P) (info k) (keyBytes (key k)))
  /-- The body reader reads key details and key bytes that the backend parses back, and builds
  the key from them with the hint and backend it is given. -/
  run_readBody_append : ∀ {p}, Parses p → ∀ (i : XKeyInfo) b rest,
    (readBody i.hint b).run (keyDetailsBytes i ++ keyBytes p ++ rest) = .ok (build i p b, rest)
  /-- Under the contract, a successful body read consumed the key details and key bytes of the
  key it returned, which carries the hint and backend it was given. -/
  eq_of_run_readBody : Contract → ∀ {hint b r rest k}, (readBody hint b).run r = .ok (k, rest) →
    (info k).hint = hint ∧ handle k = b ∧
      r = keyDetailsBytes (info k) ++ keyBytes (key k) ++ rest ∧ Parses (key k)

attribute [simp] KeyKind.build_parts KeyKind.info_build KeyKind.key_build KeyKind.handle_build

/-- Extended private keys: a zero byte and the 32-byte scalar after the key details. -/
def xprivKind (B : Secp256k1Backend) : KeyKind B where
  Key := GenericXPriv B
  Inner := B.Privkey
  build info key backend := { info, privkey := { key, backend } }
  info k := k.info
  key k := k.privkey.key
  handle k := k.privkey.backend
  keyBytes p := 0 :: (B.privkeyBytes p).toList
  Parses p := B.fromPrivkeyArray (B.privkeyBytes p) = .ok p
  Contract := ∀ a p, B.fromPrivkeyArray a = .ok p → B.privkeyBytes p = a
  versions P := P.privVersions
  write P W k := writeXpriv P W k
  readBody := readXprivBody B
  build_parts _ := rfl
  info_build _ _ _ := rfl
  key_build _ _ _ := rfl
  handle_build _ _ _ := rfl
  length_keyBytes _ := by simp
  run_write_vecSink := run_writeXpriv_vecSink
  run_readBody_append := run_readXprivBody_append
  eq_of_run_readBody := eq_of_run_readXprivBody

/-- Extended public keys: the 33-byte point after the key details. -/
def xpubKind (B : Secp256k1Backend) : KeyKind B where
  Key := GenericXPub B
  Inner := B.Pubkey
  build info key backend := { info, pubkey := { key, backend } }
  info k := k.info
  key k := k.pubkey.key
  handle k := k.pubkey.backend
  keyBytes p := (B.pubkeyBytes p).toList
  Parses p := B.fromPubkeyArray (B.pubkeyBytes p) = .ok p
  Contract := ∀ a p, B.fromPubkeyArray a = .ok p → B.pubkeyBytes p = a
  versions P := P.pubVersions
  write P W k := writeXpub P W k
  readBody := readXpubBody B
  build_parts _ := rfl
  info_build _ _ _ := rfl
  key_build _ _ _ := rfl
  handle_build _ _ _ := rfl
  length_keyBytes _ := by simp
  run_write_vecSink := run_writeXpub_vecSink
  run_readBody_append := run_readXpubBody_append
  eq_of_run_readBody := eq_of_run_readXpubBody

/-! ## The text decoder on any reader -/

section Text

variable (hash256 : List UInt8 → Bytes 32)

/-- On the Base58Check text of a payload, the text decoder is the reader on the payload. -/
theorem fromBase58_encodeB58Check {α : Type} (read : Reader α) (data : List UInt8) :
    fromBase58 hash256 read (encodeB58Check hash256 data) = some (read.run' data) := by
  simp [fromBase58, decodeB58Check_encodeB58Check]

/-- **A text decode succeeds only through the reader**: it decoded a payload on which the reader
succeeded. -/
theorem exists_of_fromBase58 {α : Type} {read : Reader α} {s : String} {a : α}
    (h : fromBase58 hash256 read s = some (.ok a)) :
    ∃ data rest, decodeB58Check hash256 s = some (.ok data) ∧ read.run data = .ok (a, rest) := by
  unfold fromBase58 at h
  rcases hd : decodeB58Check hash256 s with _ | _ | data <;> simp only [hd] at h <;>
    simp only [Option.map_none', Option.map_some', Option.some.injEq, except_error_bind,
      except_ok_bind, reduceCtorEq, StateT.run'_eq] at h
  rcases hr : read.run data with _ | ⟨a', rest⟩ <;> rw [hr] at h <;> cases h
  exact ⟨data, rest, rfl, hr⟩

end Text

namespace KeyKind

variable {B : Secp256k1Backend} (K : KeyKind B)

/-- The 78-byte layout the writer emits for `k` on the network `P`. -/
def layout (P : NetworkParams) (k : K.Key) : List UInt8 :=
  layoutBytes (K.versions P) (K.info k) (K.keyBytes (K.key k))

/-- The version reader: `read_xpriv` or `read_xpub`. -/
def read (P : NetworkParams) (backend : Option B.Handle) : Reader K.Key :=
  readVersioned (K.versions P) (K.readBody · backend)

/-- The text form: `xpriv_to_base58` or `xpub_to_base58`. -/
def toBase58 (hash256 : List UInt8 → Bytes 32) (P : NetworkParams) (k : K.Key) :
    Except Bip32Error String :=
  Bip32Codec.toBase58 hash256 (K.write P vecSink k)

/-- The text decoder: `xpriv_from_base58` or `xpub_from_base58`. -/
def fromBase58 (hash256 : List UInt8 → Bytes 32) (P : NetworkParams) (s : String)
    (backend : Option B.Handle) : Option (Except Bip32Error K.Key) :=
  Bip32Codec.fromBase58 hash256 (K.read P backend) s

/-- The key with its hint replaced (`XKeyInfo { hint, ..k.info }`). -/
def withHint (k : K.Key) (hint : Hint) : K.Key :=
  K.build { K.info k with hint } (K.key k) (K.handle k)

@[simp] theorem length_layout (P : NetworkParams) (k : K.Key) : (K.layout P k).length = 78 := by
  simp [layout, K.length_keyBytes]

/-- The layout is the version followed by the body. -/
theorem layout_eq_append (P : NetworkParams) (k : K.Key) :
    K.layout P k = (u32ToBeBytes ((K.versions P).forHint (K.info k).hint)).toList ++
      (keyDetailsBytes (K.info k) ++ K.keyBytes (K.key k)) := by
  rw [layout, layoutBytes, List.append_assoc]

/-! ## Reading a layout back -/

/-- **What the reader makes of a layout, on any network**: the key built from the layout's details
and key bytes, with the hint the dispatch infers from the version and the backend it is given. -/
theorem run_read_layoutBytes_of_hint? {P : NetworkParams} {p : K.Inner} (hp : K.Parses p)
    (i : XKeyInfo) (b : Option B.Handle) {hint : Hint}
    (hh : (K.versions P).hint? ((K.versions P).forHint i.hint) = some hint) (rest : List UInt8) :
    (K.read P b).run (layoutBytes (K.versions P) i (K.keyBytes p) ++ rest) =
      .ok (K.build { i with hint } p b, rest) := by
  rw [read, layoutBytes, List.append_assoc, List.append_assoc,
    run_readVersioned_append_of_hint? _ hh, ← List.append_assoc]
  exact K.run_readBody_append hp { i with hint } b rest

/-- On distinct constants, the reader reads a layout back as the key built from it. -/
theorem run_read_layoutBytes {P : NetworkParams} (hvs : (K.versions P).Distinct) {p : K.Inner}
    (hp : K.Parses p) (i : XKeyInfo) (b : Option B.Handle) (rest : List UInt8) :
    (K.read P b).run (layoutBytes (K.versions P) i (K.keyBytes p) ++ rest) = .ok (K.build i p b, rest) :=
  K.run_read_layoutBytes_of_hint? hp i b (Versions.hint?_forHint hvs i.hint) rest

/-- **The reader inverts the writer** on distinct constants: a key whose key bytes the backend
parses back is read back from its layout, with its own backend, whatever follows. -/
theorem run_read_append {P : NetworkParams} (hvs : (K.versions P).Distinct) {k : K.Key}
    (hk : K.Parses (K.key k)) (rest : List UInt8) :
    (K.read P (K.handle k)).run (K.layout P k ++ rest) = .ok (k, rest) := by
  rw [layout, K.run_read_layoutBytes hvs hk, build_parts]

/-- **A successful read consumed exactly the layout of the key it returned**, under the
backend's contract; the key carries the requested backend and its key bytes parse back. -/
theorem eq_layout_of_run_read (hC : K.Contract) {P : NetworkParams} {b : Option B.Handle}
    {r rest : List UInt8} {k : K.Key} (h : (K.read P b).run r = .ok (k, rest)) :
    K.handle k = b ∧ r = K.layout P k ++ rest ∧ K.Parses (K.key k) := by
  obtain ⟨hint, r', rfl, hbody⟩ := eq_of_run_readVersioned h
  obtain ⟨rfl, hb, rfl, hk⟩ := K.eq_of_run_readBody hC hbody
  exact ⟨hb, by simp only [layout, layoutBytes, List.append_assoc], hk⟩

/-- **The reader accepts exactly the layouts of keys**: on distinct constants and under the
backend's contract, a read returns `(k, rest)` exactly when the buffer is `k`'s layout followed
by `rest`, `k` carries the requested backend, and `k`'s key bytes parse back. -/
theorem run_read_eq_ok_iff {P : NetworkParams} (hvs : (K.versions P).Distinct) (hC : K.Contract)
    {b : Option B.Handle} {r rest : List UInt8} {k : K.Key} :
    (K.read P b).run r = .ok (k, rest) ↔
      r = K.layout P k ++ rest ∧ K.handle k = b ∧ K.Parses (K.key k) := by
  refine ⟨fun h => ?_, ?_⟩
  · obtain ⟨hb, hr, hk⟩ := K.eq_layout_of_run_read hC h
    exact ⟨hr, hb, hk⟩
  · rintro ⟨rfl, rfl, hk⟩
    exact K.run_read_append hvs hk rest

/-- **A layout fixes the key but for its backend**: on distinct constants, two keys whose key
bytes parse back and whose layouts agree have the same details and key proper. -/
theorem eq_of_layout_eq {P : NetworkParams} (hvs : (K.versions P).Distinct) {k₁ k₂ : K.Key}
    (h₁ : K.Parses (K.key k₁)) (h₂ : K.Parses (K.key k₂)) (h : K.layout P k₁ = K.layout P k₂) :
    K.info k₁ = K.info k₂ ∧ K.key k₁ = K.key k₂ := by
  have e := K.run_read_append hvs h₁ []
  rw [h, layout, K.run_read_layoutBytes hvs h₂, Except.ok.injEq, Prod.mk.injEq] at e
  rw [← e.1, info_build, key_build]
  exact ⟨rfl, rfl⟩

/-! ## The text forms -/

section Text

variable (hash256 : List UInt8 → Bytes 32)

/-- **The text form is Base58Check of the layout.** -/
theorem toBase58_eq (P : NetworkParams) (k : K.Key) :
    K.toBase58 hash256 P k = .ok (encodeB58Check hash256 (K.layout P k)) := by
  simp only [toBase58, Bip32Codec.toBase58, K.run_write_vecSink, List.nil_append, except_ok_bind,
    except_pure, layout]

/-- The text decoder reads a key back from the text of its layout followed by any bytes. -/
theorem fromBase58_encodeB58Check_layout {P : NetworkParams} (hvs : (K.versions P).Distinct)
    {k : K.Key} (hk : K.Parses (K.key k)) (rest : List UInt8) :
    K.fromBase58 hash256 P (encodeB58Check hash256 (K.layout P k ++ rest)) (K.handle k) =
      some (.ok k) := by
  rw [fromBase58, Bip32Codec.fromBase58_encodeB58Check, StateT.run'_eq,
    K.run_read_append hvs hk rest]
  rfl

end Text

end KeyKind

end Bip32Codec
