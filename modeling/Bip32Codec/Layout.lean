import Bip32Codec.Encoder

/-! # What the readers do on every buffer

`read_xpriv` and `read_xpub` on an arbitrary `&[u8]`, of any length and contents. The readers are
chains of `read_exact` calls; here each field reader is restated at an offset of the original
buffer (`run_readDepth_drop` …), so that a whole run is a function of the buffer's bytes at fixed
offsets of §6:

* **`xprivLayout` / `xpubLayout`** — the outcome the spec's offset table prescribes: which error
  is raised first when several fields are wrong, and which bytes each field of the key comes
  from;
* **`run_readXpriv` / `run_readXpub`** — the readers compute exactly that, and on success stop
  after byte 78;
* **`from_base58_follows_offset_table`** — so do the text decoders, after `decode_b58_check`. -/

namespace Bip32Codec

variable {B : Secp256k1Backend}

/-! ## Reading at an offset -/

/-- The `n` bytes of `r` from offset `i` (`r[i..i + n]`), for a buffer that has them. -/
def Bytes.slice (r : List UInt8) (i n : Nat) (h : i + n ≤ r.length) : Bytes n :=
  ⟨(r.drop i).take n, List.length_take_of_le (by rw [List.length_drop]; omega)⟩

/-- The short-read error. -/
abbrev eof : Bip32Error := .ioError .unexpectedEof

/-- **Reading `n` bytes at offset `i`** of a buffer: `r[i..i + n]`, or `UnexpectedEof` when the
buffer ends before `i + n`. -/
theorem run_readExact_drop (r : List UInt8) (i : Nat) {n : Nat} (hn : 0 < n) :
    (readExact n).run (r.drop i) =
      if h : i + n ≤ r.length then .ok (Bytes.slice r i n h, r.drop (i + n)) else .error eof := by
  rw [run_readExact]
  by_cases h : i + n ≤ r.length
  · rw [dif_pos (by rw [List.length_drop]; omega), dif_pos h, List.drop_drop]; rfl
  · rw [dif_neg (by rw [List.length_drop]; omega), dif_neg h]

/-- `read_depth` at offset `i`: the byte `r[i]`. -/
theorem run_readDepth_drop (r : List UInt8) (i : Nat) :
    readDepth.run (r.drop i) =
      if h : i + 1 ≤ r.length then .ok (r[i], r.drop (i + 1)) else .error eof := by
  rw [readDepth, StateT.run_bind, run_readExact_drop r i Nat.one_pos]
  split <;> simp [Bytes.get, Bytes.slice]

/-- `read_parent` at offset `i`: the fingerprint `r[i..i + 4]`. -/
theorem run_readParent_drop (r : List UInt8) (i : Nat) :
    readParent.run (r.drop i) =
      if h : i + 4 ≤ r.length then .ok (⟨Bytes.slice r i 4 h⟩, r.drop (i + 4)) else .error eof := by
  rw [readParent, StateT.run_bind, run_readExact_drop r i (by decide)]
  split <;> rfl

/-- `read_index` at offset `i`: the big-endian `u32` `r[i..i + 4]`. -/
theorem run_readIndex_drop (r : List UInt8) (i : Nat) :
    readIndex.run (r.drop i) =
      if h : i + 4 ≤ r.length then .ok (u32FromBeBytes (Bytes.slice r i 4 h), r.drop (i + 4))
      else .error eof := by
  rw [readIndex, StateT.run_bind, run_readExact_drop r i (by decide)]
  split <;> rfl

/-- `read_chain_code` at offset `i`: the chain code `r[i..i + 32]`. -/
theorem run_readChainCode_drop (r : List UInt8) (i : Nat) :
    readChainCode.run (r.drop i) =
      if h : i + 32 ≤ r.length then .ok (⟨Bytes.slice r i 32 h⟩, r.drop (i + 32))
      else .error eof := by
  rw [readChainCode, StateT.run_bind, run_readExact_drop r i (by decide)]
  split <;> rfl

/-- A one-byte slice is the zero padding exactly when its byte is zero. -/
theorem Bytes.slice_one_eq_zeroPadding_iff (r : List UInt8) (i : Nat) (h : i + 1 ≤ r.length) :
    Bytes.slice r i 1 h = zeroPadding ↔ r[i] = 0 := by
  have hi : i < r.length := h
  rw [Bytes.ext_iff]
  simp [Bytes.slice, zeroPadding, List.take_one, List.head?_drop, List.getElem?_eq_getElem hi]

/-- The byte of a one-byte slice. -/
@[simp] theorem Bytes.get_slice_one (r : List UInt8) (i : Nat) (h : i + 1 ≤ r.length) :
    (Bytes.slice r i 1 h).get 0 = r[i] := by
  simp [Bytes.slice, Bytes.get]

/-- A successful step followed by `f` is `f`, and a failed step stays failed, on each side of a
length check. -/
@[simp] theorem except_dite_bind {ε α β : Type} {c : Prop} [Decidable c] (x : c → α) (e : ε)
    (f : α → Except ε β) :
    ((if h : c then Except.ok (x h) else Except.error e) >>= f) =
      if h : c then f (x h) else .error e := by
  split <;> rfl

/-! ## The layout of §6, offset by offset -/

/-- What `read_xpriv` returns once the version bytes matched the constant for `hint`, by the offset
table of §6. An I/O error if the buffer ends before byte 46; `BadPadding(b[45])` if that byte is not
zero; an I/O error if the buffer ends before byte 78; the backend's error if `b[46..78]` is no
scalar; and otherwise the key with depth `b[4]`, parent `b[5..9]`, index `b[9..13]` big-endian,
chain code `b[13..45]` and scalar `b[46..78]`. -/
def xprivLayoutBody (B : Secp256k1Backend) (backend : Option B.Handle) (b : List UInt8)
    (hint : Hint) : Except Bip32Error (GenericXPriv B) :=
  if h46 : 46 ≤ b.length then
    if b[45] ≠ 0 then .error (.badPadding b[45])
    else if h78 : 78 ≤ b.length then
      match B.fromPrivkeyArray (Bytes.slice b 46 32 h78) with
      | .error e => .error e
      | .ok key => .ok
        { info := { depth := b[4], parent := ⟨Bytes.slice b 5 4 (by omega)⟩,
                    index := u32FromBeBytes (Bytes.slice b 9 4 (by omega)),
                    chainCode := ⟨Bytes.slice b 13 32 (by omega)⟩, hint }
          privkey := { key, backend } }
    else .error eof
  else .error eof

/-- **`read_xpriv_body`, after the version bytes, on every buffer**: it follows the layout, and on
success stops after byte 78. -/
theorem run_readXprivBody_drop (hint : Hint) (backend : Option B.Handle) (b : List UInt8) :
    (readXprivBody B hint backend).run (b.drop 4) =
      (fun k => (k, b.drop 78)) <$> xprivLayoutBody B backend b hint := by
  have h1 := @run_readExact_drop b 45 1 Nat.one_pos
  have h32 := @run_readExact_drop b 46 32 (by decide)
  simp only [readXprivBody, StateT.run_bind, run_readDepth_drop, run_readParent_drop,
    run_readIndex_drop, run_readChainCode_drop, h1, except_dite_bind, except_ok_bind,
    except_error_bind, List.drop_drop, Nat.reduceAdd, xprivLayoutBody,
    Bytes.slice_one_eq_zeroPadding_iff, Bytes.get_slice_one, ne_eq]
  by_cases h46 : 46 ≤ b.length
  · have hlen : 5 ≤ b.length ∧ 9 ≤ b.length ∧ 13 ≤ b.length ∧ 45 ≤ b.length := by omega
    simp only [hlen, h46, dite_true]
    split_ifs with hpad h78
    · simp only [pure_bind, StateT.run_bind, h32, h78, dite_true, except_ok_bind]
      cases B.fromPrivkeyArray (Bytes.slice b 46 32 h78) <;> rfl
    · simp only [pure_bind, StateT.run_bind, h32, h78, dite_false]
      rfl
    · rfl
  · simp only [h46, dite_false, dite_eq_ite, ite_self]
    rfl

/-- What `read_xpub` returns once the version bytes matched the constant for `hint`, by the offset
table of §6. An I/O error if the buffer ends before byte 78; the backend's error if `b[45..78]` is
no point; and otherwise the key with depth `b[4]`, parent `b[5..9]`, index `b[9..13]` big-endian,
chain code `b[13..45]` and point `b[45..78]`. There is no padding byte. -/
def xpubLayoutBody (B : Secp256k1Backend) (backend : Option B.Handle) (b : List UInt8)
    (hint : Hint) : Except Bip32Error (GenericXPub B) :=
  if h78 : 78 ≤ b.length then
    match B.fromPubkeyArray (Bytes.slice b 45 33 h78) with
    | .error e => .error e
    | .ok key => .ok
      { info := { depth := b[4], parent := ⟨Bytes.slice b 5 4 (by omega)⟩,
                  index := u32FromBeBytes (Bytes.slice b 9 4 (by omega)),
                  chainCode := ⟨Bytes.slice b 13 32 (by omega)⟩, hint }
        pubkey := { key, backend } }
  else .error eof

/-- **`read_xpub_body`, after the version bytes, on every buffer**: it follows the layout, and on
success stops after byte 78. -/
theorem run_readXpubBody_drop (hint : Hint) (backend : Option B.Handle) (b : List UInt8) :
    (readXpubBody B hint backend).run (b.drop 4) =
      (fun k => (k, b.drop 78)) <$> xpubLayoutBody B backend b hint := by
  have h33 := @run_readExact_drop b 45 33 (by decide)
  simp only [readXpubBody, StateT.run_bind, run_readDepth_drop, run_readParent_drop,
    run_readIndex_drop, run_readChainCode_drop, h33, except_dite_bind, except_ok_bind,
    except_error_bind, List.drop_drop, Nat.reduceAdd, xpubLayoutBody]
  by_cases h78 : 78 ≤ b.length
  · have hlen : 5 ≤ b.length ∧ 9 ≤ b.length ∧ 13 ≤ b.length ∧ 45 ≤ b.length := by omega
    simp only [hlen, h78, dite_true]
    cases B.fromPubkeyArray (Bytes.slice b 45 33 h78) <;> rfl
  · simp only [h78, dite_false, dite_eq_ite, ite_self]
    rfl

/-- The version check both readers make first, by the offset table of §6. An I/O error if the
buffer has fewer than four bytes; `BadXPrivVersionBytes(b[0..4])` if the big-endian `u32`
`b[0..4]` is none of the three constants (`Versions.hint?_eq_none_iff`), whatever follows; and
otherwise what the body gives for the hint the dispatch infers (`Versions.hint?_eq_some_iff`). -/
def versionedLayout {α : Type} (vs : Versions) (body : Hint → Except Bip32Error α)
    (b : List UInt8) : Except Bip32Error α :=
  if h4 : 4 ≤ b.length then
    match vs.hint? (u32FromBeBytes (Bytes.slice b 0 4 h4)) with
    | some hint => body hint
    | none => .error (.badXPrivVersionBytes (Bytes.slice b 0 4 h4))
  else .error eof

/-- The outcome the offset table prescribes for `read_xpriv` on the buffer `b`. -/
def xprivLayout (P : NetworkParams) (B : Secp256k1Backend) (backend : Option B.Handle)
    (b : List UInt8) : Except Bip32Error (GenericXPriv B) :=
  versionedLayout P.privVersions (xprivLayoutBody B backend b) b

/-- The outcome the offset table prescribes for `read_xpub` on the buffer `b`. -/
def xpubLayout (P : NetworkParams) (B : Secp256k1Backend) (backend : Option B.Handle)
    (b : List UInt8) : Except Bip32Error (GenericXPub B) :=
  versionedLayout P.pubVersions (xpubLayoutBody B backend b) b

/-- **The version reader on every buffer**: `UnexpectedEof` before four bytes, then
`BadXPrivVersionBytes` for a version none of the three constants, else the body on the rest. -/
theorem run_readVersioned {α : Type} (vs : Versions) (readBody : Hint → Reader α)
    (r : List UInt8) :
    (readVersioned vs readBody).run r =
      if h : 4 ≤ r.length then
        match vs.hint? (u32FromBeBytes (Bytes.slice r 0 4 h)) with
        | some hint => (readBody hint).run (r.drop 4)
        | none => .error (.badXPrivVersionBytes (Bytes.slice r 0 4 h))
      else .error eof := by
  have h0 := @run_readExact_drop r 0 4 (by decide)
  rw [List.drop_zero] at h0
  rw [readVersioned, StateT.run_bind, h0]
  split
  · next h4 =>
    simp only [except_ok_bind]
    cases vs.hint? (u32FromBeBytes (Bytes.slice r 0 4 h4)) <;> rfl
  · rfl

/-- A version reader whose bodies follow a layout follows the versioned layout. -/
theorem run_readVersioned_eq_layout {α : Type} {vs : Versions} {readBody : Hint → Reader α}
    {body : Hint → Except Bip32Error α} {b : List UInt8}
    (h : ∀ hint, (readBody hint).run (b.drop 4) = (fun a => (a, b.drop 78)) <$> body hint) :
    (readVersioned vs readBody).run b =
      (fun a => (a, b.drop 78)) <$> versionedLayout vs body b := by
  rw [run_readVersioned, versionedLayout]
  split
  · split <;> simp [h]
  · rfl

/-- **`read_xpriv` on every buffer** computes the spec's outcome, and on success stops after byte
78. -/
theorem run_readXpriv (P : NetworkParams) (backend : Option B.Handle) (b : List UInt8) :
    (readXpriv P B backend).run b = (fun k => (k, b.drop 78)) <$> xprivLayout P B backend b :=
  run_readVersioned_eq_layout fun hint => run_readXprivBody_drop hint backend b

/-- A buffer whose version and padding are both wrong is rejected for its version. -/
example : (readXpriv Main rawBackend none).run' (List.replicate 78 1) =
    .error (.badXPrivVersionBytes ⟨[1, 1, 1, 1], rfl⟩) := by
  rfl

/-- **`read_xpub` on every buffer** computes the spec's outcome, and on success stops after byte
78. -/
theorem run_readXpub (P : NetworkParams) (backend : Option B.Handle) (b : List UInt8) :
    (readXpub P B backend).run b = (fun k => (k, b.drop 78)) <$> xpubLayout P B backend b :=
  run_readVersioned_eq_layout fun hint => run_readXpubBody_drop hint backend b

/-- **The readers accept exactly the 78-byte layout.** On every network and every buffer,
`read_xpriv` and `read_xpub` return what the spec's offset table prescribes, including which
error comes first when several fields are wrong, and on success leave the reader after byte 78. -/
theorem read_follows_offset_table (P : NetworkParams) (B : Secp256k1Backend)
    (backend : Option B.Handle) :
    (∀ b, (readXpriv P B backend).run b = (fun k => (k, b.drop 78)) <$> xprivLayout P B backend b) ∧
    (∀ b, (readXpub P B backend).run b = (fun k => (k, b.drop 78)) <$> xpubLayout P B backend b) :=
  ⟨run_readXpriv P backend, run_readXpub P backend⟩

/-! ## Through the Base58Check text form -/

/-- A text decoder whose reader follows a layout follows it on the decoded payload. -/
theorem fromBase58_eq_map {hash256 : List UInt8 → Bytes 32} {α : Type} {read : Reader α}
    {spec : List UInt8 → Except Bip32Error α}
    (h : ∀ b, read.run b = (fun a => (a, b.drop 78)) <$> spec b) (s : String) :
    fromBase58 hash256 read s = (decodeB58Check hash256 s).map (· >>= spec) := by
  rw [fromBase58]
  congr 1
  funext data
  cases data <;> simp [StateT.run'_eq, h]

/-- **The text decoders follow the offset table.** For every string, `xpriv_from_base58` /
`xpub_from_base58` are `decode_b58_check`, whose panic and errors pass through unchanged,
followed on the payload by the outcome the offset table prescribes. -/
theorem from_base58_follows_offset_table (hash256 : List UInt8 → Bytes 32) (P : NetworkParams)
    (B : Secp256k1Backend) (backend : Option B.Handle) :
    (∀ s, xprivFromBase58 hash256 P B s backend =
      (decodeB58Check hash256 s).map (· >>= xprivLayout P B backend)) ∧
    (∀ s, xpubFromBase58 hash256 P B s backend =
      (decodeB58Check hash256 s).map (· >>= xpubLayout P B backend)) :=
  ⟨fromBase58_eq_map (run_readXpriv P backend), fromBase58_eq_map (run_readXpub P backend)⟩

end Bip32Codec
