import Bip32Codec.Check
import Bip32Codec.Params
import Bip32Codec.Io

/-! # The extended-key encoder

`XKeyEncoder` for `BitcoinEncoder<P>` (§4.3), one definition per method of `enc.rs`, each under
the method's name: the writers `writeKeyDetails`, `writeXpub`, `writeXpriv`; the field readers
`readDepth` … `readChainCode`; the body readers `readXprivBody` / `readXpubBody`; the version
readers `readXpriv` / `readXpub` and their unchecked twins `readXprivWithoutNetwork` /
`readXpubWithoutNetwork`; and the Base58Check compositions. `MainnetEncoder` and
`TestnetEncoder` are these functions at `P = Main` and `P = Test`.

The private and public methods come in pairs that differ only in their constants and body
reader, so each pair is one definition applied to each member's own: `readVersioned` for
`read_xpriv` / `read_xpub`, `readWithoutNetwork` for the `_without_network` readers, `toBase58`
and `fromBase58` for the text forms, and `layoutBytes` for the 78-byte layouts of §6 that the
writers emit into a `Vec<u8>` (`xprivBytes`, `xpubBytes`). The file ends with the encoder's spec
lemmas: what each writer emits, and that each body reader reads it back with any trailing bytes
left unread. -/

namespace Bip32Codec

variable {B : Secp256k1Backend}

/-! ## Writers -/

/-- `write_key_details`: depth, parent fingerprint, big-endian index and chain code, returning the
sum of the counts the sink reported. -/
def writeKeyDetails (W : Sink) (info : XKeyInfo) : Writer W Nat := do
  let mut written ← W.write [info.depth]
  written := written + (← W.write info.parent.bytes.toList)
  written := written + (← W.write (u32ToBeBytes info.index).toList)
  written := written + (← W.write info.chainCode.bytes.toList)
  return written

/-- `write_xpub`: the version for the key's hint, the key details, the 33-byte point. -/
def writeXpub (P : NetworkParams) (W : Sink) (key : GenericXPub B) : Writer W Nat := do
  let version := P.pubVersions.forHint key.info.hint
  let mut written ← W.write (u32ToBeBytes version).toList
  written := written + (← writeKeyDetails W key.info)
  written := written + (← W.write (B.pubkeyBytes key.pubkey.key).toList)
  return written

/-- `write_xpriv`: the version for the key's hint, the key details, a zero padding byte, the
32-byte scalar. -/
def writeXpriv (P : NetworkParams) (W : Sink) (key : GenericXPriv B) : Writer W Nat := do
  let version := P.privVersions.forHint key.info.hint
  let mut written ← W.write (u32ToBeBytes version).toList
  written := written + (← writeKeyDetails W key.info)
  written := written + (← W.write [0])
  written := written + (← W.write (B.privkeyBytes key.privkey.key).toList)
  return written

/-! ## Readers -/

/-- `read_depth`. -/
def readDepth : Reader UInt8 := do
  let buf ← readExact 1
  pure (buf.get 0)

/-- `read_parent`. -/
def readParent : Reader KeyFingerprint := do
  let buf ← readExact 4
  pure ⟨buf⟩

/-- `read_index`: a big-endian `u32`. -/
def readIndex : Reader UInt32 := do
  let buf ← readExact 4
  pure (u32FromBeBytes buf)

/-- `read_chain_code`. -/
def readChainCode : Reader ChainCode := do
  let buf ← readExact 32
  pure ⟨buf⟩

/-- The padding byte `read_xpriv_body` requires before the scalar. -/
def zeroPadding : Bytes 1 := ⟨[0], rfl⟩

/-- `read_xpriv_body`: the key details, a padding byte that must be zero, and the scalar, which
the backend parses. -/
def readXprivBody (B : Secp256k1Backend) (hint : Hint) (backend : Option B.Handle) :
    Reader (GenericXPriv B) := do
  let depth ← readDepth
  let parent ← readParent
  let index ← readIndex
  let chainCode ← readChainCode
  let buf ← readExact 1
  if buf ≠ zeroPadding then throw (.badPadding (buf.get 0))
  let buf ← readExact 32
  let key ← B.fromPrivkeyArray buf
  pure { info := { depth, parent, index, chainCode, hint }, privkey := { key, backend } }

/-- `read_xpub_body`: the key details and the point, which the backend parses. -/
def readXpubBody (B : Secp256k1Backend) (hint : Hint) (backend : Option B.Handle) :
    Reader (GenericXPub B) := do
  let depth ← readDepth
  let parent ← readParent
  let index ← readIndex
  let chainCode ← readChainCode
  let buf ← readExact 33
  let key ← B.fromPubkeyArray buf
  pure { info := { depth, parent, index, chainCode, hint }, pubkey := { key, backend } }

/-- The shape shared by `read_xpriv` and `read_xpub`: read four version bytes, infer the hint
from `versions` or fail with `BadXPrivVersionBytes`, then read the body. -/
def readVersioned {α : Type} (versions : Versions) (readBody : Hint → Reader α) : Reader α := do
  let buf ← readExact 4
  let versionBytes := u32FromBeBytes buf
  match versions.hint? versionBytes with
  | some hint => readBody hint
  | none => throw (.badXPrivVersionBytes buf)

/-- The shape shared by the `_without_network` readers: skip four bytes, read a Legacy body. -/
def readWithoutNetwork {α : Type} (readBody : Hint → Reader α) : Reader α := do
  let _buf ← readExact 4
  readBody .legacy

/-- `read_xpriv` of `BitcoinEncoder<P>`. -/
def readXpriv (P : NetworkParams) (B : Secp256k1Backend) (backend : Option B.Handle) :
    Reader (GenericXPriv B) :=
  readVersioned P.privVersions (readXprivBody B · backend)

/-- `read_xpub` of `BitcoinEncoder<P>`; a bad version is reported as `BadXPrivVersionBytes` too. -/
def readXpub (P : NetworkParams) (B : Secp256k1Backend) (backend : Option B.Handle) :
    Reader (GenericXPub B) :=
  readVersioned P.pubVersions (readXpubBody B · backend)

/-- `read_xpriv_without_network`: accepts any four version bytes. -/
def readXprivWithoutNetwork (B : Secp256k1Backend) (backend : Option B.Handle) :
    Reader (GenericXPriv B) :=
  readWithoutNetwork (readXprivBody B · backend)

/-- `read_xpub_without_network`: accepts any four version bytes. -/
def readXpubWithoutNetwork (B : Secp256k1Backend) (backend : Option B.Handle) :
    Reader (GenericXPub B) :=
  readWithoutNetwork (readXpubBody B · backend)

/-! ## Base58Check -/

section Base58Check

variable (hash256 : List UInt8 → Bytes 32)

/-- The shape shared by `xpriv_to_base58` and `xpub_to_base58`: run the writer on an empty
`Vec<u8>`, then `encode_b58_check`. -/
def toBase58 (write : Writer vecSink Nat) : Except Bip32Error String := do
  let (_, v) ← write.run []
  pure (encodeB58Check hash256 v)

/-- The shape shared by `xpriv_from_base58` and `xpub_from_base58`: `decode_b58_check`, then the
reader on the payload (`none`: a panic). -/
def fromBase58 {α : Type} (read : Reader α) (s : String) : Option (Except Bip32Error α) :=
  (decodeB58Check hash256 s).map fun data => data >>= read.run'

/-- `xpriv_to_base58`. -/
def xprivToBase58 (P : NetworkParams) (k : GenericXPriv B) : Except Bip32Error String :=
  toBase58 hash256 (writeXpriv P vecSink k)

/-- `xpub_to_base58`. -/
def xpubToBase58 (P : NetworkParams) (k : GenericXPub B) : Except Bip32Error String :=
  toBase58 hash256 (writeXpub P vecSink k)

/-- `xpriv_from_base58`. -/
def xprivFromBase58 (P : NetworkParams) (B : Secp256k1Backend) (s : String)
    (backend : Option B.Handle) : Option (Except Bip32Error (GenericXPriv B)) :=
  fromBase58 hash256 (readXpriv P B backend) s

/-- `xpub_from_base58`. -/
def xpubFromBase58 (P : NetworkParams) (B : Secp256k1Backend) (s : String)
    (backend : Option B.Handle) : Option (Except Bip32Error (GenericXPub B)) :=
  fromBase58 hash256 (readXpub P B backend) s

end Base58Check

/-! ## What the writers emit into a `Vec<u8>` -/

/-- The 41 bytes of `write_key_details` (§6, offsets 4 to 44). -/
def keyDetailsBytes (info : XKeyInfo) : List UInt8 :=
  info.depth :: info.parent.bytes.toList ++ (u32ToBeBytes info.index).toList ++
    info.chainCode.bytes.toList

/-- The 78 bytes of an extended key (§6): the version for its hint, its key details and its key
bytes. -/
def layoutBytes (vs : Versions) (info : XKeyInfo) (keyBytes : List UInt8) : List UInt8 :=
  (u32ToBeBytes (vs.forHint info.hint)).toList ++ keyDetailsBytes info ++ keyBytes

/-- The 78 bytes of an extended private key: a zero byte and the scalar after the key details. -/
def xprivBytes (P : NetworkParams) (k : GenericXPriv B) : List UInt8 :=
  layoutBytes P.privVersions k.info (0 :: (B.privkeyBytes k.privkey.key).toList)

/-- The 78 bytes of an extended public key: the point after the key details. -/
def xpubBytes (P : NetworkParams) (k : GenericXPub B) : List UInt8 :=
  layoutBytes P.pubVersions k.info (B.pubkeyBytes k.pubkey.key).toList

@[simp] theorem length_keyDetailsBytes (info : XKeyInfo) : (keyDetailsBytes info).length = 41 := by
  simp [keyDetailsBytes]

@[simp] theorem length_layoutBytes (vs : Versions) (info : XKeyInfo) (keyBytes : List UInt8) :
    (layoutBytes vs info keyBytes).length = 45 + keyBytes.length := by
  simp only [layoutBytes, List.length_append, Bytes.length_toList, length_keyDetailsBytes]

@[simp] theorem length_xprivBytes (P : NetworkParams) (k : GenericXPriv B) :
    (xprivBytes P k).length = 78 := by
  simp [xprivBytes]

@[simp] theorem length_xpubBytes (P : NetworkParams) (k : GenericXPub B) :
    (xpubBytes P k).length = 78 := by
  simp [xpubBytes]

/-- `write_key_details` into a `Vec<u8>` appends the 41 key-detail bytes and reports 41. -/
theorem run_writeKeyDetails_vecSink (info : XKeyInfo) (received : List UInt8) :
    (writeKeyDetails vecSink info).run received = .ok (41, received ++ keyDetailsBytes info) := by
  simp only [writeKeyDetails, keyDetailsBytes, StateT.run_bind, run_vecSink_write, except_ok_bind, StateT.run_pure,
    except_pure, List.append_assoc, List.cons_append, List.nil_append, List.length_cons,
    List.length_nil, Bytes.length_toList, Nat.reduceAdd]

/-- `write_xpriv` into a `Vec<u8>` appends the 78-byte layout and reports 78. -/
theorem run_writeXpriv_vecSink (P : NetworkParams) (k : GenericXPriv B) (received : List UInt8) :
    (writeXpriv P vecSink k).run received = .ok (78, received ++ xprivBytes P k) := by
  simp only [writeXpriv, xprivBytes, layoutBytes, run_writeKeyDetails_vecSink, StateT.run_bind, run_vecSink_write, except_ok_bind, StateT.run_pure,
    except_pure, List.append_assoc, List.cons_append, List.nil_append, List.length_cons,
    List.length_nil, Bytes.length_toList,
    Nat.reduceAdd]

/-- `write_xpub` into a `Vec<u8>` appends the 78-byte layout and reports 78. -/
theorem run_writeXpub_vecSink (P : NetworkParams) (k : GenericXPub B) (received : List UInt8) :
    (writeXpub P vecSink k).run received = .ok (78, received ++ xpubBytes P k) := by
  simp only [writeXpub, xpubBytes, layoutBytes, run_writeKeyDetails_vecSink, StateT.run_bind, run_vecSink_write, except_ok_bind, StateT.run_pure,
    except_pure, List.append_assoc, List.cons_append, List.nil_append, List.length_cons,
    List.length_nil, Bytes.length_toList,
    Nat.reduceAdd]

/-! ## The readers read the writers' bytes back -/

@[simp] theorem run_readDepth_cons (d : UInt8) (rest : List UInt8) :
    readDepth.run (d :: rest) = .ok (d, rest) := by
  simp [readDepth, Bytes.get]

@[simp] theorem run_readParent_append (p : KeyFingerprint) (rest : List UInt8) :
    readParent.run (p.bytes.toList ++ rest) = .ok (p, rest) := by
  simp [readParent]

@[simp] theorem run_readIndex_append (i : UInt32) (rest : List UInt8) :
    readIndex.run ((u32ToBeBytes i).toList ++ rest) = .ok (i, rest) := by
  simp [readIndex]

@[simp] theorem run_readChainCode_append (c : ChainCode) (rest : List UInt8) :
    readChainCode.run (c.bytes.toList ++ rest) = .ok (c, rest) := by
  simp [readChainCode]

/-- `read_xpriv_body` reads back key details, padding and a scalar the backend parses back, builds
the key from them with the hint and backend it is given, and leaves what follows unread. -/
theorem run_readXprivBody_append {p : B.Privkey} (hp : B.fromPrivkeyArray (B.privkeyBytes p) = .ok p)
    (info : XKeyInfo) (backend : Option B.Handle) (rest : List UInt8) :
    (readXprivBody B info.hint backend).run
      (keyDetailsBytes info ++ 0 :: (B.privkeyBytes p).toList ++ rest) =
      .ok ({ info, privkey := { key := p, backend } }, rest) := by
  simp only [readXprivBody, keyDetailsBytes, StateT.run_bind, List.cons_append, List.append_assoc,
    run_readDepth_cons, except_ok_bind, run_readParent_append, run_readIndex_append,
    run_readChainCode_append, run_readExact_one_cons]
  rw [if_neg (by decide)]
  simp only [pure_bind, StateT.run_bind, run_readExact_append _ (Bytes.length_toList _),
    Bytes.mk_toList, except_ok_bind, StateT.run_monadLift, hp]
  rfl

/-- `read_xpub_body` reads back key details and a point the backend parses back, builds the key
from them with the hint and backend it is given, and leaves what follows unread. -/
theorem run_readXpubBody_append {p : B.Pubkey} (hp : B.fromPubkeyArray (B.pubkeyBytes p) = .ok p)
    (info : XKeyInfo) (backend : Option B.Handle) (rest : List UInt8) :
    (readXpubBody B info.hint backend).run
      (keyDetailsBytes info ++ (B.pubkeyBytes p).toList ++ rest) =
      .ok ({ info, pubkey := { key := p, backend } }, rest) := by
  simp only [readXpubBody, keyDetailsBytes, StateT.run_bind, List.cons_append, List.append_assoc,
    run_readDepth_cons, except_ok_bind, run_readParent_append, run_readIndex_append,
    run_readChainCode_append, run_readExact_append _ (Bytes.length_toList _), Bytes.mk_toList,
    StateT.run_monadLift, hp]
  rfl

/-- A version reader that infers `hint` from `v` reads the body for `hint` after the four bytes. -/
theorem run_readVersioned_append_of_hint? {α : Type} {vs : Versions} (readBody : Hint → Reader α)
    {v : UInt32} {hint : Hint} (h : vs.hint? v = some hint) (rest : List UInt8) :
    (readVersioned vs readBody).run ((u32ToBeBytes v).toList ++ rest) = (readBody hint).run rest := by
  simp [readVersioned, h]

/-- With distinct constants, the version reader infers from the writer's version the hint it was
chosen for, and hands the rest to the body reader. -/
theorem run_readVersioned_append {α : Type} {vs : Versions} (hvs : vs.Distinct)
    (readBody : Hint → Reader α) (hint : Hint) (rest : List UInt8) :
    (readVersioned vs readBody).run ((u32ToBeBytes (vs.forHint hint)).toList ++ rest) =
      (readBody hint).run rest :=
  run_readVersioned_append_of_hint? readBody (Versions.hint?_forHint hvs hint) rest

end Bip32Codec
