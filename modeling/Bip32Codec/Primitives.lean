import Mathlib.Data.List.Basic

/-! # Primitives of the extended-key format

The data model that `enc.rs` reads and writes: fixed-size byte arrays, the big-endian `u32`
conversions, the key metadata `XKeyInfo` with its format `Hint`, the error type `Bip32Error`
and the curve-backend capabilities the codec is generic over (§3, §4.4).

* **`Bytes n`** — a Rust `[u8; n]`: a byte list that carries its length.
* **`u32ToBeBytes` / `u32FromBeBytes`** — `u32::to_be_bytes` / `u32::from_be_bytes`, mutually
  inverse (`u32FromBeBytes_u32ToBeBytes`, `u32ToBeBytes_u32FromBeBytes`).
* **`Secp256k1Backend`** — the four parse/serialize capabilities of §4.4, with the key and
  handle types as fields; `GenericXPriv` / `GenericXPub` are keys over such a backend. -/

namespace Bip32Codec

/-! ## Fixed-size byte arrays -/

/-- A Rust `[u8; n]`: a list of bytes whose length is fixed by its type. -/
@[ext] structure Bytes (n : Nat) where
  /-- The bytes, first to last. -/
  toList : List UInt8
  /-- The array has exactly `n` bytes. -/
  length_toList : toList.length = n
  deriving DecidableEq, Repr

attribute [simp] Bytes.length_toList

/-- An array of zero bytes (`[0u8; n]`). -/
def Bytes.zero (n : Nat) : Bytes n := ⟨List.replicate n 0, List.length_replicate n 0⟩

/-- The `i`-th byte of an array (`buf[i]`). -/
def Bytes.get (b : Bytes n) (i : Fin n) : UInt8 :=
  b.toList.get ⟨i, by rw [b.length_toList]; exact i.isLt⟩

/-- A one-byte array is its byte. -/
theorem Bytes.toList_one (b : Bytes 1) : b.toList = [b.get 0] := by
  rcases b with ⟨_ | ⟨x, _ | _⟩, h⟩ <;> simp at h
  rfl

/-- A byte is below `256`. -/
theorem byte_toNat_lt (b : UInt8) : b.toNat < 256 := b.toNat_lt_size

/-- A byte converts to `Nat` and back unchanged. -/
@[simp] theorem byte_ofNat_toNat (b : UInt8) : UInt8.ofNat b.toNat = b :=
  UInt8.toNat.inj (Nat.mod_eq_of_lt b.toNat_lt_size)

/-- Converting a number to a byte keeps it modulo `256`. -/
@[simp] theorem byte_toNat_ofNat (n : Nat) : (UInt8.ofNat n).toNat = n % 256 := rfl

/-! ## Big-endian `u32` -/

/-- `u32::to_be_bytes`: the four bytes of `v`, most significant first. -/
def u32ToBeBytes (v : UInt32) : Bytes 4 :=
  ⟨[UInt8.ofNat (v.toNat >>> 24), UInt8.ofNat (v.toNat >>> 16), UInt8.ofNat (v.toNat >>> 8),
    UInt8.ofNat v.toNat], rfl⟩

/-- The number four big-endian bytes denote. -/
def beValue4 (b0 b1 b2 b3 : UInt8) : Nat :=
  b0.toNat <<< 24 + b1.toNat <<< 16 + b2.toNat <<< 8 + b3.toNat

/-- `u32::from_be_bytes`: the `u32` whose big-endian bytes are `b`. -/
def u32FromBeBytes (b : Bytes 4) : UInt32 :=
  UInt32.ofNat (beValue4 (b.get 0) (b.get 1) (b.get 2) (b.get 3))

/-- Reading back the big-endian bytes of `v` gives `v`. -/
@[simp] theorem u32FromBeBytes_u32ToBeBytes (v : UInt32) : u32FromBeBytes (u32ToBeBytes v) = v := by
  have hv := v.toNat_lt_size
  apply UInt32.toNat.inj
  simp only [u32FromBeBytes, u32ToBeBytes, Bytes.get, beValue4, UInt32.size] at *
  show (_ : Nat) % 2 ^ 32 = _
  simp only [List.get, byte_toNat_ofNat]
  omega

/-- Every four bytes are the big-endian bytes of the `u32` they denote. -/
@[simp] theorem u32ToBeBytes_u32FromBeBytes (b : Bytes 4) : u32ToBeBytes (u32FromBeBytes b) = b := by
  rcases b with ⟨_ | ⟨b0, _ | ⟨b1, _ | ⟨b2, _ | ⟨b3, _ | _⟩⟩⟩⟩, h⟩ <;> simp at h
  have := byte_toNat_lt b0; have := byte_toNat_lt b1; have := byte_toNat_lt b2
  have := byte_toNat_lt b3
  have hval : (UInt32.ofNat (beValue4 b0 b1 b2 b3)).toNat = beValue4 b0 b1 b2 b3 :=
    Nat.mod_eq_of_lt (by simp only [beValue4]; omega)
  ext1
  simp only [u32ToBeBytes, u32FromBeBytes, Bytes.get, List.get, hval, List.cons.injEq]
  refine ⟨?_, ?_, ?_, ?_, trivial⟩ <;> apply UInt8.toNat.inj <;>
    simp only [beValue4, byte_toNat_ofNat] at * <;> omega

/-! ## Key metadata -/

/-- `KeyFingerprint`: the 4-byte identifier of a key's parent. -/
structure KeyFingerprint where
  /-- The fingerprint's bytes (`.0`). -/
  bytes : Bytes 4
  deriving DecidableEq, Repr

/-- `ChainCode`: the 32 bytes of entropy mixed into child derivation. -/
structure ChainCode where
  /-- The chain code's bytes (`.0`). -/
  bytes : Bytes 32
  deriving DecidableEq, Repr

/-- `Hint`: the serialization variant, which selects the version bytes (§3). -/
inductive Hint where
  /-- BIP32 (`xprv` / `xpub`). -/
  | legacy
  /-- BIP49, segwit nested in P2SH. -/
  | compatibility
  /-- BIP84, native segwit. -/
  | segWit
  deriving DecidableEq, Repr

/-- `XKeyInfo`: everything an extended key carries besides the key itself. -/
structure XKeyInfo where
  /-- Number of derivations from the root. -/
  depth : UInt8
  /-- Fingerprint of the parent key. -/
  parent : KeyFingerprint
  /-- Index of this key in its parent's children. -/
  index : UInt32
  /-- The chain code. -/
  chainCode : ChainCode
  /-- The format the key is (de)serialized in. -/
  hint : Hint
  deriving DecidableEq, Repr

/-! ## Errors -/

/-- The kinds of `std::io::Error` the codec meets: a short read, or a sink that refused. -/
inductive IoErrorKind where
  /-- `read_exact` ran out of input (`ErrorKind::UnexpectedEof`). -/
  | unexpectedEof
  /-- Any other failure reported by a sink. -/
  | other
  deriving DecidableEq, Repr

/-- The variants of `Bip32Error` that `enc.rs` raises directly or passes on through `?`: its own
five, and the curve backend's. -/
inductive Bip32Error where
  /-- `IOError`: an `std::io::Error` from the reader or the writer. -/
  | ioError (kind : IoErrorKind)
  /-- `B58Error`: the text is not Base58. -/
  | b58Error
  /-- `BadB58Checksum`: the trailing four bytes are not the payload's checksum. -/
  | badB58Checksum
  /-- `BadXPrivVersionBytes`: the version prefix matches none of the three constants. -/
  | badXPrivVersionBytes (bytes : Bytes 4)
  /-- `BadPadding`: the byte before a private scalar is not zero. -/
  | badPadding (byte : UInt8)
  /-- `BackendError`: the curve backend refused a key, for a reason of its own (a scalar out of
  range, a point off the curve); `read_xpriv_body` / `read_xpub_body` pass it on through `?`. -/
  | backendError (code : Nat)
  deriving DecidableEq, Repr

/-! ## The curve backend and generic keys -/

/-- `Secp256k1Backend`: the capabilities the codec needs of a curve implementation (§4.4).
Parsing returns a `Bip32Error` on failure, as the Rust traits do (a real backend answers
`backendError`); serializing cannot fail. -/
structure Secp256k1Backend where
  /-- The backend type `T`; a decoded key borrows one as `Option<&'a T>`. -/
  Handle : Type
  /-- `T::Privkey`, a private scalar. -/
  Privkey : Type
  /-- `T::Pubkey`, a public point. -/
  Pubkey : Type
  /-- `ScalarDeserialize::from_privkey_array`. -/
  fromPrivkeyArray : Bytes 32 → Except Bip32Error Privkey
  /-- `PointDeserialize::from_pubkey_array`. -/
  fromPubkeyArray : Bytes 33 → Except Bip32Error Pubkey
  /-- `privkey_bytes`: the 32-byte big-endian scalar. -/
  privkeyBytes : Privkey → Bytes 32
  /-- `pubkey_bytes`: the 33-byte compressed point. -/
  pubkeyBytes : Pubkey → Bytes 33

/-- A backend that keeps each key as its raw bytes and parses every array: the plainest instance
of the contract, for running the codec without curve math. -/
def rawBackend : Secp256k1Backend where
  Handle := Unit
  Privkey := Bytes 32
  Pubkey := Bytes 33
  fromPrivkeyArray := .ok
  fromPubkeyArray := .ok
  privkeyBytes := id
  pubkeyBytes := id

/-- `rawBackend` serializes back every key it parses. -/
theorem rawBackend_privkeyBytes (a : Bytes 32) (p : Bytes 32)
    (h : rawBackend.fromPrivkeyArray a = .ok p) : rawBackend.privkeyBytes p = a := by
  cases h; rfl

/-- `GenericPrivkey`: a private key with an optional borrowed backend. -/
structure GenericPrivkey (B : Secp256k1Backend) where
  /-- The scalar. -/
  key : B.Privkey
  /-- The backend the key may use for curve math. -/
  backend : Option B.Handle

/-- `GenericPubkey`: a public key with an optional borrowed backend. -/
structure GenericPubkey (B : Secp256k1Backend) where
  /-- The point. -/
  key : B.Pubkey
  /-- The backend the key may use for curve math. -/
  backend : Option B.Handle

/-- `GenericXPriv`: an extended private key. -/
structure GenericXPriv (B : Secp256k1Backend) where
  /-- Depth, parent, index, chain code and hint. -/
  info : XKeyInfo
  /-- The private key. -/
  privkey : GenericPrivkey B

/-- `GenericXPub`: an extended public key. -/
structure GenericXPub (B : Secp256k1Backend) where
  /-- Depth, parent, index, chain code and hint. -/
  info : XKeyInfo
  /-- The public key. -/
  pubkey : GenericPubkey B

end Bip32Codec
