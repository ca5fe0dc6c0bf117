import Bip32Codec.Layout
import Bip32Codec.ReadInversion

/-! # The readers stop where the key ends

The readers of `enc.rs` take any `R: Read` and pull what they need through `read_exact`, one
field at a time; nothing in them looks past the last field. In the model a reader is
**streaming** when it decides on the bytes it consumes: appending bytes to its input turns a
success into the same success with the appended bytes left unread, and a failure into the same
failure, unless the failure was running out of input (`UnexpectedEof`).

* `Reader.Streaming`, with one closure lemma per way the readers are built: `read_exact`,
  `pure`, `throw`, a lifted backend result and sequencing (an `if` or `match` of the source is
  split and each arm is built from these);
* **`readers_stream`** — `read_xpriv`, `read_xpub` and their `_without_network` variants are
  streaming, on every network and with every backend: a key in front of other data reads the
  same as the key alone, and only `UnexpectedEof` can turn into something else once more input
  arrives. -/

namespace Bip32Codec

variable {B : Secp256k1Backend}

/-- A reader that decides on the bytes it consumes: more input leaves a success unchanged, with
the extra bytes unread, and leaves every failure but `UnexpectedEof` unchanged. -/
structure Reader.Streaming {α : Type} (x : Reader α) : Prop where
  /-- A success on `r` is the same success on `r ++ s`, which leaves `s` unread as well. -/
  ok_append : ∀ {r rest : List UInt8} {a : α}, x.run r = .ok (a, rest) →
    ∀ s, x.run (r ++ s) = .ok (a, rest ++ s)
  /-- A failure on `r` other than running out of input is the same failure on `r ++ s`. -/
  error_append : ∀ {r : List UInt8} {e : Bip32Error}, x.run r = .error e → e ≠ eof →
    ∀ s, x.run (r ++ s) = .error e

/-! ## Closure -/

/-- `read_exact` is streaming: it fails only by running out of input. -/
theorem streaming_readExact (n : Nat) : (readExact n).Streaming where
  ok_append h s := by
    rw [run_readExact_eq_ok_iff] at h ⊢
    rw [h, List.append_assoc]
  error_append h he _ := by
    rw [run_readExact] at h
    split at h
    · cases h
    · cases h; exact absurd rfl he

/-- `pure` consumes nothing and cannot fail. -/
theorem streaming_pure {α : Type} (a : α) : (pure a : Reader α).Streaming where
  ok_append h s := by cases h; rfl
  error_append h := by cases h

/-- `throw` fails the same way on every input. -/
theorem streaming_throw {α : Type} (e : Bip32Error) : (throw e : Reader α).Streaming where
  ok_append h := by cases h
  error_append h _ _ := h

/-- A lifted result (the backend's key parsing) consumes nothing. -/
theorem streaming_monadLift {α : Type} (x : Except Bip32Error α) : (monadLift x : Reader α).Streaming where
  ok_append h s := by
    rw [run_monadLift_eq_ok_iff] at h ⊢
    exact ⟨h.1, by rw [h.2]⟩
  error_append h _ _ := by
    cases x <;> simp_all [StateT.run_monadLift]

/-- **Sequencing streaming readers is streaming**: the second reader runs on what the first
left, which the extra bytes only extend. -/
theorem Reader.Streaming.bind {α β : Type} {x : Reader α} {f : α → Reader β} (hx : x.Streaming)
    (hf : ∀ a, (f a).Streaming) : (x >>= f).Streaming where
  ok_append h s := by
    obtain ⟨a, r', h₁, h₂⟩ := run_bind_eq_ok_iff.mp h
    exact run_bind_eq_ok_iff.mpr ⟨a, r' ++ s, hx.ok_append h₁ s, (hf a).ok_append h₂ s⟩
  error_append {r} {e} h he s := by
    rw [StateT.run_bind] at h ⊢
    cases hr : x.run r with
    | error e' =>
      rw [hr] at h
      cases h
      rw [hx.error_append hr he s]; rfl
    | ok p =>
      obtain ⟨a, r'⟩ := p
      rw [hr] at h
      rw [hx.ok_append hr s]
      exact (hf a).error_append h he s

/-! ## The readers of `enc.rs` -/

/-- `read_depth` is streaming. -/
theorem streaming_readDepth : readDepth.Streaming :=
  (streaming_readExact 1).bind fun _ => streaming_pure _

/-- `read_parent` is streaming. -/
theorem streaming_readParent : readParent.Streaming :=
  (streaming_readExact 4).bind fun _ => streaming_pure _

/-- `read_index` is streaming. -/
theorem streaming_readIndex : readIndex.Streaming :=
  (streaming_readExact 4).bind fun _ => streaming_pure _

/-- `read_chain_code` is streaming. -/
theorem streaming_readChainCode : readChainCode.Streaming :=
  (streaming_readExact 32).bind fun _ => streaming_pure _

/-- `read_xpriv_body` is streaming for every hint and backend. -/
theorem streaming_readXprivBody (hint : Hint) (backend : Option B.Handle) :
    (readXprivBody B hint backend).Streaming := by
  refine streaming_readDepth.bind fun _ => streaming_readParent.bind fun _ =>
    streaming_readIndex.bind fun _ => streaming_readChainCode.bind fun _ =>
      (streaming_readExact 1).bind fun _ => ?_
  dsimp only
  split <;> refine .bind ?_ fun _ =>
    (streaming_readExact 32).bind fun _ => (streaming_monadLift _).bind fun _ => streaming_pure _
  exacts [streaming_throw _, streaming_pure _]

/-- `read_xpub_body` is streaming for every hint and backend. -/
theorem streaming_readXpubBody (hint : Hint) (backend : Option B.Handle) :
    (readXpubBody B hint backend).Streaming :=
  streaming_readDepth.bind fun _ => streaming_readParent.bind fun _ =>
    streaming_readIndex.bind fun _ => streaming_readChainCode.bind fun _ =>
      (streaming_readExact 33).bind fun _ => (streaming_monadLift _).bind fun _ => streaming_pure _

/-- The version check keeps streaming body readers streaming. -/
theorem streaming_readVersioned {α : Type} (vs : Versions) {readBody : Hint → Reader α}
    (h : ∀ hint, (readBody hint).Streaming) : (readVersioned vs readBody).Streaming :=
  (streaming_readExact 4).bind fun _ => by
    dsimp only
    split
    exacts [h _, streaming_throw _]

/-- Skipping the version keeps a streaming body reader streaming. -/
theorem streaming_readWithoutNetwork {α : Type} {readBody : Hint → Reader α}
    (h : ∀ hint, (readBody hint).Streaming) : (readWithoutNetwork readBody).Streaming :=
  (streaming_readExact 4).bind fun _ => h _

/-- **The readers stop where the key ends.** On every network and with every backend,
`read_xpriv`, `read_xpub`, `read_xpriv_without_network` and `read_xpub_without_network` are
streaming: a success on a buffer is the same success on any longer buffer, which leaves the extra
bytes unread, and a failure other than `UnexpectedEof` is the same failure. -/
theorem readers_stream (P : NetworkParams) (B : Secp256k1Backend) (backend : Option B.Handle) :
    (readXpriv P B backend).Streaming ∧ (readXpub P B backend).Streaming ∧
      (readXprivWithoutNetwork B backend).Streaming ∧
      (readXpubWithoutNetwork B backend).Streaming :=
  ⟨streaming_readVersioned _ fun hint => streaming_readXprivBody hint backend,
    streaming_readVersioned _ fun hint => streaming_readXpubBody hint backend,
    streaming_readWithoutNetwork fun hint => streaming_readXprivBody hint backend,
    streaming_readWithoutNetwork fun hint => streaming_readXpubBody hint backend⟩

end Bip32Codec
