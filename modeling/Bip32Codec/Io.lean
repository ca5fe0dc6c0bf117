import Bip32Codec.Primitives

/-! # Readers and sinks

The two ends of `std::io` the codec is written against.

* **`Reader`** — a `&[u8]` read through `std::io::Read`: the state is the unread bytes, and
  `readExact n` (`read_exact` into an `[u8; n]`) takes the next `n` of them or fails with
  `UnexpectedEof`.
* **`Sink`** — any `std::io::Write`, with a state of its own: each `write` offers a buffer, and
  the sink takes some prefix of it (all, part or none), steps its state and returns the prefix's
  length, or fails. `taken` reads off a state everything the sink has taken so far, which grows
  by exactly the prefix at each step. `vecSink` is `Vec<u8>`, which takes everything;
  `sliceSink c` is a `&mut [u8]` of length `c`, which takes what still fits.

Every later proof goes through the spec lemmas here (`run_readExact`, `run_write`) and never
unfolds `readExact` or `Sink.write` again. -/

namespace Bip32Codec

/-! ## Reading a byte slice -/

/-- A computation reading a `&[u8]`: the state is the bytes not yet read. -/
abbrev Reader := StateT (List UInt8) (Except Bip32Error)

/-- `read_exact` into an `[u8; n]`: the next `n` bytes, or `UnexpectedEof` when fewer are left. -/
def readExact (n : Nat) : Reader (Bytes n) := fun r =>
  if h : n ≤ r.length then .ok (⟨r.take n, List.length_take_of_le h⟩, r.drop n)
  else .error (.ioError .unexpectedEof)

/-- `Except.ok a >>= f` is `f a`. -/
@[simp] theorem except_ok_bind {ε α β : Type} (a : α) (f : α → Except ε β) :
    (Except.ok a >>= f) = f a := rfl

/-- A failed computation stays failed. -/
@[simp] theorem except_error_bind {ε α β : Type} (e : ε) (f : α → Except ε β) :
    (Except.error e >>= f) = Except.error e := rfl

/-- `pure` in `Except` is success. -/
@[simp] theorem except_pure {ε α : Type} (a : α) : (pure a : Except ε α) = .ok a := rfl

/-- Mapping over a success. -/
@[simp] theorem except_map_ok {ε α β : Type} (f : α → β) (a : α) :
    (f <$> (Except.ok a : Except ε α)) = Except.ok (f a) := rfl

/-- **Reading `n` bytes**: the next `n` of a slice that has them, else `UnexpectedEof`. -/
theorem run_readExact (n : Nat) (r : List UInt8) :
    (readExact n).run r = if h : n ≤ r.length then .ok (⟨r.take n, List.length_take_of_le h⟩, r.drop n)
      else .error (.ioError .unexpectedEof) := rfl

/-- Reading `n` bytes off a slice that starts with `n` given bytes yields exactly those. -/
@[simp] theorem run_readExact_append {n : Nat} {xs : List UInt8} (rest : List UInt8)
    (h : xs.length = n) : (readExact n).run (xs ++ rest) = .ok (⟨xs, h⟩, rest) := by
  subst h
  simp [run_readExact]

/-- Reading one byte off a nonempty slice yields its head. -/
@[simp] theorem run_readExact_one_cons (b : UInt8) (rest : List UInt8) :
    (readExact 1).run (b :: rest) = .ok (⟨[b], rfl⟩, rest) :=
  run_readExact_append rest (List.length_singleton b)

/-- **A read succeeds exactly when** the slice starts with the bytes it returns. -/
theorem run_readExact_eq_ok_iff {n : Nat} {r r' : List UInt8} {buf : Bytes n} :
    (readExact n).run r = .ok (buf, r') ↔ r = buf.toList ++ r' := by
  constructor
  · intro h
    rw [run_readExact] at h
    split at h
    · cases h; simp
    · cases h
  · rintro rfl; simp

/-- Throwing fails whatever is left to read. -/
@[simp] theorem run_throw {α : Type} (e : Bip32Error) (r : List UInt8) :
    (throw e : Reader α).run r = .error e := rfl

/-- **A sequenced step succeeds exactly when** its first part succeeds and the rest succeeds from
the state the first part left (for readers and writers alike). -/
theorem run_bind_eq_ok_iff {σ α β : Type} {x : StateT σ (Except Bip32Error) α}
    {f : α → StateT σ (Except Bip32Error) β} {r rest : σ} {b : β} :
    (x >>= f).run r = .ok (b, rest) ↔
      ∃ a r', x.run r = .ok (a, r') ∧ (f a).run r' = .ok (b, rest) := by
  rw [StateT.run_bind]
  cases hx : x.run r with
  | error e => simp
  | ok p =>
    obtain ⟨a, r'⟩ := p
    simp only [except_ok_bind, Except.ok.injEq, Prod.mk.injEq]
    exact ⟨fun h => ⟨a, r', ⟨rfl, rfl⟩, h⟩, fun ⟨_, _, ⟨ha, hr⟩, h⟩ => ha ▸ hr ▸ h⟩

/-- Rebuilding an array from its own bytes gives it back. -/
@[simp] theorem Bytes.mk_toList (b : Bytes n) (h : b.toList.length = n) :
    (⟨b.toList, h⟩ : Bytes n) = b := rfl

/-! ## Writing to a sink -/

/-- A `std::io::Write`: a state, the step one `write` call makes on it, and the bytes a state has
taken so far. -/
structure Sink where
  /-- What the sink is between calls (for a `Vec<u8>`, its contents). -/
  State : Type
  /-- One `write(offered)`: how many of the `offered` bytes the sink takes and its next state, or
  the error it refuses with. -/
  accept : State → (offered : List UInt8) → Except IoErrorKind (Nat × State)
  /-- Everything the sink has taken in reaching a state. -/
  taken : State → List UInt8
  /-- A sink never takes more than it is offered. -/
  accept_le : ∀ s offered n s', accept s offered = .ok (n, s') → n ≤ offered.length
  /-- What a sink takes is a prefix of what it is offered, added to what it had taken. -/
  taken_accept : ∀ s offered n s', accept s offered = .ok (n, s') →
    taken s' = taken s ++ offered.take n

/-- A computation writing to the sink `W`: the state is the sink's. -/
abbrev Writer (W : Sink) := StateT W.State (Except Bip32Error)

/-- `Write::write(buf)`: the sink takes the prefix it accepts and the call returns its length; a
refusal is an `IOError`. -/
def Sink.write (W : Sink) (buf : List UInt8) : Writer W Nat := fun s =>
  match W.accept s buf with
  | .ok r => .ok r
  | .error e => .error (.ioError e)

/-- **Writing**: one step of the sink, with a refusal reported as an `IOError`. -/
theorem run_write (W : Sink) (buf : List UInt8) (s : W.State) :
    (W.write buf).run s =
      match W.accept s buf with
      | .ok r => .ok r
      | .error e => .error (.ioError e) := rfl

/-- `Vec<u8>` as a `Write`: its state is its contents, and it takes every byte it is offered. -/
def vecSink : Sink where
  State := List UInt8
  accept s offered := .ok (offered.length, s ++ offered)
  taken := id
  accept_le _ _ _ _ h := by cases h; rfl
  taken_accept _ _ _ _ h := by cases h; simp

/-- Writing to a `Vec<u8>` appends the whole buffer and reports its length. -/
@[simp] theorem run_vecSink_write (buf received : List UInt8) :
    (vecSink.write buf).run received = .ok (buf.length, received ++ buf) := rfl

/-- `&mut [u8]` of length `capacity` as a `Write`: its state is what has been written into it, and
it takes as much of each buffer as still fits. -/
def sliceSink (capacity : Nat) : Sink where
  State := List UInt8
  accept s offered :=
    .ok (min offered.length (capacity - s.length),
      s ++ offered.take (min offered.length (capacity - s.length)))
  taken := id
  accept_le _ _ _ _ h := by cases h; exact Nat.min_le_left _ _
  taken_accept _ _ _ _ h := by cases h; rfl

end Bip32Codec
