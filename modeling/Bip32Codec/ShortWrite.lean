import Bip32Codec.RoundTrip

/-! # Writers against a sink that takes part of a buffer

`write_key_details`, `write_xpub` and `write_xpriv` call `Write::write`, not `write_all`, once per
field, and return the sum of the counts the sink reported. A sink may take only part of what it
is offered (a `&mut [u8]` takes what still fits, and then `Ok(0)`), so:

* **`writer_reports_what_sink_took`** — for every sink and from every state of it, a writer's
  `Ok(n)` is the number of bytes the sink took, at most the layout's length, and it equals that
  length exactly when the sink took the whole layout. The caller can tell a short write from `n`;
  the writer does not;
* **`writers_on_slice_of_any_length`** — on a `&mut [u8]` of length `c`, they return
  `Ok(min(c, n))` for a layout of `n` bytes, with the first `min(c, n)` bytes written;
* **`write_reports_ok_on_short_sink`** — on a `&mut [u8]` of length 10, `write_xpriv`,
  `write_xpub` and `write_key_details` return `Ok(10)` with ten bytes written.

The bookkeeping is `PartialWrite`: what a sink took of a layout, chunk by chunk, composed along
the writer's calls (`PartialWrite.append`). -/

namespace Bip32Codec

variable {B : Secp256k1Backend}

/-! ## What a sink took -/

/-- A sink took `pre`, `n` bytes, of the layout `full`: a prefix of each chunk it was offered.
`n` is at most the layout's length, and equals it only when `pre` is the whole layout. -/
structure PartialWrite (full pre : List UInt8) (n : Nat) : Prop where
  /-- The count is the number of bytes taken. -/
  length_pre : pre.length = n
  /-- A sink never takes more than it is offered. -/
  le_length : n ≤ full.length
  /-- A full count means the whole layout was taken. -/
  eq_of_eq_length : n = full.length → pre = full

/-- One call to `write`: the sink took a prefix of the buffer. -/
theorem PartialWrite.take {c : List UInt8} {m : Nat} (h : m ≤ c.length) :
    PartialWrite c (c.take m) m where
  length_pre := List.length_take_of_le h
  le_length := h
  eq_of_eq_length hm := by rw [hm, List.take_length]

/-- Two calls in a row take part of each of two chunks. -/
theorem PartialWrite.append {a b p q : List UInt8} {m k : Nat} (ha : PartialWrite a p m)
    (hb : PartialWrite b q k) : PartialWrite (a ++ b) (p ++ q) (m + k) where
  length_pre := by rw [List.length_append, ha.length_pre, hb.length_pre]
  le_length := by have := ha.le_length; have := hb.le_length; simp only [List.length_append]; omega
  eq_of_eq_length h := by
    have := ha.le_length; have := hb.le_length
    rw [List.length_append] at h
    rw [ha.eq_of_eq_length (by omega), hb.eq_of_eq_length (by omega)]

/-- A `write` that returned `Ok(m)` made the sink take a prefix of length `m` of its buffer. -/
theorem partialWrite_of_run_write {W : Sink} {buf : List UInt8} {s s' : W.State} {m : Nat}
    (h : (W.write buf).run s = .ok (m, s')) :
    ∃ pre, W.taken s' = W.taken s ++ pre ∧ PartialWrite buf pre m := by
  rw [run_write] at h
  cases ha : W.accept s buf with
  | error e => rw [ha] at h; cases h
  | ok r =>
    rw [ha] at h
    cases h
    exact ⟨_, W.taken_accept s buf m s' ha, PartialWrite.take (W.accept_le s buf m s' ha)⟩

/-- What `write_key_details` returned `Ok(n)` for: the sink took `n` bytes of the 41. -/
theorem partialWrite_of_run_writeKeyDetails {W : Sink} {info : XKeyInfo} {s s' : W.State}
    {n : Nat} (h : (writeKeyDetails W info).run s = .ok (n, s')) :
    ∃ pre, W.taken s' = W.taken s ++ pre ∧ PartialWrite (keyDetailsBytes info) pre n := by
  simp only [writeKeyDetails, run_bind_eq_ok_iff, StateT.run_pure, except_pure, Except.ok.injEq,
    Prod.mk.injEq] at h
  obtain ⟨m₁, s₁, h₁, m₂, s₂, h₂, m₃, s₃, h₃, m₄, s₄, h₄, rfl, rfl⟩ := h
  obtain ⟨p₁, e₁, hp₁⟩ := partialWrite_of_run_write h₁
  obtain ⟨p₂, e₂, hp₂⟩ := partialWrite_of_run_write h₂
  obtain ⟨p₃, e₃, hp₃⟩ := partialWrite_of_run_write h₃
  obtain ⟨p₄, e₄, hp₄⟩ := partialWrite_of_run_write h₄
  exact ⟨p₁ ++ p₂ ++ p₃ ++ p₄, by simp [e₁, e₂, e₃, e₄], ((hp₁.append hp₂).append hp₃).append hp₄⟩

/-- What `write_xpriv` returned `Ok(n)` for: the sink took `n` bytes of the 78. -/
theorem partialWrite_of_run_writeXpriv {P : NetworkParams} {W : Sink} {k : GenericXPriv B}
    {s s' : W.State} {n : Nat} (h : (writeXpriv P W k).run s = .ok (n, s')) :
    ∃ pre, W.taken s' = W.taken s ++ pre ∧ PartialWrite (xprivBytes P k) pre n := by
  simp only [writeXpriv, run_bind_eq_ok_iff, StateT.run_pure, except_pure, Except.ok.injEq,
    Prod.mk.injEq] at h
  obtain ⟨m₁, s₁, h₁, m₂, s₂, h₂, m₃, s₃, h₃, m₄, s₄, h₄, rfl, rfl⟩ := h
  obtain ⟨p₁, e₁, hp₁⟩ := partialWrite_of_run_write h₁
  obtain ⟨p₂, e₂, hp₂⟩ := partialWrite_of_run_writeKeyDetails h₂
  obtain ⟨p₃, e₃, hp₃⟩ := partialWrite_of_run_write h₃
  obtain ⟨p₄, e₄, hp₄⟩ := partialWrite_of_run_write h₄
  refine ⟨p₁ ++ p₂ ++ p₃ ++ p₄, by simp [e₁, e₂, e₃, e₄], ?_⟩
  simpa [xprivBytes, layoutBytes] using ((hp₁.append hp₂).append hp₃).append hp₄

/-- What `write_xpub` returned `Ok(n)` for: the sink took `n` bytes of the 78. -/
theorem partialWrite_of_run_writeXpub {P : NetworkParams} {W : Sink} {k : GenericXPub B}
    {s s' : W.State} {n : Nat} (h : (writeXpub P W k).run s = .ok (n, s')) :
    ∃ pre, W.taken s' = W.taken s ++ pre ∧ PartialWrite (xpubBytes P k) pre n := by
  simp only [writeXpub, run_bind_eq_ok_iff, StateT.run_pure, except_pure, Except.ok.injEq,
    Prod.mk.injEq] at h
  obtain ⟨m₁, s₁, h₁, m₂, s₂, h₂, m₃, s₃, h₃, rfl, rfl⟩ := h
  obtain ⟨p₁, e₁, hp₁⟩ := partialWrite_of_run_write h₁
  obtain ⟨p₂, e₂, hp₂⟩ := partialWrite_of_run_writeKeyDetails h₂
  obtain ⟨p₃, e₃, hp₃⟩ := partialWrite_of_run_write h₃
  exact ⟨p₁ ++ p₂ ++ p₃, by simp [e₁, e₂, e₃], (hp₁.append hp₂).append hp₃⟩

/-- What a `PartialWrite` says, in the writer's terms. -/
theorem PartialWrite.spec {full pre : List UInt8} {n : Nat} (h : PartialWrite full pre n) :
    pre.length = n ∧ n ≤ full.length ∧ (n = full.length ↔ pre = full) :=
  ⟨h.length_pre, h.le_length, h.eq_of_eq_length, fun hp => h.length_pre ▸ hp ▸ rfl⟩

/-! ## The writers -/

/-- **A writer reports what the sink took.** For every sink and every state of it, when
`write_key_details`, `write_xpriv` or `write_xpub` returns `Ok(n)`, the sink has taken `n` more
bytes, at most the layout's length, and `n` is that length exactly when those bytes are the
whole layout. -/
theorem writer_reports_what_sink_took (P : NetworkParams) (W : Sink) (s : W.State) :
    (∀ (info : XKeyInfo) n s', (writeKeyDetails W info).run s = .ok (n, s') →
      ∃ pre, W.taken s' = W.taken s ++ pre ∧ pre.length = n ∧ n ≤ 41 ∧
        (n = 41 ↔ pre = keyDetailsBytes info)) ∧
    (∀ (k : GenericXPriv B) n s', (writeXpriv P W k).run s = .ok (n, s') →
      ∃ pre, W.taken s' = W.taken s ++ pre ∧ pre.length = n ∧ n ≤ 78 ∧
        (n = 78 ↔ pre = xprivBytes P k)) ∧
    (∀ (k : GenericXPub B) n s', (writeXpub P W k).run s = .ok (n, s') →
      ∃ pre, W.taken s' = W.taken s ++ pre ∧ pre.length = n ∧ n ≤ 78 ∧
        (n = 78 ↔ pre = xpubBytes P k)) := by
  refine ⟨fun info n s' h => ?_, fun k n s' h => ?_, fun k n s' h => ?_⟩
  · obtain ⟨pre, e, hp⟩ := partialWrite_of_run_writeKeyDetails h
    exact ⟨pre, e, by simpa using hp.spec⟩
  · obtain ⟨pre, e, hp⟩ := partialWrite_of_run_writeXpriv h
    exact ⟨pre, e, by simpa using hp.spec⟩
  · obtain ⟨pre, e, hp⟩ := partialWrite_of_run_writeXpub h
    exact ⟨pre, e, by simpa using hp.spec⟩

/-- Into a `&mut [u8]` of length 10, `write_xpriv` reports `Ok(10)`: the slice took the first ten
bytes of the 78, which are not the whole layout. -/
theorem writer_reports_what_sink_took_slice :
    (writeXpriv Main (sliceSink 10) sampleXPriv).run [] =
        .ok (10, (xprivBytes Main sampleXPriv).take 10) ∧
      ∃ pre, (sliceSink 10).taken ((xprivBytes Main sampleXPriv).take 10) =
          (sliceSink 10).taken [] ++ pre ∧ pre.length = 10 ∧ 10 ≤ 78 ∧
        (10 = 78 ↔ pre = xprivBytes Main sampleXPriv) :=
  have h : (writeXpriv Main (sliceSink 10) sampleXPriv).run [] =
      .ok (10, (xprivBytes Main sampleXPriv).take 10) := rfl
  ⟨h, (writer_reports_what_sink_took Main (sliceSink 10) []).2.1 sampleXPriv 10 _ h⟩

/-! ## A slice of any length

A `&mut [u8]` of length `c` that holds `l.take c` (everything offered so far, cut at `c`) takes
what still fits of the next buffer, so its contents stay the prefix of length `c` of all that was
offered (`run_sliceSink_write`). -/

/-- One `write` into a slice of length `c`: the slice holds the first `c` bytes of everything
offered, and the call reports what still fitted of `buf`. -/
theorem run_sliceSink_write (c : Nat) (l buf : List UInt8) :
    ((sliceSink c).write buf).run (l.take c) =
      .ok (min buf.length (c - l.length), (l ++ buf).take c) := by
  have hc : c - (l.take c).length = c - l.length := by rw [List.length_take]; omega
  have hfit : buf.take (min buf.length (c - l.length)) = buf.take (c - l.length) := by
    rcases Nat.le_total buf.length (c - l.length) with h | h
    · rw [Nat.min_eq_left h, List.take_of_length_le h, List.take_of_length_le (le_refl _)]
    · rw [Nat.min_eq_right h]
  show Except.ok (min buf.length (c - (l.take c).length),
    l.take c ++ buf.take (min buf.length (c - (l.take c).length))) = _
  rw [hc, hfit, List.take_append_eq_append_take]

/-- Two writes in a row into a slice fit as much as one write of both buffers. -/
theorem min_add_min_sub (a b c l : Nat) :
    min a (c - l) + min b (c - (l + a)) = min (a + b) (c - l) := by
  rw [Nat.sub_add_eq]
  rcases Nat.le_total a (c - l) with h | h
  · rw [Nat.min_eq_left h, ← Nat.add_min_add_left, Nat.add_sub_cancel' h]
  · rw [Nat.min_eq_right h, Nat.sub_eq_zero_of_le h, Nat.min_zero, Nat.add_zero,
      Nat.min_eq_right (Nat.le_add_right_of_le h)]

/-- `write_key_details` into a slice of length `c` adds the key details to what it holds, cut at
`c`, and reports what fitted. -/
theorem run_writeKeyDetails_sliceSink (c : Nat) (info : XKeyInfo) (l : List UInt8) :
    (writeKeyDetails (sliceSink c) info).run (l.take c) =
      .ok (min 41 (c - l.length), (l ++ keyDetailsBytes info).take c) := by
  simp only [writeKeyDetails, StateT.run_bind, run_sliceSink_write, except_ok_bind,
    StateT.run_pure, except_pure, keyDetailsBytes, List.append_assoc, List.length_append,
    List.cons_append, List.nil_append, List.length_cons, List.length_nil, Bytes.length_toList,
    Nat.reduceAdd, min_add_min_sub]

/-- `write_xpriv` into a slice of length `c` adds the 78-byte layout to what it holds, cut at
`c`, and reports what fitted. -/
theorem run_writeXpriv_sliceSink (P : NetworkParams) (c : Nat) (k : GenericXPriv B)
    (l : List UInt8) :
    (writeXpriv P (sliceSink c) k).run (l.take c) =
      .ok (min 78 (c - l.length), (l ++ xprivBytes P k).take c) := by
  simp only [writeXpriv, StateT.run_bind, run_sliceSink_write, run_writeKeyDetails_sliceSink,
    except_ok_bind, StateT.run_pure, except_pure, xprivBytes, layoutBytes, List.append_assoc,
    List.length_append, List.cons_append, List.nil_append, List.length_cons, List.length_nil,
    Bytes.length_toList, length_keyDetailsBytes, Nat.reduceAdd, min_add_min_sub]

/-- `write_xpub` into a slice of length `c` adds the 78-byte layout to what it holds, cut at `c`,
and reports what fitted. -/
theorem run_writeXpub_sliceSink (P : NetworkParams) (c : Nat) (k : GenericXPub B)
    (l : List UInt8) :
    (writeXpub P (sliceSink c) k).run (l.take c) =
      .ok (min 78 (c - l.length), (l ++ xpubBytes P k).take c) := by
  simp only [writeXpub, StateT.run_bind, run_sliceSink_write, run_writeKeyDetails_sliceSink,
    except_ok_bind, StateT.run_pure, except_pure, xpubBytes, layoutBytes, List.append_assoc,
    List.length_append, List.cons_append, List.nil_append, List.length_cons, List.length_nil,
    Bytes.length_toList, length_keyDetailsBytes, Nat.reduceAdd, min_add_min_sub]

/-- **The writers on a `&mut [u8]` of any length.** Into a fresh slice of length `c`,
`write_key_details`, `write_xpriv` and `write_xpub` return `Ok(min(c, n))`, where `n` is the
layout's length (41, 78, 78), and the slice then holds the first `min(c, n)` bytes of the
layout: the whole layout when `c ≥ n`, and a prefix reported as success when `c < n`. -/
theorem writers_on_slice_of_any_length (P : NetworkParams) (c : Nat) :
    (∀ info : XKeyInfo, (writeKeyDetails (sliceSink c) info).run [] =
      .ok (min 41 c, (keyDetailsBytes info).take c)) ∧
    (∀ k : GenericXPriv B, (writeXpriv P (sliceSink c) k).run [] =
      .ok (min 78 c, (xprivBytes P k).take c)) ∧
    (∀ k : GenericXPub B, (writeXpub P (sliceSink c) k).run [] =
      .ok (min 78 c, (xpubBytes P k).take c)) := by
  refine ⟨fun info => ?_, fun k => ?_, fun k => ?_⟩
  · simpa using run_writeKeyDetails_sliceSink c info []
  · simpa using run_writeXpriv_sliceSink P c k []
  · simpa using run_writeXpub_sliceSink P c k []

/-! ## A sink with room for ten bytes -/

/-- An extended public key of `rawBackend` with zero chain code and point. -/
def sampleXPub : GenericXPub rawBackend where
  info := sampleXPriv.info
  pubkey := { key := Bytes.zero 33, backend := none }

/-- **The writers report success for a short write.** Into a `&mut [u8]` of length 10,
`write_key_details`, `write_xpriv` and `write_xpub` each return `Ok(10)` with only the first ten
bytes of their layout written: the later `write` calls return `Ok(0)`, which no writer checks. -/
theorem write_reports_ok_on_short_sink :
    (writeKeyDetails (sliceSink 10) sampleXPriv.info).run [] =
      .ok (10, (keyDetailsBytes sampleXPriv.info).take 10) ∧
    (writeXpriv Main (sliceSink 10) sampleXPriv).run [] =
      .ok (10, (xprivBytes Main sampleXPriv).take 10) ∧
    (writeXpub Main (sliceSink 10) sampleXPub).run [] =
      .ok (10, (xpubBytes Main sampleXPub).take 10) :=
  ⟨rfl, rfl, rfl⟩

end Bip32Codec
