import Bip32Codec.Primitives

/-! # Network parameters and version dispatch

`NetworkParams` (§4.2) holds the six version constants of one network; `Main` and `Test` are the
two instances `enc.rs` declares. The writers pick a constant by the key's `Hint`
(`Versions.forHint`), and the readers compare the version they read against the three constants
in the order Legacy, Compatibility, SegWit (`Versions.hint?`), taking the first that matches
(`hint?_eq_some_iff`). So the readers invert the writers exactly on a network whose three
constants per key type are distinct (`hint?_forHint`, `distinct_of_hint?_forHint`), which holds
for `Main` and `Test`. -/

namespace Bip32Codec

/-- The three version constants of one key type, in the readers' dispatch order. -/
structure Versions where
  /-- BIP32 (`Hint::Legacy`). -/
  legacy : UInt32
  /-- BIP49 (`Hint::Compatibility`). -/
  compatibility : UInt32
  /-- BIP84 (`Hint::SegWit`). -/
  segWit : UInt32
  deriving DecidableEq, Repr

/-- A hint's place in the readers' dispatch order: Legacy, Compatibility, SegWit. -/
def Hint.index : Hint → Nat
  | .legacy => 0
  | .compatibility => 1
  | .segWit => 2

/-- A statement about every hint is one about each of the three. -/
theorem Hint.forall_iff {p : Hint → Prop} : (∀ h, p h) ↔ p .legacy ∧ p .compatibility ∧ p .segWit :=
  ⟨fun h => ⟨h _, h _, h _⟩, fun ⟨hl, hc, hs⟩ h => by cases h <;> assumption⟩

namespace Versions

/-- The constant a writer puts in front of a key with hint `hint` (`match key.hint()`). -/
def forHint (vs : Versions) : Hint → UInt32
  | .legacy => vs.legacy
  | .compatibility => vs.compatibility
  | .segWit => vs.segWit

/-- The hint a reader infers from `version`: the first of Legacy, Compatibility, SegWit whose
constant equals it, and `none` when none does (the `if` chain of `read_xpriv` / `read_xpub`). -/
def hint? (vs : Versions) (version : UInt32) : Option Hint :=
  if version = vs.legacy then some .legacy
  else if version = vs.compatibility then some .compatibility
  else if version = vs.segWit then some .segWit
  else none

/-- The three constants. -/
def toList (vs : Versions) : List UInt32 := [vs.legacy, vs.compatibility, vs.segWit]

/-- The three constants are pairwise distinct. -/
def Distinct (vs : Versions) : Prop := vs.toList.Nodup

instance (vs : Versions) : Decidable vs.Distinct := inferInstanceAs (Decidable (List.Nodup _))

/-- **Dispatch takes the first match**: the reader infers `hint` from `version` exactly when
`version` is the constant for `hint` and no hint earlier in the dispatch order has it. -/
theorem hint?_eq_some_iff {vs : Versions} {version : UInt32} {hint : Hint} :
    vs.hint? version = some hint ↔
      vs.forHint hint = version ∧ ∀ h, h.index < hint.index → vs.forHint h ≠ version := by
  simp only [Hint.forall_iff]
  unfold hint?
  cases hint <;> split_ifs <;> simp_all [forHint, Hint.index, eq_comm]

/-- A version the reader accepts is the writer's constant for the hint it infers. -/
theorem forHint_of_hint? {vs : Versions} {version : UInt32} {hint : Hint}
    (h : vs.hint? version = some hint) : vs.forHint hint = version :=
  (hint?_eq_some_iff.mp h).1

/-- The constant a writer selects is one of the three. -/
theorem forHint_mem_toList (vs : Versions) (hint : Hint) : vs.forHint hint ∈ vs.toList := by
  cases hint <;> simp [forHint, toList]

/-- The reader rejects a version exactly when it is none of the three constants. -/
theorem hint?_eq_none_iff {vs : Versions} {version : UInt32} :
    vs.hint? version = none ↔ version ∉ vs.toList := by
  unfold hint?
  split_ifs <;> simp_all [toList]

/-- **Dispatch inverts selection**: with distinct constants, the reader infers from the
writer's constant the hint it was chosen for. -/
theorem hint?_forHint {vs : Versions} (h : vs.Distinct) (hint : Hint) :
    vs.hint? (vs.forHint hint) = some hint := by
  simp only [Distinct, toList, List.nodup_cons, List.mem_cons, List.mem_singleton] at h
  cases hint <;> simp_all [hint?, forHint, eq_comm]

/-- The reader infers some hint from every constant a writer selects. -/
theorem exists_hint?_forHint (vs : Versions) (hint : Hint) :
    ∃ hint', vs.hint? (vs.forHint hint) = some hint' :=
  Option.ne_none_iff_exists'.mp fun h => hint?_eq_none_iff.mp h (vs.forHint_mem_toList hint)

/-- **Only distinct constants are inverted**: if the reader infers every hint back from its
constant, no constant is also an earlier hint's, so the three are distinct. -/
theorem distinct_of_hint?_forHint {vs : Versions}
    (h : ∀ hint, vs.hint? (vs.forHint hint) = some hint) : vs.Distinct := by
  have hc := (hint?_eq_some_iff.mp (h .compatibility)).2
  have hs := (hint?_eq_some_iff.mp (h .segWit)).2
  simp only [Distinct, toList, List.nodup_cons, List.mem_cons, List.mem_singleton,
    List.not_mem_nil, or_false, not_or, List.nodup_nil, not_false_eq_true, and_true]
  exact ⟨⟨hc .legacy (by decide), hs .legacy (by decide)⟩, hs .compatibility (by decide)⟩

end Versions

/-- `NetworkParams`: the six version constants of one network. -/
structure NetworkParams where
  /-- `PRIV_VERSION` (BIP32 private). -/
  privVersion : UInt32
  /-- `BIP49_PRIV_VERSION`. -/
  bip49PrivVersion : UInt32
  /-- `BIP84_PRIV_VERSION`. -/
  bip84PrivVersion : UInt32
  /-- `PUB_VERSION` (BIP32 public). -/
  pubVersion : UInt32
  /-- `BIP49_PUB_VERSION`. -/
  bip49PubVersion : UInt32
  /-- `BIP84_PUB_VERSION`. -/
  bip84PubVersion : UInt32
  deriving DecidableEq, Repr

namespace NetworkParams

/-- The private-key constants, in dispatch order. -/
def privVersions (P : NetworkParams) : Versions :=
  ⟨P.privVersion, P.bip49PrivVersion, P.bip84PrivVersion⟩

/-- The public-key constants, in dispatch order. -/
def pubVersions (P : NetworkParams) : Versions :=
  ⟨P.pubVersion, P.bip49PubVersion, P.bip84PubVersion⟩

end NetworkParams

/-- `params!(Main { .. })`. The macro is not among the sources; as §4.2 describes it, it binds
`bip32`, `bip49`, `bip84` to the private constants and the `_pub` entries to the public ones. -/
def Main : NetworkParams where
  privVersion := 0x0488ADE4
  bip49PrivVersion := 0x049d7878
  bip84PrivVersion := 0x04b2430c
  pubVersion := 0x0488B21E
  bip49PubVersion := 0x049d7cb2
  bip84PubVersion := 0x04b24746

/-- `params!(Test { .. })`, bound as for `Main`. -/
def Test : NetworkParams where
  privVersion := 0x04358394
  bip49PrivVersion := 0x044a4e28
  bip84PrivVersion := 0x045f18bc
  pubVersion := 0x043587CF
  bip49PubVersion := 0x044a5262
  bip84PubVersion := 0x045f1cf6

/-- Each of the four constant triples is distinct, so each reader inverts its writer. -/
theorem Main_privVersions_distinct : Main.privVersions.Distinct := by decide
theorem Main_pubVersions_distinct : Main.pubVersions.Distinct := by decide
theorem Test_privVersions_distinct : Test.privVersions.Distinct := by decide
theorem Test_pubVersions_distinct : Test.pubVersions.Distinct := by decide

end Bip32Codec
