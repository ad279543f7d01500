import ChainIndex.Block.Hash
import ChainIndex.Proofs.Text.Base64

/-!
# ChainIndex.Proofs.Block.Derivation

Which blocks get the same derived hash.

What is hashed for a block ends with its number in eight bytes, so what comes before and the number
can be told apart (`hashPreimage_inj`).  What comes before are the bytes of the genesis text, which
belong to one text only if the text is canonical base64.  So different blocks of a network, and
blocks of different networks, can have the same hash only by a collision of the digest
(`hashPreimage_identifies`).
-/

namespace ChainIndex

open Text

namespace Sha256

/-- The eight bytes of a number determine it. -/
theorem bigEndianBytes_inj {n n' : UInt64} : bigEndianBytes n = bigEndianBytes n' ↔ n = n' := by
  refine ⟨fun h => ?_, fun h => h ▸ rfl⟩
  simp only [bigEndianBytes, List.cons.injEq, ← UInt8.toNat_inj, UInt64.toNat_toUInt8,
    UInt64.toNat_shiftRight, Nat.shiftRight_eq_div_pow, UInt64.reduceToNat, Nat.reduceMod,
    Nat.reducePow, and_true] at h
  have hlt : n.toNat < 2 ^ 64 := n.toNat_lt
  have hlt' : n'.toNat < 2 ^ 64 := n'.toNat_lt
  refine UInt64.toNat_inj.mp ?_
  omega

end Sha256

/-- What is hashed ends with the number of the block. -/
theorem hashPreimage_inj {genesis genesis' : String} {number number' : UInt64} :
    hashPreimage genesis number = hashPreimage genesis' number' ↔
      genesisBytes genesis = genesisBytes genesis' ∧ number = number' := by
  constructor
  · intro h
    obtain ⟨hgenesis, hnumber⟩ := List.append_inj' h rfl
    exact ⟨hgenesis, Sha256.bigEndianBytes_inj.mp hnumber⟩
  · rintro ⟨hgenesis, rfl⟩
    rw [hashPreimage, hashPreimage, hgenesis]

/-- Texts in canonical base64 contribute the bytes that they are read as, which are different for
different texts. -/
theorem genesisBytes_inj {genesis genesis' : String} (h : Base64.IsCanonical genesis)
    (h' : Base64.IsCanonical genesis') :
    genesisBytes genesis = genesisBytes genesis' ↔ genesis = genesis' := by
  obtain ⟨bytes, hbytes⟩ := h
  obtain ⟨bytes', hbytes'⟩ := h'
  have hread := Base64.decode?_eq_some_iff.mpr hbytes
  have hread' := Base64.decode?_eq_some_iff.mpr hbytes'
  rw [genesisBytes, genesisBytes, hread, hread', Option.getD_some, Option.getD_some]
  constructor
  · rintro rfl
    exact Base64.decode?_inj hread hread'
  · rintro rfl
    exact Option.some.inj (hread.symm.trans hread')

/-- What is hashed for a block tells its number, and its genesis text among those in canonical
base64.  So where the digest has no collision on two of these messages, they have the same derived
hash only if they are of the same block of the same network. -/
theorem hashPreimage_identifies :
    (∀ genesis genesis' number number', Base64.IsCanonical genesis → Base64.IsCanonical genesis' →
      (hashPreimage genesis number = hashPreimage genesis' number' ↔
        genesis = genesis' ∧ number = number')) ∧
    (∀ genesis number number',
      hashPreimage genesis number = hashPreimage genesis number' ↔ number = number') ∧
    ∀ genesis genesis' number number',
      genesis = genesis' ∨ Base64.IsCanonical genesis ∧ Base64.IsCanonical genesis' →
      (Sha256.digest (hashPreimage genesis number) = Sha256.digest (hashPreimage genesis' number') →
        hashPreimage genesis number = hashPreimage genesis' number') →
      (deriveHash genesis number = deriveHash genesis' number' ↔
        genesis = genesis' ∧ number = number') := by
  have hcanonical {genesis genesis' : String} {number number' : UInt64}
      (h : Base64.IsCanonical genesis) (h' : Base64.IsCanonical genesis') :
      hashPreimage genesis number = hashPreimage genesis' number' ↔
        genesis = genesis' ∧ number = number' := by
    rw [hashPreimage_inj, genesisBytes_inj h h']
  have hsame (genesis : String) (number number' : UInt64) :
      hashPreimage genesis number = hashPreimage genesis number' ↔ number = number' := by
    rw [hashPreimage_inj, eq_self, true_and]
  refine ⟨fun _ _ _ _ h h' => hcanonical h h', hsame, ?_⟩
  intro genesis genesis' number number' hgenesis hcollision
  have hmessage : deriveHash genesis number = deriveHash genesis' number' ↔
      hashPreimage genesis number = hashPreimage genesis' number' := by
    rw [deriveHash, deriveHash, BlockHash.mk.injEq]
    exact ⟨hcollision, congrArg Sha256.digest⟩
  rw [hmessage]
  obtain rfl | ⟨h, h'⟩ := hgenesis
  · rw [hsame, eq_self, true_and]
  · exact hcanonical h h'

/-- Two networks whose genesis texts stand for one and for two zero bytes. -/
theorem hashPreimage_identifies_zeros :
    Base64.IsCanonical "AA==" ∧ Base64.IsCanonical "AAA=" ∧
      hashPreimage "AA==" 0 ≠ hashPreimage "AAA=" 0 ∧
      deriveHash "AA==" 0 ≠ deriveHash "AAA=" 0 := by
  have h : Base64.IsCanonical "AA==" := ⟨[0], by decide +kernel⟩
  have h' : Base64.IsCanonical "AAA=" := ⟨[0, 0], by decide +kernel⟩
  obtain ⟨hpreimage, -, hderived⟩ := hashPreimage_identifies
  have hdigest : Sha256.digest (hashPreimage "AA==" 0) ≠ Sha256.digest (hashPreimage "AAA=" 0) := by
    decide +kernel
  have hother : ¬ ("AA==" = "AAA=" ∧ (0 : UInt64) = 0) := by decide
  refine ⟨h, h', fun heq => ?_, fun heq => ?_⟩
  · exact hother ((hpreimage _ _ _ _ h h').mp heq)
  · exact hother ((hderived _ _ _ _ (.inr ⟨h, h'⟩) fun hsame => absurd hsame hdigest).mp heq)

end ChainIndex
