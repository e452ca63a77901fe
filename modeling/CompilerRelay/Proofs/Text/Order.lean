import CompilerRelay.Proofs.Text.Utf8
import Mathlib.Data.List.Lex

/-!
# The order of texts and the order of bytes

Texts are compared by the codes of their characters, and what is sent is
compared byte by byte.  Encoding keeps the order.  The first byte of a character
tells how many bytes the character takes, and characters that take more bytes
have larger first bytes, so two different characters differ at a byte before
either of them ends.  Whatever follows the characters plays no part, which is
why `Precedes` quantifies over it.
-/

namespace CompilerRelay
namespace Text
namespace Utf8

/-- Bytes come before others, whatever follows either of them.  For single
characters this is more than their order, in which one could begin the other. -/
def Precedes (first second : List UInt8) : Prop :=
  ∀ early late, first ++ early < second ++ late

/-- The first bytes decide, or else those behind them. -/
theorem precedes_cons {a b : Nat} {first second : List UInt8} (byte : b < 0x100)
    (order : a < b ∨ a = b ∧ Precedes first second) :
    Precedes (UInt8.ofNat a :: first) (UInt8.ofNat b :: second) := by
  intro early late
  rw [List.cons_append, List.cons_append, List.cons_lt_cons_iff]
  rcases order with less | ⟨same, behind⟩
  · left
    rw [UInt8.lt_iff_toNat_lt, toNat_ofNat (Nat.lt_trans less byte), toNat_ofNat byte]
    exact less
  · exact Or.inr ⟨congrArg UInt8.ofNat same, behind early late⟩

/-- The bytes behind the first one of a longer character, with six bits of the
code in each. -/
def continuations (code : Nat) : Nat → List UInt8
  | 0 => []
  | owed + 1 => UInt8.ofNat (0x80 + code / 64 ^ owed % 64) :: continuations code owed

/-- Codes that agree in front of the continuation bytes differ in these. -/
theorem precedes_continuations {code other : Nat} (less : code < other) (owed : Nat)
    (same : code / 64 ^ owed = other / 64 ^ owed) :
    Precedes (continuations code owed) (continuations other owed) := by
  induction owed with
  | zero =>
      rw [Nat.pow_zero, Nat.div_one, Nat.div_one] at same
      omega
  | succ owed inductionHypothesis =>
      have ordered : code / 64 ^ owed ≤ other / 64 ^ owed := Nat.div_le_div_right less.le
      rw [Nat.pow_succ, ← Nat.div_div_eq_div_mul, ← Nat.div_div_eq_div_mul] at same
      refine precedes_cons (by omega) ?_
      by_cases equal : code / 64 ^ owed = other / 64 ^ owed
      · exact Or.inr ⟨by rw [equal], inductionHypothesis equal⟩
      · exact Or.inl (by omega)

/-- Two characters that take the same number of bytes. -/
theorem precedes_of_lead {code other : Nat} (less : code < other) (mark owed : Nat)
    (byte : mark + other / 64 ^ owed < 0x100) :
    Precedes (UInt8.ofNat (mark + code / 64 ^ owed) :: continuations code owed)
      (UInt8.ofNat (mark + other / 64 ^ owed) :: continuations other owed) := by
  have ordered : code / 64 ^ owed ≤ other / 64 ^ owed := Nat.div_le_div_right less.le
  refine precedes_cons byte ?_
  by_cases equal : code / 64 ^ owed = other / 64 ^ owed
  · exact Or.inr ⟨by rw [equal], precedes_continuations less owed equal⟩
  · exact Or.inl (by omega)

/-- Of two characters the one with the smaller code has the smaller bytes. -/
theorem precedes_of_encodes {code other : Nat} {first second : List UInt8}
    (all : Encodes code first) (others : Encodes other second) (less : code < other) :
    Precedes first second := by
  cases all with
  | one small => cases others <;> exact precedes_cons (by omega) (Or.inl (by omega))
  | two least most =>
      cases others with
      | one small => omega
      | two =>
          have bytes := precedes_of_lead less 0xC0 1 (by omega)
          simpa only [continuations, Nat.reducePow, Nat.div_one] using bytes
      | _ => exact precedes_cons (by omega) (Or.inl (by omega))
  | three least most scalar =>
      cases others with
      | three =>
          have bytes := precedes_of_lead less 0xE0 2 (by omega)
          simpa only [continuations, Nat.reducePow, Nat.div_one] using bytes
      | four => exact precedes_cons (by omega) (Or.inl (by omega))
      | _ => omega
  | four least most =>
      cases others with
      | four =>
          have bytes := precedes_of_lead less 0xF0 3 (by omega)
          simpa only [continuations, Nat.reducePow, Nat.div_one] using bytes
      | _ => omega

/-- Texts are encoded in their order. -/
theorem encode_lt {first second : List Char} (less : first < second) :
    encode first < encode second := by
  induction less with
  | @nil c rest =>
      rcases character_encode_cons c rest [] with ⟨byte, more, whole, _⟩
      rw [List.append_nil] at whole
      rw [whole]
      exact .nil
  | @rel c rest d others smaller =>
      rw [encode, encode, List.flatMap_cons, List.flatMap_cons]
      exact precedes_of_encodes (encodes c) (encodes d) smaller _ _
  | @cons c rest others _ inductionHypothesis =>
      rw [encode, encode, List.flatMap_cons, List.flatMap_cons]
      exact inductionHypothesis.append_left _ _

end Utf8
end Text
end CompilerRelay
