import CompilerRelay.Text.Utf8
import Mathlib.Algebra.Group.Nat.Defs
import Mathlib.Data.List.Basic

/-!
# Encoding and decoding

Bytes that encode a text are decoded as the text.  The argument is about one
character, which takes one to four bytes: its first byte announces the others,
and each of them is in its range, so none is left out and none is left over.

No byte of a longer character is a byte of ASCII, so cutting bytes at such a
byte is cutting the text at its character.  This holds of all bytes, those that
encode no text too: a byte of ASCII goes into no broken character, and decoding
makes no character of ASCII of other bytes.
-/

namespace CompilerRelay
namespace Text
namespace Utf8

/-- The bytes of a character, by its code.  Each code has one such list, as the
shortest form is the only one. -/
inductive Encodes (code : Nat) : List UInt8 → Prop
  | one (small : code < 0x80) : Encodes code [UInt8.ofNat code]
  | two (least : 0x80 ≤ code) (most : code < 0x800) :
      Encodes code [UInt8.ofNat (0xC0 + code / 64), UInt8.ofNat (0x80 + code % 64)]
  | three (least : 0x800 ≤ code) (most : code < 0x10000)
      (scalar : code < 0xD800 ∨ 0xE000 ≤ code) :
      Encodes code [UInt8.ofNat (0xE0 + code / 4096), UInt8.ofNat (0x80 + code / 64 % 64),
        UInt8.ofNat (0x80 + code % 64)]
  | four (least : 0x10000 ≤ code) (most : code < 0x110000) :
      Encodes code [UInt8.ofNat (0xF0 + code / 262144), UInt8.ofNat (0x80 + code / 4096 % 64),
        UInt8.ofNat (0x80 + code / 64 % 64), UInt8.ofNat (0x80 + code % 64)]

theorem encodes (c : Char) : Encodes c.toNat (String.utf8EncodeChar c) := by
  have scalar : c.toNat < 0xD800 ∨ 0xDFFF < c.toNat ∧ c.toNat < 0x110000 := c.valid
  have later : ∀ n, n % 64 + 0x80 = 0x80 + n % 64 := fun n => Nat.add_comm _ _
  rw [String.utf8EncodeChar]
  change Encodes c.toNat (if c.toNat ≤ 0x7f then [UInt8.ofNat c.toNat]
    else if c.toNat ≤ 0x7ff then
      [UInt8.ofNat (c.toNat / 64 % 0x20 + 0xC0), UInt8.ofNat (c.toNat % 0x40 + 0x80)]
    else if c.toNat ≤ 0xffff then [UInt8.ofNat (c.toNat / 4096 % 0x10 + 0xE0),
      UInt8.ofNat (c.toNat / 64 % 0x40 + 0x80), UInt8.ofNat (c.toNat % 0x40 + 0x80)]
    else [UInt8.ofNat (c.toNat / 262144 % 0x08 + 0xF0), UInt8.ofNat (c.toNat / 4096 % 0x40 + 0x80),
      UInt8.ofNat (c.toNat / 64 % 0x40 + 0x80), UInt8.ofNat (c.toNat % 0x40 + 0x80)])
  generalize c.toNat = code at scalar
  simp only [later]
  by_cases ascii : code ≤ 0x7f
  · rw [if_pos ascii]
    exact .one (Nat.lt_succ_of_le ascii)
  · rw [if_neg ascii]
    by_cases short : code ≤ 0x7ff
    · rw [if_pos short, show code / 64 % 0x20 + 0xC0 = 0xC0 + code / 64 by omega]
      exact .two (by omega) (by omega)
    · rw [if_neg short]
      by_cases medium : code ≤ 0xffff
      · rw [if_pos medium, show code / 4096 % 0x10 + 0xE0 = 0xE0 + code / 4096 by omega]
        exact .three (by omega) (by omega) (by omega)
      · rw [if_neg medium, show code / 262144 % 0x08 + 0xF0 = 0xF0 + code / 262144 by omega]
        exact .four (by omega) (by omega)

theorem toNat_ofNat {n : Nat} (byte : n < 0x100) : (UInt8.ofNat n).toNat = n := by
  rw [UInt8.toNat_ofNat']
  exact Nat.mod_eq_of_lt byte

/-- A byte of ASCII encodes its own character. -/
theorem eq_of_ascii {c : Char} {byte : UInt8} (ascii : byte.toNat < 0x80)
    (member : byte ∈ String.utf8EncodeChar c) : c.toNat = byte.toNat := by
  have beyond : ∀ n, 0x80 ≤ n → n < 0x100 → byte ≠ UInt8.ofNat n := by
    rintro n large small rfl
    rw [toNat_ofNat small] at ascii
    omega
  have all := encodes c
  generalize String.utf8EncodeChar c = bytes at member all
  generalize c.toNat = code at all
  cases all with
  | one small =>
      rw [List.mem_singleton.mp member, toNat_ofNat (by omega)]
  | two least most =>
      rcases List.mem_pair.mp member with same | same
      · exact absurd same (beyond _ (by omega) (by omega))
      · exact absurd same (beyond _ (by omega) (by omega))
  | three least most scalar =>
      rcases List.mem_cons.mp member with same | member
      · exact absurd same (beyond _ (by omega) (by omega))
      · rcases List.mem_pair.mp member with same | same
        · exact absurd same (beyond _ (by omega) (by omega))
        · exact absurd same (beyond _ (by omega) (by omega))
  | four least most =>
      rcases List.mem_cons.mp member with same | member
      · exact absurd same (beyond _ (by omega) (by omega))
      · rcases List.mem_cons.mp member with same | member
        · exact absurd same (beyond _ (by omega) (by omega))
        · rcases List.mem_pair.mp member with same | same
          · exact absurd same (beyond _ (by omega) (by omega))
          · exact absurd same (beyond _ (by omega) (by omega))

/-! ## Decoding -/

/-- A byte in range is taken. -/
theorem continuation_of_owed (owed code payload : Nat) {low high : Nat} (rest : List UInt8)
    (least : low ≤ 0x80 + payload) (most : 0x80 + payload ≤ high) (byte : payload < 0x40) :
    continuation (owed + 1) low high code (UInt8.ofNat (0x80 + payload) :: rest) =
      continuation owed 0x80 0xBF (code * 64 + payload) rest := by
  rw [continuation, toNat_ofNat (by omega), if_pos ⟨least, most⟩, Nat.add_sub_cancel_left]

/-- What a byte announces that begins a character of two bytes. -/
theorem lead?_of_two {n : Nat} (least : 2 ≤ n) (most : n < 0x20) :
    lead? (UInt8.ofNat (0xC0 + n)) = some ⟨n, 1, 0x80, 0xBF⟩ := by
  have short : 0xC0 + n ≤ 0xDF := by omega
  simp only [lead?, toNat_ofNat (show 0xC0 + n < 0x100 by omega),
    if_neg (show ¬ 0xC0 + n < 0xC2 by omega), if_pos short, Nat.add_sub_cancel_left]

/-- The range of the second of three bytes leaves out overlong forms and
surrogates. -/
theorem lead?_of_three {code : Nat} (least : 0x800 ≤ code) (most : code < 0x10000)
    (scalar : code < 0xD800 ∨ 0xE000 ≤ code) : ∃ low high,
      lead? (UInt8.ofNat (0xE0 + code / 4096)) = some ⟨code / 4096, 2, low, high⟩ ∧
        low ≤ 0x80 + code / 64 % 64 ∧ 0x80 + code / 64 % 64 ≤ high := by
  have byte := @toNat_ofNat (0xE0 + code / 4096) (by omega)
  simp only [lead?, byte, if_neg (show ¬ 0xE0 + code / 4096 < 0xC2 by omega),
    if_neg (show ¬ 0xE0 + code / 4096 ≤ 0xDF by omega)]
  by_cases first : 0xE0 + code / 4096 = 0xE0
  · rw [if_pos first, show code / 4096 = 0 by omega]
    exact ⟨_, _, rfl, by omega, by omega⟩
  · rw [if_neg first]
    by_cases surrogate : 0xE0 + code / 4096 = 0xED
    · rw [if_pos surrogate, show code / 4096 = 0xD by omega]
      exact ⟨_, _, rfl, by omega, by omega⟩
    · rw [if_neg surrogate, if_pos (by omega), Nat.add_sub_cancel_left]
      exact ⟨_, _, rfl, by omega, by omega⟩

/-- The range of the second of four bytes leaves out overlong forms and what
lies past the last character. -/
theorem lead?_of_four {code : Nat} (least : 0x10000 ≤ code) (most : code < 0x110000) :
    ∃ low high, lead? (UInt8.ofNat (0xF0 + code / 262144)) =
        some ⟨code / 262144, 3, low, high⟩ ∧
      low ≤ 0x80 + code / 4096 % 64 ∧ 0x80 + code / 4096 % 64 ≤ high := by
  have byte := @toNat_ofNat (0xF0 + code / 262144) (by omega)
  simp only [lead?, byte, if_neg (show ¬ 0xF0 + code / 262144 < 0xC2 by omega),
    if_neg (show ¬ 0xF0 + code / 262144 ≤ 0xDF by omega),
    if_neg (show ¬ 0xF0 + code / 262144 = 0xE0 by omega),
    if_neg (show ¬ 0xF0 + code / 262144 = 0xED by omega),
    if_neg (show ¬ 0xF0 + code / 262144 ≤ 0xEF by omega)]
  by_cases first : 0xF0 + code / 262144 = 0xF0
  · rw [if_pos first, show code / 262144 = 0 by omega]
    exact ⟨_, _, rfl, by omega, by omega⟩
  · rw [if_neg first]
    by_cases middle : 0xF0 + code / 262144 ≤ 0xF3
    · rw [if_pos middle, Nat.add_sub_cancel_left]
      exact ⟨_, _, rfl, by omega, by omega⟩
    · rw [if_neg middle, if_pos (by omega), show code / 262144 = 4 by omega]
      exact ⟨_, _, rfl, by omega, by omega⟩

/-- The bytes of a character are read as the character, whatever follows. -/
theorem character_of_encodes {code : Nat} {bytes : List UInt8} (all : Encodes code bytes)
    (rest : List UInt8) : ∃ first more, bytes = first :: more ∧
      character first (more ++ rest) = (some (Char.ofNat code), rest) := by
  cases all with
  | one small =>
      refine ⟨_, [], rfl, ?_⟩
      rw [character, toNat_ofNat (by omega), if_pos small]
      rfl
  | two least most =>
      refine ⟨_, _, rfl, ?_⟩
      rw [character, toNat_ofNat (by omega), if_neg (by omega), lead?_of_two (by omega) (by omega)]
      simp only [List.singleton_append]
      rw [continuation_of_owed 0 _ _ rest (by omega) (by omega) (by omega), continuation,
        show code / 64 * 64 + code % 64 = code by omega]
      rfl
  | three least most scalar =>
      rcases lead?_of_three least most scalar with ⟨low, high, announced, above, below⟩
      refine ⟨_, _, rfl, ?_⟩
      rw [character, toNat_ofNat (by omega), if_neg (by omega), announced]
      simp only [List.cons_append, List.nil_append]
      rw [continuation_of_owed 1 _ _ _ above below (by omega),
        continuation_of_owed 0 _ _ rest (by omega) (by omega) (by omega), continuation,
        show (code / 4096 * 64 + code / 64 % 64) * 64 + code % 64 = code by omega]
      rfl
  | four least most =>
      rcases lead?_of_four least most with ⟨low, high, announced, above, below⟩
      refine ⟨_, _, rfl, ?_⟩
      rw [character, toNat_ofNat (by omega), if_neg (by omega), announced]
      simp only [List.cons_append, List.nil_append]
      rw [continuation_of_owed 2 _ _ _ above below (by omega),
        continuation_of_owed 1 _ _ _ (by omega) (by omega) (by omega),
        continuation_of_owed 0 _ _ rest (by omega) (by omega) (by omega), continuation,
        show ((code / 262144 * 64 + code / 4096 % 64) * 64 + code / 64 % 64) * 64 + code % 64 =
          code by omega]
      rfl

/-- The bytes of a character are taken together. -/
theorem character_encode_cons (c : Char) (text : List Char) (bytes : List UInt8) :
    ∃ first more, encode (c :: text) ++ bytes = first :: (more ++ (encode text ++ bytes)) ∧
      character first (more ++ (encode text ++ bytes)) = (some c, encode text ++ bytes) := by
  rcases character_of_encodes (encodes c) (encode text ++ bytes) with ⟨first, more, whole, read⟩
  refine ⟨first, more, ?_, Char.ofNat_toNat c ▸ read⟩
  rw [encode, List.flatMap_cons, whole, List.append_assoc, List.cons_append]
  rfl

/-- Bytes that encode a text are decoded as the text, whatever follows. -/
theorem decodeLossy_encode_append (text : List Char) (bytes : List UInt8) :
    decodeLossy (encode text ++ bytes) = text ++ decodeLossy bytes := by
  induction text with
  | nil => rfl
  | cons c rest inductionHypothesis =>
      rcases character_encode_cons c rest bytes with ⟨first, more, whole, read⟩
      rw [whole, decodeLossy, read, inductionHypothesis]
      rfl

theorem decodeLossy_encode (text : List Char) : decodeLossy (encode text) = text := by
  have whole := decodeLossy_encode_append text []
  rw [List.append_nil, decodeLossy, List.append_nil] at whole
  exact whole

/-! ## Bytes of ASCII -/

/-- Whatever a first byte announces, the byte after it is none of ASCII, and
neither is the character. -/
theorem lead?_bounds {byte : UInt8} {lead : Lead} (announced : lead? byte = some lead) :
    0x80 ≤ lead.low ∧
      ∃ others, lead.owed = others + 1 ∧
        0x80 ≤ (lead.payload * 64 + (lead.low - 0x80)) * 64 ^ others := by
  simp only [lead?] at announced
  generalize byte.toNat = b at announced
  split at announced
  · cases announced
  · split at announced
    · rw [← Option.some.inj announced]
      exact ⟨Nat.le_refl 0x80, 0, rfl, by simp only []; omega⟩
    · split at announced
      · rw [← Option.some.inj announced]
        exact ⟨by decide, 1, rfl, by decide⟩
      · split at announced
        · rw [← Option.some.inj announced]
          exact ⟨by decide, 1, rfl, by decide⟩
        · split at announced
          · rw [← Option.some.inj announced]
            exact ⟨Nat.le_refl 0x80, 1, rfl, by simp only []; omega⟩
          · split at announced
            · rw [← Option.some.inj announced]
              exact ⟨by decide, 2, rfl, by decide⟩
            · split at announced
              · rw [← Option.some.inj announced]
                exact ⟨Nat.le_refl 0x80, 2, rfl, by simp only []; omega⟩
              · split at announced
                · rw [← Option.some.inj announced]
                  exact ⟨by decide, 2, rfl, by decide⟩
                · cases announced

/-- A byte of ASCII goes into no character that began before it. -/
theorem continuation_append {byte : UInt8} (ascii : byte.toNat < 0x80) (rest : List UInt8)
    (owed code : Nat) {low : Nat} (above : 0x80 ≤ low) (high : Nat) (bytes : List UInt8) :
    continuation owed low high code (bytes ++ byte :: rest) =
      ((continuation owed low high code bytes).1,
        (continuation owed low high code bytes).2 ++ byte :: rest) := by
  induction owed generalizing low high code bytes with
  | zero => rfl
  | succ owed inductionHypothesis =>
      cases bytes with
      | nil => exact if_neg fun within => Nat.not_le_of_lt ascii (Nat.le_trans above within.1)
      | cons first more =>
          rw [List.cons_append, continuation, continuation]
          by_cases within : low ≤ first.toNat ∧ first.toNat ≤ high
          · rw [if_pos within, if_pos within]
            exact inductionHypothesis _ (Nat.le_refl 0x80) _ more
          · rw [if_neg within, if_neg within]
            rfl

theorem character_append {byte : UInt8} (ascii : byte.toNat < 0x80) (rest : List UInt8)
    (first : UInt8) (bytes : List UInt8) :
    character first (bytes ++ byte :: rest) =
      ((character first bytes).1, (character first bytes).2 ++ byte :: rest) := by
  simp only [character]
  by_cases small : first.toNat < 0x80
  · rw [if_pos small, if_pos small]
  · rw [if_neg small, if_neg small]
    cases announced : lead? first with
    | none => rfl
    | some lead =>
        simp only [continuation_append ascii rest lead.owed lead.payload
          (lead?_bounds announced).1]

/-- A byte of ASCII is decoded as its character, whatever stands around it, and
what stands on either side is decoded on its own. -/
theorem decodeLossy_append {byte : UInt8} (ascii : byte.toNat < 0x80) (bytes rest : List UInt8) :
    decodeLossy (bytes ++ byte :: rest) =
      decodeLossy bytes ++ Char.ofNat byte.toNat :: decodeLossy rest := by
  induction bytes using decodeLossy.induct with
  | case1 =>
      have read : character byte rest = (some (Char.ofNat byte.toNat), rest) := if_pos ascii
      rw [List.nil_append, decodeLossy, decodeLossy, read]
      rfl
  | case2 first more inductionHypothesis =>
      rw [List.cons_append, decodeLossy, character_append ascii rest, decodeLossy,
        List.cons_append]
      simp only [inductionHypothesis]

/-- Each further byte adds six bits to the code. -/
theorem le_of_continuation {owed low high code n : Nat} {bytes : List UInt8}
    (complete : (continuation owed low high code bytes).1 = some n) : code * 64 ^ owed ≤ n := by
  induction owed generalizing low high code bytes with
  | zero => exact Nat.le_of_eq ((Nat.mul_one _).trans (Option.some.inj complete))
  | succ owed inductionHypothesis =>
      cases bytes with
      | nil => cases complete
      | cons byte rest =>
          rw [continuation] at complete
          split at complete
          · refine Nat.le_trans ?_ (inductionHypothesis complete)
            rw [Nat.pow_succ', ← Nat.mul_assoc]
            exact Nat.mul_le_mul_right _ (Nat.le_add_right _ _)
          · cases complete

/-- What is decoded from several bytes is no character of ASCII. -/
theorem le_of_lead {first : UInt8} {lead : Lead} (announced : lead? first = some lead)
    {bytes : List UInt8} {n : Nat}
    (complete : (continuation lead.owed lead.low lead.high lead.payload bytes).1 = some n) :
    0x80 ≤ n := by
  rcases lead?_bounds announced with ⟨above, others, owed, large⟩
  rw [owed] at complete
  cases bytes with
  | nil => cases complete
  | cons byte rest =>
      rw [continuation] at complete
      split at complete
      · next within =>
          refine Nat.le_trans (Nat.le_trans large ?_) (le_of_continuation complete)
          refine Nat.mul_le_mul_right _ (Nat.add_le_add_left ?_ _)
          exact Nat.sub_le_sub_right within.1 _
      · cases complete

/-- A number past ASCII is the code of a character past ASCII, or of none. -/
theorem ofNat_ne {n : Nat} (large : 0x80 ≤ n) {c : Char} (nonzero : 0 < c.toNat)
    (ascii : c.toNat < 0x80) : Char.ofNat n ≠ c := by
  rintro rfl
  by_cases valid : n.isValidChar
  · rw [Char.ofNat, dif_pos valid] at ascii
    exact Nat.not_le_of_lt ascii large
  · rw [Char.ofNat, dif_neg valid] at nonzero
    exact Nat.lt_irrefl 0 nonzero

theorem continuation_suffix (owed low high code : Nat) (bytes : List UInt8) :
    (continuation owed low high code bytes).2 <:+ bytes := by
  induction owed generalizing low high code bytes with
  | zero => exact List.suffix_rfl
  | succ owed inductionHypothesis =>
      cases bytes with
      | nil => exact List.suffix_rfl
      | cons byte rest =>
          rw [continuation]
          split
          · exact (inductionHypothesis _ _ _ rest).trans (List.suffix_cons byte rest)
          · exact List.suffix_rfl

/-- What is read of a text is a byte of ASCII, or no character of ASCII. -/
theorem character_cases (first : UInt8) (bytes : List UInt8) :
    (character first bytes).2 <:+ bytes ∧
      ((character first bytes).1.getD replacement = Char.ofNat first.toNat ∧ first.toNat < 0x80 ∨
        ∃ n, 0x80 ≤ n ∧ (character first bytes).1.getD replacement = Char.ofNat n) := by
  rw [character]
  by_cases small : first.toNat < 0x80
  · rw [if_pos small]
    exact ⟨List.suffix_rfl, .inl ⟨rfl, small⟩⟩
  · rw [if_neg small]
    cases announced : lead? first with
    | none => exact ⟨List.suffix_rfl, .inr ⟨0xFFFD, by decide, rfl⟩⟩
    | some lead =>
        refine ⟨continuation_suffix .., .inr ?_⟩
        cases complete :
            (continuation lead.owed lead.low lead.high lead.payload bytes).1 with
        | none => exact ⟨0xFFFD, by decide, by simp only [complete]; rfl⟩
        | some n =>
            refine ⟨n, le_of_lead announced complete, ?_⟩
            simp only [complete]
            rfl

/-- Decoding invents no character of ASCII. -/
theorem byte_of_decodeLossy {c : Char} (nonzero : 0 < c.toNat) (ascii : c.toNat < 0x80)
    {bytes : List UInt8} (listed : c ∈ decodeLossy bytes) :
    ∃ byte ∈ bytes, byte.toNat = c.toNat := by
  induction bytes using decodeLossy.induct with
  | case1 =>
      rw [decodeLossy] at listed
      cases listed
  | case2 first rest inductionHypothesis =>
      rcases character_cases first rest with ⟨inside, read⟩
      rw [decodeLossy] at listed
      rcases List.mem_cons.mp listed with rfl | listed
      · rcases read with ⟨same, small⟩ | ⟨n, large, same⟩
        · refine ⟨first, List.mem_cons_self, ?_⟩
          have valid : first.toNat.isValidChar := Or.inl (Nat.lt_trans small (by decide))
          rw [same, Char.ofNat, dif_pos valid]
          rfl
        · exact absurd same.symm (ofNat_ne large nonzero ascii)
      · rcases inductionHypothesis listed with ⟨byte, found, same⟩
        exact ⟨byte, List.mem_cons_of_mem first (inside.subset found), same⟩

/-! ## Broken pieces -/

/-- A piece of the bytes is broken, and this text is decoded before it. -/
inductive Breaks : List UInt8 → List Char → Prop
  | here {byte : UInt8} {rest : List UInt8} (broken : (character byte rest).1 = none) :
      Breaks (byte :: rest) []
  /-- What was decoded before may have come from a broken piece as well. -/
  | later {byte : UInt8} {rest : List UInt8} {before : List Char}
      (further : Breaks (character byte rest).2 before) :
      Breaks (byte :: rest) ((character byte rest).1.getD replacement :: before)

/-- A replacement character stands for a broken piece. -/
theorem Breaks.decoded {bytes : List UInt8} {before : List Char}
    (breaks : Breaks bytes before) :
    ∃ after, decodeLossy bytes = before ++ replacement :: after := by
  induction breaks with
  | @here byte rest broken =>
      refine ⟨decodeLossy (character byte rest).2, ?_⟩
      rw [decodeLossy, broken]
      rfl
  | later _ inductionHypothesis =>
      rcases inductionHypothesis with ⟨after, decoded⟩
      refine ⟨after, ?_⟩
      rw [decodeLossy, decoded]
      rfl

/-- Bytes are refused only for a broken piece. -/
theorem decode?_eq_none_iff {bytes : List UInt8} :
    decode? bytes = none ↔ ∃ before, Breaks bytes before := by
  induction bytes using decode?.induct with
  | case1 =>
      rw [decode?]
      exact ⟨(nomatch ·), fun ⟨_, breaks⟩ => nomatch breaks⟩
  | case2 byte rest broken =>
      rw [decode?, broken]
      exact ⟨fun _ => ⟨[], .here broken⟩, fun _ => rfl⟩
  | case3 byte rest c read inductionHypothesis =>
      rw [decode?, read]
      simp only [Option.map_eq_none_iff, inductionHypothesis]
      constructor
      · exact fun ⟨before, breaks⟩ => ⟨_, .later breaks⟩
      · rintro ⟨_, ⟨broken⟩ | ⟨further⟩⟩
        · rw [read] at broken
          cases broken
        · exact ⟨_, further⟩

theorem replacement_mem_decodeLossy {bytes : List UInt8} (invalid : decode? bytes = none) :
    replacement ∈ decodeLossy bytes := by
  rcases decode?_eq_none_iff.mp invalid with ⟨before, breaks⟩
  rcases breaks.decoded with ⟨after, decoded⟩
  exact decoded ▸ List.mem_append_right before List.mem_cons_self

/-- Bytes that encode a text are not broken. -/
theorem decode?_encode (text : List Char) : decode? (encode text) = some text := by
  induction text with
  | nil => rw [encode, List.flatMap_nil, decode?]
  | cons c rest inductionHypothesis =>
      rcases character_encode_cons c rest [] with ⟨first, more, whole, read⟩
      rw [List.append_nil, List.append_nil] at whole
      rw [List.append_nil] at read
      rw [whole, decode?, read]
      simp only [inductionHypothesis, Option.map_some]

/-- Broken bytes are as broken behind a text. -/
theorem Breaks.encode_append {bytes : List UInt8} {before : List Char}
    (breaks : Breaks bytes before) (text : List Char) :
    Breaks (encode text ++ bytes) (text ++ before) := by
  induction text with
  | nil => exact breaks
  | cons c rest inductionHypothesis =>
      rcases character_encode_cons c rest bytes with ⟨first, more, whole, read⟩
      have further : Breaks (character first (more ++ (encode rest ++ bytes))).2
          (rest ++ before) := by
        rw [read]
        exact inductionHypothesis
      have all := Breaks.later further
      rw [read] at all
      rw [whole]
      exact all

end Utf8
end Text
end CompilerRelay
