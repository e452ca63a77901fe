import CompilerRelay.Json.Reader
import CompilerRelay.Json.Render

/-!
# The ways to write a string

Between its quotes a string may be written in many ways.  A character stands
for itself unless it is a quote, a backslash or a control; it may be given by
a letter after a backslash where there is one for it, or by its code in four
hexadecimal digits of either case.  What four digits cannot give takes two
codes, the halves of a pair.

`Json.Denotes` and `Json.Quotes` say this without the reader, and the reader
reads each such text as the string it writes.  The text that the program
writes is one of them.
-/

namespace CompilerRelay

namespace Json

def HexDigit (value : Nat) (c : Char) : Prop :=
  value < 16 ∧ (c = value.digitChar ∨ c = value.digitChar.toUpper)

instance (value : Nat) (c : Char) : Decidable (HexDigit value c) :=
  inferInstanceAs (Decidable (_ ∧ _))

/-- Four hexadecimal digits and the number they write. -/
inductive HexCode : Nat → List Char → Prop
  | digits {a b c d : Nat} {first second third fourth : Char} (one : HexDigit a first)
      (two : HexDigit b second) (three : HexDigit c third) (four : HexDigit d fourth) :
      HexCode (((a * 16 + b) * 16 + c) * 16 + d) [first, second, third, fourth]

/-- The letters that stand for a character after a backslash. -/
def shortEscapes : List (Char × Char) :=
  [('"', '"'), ('\\', '\\'), ('/', '/'), ('b', '\x08'), ('f', '\x0c'), ('n', '\n'), ('r', '\r'),
    ('t', '\t')]

/-- The ways to write a character inside a string.  A character may be written
in several ways, and half of a pair of escapes writes none. -/
inductive Denotes : List Char → Char → Prop
  | plain {c : Char} (quote : c ≠ '"') (backslash : c ≠ '\\') (printable : 0x20 ≤ c.toNat) :
      Denotes [c] c
  | short {letter c : Char} (listed : (letter, c) ∈ shortEscapes) : Denotes ['\\', letter] c
  | code {c : Char} {digits : List Char} (coded : HexCode c.toNat digits) :
      Denotes ('\\' :: 'u' :: digits) c
  /-- Beyond the characters that four digits reach. -/
  | pair {c : Char} {high low : List Char} (beyond : 0x10000 ≤ c.toNat)
      (upper : HexCode (0xD800 + (c.toNat - 0x10000) / 0x400) high)
      (lower : HexCode (0xDC00 + (c.toNat - 0x10000) % 0x400) low) :
      Denotes ('\\' :: 'u' :: (high ++ '\\' :: 'u' :: low)) c

/-- The texts that write several characters, one after the other. -/
inductive DenotesAll : List Char → List Char → Prop
  | nil : DenotesAll [] []
  | cons {part text : List Char} {c : Char} {chars : List Char} (first : Denotes part c)
      (others : DenotesAll text chars) : DenotesAll (part ++ text) (c :: chars)

/-- The texts that write a string, with its quotes. -/
def Quotes (s : String) (written : List Char) : Prop :=
  ∃ body, DenotesAll body s.toList ∧ written = '"' :: (body ++ ['"'])

theorem HexCode.small {code : Nat} {digits : List Char} (coded : HexCode code digits) :
    code < 0x10000 := by
  cases coded with
  | digits one two three four =>
      have bounds := And.intro (And.intro one.1 two.1) (And.intro three.1 four.1)
      omega

theorem Denotes.ne_nil {part : List Char} {c : Char} (denotes : Denotes part c) : part ≠ [] := by
  cases denotes <;> exact List.cons_ne_nil _ _

theorem DenotesAll.length_le {text chars : List Char} (denotes : DenotesAll text chars) :
    chars.length ≤ text.length := by
  induction denotes with
  | nil => exact Nat.le_refl _
  | cons first others inductionHypothesis =>
      have one := List.length_pos_iff.mpr first.ne_nil
      rw [List.length_cons, List.length_append]
      omega

end Json

namespace Reader

open Json

/-! ## Reading them -/

theorem byteCount_le (text : List Char) : text.length ≤ byteCount text := by
  have counted : ∀ count, count + text.length ≤
      text.foldl (fun count c => count + c.utf8Size) count := by
    induction text with
    | nil => exact fun count => Nat.le_refl _
    | cons c rest inductionHypothesis =>
        intro count
        have one := c.utf8Size_pos
        have later := inductionHypothesis (count + c.utf8Size)
        rw [List.length_cons, List.foldl_cons]
        omega
  have all := counted 0
  rw [Nat.zero_add] at all
  exact all

theorem hexValue?_of_hexDigit {value : Nat} {c : Char} (digit : HexDigit value c) :
    hexValue? c = some value := by
  have all : ∀ value : Fin 16, hexValue? (value : Nat).digitChar = some value.val ∧
      hexValue? (value : Nat).digitChar.toUpper = some value.val := by decide
  rcases digit with ⟨small, rfl | rfl⟩
  · exact (all ⟨value, small⟩).1
  · exact (all ⟨value, small⟩).2

theorem hexFour_of_hexCode {code : Nat} {digits : List Char} (coded : HexCode code digits)
    (rest : List Char) : hexFour (digits ++ rest) = .ok (code, rest) := by
  cases coded with
  | @digits a b c d first second third fourth one two three four =>
      have enough : ¬ byteCount (first :: second :: third :: fourth :: rest) < 4 := by
        have bytes := byteCount_le (first :: second :: third :: fourth :: rest)
        simp only [List.length_cons] at bytes
        omega
      have number : hexNumber? first second third fourth =
          some (((a * 16 + b) * 16 + c) * 16 + d) := by
        simp only [hexNumber?, hexValue?_of_hexDigit one, hexValue?_of_hexDigit two,
          hexValue?_of_hexDigit three, hexValue?_of_hexDigit four]
        rfl
      simp only [List.cons_append, List.nil_append, hexFour, if_neg enough, number]

theorem escape_short {letter c : Char} (listed : (letter, c) ∈ shortEscapes) (rest : List Char) :
    escape (letter :: rest) = .ok (c, rest) := by
  simp only [shortEscapes, List.mem_cons, Prod.mk.injEq, List.not_mem_nil, or_false] at listed
  rcases listed with ⟨rfl, rfl⟩ | ⟨rfl, rfl⟩ | ⟨rfl, rfl⟩ | ⟨rfl, rfl⟩ | ⟨rfl, rfl⟩ |
    ⟨rfl, rfl⟩ | ⟨rfl, rfl⟩ | ⟨rfl, rfl⟩ <;> rfl

/-- No character has the code of half a pair. -/
theorem not_surrogate (c : Char) :
    isLowSurrogate c.toNat = false ∧ isHighSurrogate c.toNat = false := by
  have valid : c.toNat < 0xD800 ∨ (0xDFFF < c.toNat ∧ c.toNat < 0x110000) := c.valid
  simp only [isLowSurrogate, isHighSurrogate, Bool.and_eq_false_iff, decide_eq_false_iff_not]
  omega

theorem escape_code {c : Char} {digits : List Char} (coded : HexCode c.toNat digits)
    (rest : List Char) : escape ('u' :: (digits ++ rest)) = .ok (c, rest) := by
  change codeEscape (digits ++ rest) = _
  rw [codeEscape, hexFour_of_hexCode coded]
  simp only [bind, Except.bind, not_surrogate c, Bool.false_eq_true, if_false, Char.ofNat_toNat]
  rfl

/-- The halves of a pair, and the code that they make. -/
theorem halves_of_pair {code : Nat} (beyond : 0x10000 ≤ code) (valid : code < 0x110000) :
    let high := 0xD800 + (code - 0x10000) / 0x400
    let low := 0xDC00 + (code - 0x10000) % 0x400
    isLowSurrogate high = false ∧ isHighSurrogate high = true ∧ isLowSurrogate low = true ∧
      (high - 0xD800) * 0x400 + (low - 0xDC00) + 0x10000 = code := by
  simp only [isLowSurrogate, isHighSurrogate, Bool.and_eq_false_iff, Bool.and_eq_true,
    decide_eq_false_iff_not, decide_eq_true_eq]
  omega

theorem escape_halves {high low : Nat} {first second : List Char} (upper : HexCode high first)
    (lower : HexCode low second) (notLow : isLowSurrogate high = false)
    (isHigh : isHighSurrogate high = true) (isLow : isLowSurrogate low = true)
    (rest : List Char) : escape ('u' :: (first ++ '\\' :: 'u' :: (second ++ rest))) =
      .ok (Char.ofNat ((high - 0xD800) * 0x400 + (low - 0xDC00) + 0x10000), rest) := by
  change codeEscape (first ++ '\\' :: 'u' :: (second ++ rest)) = _
  rw [codeEscape, hexFour_of_hexCode upper]
  simp only [bind, Except.bind, notLow, isHigh, Bool.false_eq_true, if_false, if_true, lowHalf,
    hexFour_of_hexCode lower, isLow]
  rfl

theorem escape_pair {c : Char} {high low : List Char} (beyond : 0x10000 ≤ c.toNat)
    (upper : HexCode (0xD800 + (c.toNat - 0x10000) / 0x400) high)
    (lower : HexCode (0xDC00 + (c.toNat - 0x10000) % 0x400) low) (rest : List Char) :
    escape ('u' :: (high ++ '\\' :: 'u' :: (low ++ rest))) = .ok (c, rest) := by
  have valid : c.toNat < 0xD800 ∨ (0xDFFF < c.toNat ∧ c.toNat < 0x110000) := c.valid
  rcases halves_of_pair beyond (by omega) with ⟨notLow, isHigh, isLow, joined⟩
  rw [escape_halves upper lower notLow isHigh isLow, joined, Char.ofNat_toNat]

/-- A character is read off in one turn, however it is written. -/
theorem stringBody_of_denotes {part : List Char} {c : Char} (denotes : Denotes part c)
    (bound : Nat) (rest : List Char) : stringBody (bound + 1) (part ++ rest) =
      (stringBody bound rest).map fun read => (c :: read.1, read.2) := by
  have escaped : ∀ behind, escape (behind ++ rest) = .ok (c, rest) →
      stringBody (bound + 1) ('\\' :: behind ++ rest) =
        (stringBody bound rest).map fun read => (c :: read.1, read.2) := by
    intro behind read
    rw [List.cons_append, stringBody, if_neg (by decide), if_pos rfl, read]
    change (stringBody bound rest >>= fun read => _) = _
    cases stringBody bound rest <;> rfl
  cases denotes with
  | plain quote backslash printable =>
      rw [List.singleton_append, stringBody, if_neg quote, if_neg backslash,
        if_neg (Nat.not_lt_of_le printable)]
      cases stringBody bound rest <;> rfl
  | short listed => exact escaped _ (escape_short listed rest)
  | code coded => exact escaped _ (escape_code coded rest)
  | @pair _ high low beyond upper lower =>
      apply escaped
      rw [List.cons_append, List.append_assoc, List.cons_append, List.cons_append]
      exact escape_pair beyond upper lower rest

theorem stringBody_of_denotesAll {text chars : List Char} (denotes : DenotesAll text chars)
    {bound : Nat} (enough : chars.length < bound) (rest : List Char) :
    stringBody bound (text ++ '"' :: rest) = .ok (chars, rest) := by
  induction denotes generalizing bound with
  | nil =>
      rcases Nat.exists_eq_succ_of_ne_zero (Nat.ne_of_gt enough) with ⟨bound, rfl⟩
      rfl
  | cons first others inductionHypothesis =>
      rcases Nat.exists_eq_succ_of_ne_zero (Nat.ne_of_gt (Nat.zero_lt_of_lt enough)) with
        ⟨bound, rfl⟩
      rw [List.append_assoc, stringBody_of_denotes first,
        inductionHypothesis (Nat.lt_of_succ_lt_succ enough)]
      rfl

/-- A string, from its opening quote on. -/
theorem string_of_quotes {s : String} {written : List Char} (quotes : Quotes s written)
    (rest : List Char) : ∃ body, written ++ rest = '"' :: body ∧ string body = .ok (s, rest) := by
  rcases quotes with ⟨body, denotes, rfl⟩
  refine ⟨body ++ '"' :: rest, ?_, ?_⟩
  · rw [List.cons_append, List.append_assoc, List.singleton_append]
  · have enough : s.toList.length < (body ++ '"' :: rest).length + 1 := by
      have shorter := denotes.length_le
      rw [List.length_append]
      omega
    rw [string, stringBody_of_denotesAll denotes enough]
    exact congrArg (fun text => Except.ok (text, rest)) String.ofList_toList

end Reader

namespace Json

/-! ## The text that is written -/

/-- A control is written with the two digits that stand for it. -/
theorem controlEscape_eq : ∀ code : Fin 32, controlEscape (Char.ofNat code) =
    ['\\', 'u', '0', '0', (code / 16 : Nat).digitChar, (code % 16 : Nat).digitChar] := by
  decide

theorem denotes_controlEscape {c : Char} (control : c.toNat < 0x20) :
    Denotes (controlEscape c) c := by
  have written := controlEscape_eq ⟨c.toNat, control⟩
  have digit : ∀ value : Nat, value < 16 → HexDigit value value.digitChar :=
    fun value small => ⟨small, Or.inl rfl⟩
  -- The first two digits are zero, and the others write the code in base 16.
  have coded := HexCode.digits (digit 0 (by decide)) (digit 0 (by decide))
    (digit (c.toNat / 16) (by omega)) (digit (c.toNat % 16) (by omega))
  rw [show ((0 * 16 + 0) * 16 + c.toNat / 16) * 16 + c.toNat % 16 = c.toNat by omega] at coded
  rw [Char.ofNat_toNat] at written
  rw [written]
  exact .code coded

theorem denotes_escapedChar (c : Char) : Denotes (escapedChar c) c := by
  unfold escapedChar
  split
  · exact .short (by decide)
  · exact .short (by decide)
  · exact .short (by decide)
  · exact .short (by decide)
  · exact .short (by decide)
  · exact .short (by decide)
  · exact .short (by decide)
  · rename_i quote backslash _ _ _ _ _
    by_cases control : c.toNat < 0x20
    · rw [if_pos control]
      exact denotes_controlEscape control
    · rw [if_neg control]
      exact .plain quote backslash (Nat.le_of_not_lt control)

theorem quotes_stringText (s : String) : Quotes s (stringText s) := by
  refine ⟨s.toList.flatMap escapedChar, ?_, rfl⟩
  induction s.toList with
  | nil => exact .nil
  | cons c rest inductionHypothesis => exact .cons (denotes_escapedChar c) inductionHypothesis

end Json
end CompilerRelay
