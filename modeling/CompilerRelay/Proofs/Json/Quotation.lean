import CompilerRelay.Proofs.Json.Following
import CompilerRelay.Proofs.Json.Form

/-!
# Outside of the strings

A reader takes strings as they are, and of everything else it knows which
characters to expect: blanks, brackets, marks, digits and the letters of three
words.  So outside of its strings a text that is read is ASCII.

Which characters of a text stand in strings is told by the quotes and the
backslashes alone (`Quotation`), without reading it.  The readers agree with
that.  A reader leaves what it has not taken outside of strings, so the law goes
from what is left back to the whole text (`Takes`), which lets it be proved one
step after another.  Only a skipped character needs that it was looked at
before, so a step may ask what the text begins with (`Faces`).
-/

namespace CompilerRelay

namespace Json

/-- Where a place in a text lies with respect to its strings.  It is known from
the quotes and backslashes before it, whether the text is JSON or not. -/
inductive Quotation where
  | outside
  | inside
  /-- Right after a backslash in a string. -/
  | escaped
  deriving DecidableEq, Repr

namespace Quotation

/-- Where the place after a character lies. -/
def next : Quotation → Char → Quotation
  | outside, c => if c = '"' then inside else outside
  | inside, c => if c = '"' then outside else if c = '\\' then escaped else inside
  | escaped, _ => inside

/-- Where the end of a text lies. -/
def after (place : Quotation) (text : List Char) : Quotation :=
  text.foldl next place

theorem next_outside {c : Char} (plain : c ≠ '"') : outside.next c = outside :=
  if_neg plain

theorem next_inside {c : Char} (plain : c ≠ '"') (literal : c ≠ '\\') : inside.next c = inside :=
  (if_neg plain).trans (if_neg literal)

end Quotation

def isBare (c : Char) : Bool :=
  c.toNat < 0x80 && c != '"'

/-- Outside of its strings the text is ASCII.  The text is looked at from the
given place on, so a part of a text can have the property. -/
def AsciiOutside : Quotation → List Char → Prop
  | _, [] => True
  | place, c :: rest => (place = .outside → c.toNat < 0x80) ∧ AsciiOutside (place.next c) rest

theorem isBare_iff {c : Char} : isBare c = true ↔ c.toNat < 0x80 ∧ c ≠ '"' := by
  rw [isBare, Bool.and_eq_true, decide_eq_true_iff, bne_iff_ne]

theorem asciiOutside_cons {c : Char} {rest : List Char} (bare : isBare c = true)
    (text : AsciiOutside .outside rest) : AsciiOutside .outside (c :: rest) :=
  ⟨fun _ => (isBare_iff.mp bare).1, (Quotation.next_outside (isBare_iff.mp bare).2).symm ▸ text⟩

/-- Nothing is asked of a character within a string. -/
theorem asciiOutside_within {place : Quotation} {c : Char} {rest : List Char}
    (within : place ≠ .outside) (text : AsciiOutside (place.next c) rest) :
    AsciiOutside place (c :: rest) :=
  ⟨fun outside => absurd outside within, text⟩

theorem asciiOutside_inside {c : Char} {rest : List Char} (plain : c ≠ '"') (literal : c ≠ '\\')
    (text : AsciiOutside .inside rest) : AsciiOutside .inside (c :: rest) :=
  asciiOutside_within (by decide) ((Quotation.next_inside plain literal).symm ▸ text)

/-- The law is about each place that lies outside. -/
theorem ascii_of_asciiOutside {place : Quotation} {before after : List Char} {c : Char}
    (text : AsciiOutside place (before ++ c :: after)) (outside : place.after before = .outside) :
    c.toNat < 0x80 := by
  induction before generalizing place with
  | nil => exact text.1 outside
  | cons first more inductionHypothesis => exact inductionHypothesis text.2 outside

end Json

namespace Reader

open Json

variable {α β σ : Type}

/-- The text begins with the character, or is empty. -/
def Faces (token : Option Char) (text : List Char) : Prop :=
  text.head? = token

/-- Nothing is asked of the text. -/
def Anything (_ : List Char) : Prop :=
  True

/-- From a text of the first kind the reader leaves one of the second kind, and
what it takes is ASCII outside of strings and leaves none of them open. -/
def Takes (P : List Char → Prop) (reader : Reader α) (Q : List Char → Prop) : Prop :=
  ∀ text value rest, P text → reader text = .ok (value, rest) →
    Q rest ∧ (AsciiOutside .outside rest → AsciiOutside .outside text)

section

variable {P Q R : List Char → Prop}

/-! ## One step after another -/

theorem takes_of_refuses {reader : Reader α}
    (refuses : ∀ text, ∃ error, reader text = .error error) : Takes P reader Q := by
  intro text value rest _ read
  rcases refuses text with ⟨error, refused⟩
  rw [refused] at read
  cases read

theorem takes_fail (bytes : Nat) (cause : ReadCause) :
    Takes P (failAfter bytes cause : Reader α) Q :=
  takes_of_refuses fun _ => ⟨_, rfl⟩

theorem takes_pure (value : α) : Takes P (pure value : Reader α) P := by
  intro text other rest kind read
  cases read
  exact ⟨kind, id⟩

theorem Takes.bind {reader : Reader α} {next : α → Reader β} (first : Takes P reader Q)
    (second : ∀ value, Takes Q (next value) R) : Takes P (reader >>= next) R := by
  intro text result rest kind read
  rcases bind_eq_ok_iff.mp read with ⟨value, middle, here, there⟩
  rcases first text value middle kind here with ⟨kind', back⟩
  rcases second value middle result rest kind' there with ⟨left, back'⟩
  exact ⟨left, back ∘ back'⟩

/-- Less may be left to be known. -/
theorem Takes.forget {reader : Reader α} (takes : Takes P reader Q) : Takes P reader Anything :=
  fun text value rest kind read => ⟨trivial, (takes text value rest kind read).2⟩

/-- More may be known than is asked. -/
theorem Takes.anyway {reader : Reader α} (takes : Takes Anything reader Q) : Takes P reader Q :=
  fun text value rest _ read => takes text value rest trivial read

theorem takes_get {next : List Char → Reader β} (later : ∀ rest, Takes P (next rest) Q) :
    Takes P (get >>= next) Q :=
  fun text => later text text

/-- What is looked at is known, and stays unread. -/
theorem takes_peek {next : Option Char → Reader β}
    (later : ∀ token, Takes (Faces token) (next token) Q) : Takes P (peek >>= next) Q :=
  fun text value rest _ read => later text.head? text value rest rfl read

theorem takes_skip {c : Char} (bare : isBare c = true) :
    Takes (Faces (some c)) skip Anything := by
  intro text value rest faces read
  cases read
  cases text with
  | nil => cases faces
  | cons first more =>
      cases faces
      exact ⟨trivial, asciiOutside_cons bare⟩

theorem asciiOutside_dropWhile {p : Char → Bool} (bare : ∀ c, p c = true → isBare c = true)
    (text : List Char) (left : AsciiOutside .outside (text.dropWhile p)) :
    AsciiOutside .outside text := by
  induction text with
  | nil => exact trivial
  | cons c rest inductionHypothesis =>
      by_cases taken : p c = true
      · rw [List.dropWhile_cons_of_pos taken] at left
        exact asciiOutside_cons (bare c taken) (inductionHypothesis left)
      · rw [List.dropWhile_cons_of_neg taken] at left
        exact left

theorem isBare_of_isSpace (c : Char) (space : isSpace c = true) : isBare c = true := by
  simp only [isSpace, Bool.or_eq_true, beq_iff_eq] at space
  rcases space with ((rfl | rfl) | rfl) | rfl <;> rfl

theorem isBare_of_isDigit (c : Char) (digit : isDigit c = true) : isBare c = true := by
  simp only [isDigit, Bool.and_eq_true, decide_eq_true_eq] at digit
  have most : c.toNat ≤ 57 := digit.2
  refine isBare_iff.mpr ⟨by omega, ?_⟩
  rintro rfl
  exact absurd digit.1 (by decide)

theorem takes_digits : Takes P digits Anything := by
  intro text value rest _ read
  cases read
  exact ⟨trivial, asciiOutside_dropWhile isBare_of_isDigit text⟩

/-- What comes after the blanks is known. -/
theorem takes_peekToken {next : Option Char → Reader β}
    (later : ∀ token, Takes (Faces token) (next token) Q) : Takes P (peekToken >>= next) Q := by
  intro text value rest _ read
  rcases later _ (text.dropWhile isSpace) value rest rfl read with ⟨left, back⟩
  exact ⟨left, asciiOutside_dropWhile isBare_of_isSpace text ∘ back⟩

/-! ## Strings -/

theorem plain_of_hexValue? {c : Char} {value : Nat} (digit : hexValue? c = some value) :
    c ≠ '"' ∧ c ≠ '\\' := by
  constructor
  · rintro rfl
    cases digit
  · rintro rfl
    cases digit

theorem inside_of_hexFour {text rest : List Char} {unit : Nat}
    (read : hexFour text = .ok (unit, rest)) (left : AsciiOutside .inside rest) :
    AsciiOutside .inside text := by
  unfold hexFour at read
  split at read
  · cases read
  · split at read
    · next a b c d more _ =>
        split at read
        · next number =>
            cases read
            simp only [hexNumber?, Option.bind_eq_bind, Option.bind_eq_some_iff] at number
            rcases number with ⟨_, one, _, two, _, three, _, four, _⟩
            have digit : ∀ {c value text}, hexValue? c = some value →
                AsciiOutside .inside text → AsciiOutside .inside (c :: text) :=
              fun found => asciiOutside_inside (plain_of_hexValue? found).1
                (plain_of_hexValue? found).2
            exact digit one (digit two (digit three (digit four left)))
        · cases read
    · cases read

theorem inside_of_lowHalf {high : Nat} {text rest : List Char} {c : Char}
    (read : lowHalf high text = .ok (c, rest)) (left : AsciiOutside .inside rest) :
    AsciiOutside .inside text := by
  unfold lowHalf at read
  split at read
  · cases read
  · cases read
  · next more =>
      rcases except_bind_eq_ok_iff.mp read with ⟨⟨low, after⟩, digits, read⟩
      dsimp only at read
      split at read
      · have same := (Prod.mk.inj (Except.ok.inj read)).2
        refine asciiOutside_within (by decide) (asciiOutside_within (by decide) ?_)
        exact inside_of_hexFour digits (same ▸ left)
      · cases read
  · cases read
  · cases read

theorem inside_of_codeEscape {text rest : List Char} {c : Char}
    (read : codeEscape text = .ok (c, rest)) (left : AsciiOutside .inside rest) :
    AsciiOutside .inside text := by
  unfold codeEscape at read
  rcases except_bind_eq_ok_iff.mp read with ⟨⟨unit, after⟩, digits, read⟩
  dsimp only at read
  split at read
  · cases read
  · split at read
    · exact inside_of_hexFour digits (inside_of_lowHalf read left)
    · cases read
      exact inside_of_hexFour digits left

/-- After a backslash any character is part of the string, a quote too. -/
theorem escaped_of_escape {text rest : List Char} {c : Char}
    (read : escape text = .ok (c, rest)) (left : AsciiOutside .inside rest) :
    AsciiOutside .escaped text := by
  unfold escape at read
  split at read
  case h_1 => cases read
  case h_10 => exact asciiOutside_within (by decide) (inside_of_codeEscape read left)
  case h_11 => cases read
  all_goals
    cases read
    exact asciiOutside_within (by decide) left

/-- A string ends outside, at the quote that is not escaped. -/
theorem inside_of_stringBody {bound : Nat} {text body rest : List Char}
    (read : stringBody bound text = .ok (body, rest)) (left : AsciiOutside .outside rest) :
    AsciiOutside .inside text := by
  induction bound generalizing text body with
  | zero => cases read
  | succ bound inductionHypothesis =>
      cases text with
      | nil => cases read
      | cons c more =>
          unfold stringBody at read
          by_cases quote : c = '"'
          · rw [if_pos quote] at read
            cases read
            exact quote ▸ asciiOutside_within (by decide) left
          · rw [if_neg quote] at read
            by_cases backslash : c = '\\'
            · rw [if_pos backslash] at read
              rcases except_bind_eq_ok_iff.mp read with ⟨⟨_, middle⟩, escapes, read⟩
              rcases except_bind_eq_ok_iff.mp read with ⟨⟨_, _⟩, further, read⟩
              cases read
              exact backslash ▸ asciiOutside_within (by decide)
                (escaped_of_escape escapes (inductionHypothesis further))
            · rw [if_neg backslash] at read
              by_cases control : c.toNat < 0x20
              · rw [if_pos control] at read
                cases read
              · rw [if_neg control] at read
                rcases except_bind_eq_ok_iff.mp read with ⟨⟨_, _⟩, further, read⟩
                cases read
                exact asciiOutside_inside quote backslash (inductionHypothesis further)

/-- A string is taken with its quotes. -/
theorem takes_string {next : String → Reader β} (later : ∀ s, Takes Anything (next s) Q) :
    Takes (Faces (some '"')) (skip >>= fun _ => string >>= next) Q := by
  intro text value rest faces read
  rcases bind_eq_ok_iff.mp read with ⟨_, _, skipped, read⟩
  rcases bind_eq_ok_iff.mp read with ⟨s, middle, quoted, read⟩
  rcases later s middle value rest trivial read with ⟨kind, back⟩
  cases skipped
  refine ⟨kind, fun left => ?_⟩
  cases text with
  | nil => cases faces
  | cons quote more =>
      cases faces
      rw [string] at quoted
      cases taken : stringBody (more.length + 1) more with
      | error error =>
          rw [List.drop_one, List.tail_cons, taken] at quoted
          cases quoted
      | ok body =>
          rw [List.drop_one, List.tail_cons, taken] at quoted
          cases quoted
          exact ⟨fun _ => by decide, inside_of_stringBody taken (back left)⟩

/-! ## Words and numbers -/

theorem takes_word {value : Json} {expected : List Char} (bare : expected.all isBare = true) :
    Takes P (word value expected) Anything := by
  induction expected generalizing P with
  | nil => exact (takes_pure value).forget
  | cons c more inductionHypothesis =>
      refine takes_peek fun token => ?_
      split
      · exact takes_fail _ _
      · split
        · next same =>
            rcases Bool.and_eq_true_iff.mp bare with ⟨first, others⟩
            exact (same ▸ takes_skip first).bind fun _ => inductionHypothesis others
        · exact takes_fail _ _

theorem takes_floatOf (negative : Bool) (significand : Nat) (exponent : Int) :
    Takes P (floatOf negative significand exponent) Anything := by
  unfold floatOf
  split
  · exact (takes_pure _).forget
  · exact takes_fail _ _

/-- What is read of an exponent after its sign. -/
def exponentDigits (negative : Bool) (significand : Nat) (exponent : Int) (down : Bool) :
    Reader Json := do
  match ← peek with
  | none => failHere .endInValue
  | some c =>
    if !isDigit c then failAtNext .invalidNumber
    else do
      let before ← get
      let written ← digits
      let (size, unread) := absorb exponentLimit 0 written
      if unread.isEmpty then
        floatOf negative significand (if down then exponent - size else exponent + size)
      else if significand ≠ 0 ∧ !down then do
        set before
        failAfter (written.length - unread.length + 1) (.fault .numberOutOfRange)
      else pure (.float (Binary64.zero negative))

theorem exponentPart_eq (negative : Bool) (significand : Nat) (exponent : Int) :
    exponentPart negative significand exponent = skip >>= fun _ => peek >>= fun sign =>
      match sign with
      | some '+' => skip >>= fun _ => exponentDigits negative significand exponent false
      | some '-' => skip >>= fun _ => exponentDigits negative significand exponent true
      | _ => exponentDigits negative significand exponent false :=
  rfl

theorem takes_exponentDigits (negative : Bool) (significand : Nat) (exponent : Int)
    (down : Bool) : Takes P (exponentDigits negative significand exponent down) Anything := by
  refine takes_peek fun token => ?_
  split
  · exact takes_fail _ _
  · split
    · exact takes_fail _ _
    · refine takes_get fun before => takes_digits.bind fun written => ?_
      dsimp only
      split
      · exact takes_floatOf _ _ _
      · split
        · exact takes_of_refuses fun _ => ⟨_, rfl⟩
        · exact takes_pure _

theorem takes_exponentPart (negative : Bool) (significand : Nat) (exponent : Int) {mark : Char}
    (bare : isBare mark = true) :
    Takes (Faces (some mark)) (exponentPart negative significand exponent) Anything := by
  rw [exponentPart_eq]
  refine (takes_skip bare).bind fun _ => takes_peek fun sign => ?_
  split
  · exact (takes_skip rfl).bind fun _ => takes_exponentDigits _ _ _ _
  · exact (takes_skip rfl).bind fun _ => takes_exponentDigits _ _ _ _
  · exact takes_exponentDigits _ _ _ _

theorem takes_afterDigits (negative : Bool) (significand : Nat) (exponent : Int) :
    Takes P (afterDigits negative significand exponent) Anything := by
  refine takes_peek fun mark => ?_
  split
  · exact takes_exponentPart _ _ _ rfl
  · exact takes_exponentPart _ _ _ rfl
  · exact takes_floatOf _ _ _

theorem takes_fractionPart (negative : Bool) (significand : Nat) (exponent : Int) :
    Takes (Faces (some '.')) (fractionPart negative significand exponent) Anything := by
  refine (takes_skip rfl).bind fun _ => takes_digits.bind fun written => ?_
  split
  · refine takes_peek fun following => ?_
    split
    · exact takes_fail _ _
    · exact takes_fail _ _
  · exact takes_afterDigits _ _ _

theorem takes_wholeNumber (negative : Bool) (significand : Nat) :
    Takes P (wholeNumber negative significand) Anything := by
  unfold wholeNumber
  split
  · exact (takes_pure _).forget
  · split
    · exact takes_floatOf _ _ _
    · exact (takes_pure _).forget

theorem takes_number (negative : Bool) : Takes P (number negative) Anything := by
  refine takes_peek fun token => ?_
  split
  · exact takes_fail _ _
  · split
    · exact takes_fail _ _
    · refine takes_get fun before => takes_digits.bind fun written => ?_
      split
      · exact takes_of_refuses fun _ => ⟨_, rfl⟩
      · refine takes_peek fun mark => ?_
        split
        · exact takes_fractionPart _ _ _
        · exact takes_exponentPart _ _ _ rfl
        · exact takes_exponentPart _ _ _ rfl
        · split
          · exact takes_wholeNumber _ _
          · exact takes_floatOf _ _ _

/-! ## Loops -/

theorem takes_itemsFrom {item : Reader α} (takes : Takes Anything item Anything) (bound : Nat) :
    Takes P (itemsFrom item bound) (Faces (some ']')) := by
  induction bound generalizing P with
  | zero => exact takes_fail _ _
  | succ bound inductionHypothesis =>
      unfold itemsFrom
      refine takes.anyway.bind fun first => takes_peekToken fun token => ?_
      split
      · exact takes_fail _ _
      · exact takes_pure _
      · refine (takes_skip rfl).bind fun _ => takes_peekToken fun token => ?_
        split
        · exact takes_fail _ _
        · exact takes_fail _ _
        · exact inductionHypothesis.bind fun others => takes_pure _
      · exact takes_fail _ _

/-- The closing bracket stays unread. -/
theorem takes_items {item : Reader α} (takes : Takes Anything item Anything) :
    Takes P (items item) (Faces (some ']')) := by
  refine takes_peekToken fun token => ?_
  split
  · exact takes_fail _ _
  · exact takes_pure _
  · exact takes_get fun rest => takes_itemsFrom takes _

theorem takes_membersFrom {step : σ → String → Reader σ}
    (takes : ∀ gathered name, Takes Anything (step gathered name) Anything) (bound : Nat) :
    ∀ gathered, Takes (Faces (some '"')) (membersFrom step bound gathered)
      (Faces (some '\x7d')) := by
  induction bound with
  | zero => exact fun _ => takes_fail _ _
  | succ bound inductionHypothesis =>
      intro gathered
      rw [membersFrom_succ]
      refine takes_string fun name => (takes gathered name).bind fun gathered => ?_
      refine takes_peekToken fun token => ?_
      split
      · exact takes_fail _ _
      · exact takes_pure _
      · refine (takes_skip rfl).bind fun _ => takes_peekToken fun token => ?_
        split
        · exact takes_fail _ _
        · exact inductionHypothesis gathered
        · exact takes_fail _ _
        · exact takes_fail _ _
      · exact takes_fail _ _

/-- The closing brace stays unread. -/
theorem takes_members {step : σ → String → Reader σ}
    (takes : ∀ gathered name, Takes Anything (step gathered name) Anything) (start : σ) :
    Takes P (members step start) (Faces (some '\x7d')) := by
  refine takes_peekToken fun token => ?_
  split
  · exact takes_fail _ _
  · exact takes_pure _
  · exact takes_get fun rest => takes_membersFrom takes _ start
  · exact takes_fail _ _

/-! ## Values -/

theorem takes_colon : Takes P colon Anything := by
  refine takes_peekToken fun token => ?_
  split
  · exact takes_fail _ _
  · exact takes_skip rfl
  · exact takes_fail _ _

theorem takes_valueWith {container : Char → Reader Json}
    (list : Takes (Faces (some '[')) (container '[') Anything)
    (object : Takes (Faces (some '\x7b')) (container '\x7b') Anything) :
    Takes P (valueWith container) Anything := by
  have fixed : ∀ {c : Char} {expected : List Char} (value : Json), isBare c = true →
      expected.all isBare = true →
        Takes (Faces (some c)) (skip >>= fun _ => word value expected) Anything :=
    fun _ first others => (takes_skip first).bind fun _ => takes_word others
  refine takes_peekToken fun token => ?_
  split
  · exact takes_fail _ _
  · exact fixed _ rfl rfl
  · exact fixed _ rfl rfl
  · exact fixed _ rfl rfl
  · exact (takes_skip rfl).bind fun _ => takes_number true
  · exact takes_string fun s => takes_pure _
  · exact list
  · exact object
  · split
    · exact takes_number false
    · exact takes_fail _ _

theorem takes_gatherMember {value : Reader Json} (takes : Takes Anything value Anything)
    (gathered : List (String × Json)) (name : String) :
    Takes Anything (gatherMember value gathered name) Anything :=
  takes_colon.bind fun _ => takes.bind fun _ => takes_pure _

theorem takes_valueMaking (object : List (String × Json) → Json) (depth : Nat) :
    Takes P (valueMaking object depth) Anything := by
  induction depth generalizing P with
  | zero => exact takes_valueWith (takes_fail _ _) (takes_fail _ _)
  | succ depth inductionHypothesis =>
      refine takes_valueWith ?_ ?_
      · refine (takes_skip rfl).bind fun _ => ?_
        rw [if_pos rfl]
        refine (takes_items inductionHypothesis).bind fun elements => ?_
        exact (takes_skip rfl).bind fun _ => takes_pure _
      · refine (takes_skip rfl).bind fun _ => ?_
        rw [if_neg (by decide)]
        refine (takes_members (takes_gatherMember inductionHypothesis) []).bind fun gathered => ?_
        exact (takes_skip rfl).bind fun _ => takes_pure _

theorem takes_value (depth : Nat) : Takes P (value depth) Anything :=
  takes_valueMaking Json.ofMembers depth

theorem takes_finish : Takes P finish (Faces none) := by
  refine takes_peekToken fun token => ?_
  split
  · exact takes_pure ()
  · exact takes_fail _ _

/-- A text that is read to its end is ASCII outside of its strings. -/
theorem asciiOutside_of_finish {reader : Reader α} {text rest behind : List Char} {value : α}
    (takes : Takes Anything reader Anything) (read : reader text = .ok (value, rest))
    (ended : finish rest = .ok ((), behind)) : AsciiOutside .outside text := by
  rcases takes_finish (P := Anything) rest () behind trivial ended with ⟨none, back⟩
  have blank : AsciiOutside .outside behind := (List.head?_eq_none_iff.mp none).symm ▸ trivial
  exact (takes text value rest trivial read).2 (back blank)

end

end Reader
end CompilerRelay
