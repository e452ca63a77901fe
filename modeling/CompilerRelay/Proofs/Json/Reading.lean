import CompilerRelay.Proofs.Json.Quoting
import Mathlib.Data.List.Forall2

/-!
# What readers read

`Reads reader result text` says that a reader takes a text from the front of
any longer one and leaves what follows it.  Only numbers look at what follows,
so it is asked to end them (`Ends`), which every bracket, brace, comma and
blank does.

The parts of an array or an object stand in a `Row`, with commas between them
and blanks around each.  The two loops of the reader are followed along a row
once, whatever the parts are and whatever is gathered from them.
-/

namespace CompilerRelay
namespace Reader

variable {α β σ : Type}

/-- Blanks between tokens. -/
def Gap (text : List Char) : Prop :=
  ∀ c ∈ text, isSpace c = true

/-- No number goes on into the text. -/
def Ends : List Char → Prop
  | [] => True
  | c :: _ => isDigit c = false ∧ c ≠ '.' ∧ c ≠ 'e' ∧ c ≠ 'E'

/-- The reader takes the text, and leaves what follows.  What follows must not
go on with a number, because a reader of numbers takes all digits there are. -/
def Reads (reader : Reader α) (result : α) (text : List Char) : Prop :=
  ∀ rest, Ends rest → reader (text ++ rest) = .ok (result, rest)

/-- Something else than a blank or the closing bracket comes first. -/
def Opens (text : List Char) : Prop :=
  ∃ c more, text = c :: more ∧ isSpace c = false ∧ c ≠ ']'

theorem gap_nil : Gap [] :=
  fun _ member => absurd member List.not_mem_nil

theorem isDigit_of_isSpace {c : Char} (space : isSpace c = true) : isDigit c = false := by
  simp only [isSpace, Bool.or_eq_true, beq_iff_eq] at space
  rcases space with ((rfl | rfl) | rfl) | rfl <;> rfl

theorem ends_cons {c : Char} (other : isDigit c = false ∧ c ≠ '.' ∧ c ≠ 'e' ∧ c ≠ 'E')
    (rest : List Char) : Ends (c :: rest) :=
  other

theorem isSpace_of_isDigit {c : Char} (digit : isDigit c = true) : isSpace c = false := by
  refine Bool.eq_false_iff.mpr fun space => ?_
  rw [isDigit_of_isSpace space] at digit
  cases digit

/-- Blanks end a number, unless nothing but the number's end would. -/
theorem ends_gap {gap rest : List Char} (blank : Gap gap) (ends : Ends rest) :
    Ends (gap ++ rest) := by
  cases gap with
  | nil => exact ends
  | cons c more =>
      have space := blank c List.mem_cons_self
      refine ⟨isDigit_of_isSpace space, ?_, ?_, ?_⟩ <;> rintro rfl <;> cases space

/-! ## One step after another -/

theorem bind_of_ok {reader : Reader α} {next : α → Reader β} {text rest : List Char} {value : α}
    (read : reader text = .ok (value, rest)) : (reader >>= next) text = next value rest := by
  change (reader text >>= fun done => next done.1 done.2) = _
  rw [read]
  rfl

theorem bind_of_eq {reader : Reader α} {next : α → Reader β} {text other : List Char}
    (same : reader text = reader other) : (reader >>= next) text = (reader >>= next) other := by
  change (reader text >>= fun done => next done.1 done.2) = _
  rw [same]
  rfl

theorem dropWhile_gap {gap : List Char} (blank : Gap gap) (rest : List Char) :
    (gap ++ rest).dropWhile isSpace = rest.dropWhile isSpace := by
  induction gap with
  | nil => rfl
  | cons c more inductionHypothesis =>
      have later : Gap more := fun other member => blank other (List.mem_cons_of_mem c member)
      rw [List.cons_append, List.dropWhile_cons_of_pos (blank c List.mem_cons_self)]
      exact inductionHypothesis later

/-- The next token is what follows the blanks. -/
theorem peekToken_gap {gap : List Char} (blank : Gap gap) {c : Char} (token : isSpace c = false)
    (rest : List Char) : peekToken (gap ++ c :: rest) = .ok (some c, c :: rest) := by
  have reached : (gap ++ c :: rest).dropWhile isSpace = c :: rest := by
    rw [dropWhile_gap blank, List.dropWhile_cons_of_neg (Bool.eq_false_iff.mp token)]
  change Except.ok (((gap ++ c :: rest).dropWhile isSpace).head?,
    (gap ++ c :: rest).dropWhile isSpace) = _
  rw [reached]
  rfl

theorem peekToken_cons {c : Char} (token : isSpace c = false) (rest : List Char) :
    peekToken (c :: rest) = .ok (some c, c :: rest) :=
  peekToken_gap gap_nil token rest

theorem skip_cons (c : Char) (rest : List Char) : skip (c :: rest) = .ok ((), rest) :=
  rfl

theorem peek_cons (c : Char) (rest : List Char) : peek (c :: rest) = .ok (some c, c :: rest) :=
  rfl

theorem peek_eq (text : List Char) : peek text = .ok (text.head?, text) :=
  rfl

theorem get_eq (text : List Char) : (get : Reader (List Char)) text = .ok (text, text) :=
  rfl

/-! ## Words -/

theorem reads_word (value : Json) (expected : List Char) :
    Reads (word value expected) value expected := by
  intro rest _
  induction expected with
  | nil => rfl
  | cons c more inductionHypothesis =>
      rw [List.cons_append, word, bind_of_ok (peek_cons c _)]
      simp only [if_true]
      rw [bind_of_ok (skip_cons c _)]
      exact inductionHypothesis

/-! ## Numbers -/

theorem isDigit_of_mem_toDigits {c : Char} {n : Nat} (member : c ∈ Nat.toDigits 10 n) :
    isDigit c = true := by
  have digit := Nat.isDigit_of_mem_toDigits (by decide) (Nat.le_refl 10) member
  simp only [Char.isDigit, Bool.and_eq_true, decide_eq_true_eq] at digit
  simp only [isDigit, Bool.and_eq_true, decide_eq_true_eq]
  exact digit

/-- A number of several digits does not begin with zero. -/
theorem tail_of_leading_zero {n : Nat} {more : List Char}
    (zero : Nat.toDigits 10 n = '0' :: more) : more = [] := by
  induction n using Nat.strongRecOn generalizing more with
  | _ n inductionHypothesis =>
      by_cases single : n < 10
      · rw [Nat.toDigits_of_lt_base single] at zero
        exact (List.cons.inj zero).2.symm
      · have large : 10 ≤ n := Nat.le_of_not_lt single
        rw [Nat.toDigits_of_base_le (by decide) large] at zero
        -- The digits before the last one would begin with zero as well.
        cases ahead : Nat.toDigits 10 (n / 10) with
        | nil => exact absurd ahead Nat.toDigits_ne_nil
        | cons c others =>
            rw [ahead] at zero
            have first : c = '0' := (List.cons.inj zero).1
            subst first
            have alone := inductionHypothesis (n / 10) (by omega) ahead
            have value := @Nat.ofDigitChars_ten_toDigits (n / 10)
            rw [ahead, alone] at value
            change 0 = n / 10 at value
            omega

theorem le_ofDigitChars (digits : List Char) (number : Nat) :
    number ≤ Nat.ofDigitChars 10 digits number := by
  induction digits generalizing number with
  | nil => exact Nat.le_of_eq Nat.ofDigitChars_nil.symm
  | cons digit rest inductionHypothesis =>
      rw [Nat.ofDigitChars_cons]
      have later := inductionHypothesis (10 * number + (digit.toNat - '0'.toNat))
      omega

/-- Digits whose number is within the limit are all absorbed. -/
theorem absorb_eq {limit number : Nat} {digits : List Char}
    (fits : Nat.ofDigitChars 10 digits number ≤ limit) :
    absorb limit number digits = (Nat.ofDigitChars 10 digits number, []) := by
  induction digits generalizing number with
  | nil => rfl
  | cons digit rest inductionHypothesis =>
      rw [Nat.ofDigitChars_cons, Nat.mul_comm] at fits ⊢
      have larger := le_ofDigitChars rest (number * 10 + (digit.toNat - '0'.toNat))
      rw [absorb, digitValue, if_pos (Nat.le_trans larger fits)]
      exact inductionHypothesis fits

theorem digits_append {written rest : List Char} (all : ∀ c ∈ written, isDigit c = true)
    (ends : Ends rest) : digits (written ++ rest) = .ok (written, rest) := by
  have stops : rest.takeWhile isDigit = [] ∧ rest.dropWhile isDigit = rest := by
    cases rest with
    | nil => exact ⟨rfl, rfl⟩
    | cons c more =>
        have other := Bool.eq_false_iff.mp ends.1
        exact ⟨List.takeWhile_cons_of_neg other, List.dropWhile_cons_of_neg other⟩
  change Except.ok ((written ++ rest).takeWhile isDigit, (written ++ rest).dropWhile isDigit) = _
  rw [List.takeWhile_append_of_pos all, List.dropWhile_append_of_pos all, stops.1, stops.2,
    List.append_nil]

/-- An integer that fits is read digit by digit, up to what ends it. -/
theorem number_toDigits (negative : Bool) {n : Nat} (fits : n < Word.size 64) {rest : List Char}
    (ends : Ends rest) :
    number negative (Nat.toDigits 10 n ++ rest) = wholeNumber negative n rest := by
  have value := @Nat.ofDigitChars_ten_toDigits n
  have absorbed : absorb significandLimit 0 (Nat.toDigits 10 n) = (n, []) := by
    have within : Nat.ofDigitChars 10 (Nat.toDigits 10 n) 0 ≤ significandLimit := by
      rw [value, significandLimit]
      omega
    rw [absorb_eq within, value]
  have all : ∀ c ∈ Nat.toDigits 10 n, isDigit c = true := fun c => isDigit_of_mem_toDigits
  have scanned := digits_append all ends
  cases written : Nat.toDigits 10 n with
  | nil => exact absurd written Nat.toDigits_ne_nil
  | cons c more =>
      rw [written] at absorbed scanned
      rw [List.cons_append] at scanned
      have digit : isDigit c = true := all c (written ▸ List.mem_cons_self)
      have single : ¬ (c = '0' ∧ 1 < (c :: more).length) := by
        rintro ⟨rfl, several⟩
        rw [tail_of_leading_zero written] at several
        exact absurd several (by decide)
      unfold number
      rw [List.cons_append, bind_of_ok (peek_cons c _)]
      simp only [digit, Bool.not_true, Bool.false_eq_true, if_false]
      rw [bind_of_ok (get_eq _), bind_of_ok scanned]
      simp only [if_neg single, absorbed]
      rw [bind_of_ok (peek_eq rest)]
      cases rest with
      | nil => rfl
      | cons next others =>
          rcases ends with ⟨_, point, small, large⟩
          simp only [List.head?_cons, List.isEmpty_nil, if_true, Option.some.injEq, point, small,
            large, imp_self]

/-! ## Rows -/

/-- Parts with commas between them and blanks around each, from the first part
on. -/
inductive Row : List (List Char) → List Char → Prop
  | last {part gap : List Char} (blank : Gap gap) : Row [part] (part ++ gap)
  | more {part gap gap' row : List Char} {parts : List (List Char)} (blank : Gap gap)
      (blank' : Gap gap') (rest : Row parts row) :
      Row (part :: parts) (part ++ (gap ++ ',' :: (gap' ++ row)))

/-- What stands between two brackets: blanks, or parts with commas between
them.  The parts are not looked into here. -/
inductive Enclosed : List (List Char) → List Char → Prop
  | none {gap : List Char} (blank : Gap gap) : Enclosed [] gap
  | some {gap row : List Char} {parts : List (List Char)} (blank : Gap gap)
      (filled : Row parts row) : Enclosed parts (gap ++ row)

theorem Row.opens {parts : List (List Char)} {row : List Char} (filled : Row parts row)
    (all : ∀ part ∈ parts, Opens part) (rest : List Char) : Opens (row ++ rest) := by
  cases filled with
  | last =>
      rcases all _ List.mem_cons_self with ⟨c, more, rfl, other⟩
      exact ⟨c, _, rfl, other⟩
  | more =>
      rcases all _ List.mem_cons_self with ⟨c, more, rfl, other⟩
      exact ⟨c, _, rfl, other⟩

theorem Row.length_le {parts : List (List Char)} {row : List Char} (filled : Row parts row)
    (all : ∀ part ∈ parts, Opens part) : parts.length ≤ row.length := by
  have filledPart : ∀ part, Opens part → 1 ≤ part.length := by
    rintro _ ⟨c, more, rfl, _⟩
    exact Nat.le_add_left 1 more.length
  induction filled with
  | last =>
      have first := filledPart _ (all _ List.mem_cons_self)
      rw [List.length_append, List.length_singleton]
      omega
  | more _ _ _ inductionHypothesis =>
      have first := filledPart _ (all _ List.mem_cons_self)
      have others := inductionHypothesis fun part member => all part (List.mem_cons_of_mem _ member)
      simp only [List.length_append, List.length_cons]
      omega

theorem itemsFrom_row {item : Reader α} {values : List α} {parts : List (List Char)}
    {row : List Char} (filled : Row parts row) (reads : List.Forall₂ (Reads item) values parts)
    (all : ∀ part ∈ parts, Opens part) {bound : Nat} (enough : parts.length ≤ bound)
    (rest : List Char) : itemsFrom item bound (row ++ ']' :: rest) = .ok (values, ']' :: rest) := by
  induction filled generalizing values bound with
  | @last part gap blank =>
      rcases Nat.exists_eq_succ_of_ne_zero (Nat.ne_of_gt (Nat.zero_lt_of_lt enough)) with
        ⟨bound, rfl⟩
      cases reads with
      | cons first none =>
          cases none
          have ends : Ends (gap ++ ']' :: rest) := ends_gap blank (ends_cons (by decide) _)
          rw [itemsFrom, List.append_assoc, bind_of_ok (first _ ends),
            bind_of_ok (peekToken_gap blank (by decide) _)]
          rfl
  | @more part gap gap' row parts blank blank' filled inductionHypothesis =>
      rcases Nat.exists_eq_succ_of_ne_zero (Nat.ne_of_gt (Nat.zero_lt_of_lt enough)) with
        ⟨bound, rfl⟩
      cases reads with
      | cons first others =>
          have later : ∀ part ∈ parts, Opens part :=
            fun part member => all part (List.mem_cons_of_mem _ member)
          have ends : Ends (gap ++ ',' :: (gap' ++ (row ++ ']' :: rest))) :=
            ends_gap blank (ends_cons (by decide) _)
          have remaining := inductionHypothesis others later (Nat.le_of_succ_le_succ enough)
          rcases filled.opens later (']' :: rest) with ⟨c, behind, opening, token, bracket⟩
          simp only [List.append_assoc, List.cons_append]
          rw [itemsFrom, bind_of_ok (first _ ends), bind_of_ok (peekToken_gap blank (by decide) _)]
          simp only []
          rw [bind_of_ok (skip_cons ',' _)]
          rw [opening] at remaining ⊢
          rw [bind_of_ok (peekToken_gap blank' token _)]
          simp only []
          rw [bind_of_ok remaining]
          rfl

/-- The items of an array, up to the closing bracket. -/
theorem items_enclosed {item : Reader α} {values : List α} {parts : List (List Char)}
    {inner : List Char} (enclosed : Enclosed parts inner)
    (reads : List.Forall₂ (Reads item) values parts) (all : ∀ part ∈ parts, Opens part)
    (rest : List Char) : items item (inner ++ ']' :: rest) = .ok (values, ']' :: rest) := by
  cases enclosed with
  | none blank =>
      cases reads
      rw [items, bind_of_ok (peekToken_gap blank (by decide) _)]
      rfl
  | @some gap row parts blank filled =>
      rcases filled.opens all (']' :: rest) with ⟨c, behind, opening, token, bracket⟩
      -- The text is the bound for the turns, and no part of it is empty.
      have enough : parts.length ≤ (row ++ ']' :: rest).length := by
        have shorter := filled.length_le all
        rw [List.length_append]
        omega
      have read := itemsFrom_row filled reads all enough rest
      rw [List.append_assoc, items]
      rw [opening] at read ⊢
      rw [bind_of_ok (peekToken_gap blank token _)]
      simp only []
      rw [bind_of_ok (get_eq _)]
      exact read

/-! ## Members -/

/-- A step gathers members one after the other. -/
inductive Gathers (step : σ → String → Reader σ) : σ → List (List Char) → σ → Prop
  | nil (gathered : σ) : Gathers step gathered [] gathered
  | cons {before between after : σ} {name : String} {title content : List Char}
      {parts : List (List Char)} (quotes : Json.Quotes name title)
      (first : Reads (step before name) between content)
      (others : Gathers step between parts after) :
      Gathers step before ((title ++ content) :: parts) after

theorem opens_of_gathers {step : σ → String → Reader σ} {before after : σ}
    {parts : List (List Char)} (gathers : Gathers step before parts after) :
    ∀ part ∈ parts, Opens part := by
  induction gathers with
  | nil => exact fun _ member => absurd member List.not_mem_nil
  | cons quotes _ _ inductionHypothesis =>
      intro part member
      rcases List.mem_cons.mp member with rfl | later
      · rcases quotes with ⟨body, _, rfl⟩
        exact ⟨'"', _, rfl, by decide, by decide⟩
      · exact inductionHypothesis part later

/-- The first member begins with the quote of its name. -/
theorem quoted_of_gathers {step : σ → String → Reader σ} {before after : σ}
    {parts : List (List Char)} {row : List Char} (filled : Row parts row)
    (gathers : Gathers step before parts after) (rest : List Char) :
    ∃ behind, row ++ rest = '"' :: behind := by
  cases gathers with
  | nil => cases filled
  | cons quotes =>
      rcases quotes with ⟨body, _, rfl⟩
      cases filled with
      | last => exact ⟨_, rfl⟩
      | more => exact ⟨_, rfl⟩

theorem membersFrom_row {step : σ → String → Reader σ} {before after : σ}
    {parts : List (List Char)} {row : List Char} (filled : Row parts row)
    (gathers : Gathers step before parts after) {bound : Nat} (enough : parts.length ≤ bound)
    (rest : List Char) :
    membersFrom step bound before (row ++ '\x7d' :: rest) = .ok (after, '\x7d' :: rest) := by
  induction filled generalizing before bound with
  | @last part gap blank =>
      rcases Nat.exists_eq_succ_of_ne_zero (Nat.ne_of_gt (Nat.zero_lt_of_lt enough)) with
        ⟨bound, rfl⟩
      cases gathers with
      | @cons _ between _ name title content _ quotes first none =>
          cases none
          have ends : Ends (gap ++ '\x7d' :: rest) := ends_gap blank (ends_cons (by decide) _)
          rcases string_of_quotes quotes (content ++ (gap ++ '\x7d' :: rest)) with
            ⟨body, opening, read⟩
          rw [List.append_assoc, List.append_assoc, opening, membersFrom,
            bind_of_ok (skip_cons _ _), bind_of_ok read, bind_of_ok (first _ ends),
            bind_of_ok (peekToken_gap blank (by decide) _)]
          rfl
  | @more part gap gap' row parts blank blank' filled inductionHypothesis =>
      rcases Nat.exists_eq_succ_of_ne_zero (Nat.ne_of_gt (Nat.zero_lt_of_lt enough)) with
        ⟨bound, rfl⟩
      cases gathers with
      | @cons _ between _ name title content _ quotes first others =>
          have ends : Ends (gap ++ ',' :: (gap' ++ (row ++ '\x7d' :: rest))) :=
            ends_gap blank (ends_cons (by decide) _)
          have remaining := inductionHypothesis others (Nat.le_of_succ_le_succ enough)
          rcases quoted_of_gathers filled others ('\x7d' :: rest) with ⟨behind, next⟩
          rcases string_of_quotes quotes
            (content ++ (gap ++ ',' :: (gap' ++ (row ++ '\x7d' :: rest)))) with
            ⟨body, opening, read⟩
          simp only [List.append_assoc, List.cons_append]
          rw [opening, membersFrom, bind_of_ok (skip_cons _ _), bind_of_ok read,
            bind_of_ok (first _ ends), bind_of_ok (peekToken_gap blank (by decide) _)]
          simp only []
          rw [bind_of_ok (skip_cons ',' _)]
          rw [next] at remaining ⊢
          rw [bind_of_ok (peekToken_gap blank' (by decide) _)]
          exact remaining

/-- The members of an object, up to the closing brace. -/
theorem members_enclosed {step : σ → String → Reader σ} {before after : σ}
    {parts : List (List Char)} {inner : List Char} (enclosed : Enclosed parts inner)
    (gathers : Gathers step before parts after) (rest : List Char) :
    members step before (inner ++ '\x7d' :: rest) = .ok (after, '\x7d' :: rest) := by
  cases enclosed with
  | none blank =>
      cases gathers
      rw [members, bind_of_ok (peekToken_gap blank (by decide) _)]
      rfl
  | @some gap row parts blank filled =>
      rcases quoted_of_gathers filled gathers ('\x7d' :: rest) with ⟨behind, opening⟩
      have enough : parts.length ≤ (row ++ '\x7d' :: rest).length := by
        have shorter := filled.length_le (opens_of_gathers gathers)
        rw [List.length_append]
        omega
      have read := membersFrom_row filled gathers enough rest
      rw [List.append_assoc, members]
      rw [opening] at read ⊢
      rw [bind_of_ok (peekToken_gap blank (by decide) _)]
      simp only []
      rw [bind_of_ok (get_eq _)]
      exact read

end Reader
end CompilerRelay
