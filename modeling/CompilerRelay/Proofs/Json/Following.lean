import CompilerRelay.Proofs.Json.Reading

/-!
# Two readers on one text

A text may be read twice for different purposes.  `Follows` compares two
readers on every text that the first one takes.  The second one takes the same
part of it and yields something related, or it refuses the text, which is
recorded in the relation as nothing.  What relates two readers is found step by
step, in the order in which both read, so a loop that gathers members is
followed by another one if each of its turns is.

After a refusal the second reader reads no further, and the first one may go
on.  Whatever it still gathers must then stay related to nothing (`Yields`).
-/

namespace CompilerRelay
namespace Reader

variable {α β γ δ σ τ : Type}

/-- Whatever the reader yields has the property.  A reader that yields nothing
has every such property. -/
def Yields (P : α → Prop) (reader : Reader α) : Prop :=
  ∀ text value rest, reader text = .ok (value, rest) → P value

/-- On every text that the first reader takes, the second one leaves the same
and yields something related, or it refuses the text. -/
def Follows (R : α → Option β → Prop) (first : Reader α) (second : Reader β) : Prop :=
  ∀ text value rest, first text = .ok (value, rest) →
    (∃ other, second text = .ok (other, rest) ∧ R value (some other)) ∨
      (∃ error, second text = .error error) ∧ R value none

theorem bind_eq_ok_iff {reader : Reader α} {next : α → Reader β} {text rest : List Char}
    {result : β} : (reader >>= next) text = .ok (result, rest) ↔ ∃ value middle,
      reader text = .ok (value, middle) ∧ next value middle = .ok (result, rest) := by
  change (reader text >>= fun done => next done.1 done.2) = _ ↔ _
  cases reader text with
  | error error => exact ⟨(nomatch ·), fun ⟨_, _, impossible, _⟩ => nomatch impossible⟩
  | ok done =>
      rcases done with ⟨value, middle⟩
      constructor
      · exact fun read => ⟨value, middle, rfl, read⟩
      · rintro ⟨_, _, same, read⟩
        cases same
        exact read

theorem bind_of_error {reader : Reader α} {next : α → Reader β} {text : List Char}
    {error : ReadError} (refused : reader text = .error error) :
    (reader >>= next) text = .error error := by
  change (reader text >>= fun done => next done.1 done.2) = _
  rw [refused]
  rfl

/-! ## One step after another -/

theorem yields_pure {P : α → Prop} {value : α} (property : P value) :
    Yields P (pure value : Reader α) := by
  intro text other rest read
  cases read
  exact property

theorem yields_fail {P : α → Prop} (bytes : Nat) (cause : ReadCause) :
    Yields P (failAfter bytes cause : Reader α) :=
  fun _ _ _ read => nomatch read

theorem Yields.bind {Q : α → Prop} {P : β → Prop} {reader : Reader α} {next : α → Reader β}
    (first : Yields Q reader) (second : ∀ value, Q value → Yields P (next value)) :
    Yields P (reader >>= next) := by
  intro text result rest read
  rcases bind_eq_ok_iff.mp read with ⟨value, middle, here, there⟩
  exact second value (first text value middle here) middle result rest there

/-- What was read before need not matter. -/
theorem yields_after {P : β → Prop} {reader : Reader α} {next : α → Reader β}
    (second : ∀ value, Yields P (next value)) : Yields P (reader >>= next) :=
  Yields.bind (Q := fun _ => True) (fun _ _ _ _ => trivial) fun value _ => second value

theorem follows_pure {R : α → Option β → Prop} {value : α} {other : β}
    (related : R value (some other)) :
    Follows R (pure value : Reader α) (pure other : Reader β) := by
  intro text result rest read
  cases read
  exact Or.inl ⟨other, rfl, related⟩

theorem follows_fail {R : α → Option β → Prop} (bytes : Nat) (cause : ReadCause)
    (second : Reader β) : Follows R (failAfter bytes cause : Reader α) second :=
  fun _ _ _ read => nomatch read

/-- A reader that always refuses follows every reader whose results are related
to nothing. -/
theorem follows_refused {R : α → Option β → Prop} {first : Reader α} {second : Reader β}
    (refuses : ∀ text, ∃ error, second text = .error error) (lost : Yields (R · none) first) :
    Follows R first second :=
  fun text value rest read => Or.inr ⟨refuses text, lost text value rest read⟩

theorem Follows.bind {R : α → Option β → Prop} {S : γ → Option δ → Prop} {first : Reader α}
    {second : Reader β} {next : α → Reader γ} {next' : β → Reader δ}
    (follows : Follows R first second)
    (later : ∀ value other, R value (some other) → Follows S (next value) (next' other))
    (lost : ∀ value, R value none → Yields (S · none) (next value)) :
    Follows S (first >>= next) (second >>= next') := by
  intro text result rest read
  rcases bind_eq_ok_iff.mp read with ⟨value, middle, here, there⟩
  rcases follows text value middle here with ⟨other, taken, related⟩ | ⟨⟨error, refused⟩, related⟩
  · rw [bind_of_ok taken]
    exact later value other related middle result rest there
  · exact Or.inr ⟨⟨error, bind_of_error refused⟩, lost value related middle result rest there⟩

/-- A second reader that refuses nothing leaves nothing to be lost. -/
theorem Follows.bind_of_read {R : α → Option β → Prop} {S : γ → Option δ → Prop}
    {first : Reader α} {second : Reader β} {next : α → Reader γ} {next' : β → Reader δ}
    (follows : Follows R first second) (reads : ∀ value, ¬ R value none)
    (later : ∀ value other, R value (some other) → Follows S (next value) (next' other)) :
    Follows S (first >>= next) (second >>= next') :=
  follows.bind later fun value refused => absurd refused (reads value)

/-- Both readers begin in the same way. -/
theorem follows_after {S : γ → Option δ → Prop} {reader : Reader α} {next : α → Reader γ}
    {next' : α → Reader δ} (later : ∀ value, Follows S (next value) (next' value)) :
    Follows S (reader >>= next) (reader >>= next') := by
  intro text result rest read
  rcases bind_eq_ok_iff.mp read with ⟨value, middle, here, there⟩
  rw [bind_of_ok here]
  exact later value middle result rest there

/-! ## Loops -/

/-- What is read after a member that is known to be there. -/
def furtherMembers (step : σ → String → Reader σ) (bound : Nat) (gathered : σ) : Reader σ := do
  match ← peekToken with
  | none => failHere .endInObject
  | some '\x7d' => pure gathered
  | some ',' => do
    skip
    match ← peekToken with
    | none => failHere .endInValue
    | some '"' => membersFrom step bound gathered
    | some '\x7d' => failAtNext .trailingComma
    | some _ => failAtNext .keyMustBeString
  | some _ => failAtNext .expectedObjectCommaOrEnd

theorem membersFrom_succ (step : σ → String → Reader σ) (bound : Nat) (gathered : σ) :
    membersFrom step (bound + 1) gathered = skip >>= fun _ => string >>= fun name =>
      step gathered name >>= furtherMembers step bound :=
  rfl

section

variable {P : σ → Prop} {step : σ → String → Reader σ}

theorem yields_furtherMembers {bound : Nat}
    (more : ∀ gathered, P gathered → Yields P (membersFrom step bound gathered)) (gathered : σ)
    (property : P gathered) : Yields P (furtherMembers step bound gathered) := by
  refine yields_after fun token => ?_
  split
  · exact yields_fail _ _
  · exact yields_pure property
  · refine yields_after fun _ => yields_after fun token => ?_
    split
    · exact yields_fail _ _
    · exact more gathered property
    · exact yields_fail _ _
    · exact yields_fail _ _
  · exact yields_fail _ _

theorem yields_membersFrom
    (steps : ∀ gathered name, P gathered → Yields P (step gathered name)) (bound : Nat) :
    ∀ gathered, P gathered → Yields P (membersFrom step bound gathered) := by
  induction bound with
  | zero => exact fun _ _ => yields_fail _ _
  | succ bound inductionHypothesis =>
      intro gathered property
      rw [membersFrom_succ]
      refine yields_after fun _ => yields_after fun name => ?_
      exact (steps gathered name property).bind (yields_furtherMembers inductionHypothesis)

end

section

variable {R : σ → Option τ → Prop} {step : σ → String → Reader σ} {step' : τ → String → Reader τ}

theorem follows_membersFrom
    (steps : ∀ gathered other name, R gathered (some other) →
      Follows R (step gathered name) (step' other name))
    (lost : ∀ gathered name, R gathered none → Yields (R · none) (step gathered name))
    (bound : Nat) : ∀ gathered other, R gathered (some other) →
      Follows R (membersFrom step bound gathered) (membersFrom step' bound other) := by
  induction bound with
  | zero => exact fun _ _ _ => follows_fail _ _ _
  | succ bound inductionHypothesis =>
      intro gathered other related
      rw [membersFrom_succ, membersFrom_succ]
      refine follows_after fun _ => follows_after fun name => ?_
      refine (steps gathered other name related).bind (fun gathered other related => ?_)
        (yields_furtherMembers (yields_membersFrom lost bound))
      refine follows_after fun token => ?_
      split
      · exact follows_fail _ _ _
      · exact follows_pure related
      · refine follows_after fun _ => follows_after fun token => ?_
        split
        · exact follows_fail _ _ _
        · exact inductionHypothesis gathered other related
        · exact follows_fail _ _ _
        · exact follows_fail _ _ _
      · exact follows_fail _ _ _

/-- One object is followed member by member. -/
theorem follows_members
    (steps : ∀ gathered other name, R gathered (some other) →
      Follows R (step gathered name) (step' other name))
    (lost : ∀ gathered name, R gathered none → Yields (R · none) (step gathered name))
    {start : σ} {start' : τ} (begins : R start (some start')) :
    Follows R (members step start) (members step' start') := by
  refine follows_after fun token => ?_
  split
  · exact follows_fail _ _ _
  · exact follows_pure begins
  · exact follows_after fun rest => follows_membersFrom steps lost _ start start' begins
  · exact follows_fail _ _ _

end

/-- Something was read by the other reader as well. -/
def Both (_ : α) (other : Option β) : Prop :=
  other.isSome = true

theorem not_both_none (value : α) : ¬ Both value (none : Option β) :=
  Bool.false_ne_true

theorem follows_itemsFrom {item : Reader α} {item' : Reader β} (follows : Follows Both item item')
    (bound : Nat) : Follows Both (itemsFrom item bound) (itemsFrom item' bound) := by
  induction bound with
  | zero => exact follows_fail _ _ _
  | succ bound inductionHypothesis =>
      unfold itemsFrom
      refine follows.bind_of_read not_both_none fun first first' _ => ?_
      refine follows_after fun token => ?_
      split
      · exact follows_fail _ _ _
      · exact follows_pure rfl
      · refine follows_after fun _ => follows_after fun token => ?_
        split
        · exact follows_fail _ _ _
        · exact follows_fail _ _ _
        · exact inductionHypothesis.bind_of_read not_both_none fun _ _ _ => follows_pure rfl
      · exact follows_fail _ _ _

theorem follows_items {item : Reader α} {item' : Reader β} (follows : Follows Both item item') :
    Follows Both (items item) (items item') := by
  refine follows_after fun token => ?_
  split
  · exact follows_fail _ _ _
  · exact follows_pure rfl
  · exact follows_after fun rest => follows_itemsFrom follows _

/-! ## Values -/

theorem follows_same (reader : Reader α) : Follows Both reader reader :=
  fun _ value _ read => Or.inl ⟨value, read, rfl⟩

theorem follows_valueWith {container container' : Char → Reader Json}
    (follows : ∀ opening, Follows Both (container opening) (container' opening)) :
    Follows Both (valueWith container) (valueWith container') := by
  refine follows_after fun token => ?_
  split
  case h_7 => exact follows _
  case h_8 => exact follows _
  all_goals exact follows_same _

/-- The names of the members are the same, in order.  The values may differ,
since one reader makes objects anew and the other one leaves them as they are
written. -/
def SameNames (members : List (String × Json)) (others : Option (List (String × Json))) : Prop :=
  others.map (·.map Prod.fst) = some (members.map Prod.fst)

theorem not_sameNames_none (members : List (String × Json)) : ¬ SameNames members none :=
  (Option.some_ne_none _).symm

/-- Members are gathered under the same names, whatever their values are read as. -/
theorem follows_gatherMember {value value' : Reader Json} (follows : Follows Both value value') :
    Follows SameNames (members (gatherMember value) []) (members (gatherMember value') []) := by
  refine follows_members (fun gathered other name same => ?_)
    (fun gathered _ refused => absurd refused (not_sameNames_none gathered)) rfl
  refine follows_after fun _ =>
    follows.bind_of_read not_both_none fun content content' _ => follows_pure ?_
  have names : other.map Prod.fst = gathered.map Prod.fst := Option.some.inj same
  exact congrArg some (congrArg (List.cons name) names)

/-- Which objects are made of the members makes no difference to the text. -/
theorem follows_valueMaking (object object' : List (String × Json) → Json) (depth : Nat) :
    Follows Both (valueMaking object depth) (valueMaking object' depth) := by
  induction depth with
  | zero => exact follows_valueWith fun _ => follows_fail _ _ _
  | succ depth inductionHypothesis =>
      refine follows_valueWith fun opening => follows_after fun _ => ?_
      by_cases list : opening = '['
      · rw [if_pos list, if_pos list]
        refine (follows_items inductionHypothesis).bind_of_read not_both_none fun _ _ _ => ?_
        exact follows_after fun _ => follows_pure rfl
      · rw [if_neg list, if_neg list]
        refine (follows_gatherMember inductionHypothesis).bind_of_read not_sameNames_none
          fun _ _ _ => ?_
        exact follows_after fun _ => follows_pure rfl

/-! ## What a value begins with -/

/-- A value that is no text and has no parts. -/
def Plain : Json → Prop
  | .str _ => False
  | .arr _ => False
  | .obj _ => False
  | _ => True

theorem plain_floatOf (negative : Bool) (significand : Nat) (exponent : Int) :
    Yields Plain (floatOf negative significand exponent) := by
  unfold floatOf
  split
  · exact yields_pure trivial
  · exact yields_fail _ _

theorem plain_exponentPart (negative : Bool) (significand : Nat) (exponent : Int) :
    Yields Plain (exponentPart negative significand exponent) := by
  unfold exponentPart
  dsimp only
  -- Whatever the sign and the digits are, a number or a complaint comes last.
  repeat' first
    | exact yields_fail _ _
    | exact yields_pure trivial
    | exact plain_floatOf _ _ _
    | refine yields_after fun _ => ?_
    | split

theorem plain_afterDigits (negative : Bool) (significand : Nat) (exponent : Int) :
    Yields Plain (afterDigits negative significand exponent) := by
  refine yields_after fun mark => ?_
  split
  · exact plain_exponentPart _ _ _
  · exact plain_exponentPart _ _ _
  · exact plain_floatOf _ _ _

theorem plain_fractionPart (negative : Bool) (significand : Nat) (exponent : Int) :
    Yields Plain (fractionPart negative significand exponent) := by
  refine yields_after fun _ => yields_after fun written => ?_
  split
  · refine yields_after fun following => ?_
    split
    · exact yields_fail _ _
    · exact yields_fail _ _
  · exact plain_afterDigits _ _ _

theorem plain_wholeNumber (negative : Bool) (significand : Nat) :
    Yields Plain (wholeNumber negative significand) := by
  unfold wholeNumber
  split
  · exact yields_pure trivial
  · split
    · exact plain_floatOf _ _ _
    · exact yields_pure trivial

theorem plain_number (negative : Bool) : Yields Plain (number negative) := by
  refine yields_after fun token => ?_
  split
  · exact yields_fail _ _
  · split
    · exact yields_fail _ _
    · refine yields_after fun _ => yields_after fun written => ?_
      split
      · exact yields_after fun _ => yields_fail _ _
      · refine yields_after fun mark => ?_
        split
        · exact plain_fractionPart _ _ _
        · exact plain_exponentPart _ _ _
        · exact plain_exponentPart _ _ _
        · split
          · exact plain_wholeNumber _ _
          · exact plain_floatOf _ _ _

theorem plain_word {value : Json} (plain : Plain value) (expected : List Char) :
    Yields Plain (word value expected) := by
  induction expected with
  | nil => exact yields_pure plain
  | cons c more inductionHypothesis =>
      refine yields_after fun token => ?_
      split
      · exact yields_fail _ _
      · split
        · exact yields_after fun _ => inductionHypothesis
        · exact yields_fail _ _

/-- A value is told apart by the character that it begins with. -/
theorem valueWith_cases {container : Char → Reader Json} {text rest : List Char} {value : Json}
    (read : valueWith container text = .ok (value, rest)) :
    ∃ token more, peekToken text = .ok (some token, more) ∧
      ((token = '"' ∧ ∃ s, value = .str s ∧ string (more.drop 1) = .ok (s, rest)) ∨
        ((token = '[' ∨ token = '\x7b') ∧ container token more = .ok (value, rest)) ∨
          (token ≠ '"' ∧ Plain value)) := by
  have fixed : ∀ value expected, Plain value →
      Yields Plain (skip >>= fun _ => word value expected) :=
    fun _ expected plain => yields_after fun _ => plain_word plain expected
  have signed : Yields Plain (skip >>= fun _ => number true) :=
    yields_after fun _ => plain_number true
  rcases bind_eq_ok_iff.mp read with ⟨token, more, peeked, read⟩
  split at read
  case h_1 => cases read
  case h_2 =>
    exact ⟨_, _, peeked, Or.inr (Or.inr ⟨by decide, fixed .null _ trivial _ _ _ read⟩)⟩
  case h_3 =>
    exact ⟨_, _, peeked, Or.inr (Or.inr ⟨by decide, fixed (.bool true) _ trivial _ _ _ read⟩)⟩
  case h_4 =>
    exact ⟨_, _, peeked, Or.inr (Or.inr ⟨by decide, fixed (.bool false) _ trivial _ _ _ read⟩)⟩
  case h_5 => exact ⟨_, _, peeked, Or.inr (Or.inr ⟨by decide, signed _ _ _ read⟩)⟩
  case h_6 =>
    rcases bind_eq_ok_iff.mp read with ⟨_, _, skipped, read⟩
    rcases bind_eq_ok_iff.mp read with ⟨s, _, quoted, made⟩
    cases skipped
    cases made
    exact ⟨_, _, peeked, Or.inl ⟨rfl, s, rfl, quoted⟩⟩
  case h_7 => exact ⟨_, _, peeked, Or.inr (Or.inl ⟨Or.inl rfl, read⟩)⟩
  case h_8 => exact ⟨_, _, peeked, Or.inr (Or.inl ⟨Or.inr rfl, read⟩)⟩
  case h_9 c _ _ _ _ quote _ _ =>
    split at read
    · exact ⟨_, _, peeked, Or.inr (Or.inr ⟨quote, plain_number false _ _ _ read⟩)⟩
    · cases read

/-- An array or an object comes from the brackets or braces it is written in. -/
theorem container_cases {object : List (String × Json) → Json} {value : Reader Json}
    {opening : Char} {text rest : List Char} {made : Json}
    (read : container object value opening text = .ok (made, rest)) :
    (opening = '[' ∧ ∃ elements, made = .arr elements) ∨
      opening ≠ '[' ∧ ∃ gathered middle,
        members (gatherMember value) [] (text.drop 1) = .ok (gathered, middle) ∧
          made = object gathered.reverse ∧ rest = middle.drop 1 := by
  rcases bind_eq_ok_iff.mp read with ⟨_, _, skipped, read⟩
  cases skipped
  by_cases list : opening = '['
  · rw [if_pos list] at read
    have array : Yields (fun made => ∃ elements, made = .arr elements)
        (items value >>= fun elements => skip >>= fun _ => pure (Json.arr elements)) :=
      yields_after fun elements => yields_after fun _ => yields_pure ⟨elements, rfl⟩
    exact Or.inl ⟨list, array _ _ _ read⟩
  · rw [if_neg list] at read
    rcases bind_eq_ok_iff.mp read with ⟨gathered, middle, taken, read⟩
    rcases bind_eq_ok_iff.mp read with ⟨_, _, skipped, made⟩
    cases skipped
    cases made
    exact Or.inr ⟨list, gathered, middle, taken, rfl, rfl⟩

/-- An object is read member by member, between its braces. -/
theorem obj_of_valueMaking {object : List (String × Json) → Json} {depth : Nat}
    {text rest : List Char} {made : List (String × Json)}
    (read : valueMaking object (depth + 1) text = .ok (.obj made, rest)) :
    ∃ more gathered middle, peekToken text = .ok (some '\x7b', more) ∧
      members (gatherMember (valueMaking object depth)) [] (more.drop 1) = .ok (gathered, middle) ∧
        object gathered.reverse = .obj made ∧ rest = middle.drop 1 := by
  rcases valueWith_cases read with
    ⟨token, more, peeked, ⟨_, _, impossible, _⟩ | ⟨opens, contained⟩ | ⟨_, impossible⟩⟩
  · cases impossible
  · rcases container_cases contained with
      ⟨_, _, impossible⟩ | ⟨other, gathered, middle, taken, same, left⟩
    · cases impossible
    · cases opens.resolve_left other
      exact ⟨more, gathered, middle, peeked, taken, same.symm, left⟩
  · cases impossible

/-- Only what is quoted is read as a text. -/
theorem str_of_value {depth : Nat} {text rest : List Char} {made : Json}
    (read : value (depth + 1) text = .ok (made, rest)) :
    ∃ token more, peekToken text = .ok (some token, more) ∧
      ((token = '"' ∧ ∃ s, made = .str s ∧ string (more.drop 1) = .ok (s, rest)) ∨
        (token ≠ '"' ∧ ∀ s, made ≠ .str s)) := by
  rcases valueWith_cases read with
    ⟨token, more, peeked, quoted | ⟨opens, contained⟩ | ⟨other, plain⟩⟩
  · exact ⟨token, more, peeked, Or.inl quoted⟩
  · refine ⟨token, more, peeked, Or.inr ⟨?_, ?_⟩⟩
    · rcases opens with rfl | rfl <;> decide
    · rcases container_cases contained with ⟨_, _, rfl⟩ | ⟨_, _, _, _, rfl, _⟩
      · exact fun s => Json.noConfusion
      · exact fun s => Json.noConfusion
  · refine ⟨token, more, peeked, Or.inr ⟨other, ?_⟩⟩
    rintro s rfl
    exact plain

end Reader
end CompilerRelay
