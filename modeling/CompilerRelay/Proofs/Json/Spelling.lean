import CompilerRelay.Proofs.Json.Members
import CompilerRelay.Proofs.Json.Reading

/-!
# Texts that write a value

A value is written with blanks wherever they may stand between its tokens, and
with its strings in any of the ways to write them.  `Json.Spells` says which
texts these are, by recursion on the value, and such a text is read as the
value if its nesting is not too deep.  What the members of
an object become is left to the reader: they are kept in order as they are
written, or sorted (`Json.remade`).

The text that the program writes has no blanks.  It is one of these texts,
unless it holds a floating point number or a very large integer; those need not
be read as they were.
-/

namespace CompilerRelay

open Reader

namespace Reader

/-! ## Values -/

section

variable {container : Char → Reader Json}

theorem valueWith_gap {gap : List Char} (blank : Gap gap) (text : List Char) :
    valueWith container (gap ++ text) = valueWith container text := by
  have same : peekToken (gap ++ text) = peekToken text := by
    change Except.ok (((gap ++ text).dropWhile isSpace).head?, (gap ++ text).dropWhile isSpace) = _
    rw [dropWhile_gap blank]
    rfl
  exact bind_of_eq same

theorem reads_null : Reads (valueWith container) .null ['n', 'u', 'l', 'l'] := by
  intro rest ends
  rw [List.cons_append, valueWith, bind_of_ok (peekToken_cons (by decide) _)]
  exact (bind_of_ok (skip_cons 'n' _)).trans (reads_word .null _ rest ends)

theorem reads_bool (value : Bool) :
    Reads (valueWith container) (.bool value) (Json.text (.bool value)) := by
  intro rest ends
  cases value with
  | true =>
      rw [Json.text, List.cons_append, valueWith, bind_of_ok (peekToken_cons (by decide) _)]
      exact (bind_of_ok (skip_cons 't' _)).trans (reads_word (.bool true) _ rest ends)
  | false =>
      rw [Json.text, List.cons_append, valueWith, bind_of_ok (peekToken_cons (by decide) _)]
      exact (bind_of_ok (skip_cons 'f' _)).trans (reads_word (.bool false) _ rest ends)

theorem reads_str {s : String} {written : List Char} (quotes : Json.Quotes s written) :
    Reads (valueWith container) (.str s) written := by
  intro rest _
  rcases string_of_quotes quotes rest with ⟨body, opening, read⟩
  rw [opening, valueWith, bind_of_ok (peekToken_cons (by decide) _)]
  simp only []
  rw [bind_of_ok (skip_cons '"' _), bind_of_ok read]
  rfl

theorem reads_int {n : Int} (least : -(Word.size 63 : Int) ≤ n) (most : n < Word.size 64) :
    Reads (valueWith container) (.int n) (Json.intText n) := by
  intro rest ends
  cases n with
  | ofNat n =>
      have fits : n < Word.size 64 := Int.ofNat_lt.mp most
      have read := number_toDigits false fits ends
      rw [Json.intText]
      cases written : Nat.toDigits 10 n with
      | nil => exact absurd written Nat.toDigits_ne_nil
      | cons c more =>
          have digit : isDigit c = true :=
            isDigit_of_mem_toDigits (written ▸ List.mem_cons_self)
          have token := isSpace_of_isDigit digit
          rw [written] at read
          rw [List.cons_append] at read ⊢
          rw [valueWith, bind_of_ok (peekToken_cons token _)]
          have others : c ≠ 'n' ∧ c ≠ 't' ∧ c ≠ 'f' ∧ c ≠ '-' ∧ c ≠ '"' ∧ c ≠ '[' ∧ c ≠ '\x7b' := by
            refine ⟨?_, ?_, ?_, ?_, ?_, ?_, ?_⟩ <;> rintro rfl <;> cases digit
          simp only [others, imp_self, digit, if_true]
          exact read
  | negSucc n =>
      have fits : n + 1 < Word.size 64 := by
        have small : Word.size 63 < Word.size 64 := by decide
        omega
      have read := number_toDigits true fits ends
      rw [Json.intText, List.cons_append, valueWith, bind_of_ok (peekToken_cons (by decide) _)]
      simp only []
      rw [bind_of_ok (skip_cons '-' _), read, wholeNumber]
      have small : ¬ (n + 1 = 0 ∨ Word.size 63 < n + 1) := by omega
      rw [if_neg (by decide), if_neg small]
      rfl

end

section

variable {object : List (String × Json) → Json} {value : Reader Json}

theorem reads_arr {values : List Json} {parts : List (List Char)} {inner : List Char}
    (enclosed : Enclosed parts inner) (reads : List.Forall₂ (Reads value) values parts)
    (all : ∀ part ∈ parts, Opens part) :
    Reads (valueWith (container object value)) (.arr values) ('[' :: (inner ++ [']'])) := by
  intro rest _
  have read := items_enclosed enclosed reads all rest
  rw [List.cons_append, List.append_assoc, valueWith, bind_of_ok (peekToken_cons (by decide) _)]
  simp only [container, if_true]
  rw [bind_of_ok (skip_cons '[' _), List.singleton_append, bind_of_ok read,
    bind_of_ok (skip_cons ']' _)]
  rfl

theorem reads_obj {gathered : List (String × Json)} {parts : List (List Char)}
    {inner : List Char} (enclosed : Enclosed parts inner)
    (gathers : Gathers (gatherMember value) [] parts gathered) :
    Reads (valueWith (container object value)) (object gathered.reverse)
      ('\x7b' :: (inner ++ ['\x7d'])) := by
  intro rest _
  have read := members_enclosed enclosed gathers rest
  rw [List.cons_append, List.append_assoc, valueWith, bind_of_ok (peekToken_cons (by decide) _)]
  simp only [container]
  rw [bind_of_ok (skip_cons '\x7b' _), if_neg (by decide), List.singleton_append,
    bind_of_ok read, bind_of_ok (skip_cons '\x7d' _)]
  rfl

/-- The colon behind a name. -/
theorem colon_gap {gap : List Char} (blank : Gap gap) (rest : List Char) :
    colon (gap ++ ':' :: rest) = .ok ((), rest) := by
  rw [colon, bind_of_ok (peekToken_gap blank (by decide) _)]
  rfl

/-- A member, from what follows its name on. -/
theorem reads_gatherMember {content : Json} {text gap gap' : List Char}
    (gathered : List (String × Json)) (name : String) (blank : Gap gap)
    (reads : Reads value content (gap' ++ text)) :
    Reads (gatherMember value gathered name) ((name, content) :: gathered)
      (gap ++ ':' :: (gap' ++ text)) := by
  intro rest ends
  rw [List.append_assoc, List.cons_append, gatherMember, bind_of_ok (colon_gap blank _),
    bind_of_ok (reads rest ends)]
  rfl

end

end Reader

/-! ## Texts -/

namespace Json

mutual

/-- How deep arrays and objects are nested.  A reader gives up beyond a limit,
so only values within it can be read back. -/
def nesting : Json → Nat
  | arr items => itemsNesting items + 1
  | obj members => membersNesting members + 1
  | _ => 0

def itemsNesting : List Json → Nat
  | [] => 0
  | item :: rest => max (nesting item) (itemsNesting rest)

def membersNesting : List (String × Json) → Nat
  | [] => 0
  | (_, value) :: rest => max (nesting value) (membersNesting rest)

end

mutual

/-- A value whose objects are made anew of their members, from the inside out.
With `ofMembers` this is the value as a reader holds it. -/
def remade (object : List (String × Json) → Json) : Json → Json
  | arr items => arr (remadeItems object items)
  | obj members => object (remadeMembers object members)
  | other => other

def remadeItems (object : List (String × Json) → Json) : List Json → List Json
  | [] => []
  | item :: rest => remade object item :: remadeItems object rest

def remadeMembers (object : List (String × Json) → Json) :
    List (String × Json) → List (String × Json)
  | [] => []
  | (name, value) :: rest => (name, remade object value) :: remadeMembers object rest

end

mutual

/-- The text writes the value, with blanks wherever they may stand inside and
strings in any of the ways to write them.  Floating point numbers are left
out, and so are integers of more than 64 bits. -/
def Spells : Json → List Char → Prop
  | float _, _ => False
  | int n, written => -(Word.size 63 : Int) ≤ n ∧ n < Word.size 64 ∧ written = text (int n)
  | str s, written => Quotes s written
  | arr items, written => ∃ parts inner, SpellsItems items parts ∧ Enclosed parts inner ∧
      written = '[' :: (inner ++ [']'])
  | obj members, written => ∃ parts inner, SpellsMembers members parts ∧ Enclosed parts inner ∧
      written = '\x7b' :: (inner ++ ['\x7d'])
  | other, written => written = text other

/-- The texts write the items. -/
def SpellsItems : List Json → List (List Char) → Prop
  | [], parts => parts = []
  | item :: rest, parts => ∃ part others, Spells item part ∧ SpellsItems rest others ∧
      parts = part :: others

/-- The texts write the members, each with its name and a colon. -/
def SpellsMembers : List (String × Json) → List (List Char) → Prop
  | [], parts => parts = []
  | (name, value) :: rest, parts => ∃ title gap gap' written others, Quotes name title ∧
      Gap gap ∧ Gap gap' ∧ Spells value written ∧ SpellsMembers rest others ∧
        parts = (title ++ (gap ++ ':' :: (gap' ++ written))) :: others

end

theorem opens_intText (n : Int) : Opens (intText n) := by
  cases n with
  | ofNat n =>
      rw [intText]
      cases written : Nat.toDigits 10 n with
      | nil => exact absurd written Nat.toDigits_ne_nil
      | cons c more =>
          have digit : isDigit c = true := isDigit_of_mem_toDigits (written ▸ List.mem_cons_self)
          refine ⟨c, more, rfl, isSpace_of_isDigit digit, ?_⟩
          rintro rfl
          cases digit
  | negSucc n => exact ⟨'-', _, rfl, rfl, by decide⟩

theorem opens_of_spells {value : Json} {written : List Char} (spells : Spells value written) :
    Opens written := by
  cases value with
  | null =>
      subst spells
      exact ⟨'n', _, rfl, rfl, by decide⟩
  | bool value =>
      subst spells
      cases value
      · exact ⟨'f', _, rfl, rfl, by decide⟩
      · exact ⟨'t', _, rfl, rfl, by decide⟩
  | int n =>
      rcases spells with ⟨_, _, rfl⟩
      exact opens_intText n
  | float => cases spells
  | str s =>
      rcases spells with ⟨body, _, rfl⟩
      exact ⟨'"', _, rfl, rfl, by decide⟩
  | arr items =>
      rcases spells with ⟨parts, inner, _, _, rfl⟩
      exact ⟨'[', _, rfl, rfl, by decide⟩
  | obj members =>
      rcases spells with ⟨parts, inner, _, _, rfl⟩
      exact ⟨'\x7b', _, rfl, rfl, by decide⟩

theorem opens_of_spellsItems {items : List Json} {parts : List (List Char)}
    (spells : SpellsItems items parts) : ∀ part ∈ parts, Opens part := by
  induction items generalizing parts with
  | nil =>
      cases spells
      exact fun _ member => absurd member List.not_mem_nil
  | cons item rest inductionHypothesis =>
      rcases spells with ⟨first, others, here, later, rfl⟩
      intro part member
      rcases List.mem_cons.mp member with rfl | behind
      · exact opens_of_spells here
      · exact inductionHypothesis later part behind

end Json

namespace Reader

open Json

variable {object : List (String × Json) → Json}

theorem valueMaking_eq (object : List (String × Json) → Json) (depth : Nat) :
    ∃ container, valueMaking object depth = valueWith container := by
  cases depth with
  | zero => exact ⟨_, rfl⟩
  | succ depth => exact ⟨_, rfl⟩

/-- Blanks before a value do not matter. -/
theorem Reads.behind_gap {depth : Nat} {result : Json} {text gap : List Char}
    (reads : Reads (valueMaking object depth) result text) (blank : Gap gap) :
    Reads (valueMaking object depth) result (gap ++ text) := by
  intro rest ends
  rcases valueMaking_eq object depth with ⟨container, same⟩
  have read := reads rest ends
  rw [same] at read ⊢
  rw [List.append_assoc, valueWith_gap blank, read]

mutual

theorem reads_of_spells : ∀ (value : Json) {depth : Nat} {written : List Char},
    nesting value ≤ depth → Spells value written →
      Reads (valueMaking object depth) (remade object value) written
  | .null, depth, _, _, spells => by
      rcases valueMaking_eq object depth with ⟨container, same⟩
      rw [same, spells]
      exact reads_null
  | .bool value, depth, _, _, spells => by
      rcases valueMaking_eq object depth with ⟨container, same⟩
      rw [same, spells]
      exact reads_bool value
  | .int n, depth, _, _, ⟨least, most, spells⟩ => by
      rcases valueMaking_eq object depth with ⟨container, same⟩
      rw [same, spells]
      exact reads_int least most
  | .float _, _, _, _, spells => nomatch spells
  | .str s, depth, _, _, spells => by
      rcases valueMaking_eq object depth with ⟨container, same⟩
      rw [same]
      exact reads_str spells
  | .arr items, 0, _, deep, _ => nomatch deep
  | .arr items, depth + 1, _, deep, ⟨parts, inner, spells, enclosed, shape⟩ => by
      rw [shape]
      exact reads_arr enclosed (items_of_spells items (Nat.le_of_succ_le_succ deep) spells)
        (opens_of_spellsItems spells)
  | .obj members, 0, _, deep, _ => nomatch deep
  | .obj members, depth + 1, _, deep, ⟨parts, inner, spells, enclosed, shape⟩ => by
      have gathers := members_of_spells members [] (Nat.le_of_succ_le_succ deep) spells
      have read := @reads_obj object _ _ _ _ enclosed gathers
      rw [List.append_nil, List.reverse_reverse] at read
      rw [shape]
      exact read

theorem items_of_spells : ∀ (items : List Json) {depth : Nat} {parts : List (List Char)},
    itemsNesting items ≤ depth → SpellsItems items parts →
      List.Forall₂ (Reads (valueMaking object depth)) (remadeItems object items) parts
  | [], _, _, _, spells => by
      rw [spells]
      exact .nil
  | item :: rest, _, _, deep, ⟨part, others, here, later, shape⟩ => by
      rw [shape]
      exact .cons (reads_of_spells item (Nat.le_trans (Nat.le_max_left _ _) deep) here)
        (items_of_spells rest (Nat.le_trans (Nat.le_max_right _ _) deep) later)

theorem members_of_spells : ∀ (members : List (String × Json)) {depth : Nat}
    {parts : List (List Char)} (gathered : List (String × Json)),
    membersNesting members ≤ depth → SpellsMembers members parts →
      Gathers (gatherMember (valueMaking object depth)) gathered parts
        ((remadeMembers object members).reverse ++ gathered)
  | [], _, _, gathered, _, spells => by
      rw [spells]
      exact .nil gathered
  | (name, value) :: rest, _, _, gathered, deep,
      ⟨title, gap, gap', written, others, quotes, blank, blank', here, later, shape⟩ => by
      have read := reads_of_spells value (Nat.le_trans (Nat.le_max_left _ _) deep) here
      have first := reads_gatherMember gathered name blank (read.behind_gap blank')
      have behind := members_of_spells rest ((name, remade object value) :: gathered)
        (Nat.le_trans (Nat.le_max_right _ _) deep) later
      rw [shape, remadeMembers, List.reverse_cons, List.append_assoc]
      exact .cons quotes first behind

end

theorem peekToken_end {gap : List Char} (blank : Gap gap) : peekToken gap = .ok (none, []) := by
  have reached := dropWhile_gap blank []
  rw [List.append_nil] at reached
  change Except.ok ((gap.dropWhile isSpace).head?, gap.dropWhile isSpace) = _
  rw [reached]
  rfl

end Reader

namespace Json

/-- A text that writes a value is read as the value, with its members in order. -/
theorem parse_of_spells {value : Json} {written gap gap' : List Char}
    (deep : nesting value ≤ depthLimit) (spells : Spells value written) (blank : Gap gap)
    (blank' : Gap gap') : parse (gap ++ written ++ gap') = .ok (remade ofMembers value) := by
  have reads : Reads (Reader.value depthLimit) (remade ofMembers value) (gap ++ written) :=
    (reads_of_spells value deep spells).behind_gap blank
  have read : document (gap ++ written ++ gap') = .ok (remade ofMembers value, []) := by
    have ends : Ends gap' := by
      have last := ends_gap blank' (show Ends [] from trivial)
      rwa [List.append_nil] at last
    have finished : finish gap' = .ok ((), []) := by
      rw [finish, bind_of_ok (peekToken_end blank')]
      rfl
    rw [document, bind_of_ok (reads gap' ends), bind_of_ok finished]
    rfl
  rw [parse, StateT.run, read]
  rfl

/-! ## The text of a value -/

mutual

/-- No floating point number is in the value, and no integer of more than 64
bits. -/
def Exact : Json → Prop
  | float _ => False
  | int n => -(Word.size 63 : Int) ≤ n ∧ n < Word.size 64
  | arr items => ItemsExact items
  | obj members => MembersExact members
  | _ => True

def ItemsExact : List Json → Prop
  | [] => True
  | item :: rest => Exact item ∧ ItemsExact rest

def MembersExact : List (String × Json) → Prop
  | [] => True
  | (_, value) :: rest => Exact value ∧ MembersExact rest

end

theorem row_tight {part row : List Char} {parts : List (List Char)} (rest : Row parts row) :
    Row (part :: parts) (part ++ ',' :: row) :=
  @Row.more part [] [] _ _ gap_nil gap_nil rest

theorem spellsMembers_tight {name : String} {value : Json} {written : List Char}
    {rest : List (String × Json)} {others : List (List Char)} (here : Spells value written)
    (later : SpellsMembers rest others) :
    SpellsMembers ((name, value) :: rest) ((stringText name ++ ':' :: written) :: others) :=
  ⟨_, [], [], _, _, quotes_stringText name, gap_nil, gap_nil, here, later, rfl⟩

/-- A member as it is written without blanks. -/
def memberText (member : String × Json) : List Char :=
  stringText member.1 ++ ':' :: text member.2

theorem row_itemsText (item : Json) (rest : List Json) :
    Row ((item :: rest).map text) (itemsText (item :: rest)) := by
  induction rest generalizing item with
  | nil => exact Row.last gap_nil
  | cons next others inductionHypothesis =>
      exact row_tight (inductionHypothesis next)

theorem row_membersText (member : String × Json) (rest : List (String × Json)) :
    Row ((member :: rest).map memberText) (membersText (member :: rest)) := by
  induction rest generalizing member with
  | nil =>
      have row := @Row.last (memberText member) [] gap_nil
      exact row
  | cons next others inductionHypothesis =>
      rw [membersText, furtherMembersText]
      exact row_tight (inductionHypothesis next)

mutual

theorem spells_text : ∀ (value : Json), Exact value → Spells value (text value)
  | .null, _ => rfl
  | .bool _, _ => rfl
  | .int _, within => ⟨within.1, within.2, rfl⟩
  | .float _, within => within.elim
  | .str s, _ => quotes_stringText s
  | .arr [], _ => ⟨[], [], rfl, .none gap_nil, rfl⟩
  | .arr (item :: rest), within =>
      ⟨_, _, spells_itemsText (item :: rest) within,
        @Enclosed.some [] _ _ gap_nil (row_itemsText item rest), rfl⟩
  | .obj [], _ => ⟨[], [], rfl, .none gap_nil, rfl⟩
  | .obj (member :: rest), within =>
      ⟨_, _, spells_membersText (member :: rest) within,
        @Enclosed.some [] _ _ gap_nil (row_membersText member rest), rfl⟩

theorem spells_itemsText : ∀ (items : List Json), ItemsExact items →
    SpellsItems items (items.map text)
  | [], _ => rfl
  | item :: rest, within =>
      ⟨_, _, spells_text item within.1, spells_itemsText rest within.2, rfl⟩

theorem spells_membersText : ∀ (members : List (String × Json)), MembersExact members →
    SpellsMembers members (members.map memberText)
  | [], _ => rfl
  | (_, value) :: rest, within =>
      spellsMembers_tight (spells_text value within.1) (spells_membersText rest within.2)

end

/-! ## Values that are read as they were -/

/-- A value whose text is read as the value: it is exact, not too deep, and its
objects are sorted. -/
structure Legible (depth : Nat) (value : Json) : Prop where
  exact : Exact value
  shallow : nesting value ≤ depth
  ordered : remade ofMembers value = value

theorem Legible.mono {depth deeper : Nat} {value : Json} (legible : Legible depth value)
    (less : depth ≤ deeper) : Legible deeper value :=
  ⟨legible.exact, Nat.le_trans legible.shallow less, legible.ordered⟩

theorem legible_str (depth : Nat) (s : String) : Legible depth (.str s) :=
  ⟨trivial, Nat.zero_le depth, rfl⟩

theorem legible_int (depth : Nat) {n : Int} (least : -(Word.size 63 : Int) ≤ n)
    (most : n < Word.size 64) : Legible depth (.int n) :=
  ⟨⟨least, most⟩, Nat.zero_le depth, rfl⟩

theorem legible_obj {depth : Nat} {members : List (String × Json)}
    (all : ∀ member ∈ members, Legible depth member.2)
    (ordered : (members.map Prod.fst).Pairwise (· < ·)) : Legible (depth + 1) (.obj members) := by
  have parts : MembersExact members ∧ membersNesting members ≤ depth ∧
      remadeMembers ofMembers members = members := by
    clear ordered
    induction members with
    | nil => exact ⟨trivial, Nat.zero_le depth, rfl⟩
    | cons member rest inductionHypothesis =>
        rcases member with ⟨name, value⟩
        have first := all (name, value) List.mem_cons_self
        have others := fun other listed => all other (List.mem_cons_of_mem _ listed)
        rcases inductionHypothesis others with ⟨exact, shallow, same⟩
        refine ⟨⟨first.exact, exact⟩, Nat.max_le.mpr ⟨first.shallow, shallow⟩, ?_⟩
        rw [remadeMembers, first.ordered, same]
  refine ⟨parts.1, Nat.succ_le_succ parts.2.1, ?_⟩
  rw [remade, parts.2.2, ofMembers_of_perm ordered (List.Perm.refl _)]

theorem parse_text {value : Json} (legible : Legible depthLimit value) :
    parse (text value) = .ok value := by
  have parsed := parse_of_spells legible.shallow (spells_text value legible.exact) gap_nil gap_nil
  rw [List.append_nil, legible.ordered] at parsed
  exact parsed

end Json
end CompilerRelay
