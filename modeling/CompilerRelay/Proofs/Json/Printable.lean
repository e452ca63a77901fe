import CompilerRelay.Json.Render

/-!
# A written value holds no control character

Whatever is written, no character of it lies below the space.  Only strings
could hold one, and there the controls are escaped.  So lines that are written
after one another, with a line feed behind each, can be told apart again.
-/

namespace CompilerRelay
namespace Json

/-- No character is below the space. -/
def Printable (written : List Char) : Prop :=
  ∀ c ∈ written, 0x20 ≤ c.toNat

instance (written : List Char) : Decidable (Printable written) :=
  List.decidableBAll (fun c : Char => 0x20 ≤ c.toNat) written

theorem printable_append {first second : List Char} (left : Printable first)
    (right : Printable second) : Printable (first ++ second) := by
  intro c member
  rcases List.mem_append.mp member with early | late
  · exact left c early
  · exact right c late

theorem printable_cons {c : Char} {rest : List Char} (first : 0x20 ≤ c.toNat)
    (others : Printable rest) : Printable (c :: rest) :=
  printable_append (List.forall_mem_singleton.mpr first) others

theorem printable_nil : Printable [] :=
  fun _ member => absurd member List.not_mem_nil

theorem printable_controlEscape {c : Char} (control : c.toNat < 0x20) :
    Printable (controlEscape c) := by
  have each : ∀ code : Fin 32, Printable (controlEscape (Char.ofNat code)) := by decide
  have here := each ⟨c.toNat, control⟩
  rwa [Char.ofNat_toNat] at here

theorem printable_escapedChar (c : Char) : Printable (escapedChar c) := by
  unfold escapedChar
  split
  · decide
  · decide
  · decide
  · decide
  · decide
  · decide
  · decide
  · by_cases control : c.toNat < 0x20
    · rw [if_pos control]
      exact printable_controlEscape control
    · rw [if_neg control]
      exact List.forall_mem_singleton.mpr (Nat.le_of_not_lt control)

theorem printable_stringText (s : String) : Printable (stringText s) := by
  have inner : Printable (s.toList.flatMap escapedChar) := by
    intro c member
    rcases List.mem_flatMap.mp member with ⟨source, _, within⟩
    exact printable_escapedChar source c within
  refine printable_append (printable_cons (by decide) inner) (printable_cons (by decide) ?_)
  exact printable_nil

theorem printable_toDigits (n : Nat) : Printable (Nat.toDigits 10 n) := by
  intro c member
  have digit := Nat.isDigit_of_mem_toDigits (by decide) (Nat.le_refl 10) member
  rw [Char.isDigit_iff_toNat] at digit
  exact Nat.le_trans (by decide) digit.1

theorem printable_intText (n : Int) : Printable (intText n) := by
  cases n with
  | ofNat n => exact printable_toDigits n
  | negSucc n => exact printable_cons (by decide) (printable_toDigits (n + 1))

theorem printable_of_sublist {part whole : List Char} (sublist : part.Sublist whole)
    (all : Printable whole) : Printable part :=
  fun c member => all c (sublist.subset member)

theorem printable_zeros (count : Nat) : Printable (List.replicate count '0') := by
  intro c member
  rw [List.eq_of_mem_replicate member]
  decide

theorem printable_floatText (layout : FloatLayout) (d : Decimal) :
    Printable (layout.text d) := by
  have digits := printable_toDigits d.digits
  have start : ∀ count, Printable ((Nat.toDigits 10 d.digits).take count) :=
    fun count => printable_of_sublist (List.take_sublist count _) digits
  have rest : ∀ count, Printable ((Nat.toDigits 10 d.digits).drop count) :=
    fun count => printable_of_sublist (List.drop_sublist count _) digits
  rw [FloatLayout.text]
  by_cases plain : layout.plainFrom ≤ d.exponent + (Nat.toDigits 10 d.digits).length - 1 ∧
      d.exponent + (Nat.toDigits 10 d.digits).length - 1 < layout.plainBelow
  · rw [if_pos plain]
    by_cases whole : 0 ≤ d.exponent
    · rw [if_pos whole]
      exact printable_append (printable_append digits (printable_zeros _)) (by decide)
    · rw [if_neg whole]
      by_cases leading : 0 ≤ d.exponent + (Nat.toDigits 10 d.digits).length - 1
      · rw [if_pos leading]
        exact printable_append (start _) (printable_cons (by decide) (rest _))
      · rw [if_neg leading]
        exact printable_append (printable_cons (by decide) (printable_cons (by decide)
          (printable_zeros _))) digits
  · rw [if_neg plain]
    have sign : ∀ power : Int, 0x20 ≤ (if power < 0 then '-' else '+').toNat := by
      intro power
      by_cases below : power < 0
      · rw [if_pos below]
        decide
      · rw [if_neg below]
        decide
    refine printable_append (printable_append (start 1) ?_)
      (printable_cons (by decide) (printable_cons (sign _) (printable_toDigits _)))
    by_cases single : (Nat.toDigits 10 d.digits).length ≤ 1
    · rw [if_pos single]
      exact printable_nil
    · rw [if_neg single]
      exact printable_cons (by decide) (rest 1)

theorem printable_render (layout : FloatLayout) (x : Binary64) : Printable (layout.render x) := by
  have magnitude := printable_floatText layout (Shortest.decimal x)
  rw [FloatLayout.render]
  by_cases negative : x.negative = true
  · rw [if_pos negative]
    exact printable_cons (by decide) magnitude
  · rw [if_neg negative]
    exact magnitude

mutual

theorem printable_text : ∀ value : Json, Printable (text value)
  | .null => by decide
  | .bool true => by decide
  | .bool false => by decide
  | .int n => printable_intText n
  | .float value => printable_render floatLayout value
  | .str s => printable_stringText s
  | .arr items =>
      printable_append (printable_cons (by decide) (printable_itemsText items)) (by decide)
  | .obj members =>
      printable_append (printable_cons (by decide) (printable_membersText members)) (by decide)

theorem printable_itemsText : ∀ items : List Json, Printable (itemsText items)
  | [] => printable_nil
  | item :: rest =>
      printable_append (printable_text item) (printable_furtherItemsText rest)

theorem printable_furtherItemsText : ∀ items : List Json, Printable (furtherItemsText items)
  | [] => printable_nil
  | item :: rest =>
      printable_append (printable_cons (by decide) (printable_text item))
        (printable_furtherItemsText rest)

theorem printable_membersText : ∀ members : List (String × Json),
    Printable (membersText members)
  | [] => printable_nil
  | (name, value) :: rest =>
      printable_append (printable_append (printable_stringText name)
        (printable_cons (by decide) (printable_text value)))
          (printable_furtherMembersText rest)

theorem printable_furtherMembersText : ∀ members : List (String × Json),
    Printable (furtherMembersText members)
  | [] => printable_nil
  | (name, value) :: rest =>
      printable_append (printable_append (printable_cons (by decide) (printable_stringText name))
        (printable_cons (by decide) (printable_text value)))
          (printable_furtherMembersText rest)

end

end Json
end CompilerRelay
