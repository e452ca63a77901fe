import CompilerRelay.Proofs.Json.Quotation
import CompilerRelay.Proofs.Message.Identifier

/-!
# Lines with stray characters

A line is read twice before it is given up: as a message, and, if that fails, as
any value, for the identifier that it may carry.  Both readings take it to its
end, so neither gets past a character outside of the strings that is not ASCII.
Such a line belongs to no job, whatever else stands on it.  Only the blanks at
both ends are exempt, of which some are not ASCII.
-/

namespace CompilerRelay

open Reader Json

namespace Message
namespace Tagged

/-! ## Readers of messages -/

theorem takes_tag : Takes Anything tag Anything := by
  refine takes_peekToken fun token => ?_
  split
  · refine takes_string fun name => ?_
    split
    · exact takes_pure _
    · exact takes_fail _ _
  · exact takes_of_refuses (refuseNext_refuses _)

theorem takes_gather (gathered : Gathered) (name : String) :
    Takes Anything (gather gathered name) Anything := by
  unfold gather
  split
  · split
    · exact takes_of_refuses (refuseAtEnd_refuses _ _)
    · exact takes_colon.bind fun _ => takes_tag.bind fun tag => takes_pure _
  · exact takes_colon.bind fun _ => (takes_value _).bind fun content => takes_pure _

theorem takes_ofObject : Takes Anything ofObject Anything := by
  refine (takes_members takes_gather (none, [])).bind fun gathered => ?_
  split
  · exact takes_of_refuses (refuseAtEnd_refuses _ _)
  · exact (takes_skip rfl).bind fun _ => takes_pure _

theorem takes_furtherElements : Takes Anything furtherElements (Faces (some ']')) := by
  refine takes_peekToken fun token => ?_
  split
  · exact takes_fail _ _
  · exact takes_pure _
  · refine (takes_skip rfl).bind fun _ => takes_peekToken fun token => ?_
    split
    · exact takes_fail _ _
    · exact takes_fail _ _
    · exact takes_get fun rest => takes_itemsFrom (takes_value _) _
  · exact takes_fail _ _

theorem takes_ofArray : Takes Anything ofArray Anything := by
  refine takes_peekToken fun token => ?_
  split
  · exact takes_fail _ _
  · exact takes_of_refuses (refuseAtEnd_refuses _ _)
  · refine takes_tag.anyway.bind fun tag => takes_furtherElements.bind fun others => ?_
    exact (takes_skip rfl).bind fun _ => takes_pure _

theorem takes_reader : Takes Anything reader Anything := by
  refine takes_peekToken fun token => ?_
  split
  · exact (takes_skip rfl).bind fun _ => takes_ofObject
  · exact (takes_skip rfl).bind fun _ => takes_ofArray
  · exact takes_of_refuses (refuseNext_refuses _)

end Tagged

/-! ## Both readings of a line -/

theorem eq_ok_of_mapError {ε δ α : Type} {made : Except ε α} {wording : ε → δ} {value : α}
    (accepted : made.mapError wording = .ok value) : made = .ok value := by
  cases made with
  | error complaint => cases accepted
  | ok other => exact congrArg Except.ok (Except.ok.inj accepted)

/-- What is accepted as a message is ASCII outside of its strings. -/
theorem asciiOutside_of_parse {text : List Char} {message : Message}
    (parsed : parse text = .ok message) : AsciiOutside .outside text := by
  rcases except_bind_eq_ok_iff.mp parsed with ⟨⟨tagged, rest⟩, read, parsed⟩
  rcases except_bind_eq_ok_iff.mp parsed with ⟨made, _, parsed⟩
  rcases except_bind_eq_ok_iff.mp parsed with ⟨⟨_, behind⟩, ended, _⟩
  exact asciiOutside_of_finish Tagged.takes_reader (eq_ok_of_mapError read)
    (eq_ok_of_mapError ended)

/-- So is what gives an identifier. -/
theorem asciiOutside_of_recoverId {text : List Char} {id : Nat}
    (recovered : recoverId text = some id) : AsciiOutside .outside text := by
  rcases Option.bind_eq_some_iff.mp recovered with ⟨value, parsed, _⟩
  rcases parse?_eq_some parsed with ⟨rest, behind, read, ended⟩
  exact asciiOutside_of_finish (takes_value depthLimit) read ended

end Message

/-! ## Blanks at both ends -/

namespace Text

/-- No string is opened by blanks. -/
theorem after_dropWhile_isBlank (text : List Char) :
    Quotation.outside.after (text.dropWhile isBlank) = Quotation.outside.after text := by
  induction text with
  | nil => rfl
  | cons c rest inductionHypothesis =>
      by_cases blank : isBlank c = true
      · have plain : c ≠ '"' := by
          rintro rfl
          cases blank
        rw [List.dropWhile_cons_of_pos blank, inductionHypothesis, Quotation.after,
          Quotation.after, List.foldl_cons, Quotation.next_outside plain]
      · rw [List.dropWhile_cons_of_neg blank]

section

variable {c : Char} (visible : isBlank c = false)

include visible

theorem dropWhile_isBlank_append_cons (before after : List Char) :
    (before ++ c :: after).dropWhile isBlank = before.dropWhile isBlank ++ c :: after := by
  rw [List.dropWhile_append, List.dropWhile_cons_of_neg (Bool.eq_false_iff.mp visible)]
  split
  · next none => rw [List.isEmpty_iff.mp none, List.nil_append]
  · rfl

/-- Trimming stops at a character that is no blank, from both ends. -/
theorem trim_append_cons (before after : List Char) :
    trim (before ++ c :: after) = before.dropWhile isBlank ++ c :: trimEnd after := by
  have ending : (before.dropWhile isBlank ++ c :: after).reverse =
      after.reverse ++ c :: (before.dropWhile isBlank).reverse := by
    rw [List.reverse_append, List.reverse_cons, List.append_assoc, List.singleton_append]
  rw [trim, dropWhile_isBlank_append_cons visible, trimEnd, ending,
    dropWhile_isBlank_append_cons visible, List.reverse_append, List.reverse_cons,
    List.reverse_reverse, List.append_assoc, List.singleton_append, ← trimEnd]

end

end Text

namespace CompilerEvent

open Message

/-- A line tells something if there is anything on it but blanks. -/
theorem told_of_visible {line : List Char} {c : Char} (listed : c ∈ line)
    (visible : Text.isBlank c = false) :
    ∃ event, ofLine line = some event ∧ event ≠ .exited := by
  rcases told_cases line with ⟨blank, _⟩ | ⟨_, told⟩
  · have hidden := (isEmpty_trim_iff line).mp blank c listed
    rw [visible] at hidden
    cases hidden
  · exact told

theorem ofLine_of_lost {line : List Char} {reason : String}
    (visible : (Text.trim line).isEmpty = false)
    (failed : Message.parse (Text.trim line) = .error reason)
    (lost : recoverId (Text.trim line) = none) : ofLine line = some (.unmatched reason) := by
  simp only [ofLine, visible, Bool.false_eq_true, if_false, failed, lost]

/-- A line is unmatched if outside of its strings there is a character that is
neither ASCII nor a blank. -/
theorem ofLine_of_stray {before after : List Char} {c : Char} (foreign : 0x80 ≤ c.toNat)
    (visible : Text.isBlank c = false) (outside : Quotation.outside.after before = .outside) :
    ∃ reason, ofLine (before ++ c :: after) = some (.unmatched reason) := by
  have trimmed := Text.trim_append_cons visible before after
  have stray : ¬ AsciiOutside .outside (Text.trim (before ++ c :: after)) := by
    rw [trimmed]
    intro text
    refine Nat.not_le_of_lt (ascii_of_asciiOutside text ?_) foreign
    rw [Text.after_dropWhile_isBlank, outside]
  have filled : (Text.trim (before ++ c :: after)).isEmpty = false := by
    rw [trimmed, List.isEmpty_eq_false_iff]
    exact List.append_ne_nil_of_right_ne_nil _ (List.cons_ne_nil _ _)
  cases parsed : Message.parse (Text.trim (before ++ c :: after)) with
  | ok message => exact absurd (asciiOutside_of_parse parsed) stray
  | error reason =>
      cases recovered : recoverId (Text.trim (before ++ c :: after)) with
      | some id => exact absurd (asciiOutside_of_recoverId recovered) stray
      | none => exact ⟨reason, ofLine_of_lost filled parsed recovered⟩

end CompilerEvent
end CompilerRelay
