import CompilerRelay.Proofs.Compiler.Output
import CompilerRelay.Proofs.Message.Quotation

/-!
# Output that is not UTF-8

A line is decoded before it is read as a message, and each broken piece becomes
a replacement character.  Outside of the strings of a message there is no place
for that character, so there a broken piece spoils the line: it is told as
output that belongs to no job.

In a string there is.  A line that is broken in its strings alone reads as one
that its compiler wrote with replacement characters, and if that is a message,
it is accepted.  So corrupted output is not always unmatched.
-/

namespace CompilerRelay
namespace Compiler
namespace Output

open Text.Utf8 Json

/-- Bytes that begin as one text and end as another, with a byte between them
that occurs in no text. -/
def spoilt (before after : List Char) : List UInt8 :=
  encode before ++ 0xFF :: encode after

theorem breaks_spoilt (before after : List Char) : Breaks (spoilt before after) before := by
  have broken : Breaks (0xFF :: encode after) [] := .here rfl
  have behind := broken.encode_append before
  rw [List.append_nil] at behind
  exact behind

theorem decode?_spoilt (before after : List Char) : decode? (spoilt before after) = none :=
  decode?_eq_none_iff.mpr ⟨before, breaks_spoilt before after⟩

theorem eventOf_spoilt (before after : List Char) :
    eventOf (spoilt before after) = CompilerEvent.ofLine (before ++ replacement :: after) := by
  have broken : character 0xFF (encode after) = (none, encode after) := rfl
  rw [eventOf, spoilt, decodeLossy_encode_append, decodeLossy, broken, decodeLossy_encode]
  rfl

/-- What is true of a line that is not UTF-8.  It always tells something, but
not always that it could not be read: that is certain only if a broken piece
stands outside of the strings. -/
structure Corrupted (line : List UInt8) : Prop where
  /-- Wherever the line stands in a stream, one thing is told of it there, and
  it is not that the compiler is gone. -/
  told : ∃ event, eventOf line = some event ∧ event ≠ .exited ∧
    ∀ stream earlier later, stream.splitOn lineFeed = earlier ++ line :: later →
      events stream = earlier.filterMap eventOf ++ event :: (later.filterMap eventOf ++ [.exited])
  /-- The line is unmatched if any of its broken pieces is outside of the
  strings. -/
  unmatched : ∀ before, Breaks line before → Quotation.outside.after before = .outside →
    ∃ reason, eventOf line = some (.unmatched reason)
  /-- In any case it tells what a line of UTF-8 does, in which a replacement
  character stands for each broken piece. -/
  disguised : ∃ text, decodeLossy line = text ∧ replacement ∈ text ∧
    decode? (encode text) = some text ∧ eventOf line = eventOf (encode text)

theorem replacement_visible : Text.isBlank replacement = false :=
  rfl

/-- Bytes that are not UTF-8 are never ignored, and are unmatched unless strings
hide them. -/
theorem corrupted {line : List UInt8} (invalid : decode? line = none) : Corrupted line where
  told := by
    rcases CompilerEvent.told_of_visible (replacement_mem_decodeLossy invalid)
      replacement_visible with ⟨event, told, alive⟩
    refine ⟨event, told, alive, fun stream earlier later lines => ?_⟩
    have here : eventOf line = some event := told
    rw [events_eq, lines, List.filterMap_append, List.filterMap_cons_some here,
      List.append_assoc, List.cons_append]
  unmatched := by
    intro before breaks outside
    rcases breaks.decoded with ⟨after, decoded⟩
    rw [eventOf, decoded]
    exact CompilerEvent.ofLine_of_stray (by decide) replacement_visible outside
  disguised := by
    refine ⟨_, rfl, replacement_mem_decodeLossy invalid, decode?_encode _, ?_⟩
    rw [eventOf, eventOf, decodeLossy_encode]

def torn : List UInt8 :=
  spoilt "\x7b\"type\":\"ready\"".toList "\x7d".toList

theorem corrupted_torn : decode? torn = none ∧ Corrupted torn ∧
    ∃ reason, eventOf torn = some (.unmatched reason) := by
  have invalid : decode? torn = none := decode?_spoilt _ _
  have spoils := corrupted invalid
  exact ⟨invalid, spoils, spoils.unmatched _ (breaks_spoilt _ _) (by decide)⟩

/-! ## Corrupted strings -/

/-- Bytes that are not UTF-8 may be accepted as a result. -/
theorem corrupted_accepted :
    let line := spoilt "\x7b\"id\":1,\"result\":\"".toList "\",\"type\":\"result\"\x7d".toList
    eventOf line = some (.response 1 (.ok (.str "\uFFFD"))) ∧
      ¬ ∀ line, lineFeed ∉ line → decode? line = none →
        ∃ reason, eventOf line = some (.unmatched reason) := by
  intro line
  have told : eventOf line = some (.response 1 (.ok (.str "\uFFFD"))) := by
    -- Decoded, the line is a result that is one replacement character.
    rw [eventOf_spoilt, ← CompilerEvent.ofLine_result (by decide) (legible_str 126 "\uFFFD")]
    exact congrArg CompilerEvent.ofLine (by decide)
  refine ⟨told, fun unmatched => ?_⟩
  rcases unmatched line (by decide) (decode?_spoilt _ _) with ⟨reason, other⟩
  rw [told] at other
  cases other

end Output
end Compiler
end CompilerRelay
