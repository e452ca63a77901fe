import CompilerRelay.Compiler.Output
import CompilerRelay.EventLoop
import CompilerRelay.Proofs.Message.Identifier
import CompilerRelay.Proofs.Text.Utf8

/-!
# What a compiler writes

A reader takes bytes up to a line feed, decodes them, and says what they tell
before it takes more (`relay`).  So it never sees the whole stream, and what it
says must not depend on where the bytes of one line meet those of another.

A line feed is a byte of ASCII, and decoding neither swallows it nor makes one.
Cutting a stream into lines and decoding it may therefore change places, and a
line is read as it would be alone, whatever broken pieces stand around it.
-/

namespace CompilerRelay

namespace Text

/-- A blank at the end of a line makes no difference. -/
theorem trim_append_blank (text : List Char) {c : Char} (blank : isBlank c = true) :
    trim (text ++ [c]) = trim text := by
  have ending : ∀ rest, trimEnd (rest ++ [c]) = trimEnd rest := by
    intro rest
    rw [trimEnd, List.reverse_append, List.reverse_singleton, List.singleton_append,
      List.dropWhile_cons_of_pos blank, ← trimEnd]
  rw [trim, trim, List.dropWhile_append]
  split
  · next none =>
      rw [List.isEmpty_iff.mp none, List.dropWhile_cons_of_pos blank, List.dropWhile_nil]
  · exact ending _

end Text

namespace Compiler
namespace Output

open Text.Utf8

/-! ## Cutting at line feeds -/

theorem cut_cons_of_ne {byte : UInt8} (different : byte ≠ lineFeed) (rest : List UInt8) :
    cut (byte :: rest) = match (cut rest).1 with
      | [] => ([], byte :: (cut rest).2)
      | line :: lines => ((byte :: line) :: lines, (cut rest).2) := by
  rw [cut]
  exact if_neg different

/-- A line and its line feed are cut off together. -/
theorem cut_line {line : List UInt8} (whole : lineFeed ∉ line) (rest : List UInt8) :
    cut (line ++ lineFeed :: rest) = (line :: (cut rest).1, (cut rest).2) := by
  induction line with
  | nil => rw [List.nil_append, cut, if_pos rfl]
  | cons byte more inductionHypothesis =>
      have different : byte ≠ lineFeed := Ne.symm (List.ne_of_not_mem_cons whole)
      have others := inductionHypothesis (List.not_mem_of_not_mem_cons whole)
      rw [List.cons_append, cut_cons_of_ne different, others]

/-- A line that is complete stays as it is when more is written. -/
theorem cut_begun {first whole : List UInt8} (begun : first <+: whole) :
    (cut first).1 <+: (cut whole).1 := by
  rcases begun with ⟨rest, rfl⟩
  induction first with
  | nil => exact List.nil_prefix
  | cons byte more inductionHypothesis =>
      rw [List.cons_append]
      by_cases same : byte = lineFeed
      · rw [cut, cut, if_pos same, if_pos same]
        exact List.cons_prefix_cons.mpr ⟨rfl, inductionHypothesis⟩
      · rw [cut_cons_of_ne same, cut_cons_of_ne same]
        rcases complete : (cut more).1 with _ | ⟨line, lines⟩
        · exact List.nil_prefix
        · rw [complete] at inductionHypothesis
          rcases inductionHypothesis with ⟨further, longer⟩
          rw [← longer]
          exact ⟨further, rfl⟩

/-- The piece that is left belongs to the lines when the stream has ended. -/
theorem cut_splitOn (stream : List UInt8) :
    (cut stream).1 ++ [(cut stream).2] = stream.splitOn lineFeed := by
  induction stream with
  | nil => rfl
  | cons byte rest inductionHypothesis =>
      rw [List.splitOn_cons_eq_if_modifyHead, ← inductionHypothesis]
      by_cases same : byte = lineFeed
      · rw [cut, if_pos same, if_pos (beq_iff_eq.mpr same)]
        rfl
      · rw [cut_cons_of_ne same, if_neg (same ∘ beq_iff_eq.mp)]
        cases (cut rest).1 with
        | nil => rfl
        | cons line lines => rfl

theorem splitOn_append {α : Type} [BEq α] [LawfulBEq α] (separator : α) (first rest : List α) :
    (first ++ separator :: rest).splitOn separator =
      first.splitOn separator ++ rest.splitOn separator :=
  List.splitOnP_append_cons first rest (beq_self_eq_true separator)

/-- A stream is one line without a line feed, or such a line, a line feed and a
stream. -/
theorem line_induction {motive : List UInt8 → Prop}
    (last : ∀ line, lineFeed ∉ line → motive line)
    (line : ∀ line rest, lineFeed ∉ line → motive rest → motive (line ++ lineFeed :: rest))
    (stream : List UInt8) : motive stream := by
  induction size : stream.length using Nat.strong_induction_on generalizing stream with
  | _ size' inductionHypothesis =>
      subst size
      by_cases more : lineFeed ∈ stream
      · rcases List.eq_append_cons_of_mem more with ⟨first, rest, rfl, whole⟩
        refine line first rest whole (inductionHypothesis _ ?_ rest rfl)
        rw [List.length_append, List.length_cons]
        omega
      · exact last stream more

/-! ## Cutting and decoding -/

theorem decodeLossy_line (first rest : List UInt8) :
    decodeLossy (first ++ lineFeed :: rest) = decodeLossy first ++ '\n' :: decodeLossy rest :=
  decodeLossy_append (by decide) first rest

/-- A line is decoded as a line. -/
theorem not_mem_decodeLossy {line : List UInt8} (whole : lineFeed ∉ line) :
    '\n' ∉ decodeLossy line := by
  intro listed
  rcases byte_of_decodeLossy (by decide) (by decide) listed with ⟨byte, found, same⟩
  have equal : byte = lineFeed := UInt8.toNat_inj.mp same
  exact whole (equal ▸ found)

/-- It makes no difference whether a stream is first cut or first decoded. -/
theorem decodeLossy_splitOn (stream : List UInt8) :
    (stream.splitOn lineFeed).map decodeLossy = (decodeLossy stream).splitOn '\n' := by
  induction stream using line_induction with
  | last line whole =>
      rw [List.splitOn_eq_singleton whole, List.splitOn_eq_singleton (not_mem_decodeLossy whole)]
      rfl
  | line line rest whole inductionHypothesis =>
      rw [splitOn_append, List.map_append, inductionHypothesis, decodeLossy_line, splitOn_append,
        List.splitOn_eq_singleton whole, List.splitOn_eq_singleton (not_mem_decodeLossy whole)]
      rfl

/-! ## What is told -/

/-- What is told is what each line tells, and then that the compiler is gone. -/
theorem events_eq (stream : List UInt8) :
    events stream = (stream.splitOn lineFeed).filterMap eventOf ++ [.exited] := by
  rw [events, heard, ← cut_splitOn, List.filterMap_append,
    List.filterMap_eq_flatMap_toList _ [_], List.flatMap_singleton]

/-- A line feed at the end of a line is a blank. -/
theorem eventOf_line (line : List UInt8) : eventOf (line ++ [lineFeed]) = eventOf line := by
  have decoded : decodeLossy (line ++ [lineFeed]) = decodeLossy line ++ ['\n'] := by
    rw [decodeLossy_line, decodeLossy]
  rw [eventOf, decoded, CompilerEvent.ofLine, Text.trim_append_blank _ (by decide)]
  rfl

theorem dropLast_events (stream : List UInt8) :
    (events stream).dropLast = (stream.splitOn lineFeed).filterMap eventOf := by
  rw [events_eq, List.dropLast_concat]

/-- What stands after a line feed is told as if it were the whole stream. -/
theorem events_append (first rest : List UInt8) :
    events (first ++ lineFeed :: rest) = (events first).dropLast ++ events rest := by
  rw [dropLast_events, events_eq, events_eq, splitOn_append, List.filterMap_append,
    List.append_assoc]

theorem events_last {line : List UInt8} (whole : lineFeed ∉ line) :
    events line = (eventOf line).toList ++ [.exited] := by
  rw [events_eq, List.splitOn_eq_singleton whole, List.filterMap_eq_flatMap_toList,
    List.flatMap_singleton]

theorem events_line {line : List UInt8} (whole : lineFeed ∉ line) (rest : List UInt8) :
    events (line ++ lineFeed :: rest) = (eventOf line).toList ++ events rest := by
  rw [events_append, events_last whole, List.dropLast_concat]

theorem events_nil : events [] = [.exited] := by
  have silent : eventOf [] = none := by
    rw [eventOf, decodeLossy]
    rfl
  rw [events_last List.not_mem_nil, silent]
  rfl

/-- What was told of complete lines is told of every longer stream. -/
theorem heard_prefix (stream more : List UInt8) : heard stream <+: events (stream ++ more) := by
  have longer : heard stream <+: heard (stream ++ more) :=
    (cut_begun (List.prefix_append stream more)).filterMap eventOf
  rw [events, List.append_assoc]
  exact longer.trans (List.prefix_append _ _)

/-! ## The reader -/

/-- Take bytes up to a line feed, which is taken too, or to the end. -/
def readUntil : List UInt8 → List UInt8 × List UInt8
  | [] => ([], [])
  | byte :: rest =>
    if byte = lineFeed then ([byte], rest)
    else
      let more := readUntil rest
      (byte :: more.1, more.2)

theorem readUntil_line {line : List UInt8} (whole : lineFeed ∉ line) (rest : List UInt8) :
    readUntil (line ++ lineFeed :: rest) = (line ++ [lineFeed], rest) := by
  induction line with
  | nil => exact if_pos rfl
  | cons byte more inductionHypothesis =>
      have different : byte ≠ lineFeed := Ne.symm (List.ne_of_not_mem_cons whole)
      rw [List.cons_append, readUntil, if_neg different,
        inductionHypothesis (List.not_mem_of_not_mem_cons whole)]
      rfl

theorem readUntil_last {line : List UInt8} (whole : lineFeed ∉ line) :
    readUntil line = (line, []) := by
  induction line with
  | nil => rfl
  | cons byte more inductionHypothesis =>
      have different : byte ≠ lineFeed := Ne.symm (List.ne_of_not_mem_cons whole)
      rw [readUntil, if_neg different, inductionHypothesis (List.not_mem_of_not_mem_cons whole)]

theorem readUntil_length (byte : UInt8) (rest : List UInt8) :
    (readUntil (byte :: rest)).2.length < (byte :: rest).length := by
  induction rest generalizing byte with
  | nil =>
      rw [readUntil]
      split <;> exact Nat.zero_lt_one
  | cons next more inductionHypothesis =>
      rw [readUntil]
      split
      · exact Nat.lt_succ_self _
      · exact (inductionHypothesis next).trans (Nat.lt_succ_self _)

/-- Read a stream to its end and post what it tells, as long as there is
anybody to hear it. -/
def relay {σ : Type} (generation : Nat) : List UInt8 → EventLoop σ → EventLoop σ
  | [], loop => (loop.emit generation .exited).1
  | byte :: rest, loop =>
    let read := readUntil (byte :: rest)
    match eventOf read.1 with
    | none => relay generation read.2 loop
    | some event =>
      let told := loop.emit generation event
      if told.2 then relay generation read.2 told.1 else told.1
termination_by stream => stream.length
decreasing_by all_goals exact readUntil_length byte rest

section

variable {σ : Type} (generation : Nat) {stream line : List UInt8}

/-- The loop once it was posted what a compiler tells. -/
def hear (events : List CompilerEvent) (loop : EventLoop σ) : EventLoop σ :=
  { loop with pending := loop.pending ++ events.map (.compiler generation) }

theorem hear_append (first second : List CompilerEvent) (loop : EventLoop σ) :
    hear generation second (hear generation first loop) =
      hear generation (first ++ second) loop := by
  simp only [hear, List.map_append, List.append_assoc]

theorem emit_of_running (loop : EventLoop σ) (running : loop.supervisor.halted = false)
    (event : CompilerEvent) :
    loop.emit generation event = (hear generation [event] loop, true) := by
  rw [EventLoop.emit, running]
  rfl

theorem relay_nil (loop : EventLoop σ) (running : loop.supervisor.halted = false) :
    relay generation [] loop = hear generation [.exited] loop := by
  rw [relay, emit_of_running generation loop running]

/-- One turn of the reader, if there is anything to read. -/
theorem relay_of_read (loop : EventLoop σ) (running : loop.supervisor.halted = false)
    {rest : List UInt8} (more : stream ≠ []) (read : readUntil stream = (line, rest)) :
    relay generation stream loop =
      relay generation rest (hear generation (eventOf line).toList loop) := by
  cases stream with
  | nil => exact absurd rfl more
  | cons byte others =>
      rw [relay, read]
      cases told : eventOf line with
      | none => simp only [hear, Option.toList_none, List.map_nil, List.append_nil]
      | some event =>
          simp only [emit_of_running generation loop running, if_true, Option.toList_some]

/-- The reader posts what the stream tells. -/
theorem relay_eq (loop : EventLoop σ) (running : loop.supervisor.halted = false) :
    relay generation stream loop = hear generation (events stream) loop := by
  induction stream using line_induction generalizing loop with
  | last line whole =>
      by_cases none : line = []
      · rw [none, relay_nil generation loop running, events_nil]
      · rw [relay_of_read generation loop running none (readUntil_last whole),
          relay_nil generation (hear generation (eventOf line).toList loop) running, hear_append,
          events_last whole]
  | line line rest whole inductionHypothesis =>
      have more : line ++ lineFeed :: rest ≠ [] :=
        List.append_ne_nil_of_right_ne_nil line (List.cons_ne_nil _ _)
      rw [relay_of_read generation loop running more (readUntil_line whole rest), eventOf_line,
        inductionHypothesis (hear generation (eventOf line).toList loop) running, hear_append,
        events_line whole]

end

/-- What is true of a stream of bytes that a compiler writes until it is gone.
Nothing is assumed of the bytes: they need not be UTF-8, nor be messages, nor
end with a line feed. -/
structure Segmented (stream : List UInt8) : Prop where
  /-- The reader posts all that the stream tells, in order, if the supervisor
  still runs. -/
  relayed : ∀ {σ : Type} (loop : EventLoop σ) (generation : Nat),
    loop.supervisor.halted = false → relay generation stream loop =
      { loop with pending := loop.pending ++ (events stream).map (.compiler generation) }
  /-- It tells what its lines tell, and in the end that the compiler is gone. -/
  lines : events stream =
    ((stream.splitOn lineFeed).map decodeLossy).filterMap CompilerEvent.ofLine ++ [.exited]
  /-- A line tells nothing only if it is blank. -/
  blank : ∀ text, CompilerEvent.ofLine text = none ↔ ∀ c ∈ text, Text.isBlank c = true
  /-- No line tells that the compiler is gone. -/
  once : ∀ text, CompilerEvent.ofLine text ≠ some .exited
  /-- The lines may as well be cut after decoding. -/
  texts : (stream.splitOn lineFeed).map decodeLossy = (decodeLossy stream).splitOn '\n'
  /-- What the complete lines tell is told whatever follows. -/
  early : ∀ more, heard stream <+: events (stream ++ more)
  /-- After a line feed it goes on as another stream. -/
  continued : ∀ first, stream = first ++ [lineFeed] → ∀ second,
    events (stream ++ second) = (events stream).dropLast ++ events second
  /-- A line tells the same whatever stands before and after it, and takes no
  part in what they tell. -/
  apart : ∀ line, lineFeed ∉ line → ∀ more,
    events (stream ++ lineFeed :: (line ++ lineFeed :: more)) =
      (events stream).dropLast ++ (eventOf line).toList ++ events more

/-- Whatever bytes a compiler writes, its lines are read one by one. -/
theorem segmented (stream : List UInt8) : Segmented stream where
  relayed loop generation running := relay_eq generation loop running
  lines := by
    rw [events_eq, List.filterMap_map]
    rfl
  blank text := by
    rw [← CompilerEvent.isEmpty_trim_iff]
    rcases CompilerEvent.told_cases text with ⟨blank, none⟩ | ⟨visible, event, told, _⟩
    · exact ⟨fun _ => blank, fun _ => none⟩
    · rw [told, visible]
      simp only [reduceCtorEq]
  once text := by
    rcases CompilerEvent.told_cases text with ⟨_, none⟩ | ⟨_, event, told, alive⟩
    · rw [none]
      exact (Option.some_ne_none _).symm
    · rw [told]
      exact fun same => alive (Option.some.inj same)
  texts := decodeLossy_splitOn stream
  early := heard_prefix stream
  continued := by
    rintro first rfl second
    rw [List.append_assoc, List.singleton_append, events_append, events_append, events_nil,
      List.dropLast_concat]
  apart line whole more := by
    rw [events_append, events_line whole, List.append_assoc]

/-- A broken character before a line feed, an empty line that ends in a carriage
return, and a last line without a line feed. -/
def broken : List UInt8 :=
  [0xE2, 0x82, 0x0A, 0x0D, 0x0A, 0x00, 0xFF]

theorem segmented_broken : ∃ first last,
    events broken = [.unmatched first, .unmatched last, .exited] := by
  have texts : (broken.splitOn lineFeed).map decodeLossy =
      [['\uFFFD'], ['\r'], ['\x00', '\uFFFD']] := by
    have cuts : broken.splitOn lineFeed = [[0xE2, 0x82], [0x0D], [0x00, 0xFF]] := by decide
    have first : character 0xE2 [0x82] = (none, []) := by decide
    have second : character 0x0D [] = (some '\r', []) := by decide
    have third : character 0x00 [0xFF] = (some '\x00', [0xFF]) := by decide
    have fourth : character 0xFF [] = (none, []) := by decide
    simp only [cuts, List.map_cons, List.map_nil, decodeLossy, first, second, third, fourth]
    rfl
  have lines := (segmented broken).lines
  rw [texts] at lines
  exact ⟨_, _, lines.trans rfl⟩

end Output
end Compiler
end CompilerRelay
