import CompilerRelay.Compiler.Input
import CompilerRelay.Proofs.Compiler.Output
import CompilerRelay.Proofs.Job

/-!
# What a compiler is given to read

Offers and the work of the writer may follow one another in any order
(`Input.Work`).  Nothing is lost and nothing is doubled: what was written, what
the writer has in hand and what waits are together the lines of the jobs that
were accepted, in that order.  When a write fails the rest of them is gone, but
what was written is still where they begin.

No line holds a line feed, so the lines can be told apart again, and each of
them tells its job.
-/

namespace CompilerRelay
namespace Compiler
namespace Input

/-! ## The lines of several jobs -/

/-- All that a compiler reads if it is given the jobs. -/
def stream (jobs : List Job) : List UInt8 :=
  jobs.flatMap fun job => bytesOf job.line

theorem stream_append (first second : List Job) :
    stream (first ++ second) = stream first ++ stream second :=
  List.flatMap_append

theorem lineFeed_not_mem (job : Job) :
    Output.lineFeed ∉ Text.Utf8.encode job.line.toList := by
  intro member
  rcases List.mem_flatMap.mp member with ⟨c, listed, within⟩
  have code : c.toNat = 10 := Text.Utf8.eq_of_ascii (by decide) within
  have printable := Job.printable_line job c listed
  omega

/-- The stream of several jobs is cut into their lines. -/
theorem cut_stream (jobs : List Job) : Output.cut (stream jobs) =
    (jobs.map fun job => Text.Utf8.encode job.line.toList, []) := by
  induction jobs with
  | nil => rfl
  | cons job rest inductionHypothesis =>
      rw [stream, List.flatMap_cons, bytesOf, List.append_assoc, List.singleton_append,
        Output.cut_line (lineFeed_not_mem job)]
      change (_ :: (Output.cut (stream rest)).1, (Output.cut (stream rest)).2) = _
      rw [inductionHypothesis]
      rfl

/-! ## The works of a channel and its writer -/

/-- One thing that happens to the input of a compiler.  The writer works by
itself, so its works may stand anywhere between the offers. -/
inductive Work where
  | offer (job : Job)
  /-- The writer takes the next line, if it is done with the last one. -/
  | take
  /-- The writer writes so many bytes of what it has, or what there is. -/
  | put (count : Nat)
  /-- A write fails. -/
  | fail
  deriving DecidableEq

/-- The input after a work, and the job if one was accepted. -/
def perform (input : Input) : Work → Input × List Job
  | .offer job =>
    match input.offer job with
    | .ok after => (after, [job])
    | .error _ => (input, [])
  | .take => (input.take, [])
  | .put count => (input.put count, [])
  | .fail => (input.fail, [])

/-- The input after several works, and the jobs that were accepted, in order. -/
def performAll (input : Input) : List Work → Input × List Job
  | [] => (input, [])
  | work :: rest =>
    let first := input.perform work
    let others := first.1.performAll rest
    (others.1, first.2 ++ others.2)

/-- A job is refused when the writer has stopped or the queue is full. -/
theorem offer_of_refused {input : Input}
    (refused : input.broken = true ∨ capacity ≤ input.waiting.length) (job : Job) :
    input.offer job = .error refusal :=
  if_pos refused

theorem offer_of_accepted {input : Input}
    (accepted : ¬ (input.broken = true ∨ capacity ≤ input.waiting.length)) (job : Job) :
    input.offer job = .ok { input with waiting := input.waiting ++ [job.line] } :=
  if_neg accepted

theorem offer_refused_iff (input : Input) (job : Job) :
    (∃ failure, input.offer job = .error failure) ↔
      input.broken = true ∨ capacity ≤ input.waiting.length := by
  by_cases refused : input.broken = true ∨ capacity ≤ input.waiting.length
  · exact ⟨fun _ => refused, fun _ => ⟨refusal, offer_of_refused refused job⟩⟩
  · rw [offer_of_accepted refused]
    exact ⟨fun ⟨_, impossible⟩ => (nomatch impossible), fun held => absurd held refused⟩

/-- What is left of the lines of the jobs that were accepted. -/
def left (input : Input) : List UInt8 :=
  input.hand ++ input.waiting.flatMap bytesOf

/-- The input holds the lines of the jobs, up to what failed to be written.  As
long as no write failed nothing is lost; afterwards what was written is still a
beginning of the whole. -/
structure Conserves (input : Input) (jobs : List Job) : Prop where
  whole : input.broken = false → input.written ++ input.left = stream jobs
  begun : input.written <+: stream jobs
  bounded : input.waiting.length ≤ capacity
  /-- A writer that has stopped has nothing left to write. -/
  stopped : input.broken = true → input.waiting = [] ∧ input.hand = []

theorem conserves_empty : Conserves {} [] where
  whole := fun _ => rfl
  begun := List.prefix_rfl
  bounded := Nat.zero_le _
  stopped := fun impossible => nomatch impossible

namespace Conserves

variable {input : Input} {jobs : List Job}

theorem offer (conserves : Conserves input jobs) (job : Job) :
    Conserves (input.perform (.offer job)).1 (jobs ++ (input.perform (.offer job)).2) := by
  by_cases refused : input.broken = true ∨ capacity ≤ input.waiting.length
  · rw [perform, offer_of_refused refused, List.append_nil]
    exact conserves
  · rw [perform, offer_of_accepted refused]
    rcases not_or.mp refused with ⟨running, room⟩
    have longer : input.written ++ (input.hand ++ (input.waiting ++ [job.line]).flatMap bytesOf) =
        stream (jobs ++ [job]) := by
      rw [stream_append, ← conserves.whole (Bool.eq_false_iff.mpr running), left,
        List.flatMap_append]
      simp only [List.append_assoc, stream, List.flatMap_singleton]
    refine ⟨fun _ => longer, ⟨_, longer⟩, ?_, fun impossible => absurd impossible running⟩
    rw [List.length_append, List.length_singleton]
    exact Nat.lt_of_not_le room

theorem take (conserves : Conserves input jobs) : Conserves input.take jobs := by
  rcases input with ⟨waiting, hand, written, broken⟩
  cases hand with
  | cons byte more => exact conserves
  | nil =>
      cases waiting with
      | nil => exact conserves
      | cons line rest =>
          have running : broken = false := by
            refine Bool.eq_false_iff.mpr fun ended => ?_
            exact nomatch (conserves.stopped ended).1
          have whole := conserves.whole running
          exact ⟨fun _ => whole, conserves.begun, Nat.le_of_succ_le conserves.bounded,
            fun ended => nomatch running.symm.trans ended⟩

theorem put (conserves : Conserves input jobs) (count : Nat) :
    Conserves (input.put count) jobs := by
  have moved : (input.put count).written ++ (input.put count).left =
      input.written ++ input.left := by
    simp only [Input.put, left, List.append_assoc]
    rw [← List.append_assoc (input.hand.take count), List.take_append_drop]
  refine ⟨fun running => moved.trans (conserves.whole running), ?_, conserves.bounded, ?_⟩
  · cases ended : input.broken with
    | false => exact ⟨_, moved.trans (conserves.whole ended)⟩
    | true =>
        have same : (input.put count).written = input.written := by
          rw [Input.put, (conserves.stopped ended).2, List.take_nil, List.append_nil]
        exact same ▸ conserves.begun
  · intro ended
    rcases conserves.stopped ended with ⟨waiting, hand⟩
    exact ⟨waiting, by rw [Input.put, hand, List.drop_nil]⟩

theorem fail (conserves : Conserves input jobs) : Conserves input.fail jobs where
  whole := fun impossible => nomatch impossible
  begun := conserves.begun
  bounded := Nat.zero_le _
  stopped := fun _ => ⟨rfl, rfl⟩

/-- No work loses or doubles anything. -/
theorem perform (conserves : Conserves input jobs) (work : Work) :
    Conserves (input.perform work).1 (jobs ++ (input.perform work).2) := by
  cases work with
  | offer job => exact conserves.offer job
  | take => exact (List.append_nil jobs).symm ▸ conserves.take
  | put count => exact (List.append_nil jobs).symm ▸ conserves.put count
  | fail => exact (List.append_nil jobs).symm ▸ conserves.fail

theorem performAll (conserves : Conserves input jobs) (works : List Work) :
    Conserves (input.performAll works).1 (jobs ++ (input.performAll works).2) := by
  induction works generalizing input jobs with
  | nil => exact (List.append_nil jobs).symm ▸ conserves
  | cons work rest inductionHypothesis =>
      have others := inductionHypothesis (conserves.perform work)
      rw [List.append_assoc] at others
      exact others

end Conserves

/-! ## The writer stops only when a write fails -/

theorem broken_perform (input : Input) (work : Work) :
    (input.perform work).1.broken = true ↔ input.broken = true ∨ work = .fail := by
  have unaffected : ∀ {after : Input}, after.broken = input.broken → work ≠ .fail →
      (after.broken = true ↔ input.broken = true ∨ work = .fail) := by
    intro after same different
    rw [same, or_iff_left different]
  cases work with
  | offer job =>
      refine unaffected ?_ (nomatch ·)
      by_cases refused : input.broken = true ∨ capacity ≤ input.waiting.length
      · rw [perform, offer_of_refused refused]
      · rw [perform, offer_of_accepted refused]
  | take =>
      refine unaffected ?_ (nomatch ·)
      change input.take.broken = input.broken
      unfold take
      split <;> rfl
  | put count => exact unaffected rfl (nomatch ·)
  | fail => exact ⟨fun _ => .inr rfl, fun _ => rfl⟩

theorem broken_performAll (input : Input) (works : List Work) :
    (input.performAll works).1.broken = true ↔ input.broken = true ∨ .fail ∈ works := by
  induction works generalizing input with
  | nil => exact (or_iff_left List.not_mem_nil).symm
  | cons work rest inductionHypothesis =>
      change ((input.perform work).1.performAll rest).1.broken = true ↔ _
      rw [inductionHypothesis, broken_perform, List.mem_cons, or_assoc, eq_comm (a := work)]

/-! ## The writer that runs -/

theorem performAll_append (input : Input) (first second : List Work) :
    input.performAll (first ++ second) =
      (((input.performAll first).1.performAll second).1,
        (input.performAll first).2 ++ ((input.performAll first).1.performAll second).2) := by
  induction first generalizing input with
  | nil => rfl
  | cons work rest inductionHypothesis =>
      rw [List.cons_append, performAll, inductionHypothesis, performAll, List.append_assoc]

/-- A writer that writes the next line, or fails to, does such works. -/
theorem performAll_of_writeNext (accepts : Bool) (input : Input) :
    ∃ works, input.performAll works = (input.writeNext accepts, []) := by
  unfold writeNext
  by_cases idle : input.take.hand.isEmpty = true
  · exact ⟨[.take], by rw [if_pos idle]; rfl⟩
  · cases accepts with
    | false => exact ⟨[.take, .fail], by rw [if_neg idle]; rfl⟩
    | true => exact ⟨[.take, .put input.take.hand.length], by rw [if_neg idle]; rfl⟩

theorem performAll_of_writeAll (accepts : Bool) (input : Input) :
    ∃ works, input.performAll works = (input.writeAll accepts, []) := by
  unfold writeAll
  generalize input.waiting = waiting
  induction waiting generalizing input with
  | nil => exact ⟨[], rfl⟩
  | cons line rest inductionHypothesis =>
      rcases performAll_of_writeNext accepts input with ⟨first, next⟩
      rcases inductionHypothesis (input.writeNext accepts) with ⟨further, others⟩
      refine ⟨first ++ further, ?_⟩
      rw [performAll_append, next, others]
      rfl

/-! ## The writer comes to an end -/

/-- A writer with nothing in hand writes the next line whole. -/
theorem writeNext_of_line (line : String) (rest : List String) (written : List UInt8)
    (broken : Bool) : writeNext true ⟨line :: rest, [], written, broken⟩ =
      ⟨rest, [], written ++ bytesOf line, broken⟩ := by
  have filled : (bytesOf line).isEmpty = false := by
    rw [bytesOf, List.isEmpty_eq_false_iff]
    exact List.append_ne_nil_of_right_ne_nil _ (List.cons_ne_nil _ _)
  simp only [writeNext, take, put, filled, Bool.false_eq_true, if_false, if_true,
    List.drop_length, List.take_length]

/-- A writer with nothing in hand writes all that waits. -/
theorem writeAll_of_accepted (waiting : List String) (written : List UInt8) (broken : Bool) :
    writeAll true ⟨waiting, [], written, broken⟩ =
      ⟨[], [], written ++ waiting.flatMap bytesOf, broken⟩ := by
  induction waiting generalizing written with
  | nil => rw [writeAll, List.foldl_nil, List.flatMap_nil, List.append_nil]
  | cons line rest inductionHypothesis =>
      have others := inductionHypothesis (written ++ bytesOf line)
      rw [writeAll] at others
      rw [writeAll, List.foldl_cons, writeNext_of_line, List.flatMap_cons, others,
        List.append_assoc]

/-- Let the writer write what it has in hand, and then every line that waits. -/
def drain (input : Input) : Input :=
  (input.put input.hand.length).writeAll true

theorem drain_eq (input : Input) :
    input.drain = ⟨[], [], input.written ++ input.left, input.broken⟩ := by
  rw [drain, put, List.drop_length, List.take_length, writeAll_of_accepted, left,
    List.append_assoc]

/-! ## What the compiler reads -/

/-- What is true of the input after several works, and of the jobs that were
accepted meanwhile. -/
structure Frames (works : List Work) (input : Input) (jobs : List Job) : Prop where
  /-- While no write fails, what was written and what is left to write are the
  lines of the jobs. -/
  whole : .fail ∉ works → input.written ++ input.left = stream jobs
  /-- While no write fails, nothing is left in the end. -/
  drained : .fail ∉ works → input.drain.written = stream jobs ∧ input.drain.left = []
  /-- Whatever fails, nothing else was written before. -/
  begun : input.written <+: stream jobs
  /-- A job is refused only by a closed or a full input. -/
  refused : ∀ job, (∃ failure, input.offer job = .error failure) ↔
    .fail ∈ works ∨ input.waiting.length = capacity
  /-- The lines are found again at the line feeds. -/
  lines : Output.cut (stream jobs) =
    (jobs.map fun job => Text.Utf8.encode job.line.toList, [])
  /-- The lines that are complete are those of the first jobs. -/
  complete : (Output.cut input.written).1 <+:
    jobs.map fun job => Text.Utf8.encode job.line.toList
  decoded : ∀ job : Job,
    Text.Utf8.decodeLossy (Text.Utf8.encode job.line.toList) = job.line.toList
  told : ∀ job : Job, job.Told
  /-- The writer that runs does further works of this kind. -/
  runs : ∀ accepts, ∃ further,
    performAll {} (works ++ further) = (input.writeAll accepts, jobs)

/-- Whatever happens to its input, a compiler reads the lines of the jobs that
were accepted, and each line tells its job. -/
theorem framed (works : List Work) :
    Frames works (performAll {} works).1 (performAll {} works).2 := by
  have conserves := conserves_empty.performAll works
  rw [List.nil_append] at conserves
  have closed : (performAll {} works).1.broken = true ↔ .fail ∈ works := by
    rw [broken_performAll]
    exact or_iff_right (nomatch ·)
  have whole : .fail ∉ works → (performAll {} works).1.written ++ (performAll {} works).1.left =
      stream (performAll {} works).2 :=
    fun running => conserves.whole (Bool.eq_false_iff.mpr (running ∘ closed.mp))
  have runs : ∀ accepts, ∃ further, performAll {} (works ++ further) =
      ((performAll {} works).1.writeAll accepts, (performAll {} works).2) := by
    intro accepts
    rcases performAll_of_writeAll accepts (performAll {} works).1 with ⟨further, written⟩
    exact ⟨further, by rw [performAll_append, written, List.append_nil]⟩
  generalize (performAll {} works).1 = input at *
  generalize (performAll {} works).2 = jobs at *
  refine ⟨whole, ?_, conserves.begun, ?_, cut_stream jobs, ?_, ?_, Job.told, runs⟩
  · intro running
    rw [drain_eq]
    exact ⟨whole running, rfl⟩
  · intro job
    have full : capacity ≤ input.waiting.length ↔ input.waiting.length = capacity :=
      ⟨Nat.le_antisymm conserves.bounded, fun same => Nat.le_of_eq same.symm⟩
    rw [offer_refused_iff, closed, full]
  · have complete := Output.cut_begun conserves.begun
    rwa [cut_stream] at complete
  · exact fun job => Text.Utf8.decodeLossy_encode job.line.toList

/-- A change whose text has quotes, a backslash, control characters, and
characters of two and of four bytes. -/
def quoted : Job where
  id := 18446744073709551615
  request := .documentChanged ⟨⟨"file:///draft"⟩, -2147483648, "\"é\" \\ \n\x01😀"⟩

def asked : Job where
  id := 0
  request := .hover ⟨⟨"file:///plan"⟩, ⟨4294967295, 4294967295⟩⟩

/-- The question is offered while the change is being written. -/
def mixed : List Work :=
  [.offer quoted, .take, .put 3, .offer asked, .take, .put 2]

theorem framed_mixed :
    (performAll {} mixed).1.drain.written = stream [quoted, asked] ∧
      Output.cut (stream [quoted, asked]) = ([Text.Utf8.encode quoted.line.toList,
        Text.Utf8.encode asked.line.toList], []) ∧
      ∃ members, Json.parse quoted.line.toList = .ok (.obj members) ∧
        Json.find? "id" members = some (.int quoted.id) ∧
        Json.find? "kind" members = some (.str "documentChanged") ∧
        Json.find? "params" members = quoted.request.params :=
  have frames := framed mixed
  ⟨(frames.drained (by decide)).1, frames.lines, (frames.told quoted).parsed (by decide)⟩

end Input
end Compiler
end CompilerRelay
