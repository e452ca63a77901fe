import CompilerRelay.Proofs.Ledger
import CompilerRelay.Proofs.Service

/-!
# The documents that the server remembers

Two kinds of call write down what a document reads, a third one deletes it, and
a fourth one may need it: a save without a text sends what was written down,
and every save sends the version that was.  So what a save leads to depends on
calls that may be far back.

The reference here has no store.  It looks back over the calls for the last one
that says anything of the document (`recalled?`), and tells from there which
job a call asks for (`Call.recompile?`).  The jobs that the server submits are
those of the reference, for all calls in any order and for any URIs, and
whatever compilers do in between (`Service.documented`).  Only the calls about
a URI count for it.
-/

namespace CompilerRelay

/-! ## Looking back -/

/-- A call writes down what a document reads.  A change without texts writes
nothing, and a text that comes with a save is not written down. -/
inductive Call.Writes (uri : Uri) : Document → Call → Prop
  | opened (version : Int) (text : String) :
    Writes uri ⟨version, text⟩ (.opened ⟨uri, version, text⟩)
  /-- The last change has the whole text. -/
  | changed (version : Int) (texts : List String) (text : String) :
    Writes uri ⟨version, text⟩ (.changed uri version (texts ++ [text]))

namespace Call

/-- What a call says of a document, if anything: that it reads so from now on,
or that it is not open any more. -/
def says? (uri : Uri) : Call → Option (Option Document)
  | opened document =>
    if document.uri = uri then some (some ⟨document.version, document.text⟩) else none
  | changed other version texts =>
    if other = uri then texts.getLast?.map fun text => some ⟨version, text⟩ else none
  | closed other => if other = uri then some none else none
  | _ => none

/-- The document that a call is about. -/
def uri? : Call → Option Uri
  | opened document => some document.uri
  | changed uri _ _ => some uri
  | saved uri _ => some uri
  | closed uri => some uri
  | _ => none

/-- Whether a call is about a document. -/
def isAbout (uri : Uri) (call : Call) : Bool :=
  decide (call.uri? = some uri)

end Call

/-- What calls leave of a document: the last one that says something of it
decides. -/
def recalled? (history : List Call) (uri : Uri) : Option Document :=
  (history.reverse.findSome? (Call.says? uri)).join

/-- The job that a call asks for, given the calls before it.  Only a save needs
them: it brings no version, and perhaps no text. -/
def Call.recompile? (history : List Call) : Call → Option Request
  | opened document => some (.documentChanged document)
  | changed uri version texts =>
    texts.getLast?.map fun text => .documentChanged ⟨uri, version, text⟩
  | saved uri (some text) =>
    some (.documentSaved ⟨uri, ((recalled? history uri).map (·.version)).getD 0, text⟩)
  | saved uri none =>
    (recalled? history uri).map fun document =>
      .documentSaved ⟨uri, document.version, document.text⟩
  | _ => none

/-- The jobs that calls ask for one after the other, given those before them. -/
def recompilesAfter (history : List Call) : List Call → List Request
  | [] => []
  | call :: rest => (call.recompile? history).toList ++ recompilesAfter (history ++ [call]) rest

/-- The jobs that calls ask for from the beginning on. -/
def recompiles (calls : List Call) : List Request :=
  recompilesAfter [] calls

theorem Call.says?_eq_some_some_iff {uri : Uri} {document : Document} {call : Call} :
    call.says? uri = some (some document) ↔ call.Writes uri document := by
  constructor
  · intro said
    cases call with
    | opened snapshot =>
        by_cases same : snapshot.uri = uri
        · rw [says?, if_pos same] at said
          cases same
          cases said
          exact .opened snapshot.version snapshot.text
        · rw [says?, if_neg same] at said
          cases said
    | changed other version texts =>
        by_cases same : other = uri
        · rw [says?, if_pos same] at said
          cases same
          rcases Option.map_eq_some_iff.mp said with ⟨text, last, written⟩
          rcases List.getLast?_eq_some_iff.mp last with ⟨front, rfl⟩
          cases written
          exact .changed version front text
        · rw [says?, if_neg same] at said
          cases said
    | closed other =>
        by_cases same : other = uri
        · rw [says?, if_pos same] at said
          cases said
        · rw [says?, if_neg same] at said
          cases said
    | _ => cases said
  · intro writes
    cases writes with
    | opened version text => exact if_pos rfl
    | changed version texts text =>
        rw [says?, if_pos rfl, List.getLast?_concat]
        rfl

theorem Call.says?_eq_none_iff {uri : Uri} {call : Call} :
    call.says? uri = none ↔ call ≠ .closed uri ∧ ∀ document, ¬ call.Writes uri document := by
  constructor
  · intro silent
    refine ⟨?_, fun document writes => ?_⟩
    · rintro rfl
      rw [says?, if_pos rfl] at silent
      cases silent
    · rw [says?_eq_some_some_iff.mpr writes] at silent
      cases silent
  · rintro ⟨open', writes⟩
    cases said : call.says? uri with
    | none => rfl
    | some told =>
        cases told with
        | some document => exact absurd (says?_eq_some_some_iff.mp said) (writes document)
        | none =>
            cases call with
            | opened snapshot => rw [says?] at said; split at said <;> cases said
            | changed other version texts =>
                rw [says?] at said
                split at said
                · rcases Option.map_eq_some_iff.mp said with ⟨text, _, impossible⟩
                  cases impossible
                · cases said
            | closed other =>
                by_cases same : other = uri
                · exact absurd (congrArg Call.closed same) open'
                · rw [says?, if_neg same] at said
                  cases said
            | _ => cases said

theorem recalled?_concat (history : List Call) (call : Call) (uri : Uri) :
    recalled? (history ++ [call]) uri = (call.says? uri).getD (recalled? history uri) := by
  rw [recalled?, List.reverse_concat, List.findSome?_cons]
  cases call.says? uri <;> rfl

/-- What is recalled is what was written last, if nothing of it was deleted
since. -/
theorem recalled?_eq_some_iff {history : List Call} {uri : Uri} {document : Document} :
    recalled? history uri = some document ↔
      ∃ early call late, history = early ++ call :: late ∧ call.Writes uri document ∧
        ∀ later ∈ late, later ≠ .closed uri ∧ ∀ other, ¬ later.Writes uri other := by
  rw [recalled?, Option.join_eq_some_iff, List.findSome?_eq_some_iff]
  constructor
  · rintro ⟨late, call, early, split, said, silent⟩
    refine ⟨early.reverse, call, late.reverse, ?_, Call.says?_eq_some_some_iff.mp said, ?_⟩
    · rw [← List.reverse_reverse history, split, List.reverse_append, List.reverse_cons,
        List.append_assoc, List.singleton_append]
    · exact fun later listed =>
        Call.says?_eq_none_iff.mp (silent later (List.mem_reverse.mp listed))
  · rintro ⟨early, call, late, rfl, writes, quiet⟩
    refine ⟨late.reverse, call, early.reverse, ?_, Call.says?_eq_some_some_iff.mpr writes, ?_⟩
    · rw [List.reverse_append, List.reverse_cons, List.append_assoc, List.singleton_append]
    · exact fun later listed =>
        Call.says?_eq_none_iff.mpr (quiet later (List.mem_reverse.mp listed))

/-! ## One call -/

/-- Whether an event submits a job that recompiles a document. -/
def Event.recompiles : Event → Bool
  | submit request _ => decide (request.kind.category = .recompile)
  | _ => false

/-- Whether an event submits a job that recompiles this document. -/
def Event.isAbout (uri : Uri) : Event → Bool
  | submit request _ => decide (request.coalesceKey = some uri)
  | _ => false

def Request.posted (request : Request) : Event :=
  .submit request none

namespace Server

/-- The server remembers what the calls leave of each document.  The right side
is a function of the calls alone, which knows nothing of how the server keeps
documents. -/
def Recalls (server : Server) (history : List Call) : Prop :=
  ∀ uri, server.document? uri = recalled? history uri

theorem document?_remember (server : Server) (uri other : Uri) (document : Document) :
    (server.remember uri document).document? other =
      if uri = other then some document else server.document? other := by
  change ((uri, document) :: server.documents.filter fun entry => entry.1 != uri).lookup other = _
  rw [List.lookup_cons, lookup_others]
  by_cases same : uri = other
  · cases same
    simp only [beq_self_eq_true, if_true]
  · have different : (other == uri) = false := beq_eq_false_iff_ne.mpr (Ne.symm same)
    simp only [different, if_neg same, if_neg (Ne.symm same)]
    rfl

theorem document?_forget (server : Server) (uri other : Uri) :
    (server.forget uri).document? other = if uri = other then none else server.document? other := by
  change (server.documents.filter fun entry => entry.1 != uri).lookup other = _
  rw [lookup_others]
  simp only [eq_comm]
  rfl

theorem document?_handle (server : Server) (waiter : Waiter) (call : Call) (uri : Uri) :
    (server.handle waiter call).1.document? uri =
      (call.says? uri).getD (server.document? uri) := by
  cases call with
  | opened document =>
      simp only [handle, Call.says?, document?_remember]
      split <;> rfl
  | changed other version texts =>
      simp only [handle, Call.says?]
      cases texts.getLast? with
      | none => simp only [Option.map_none, ite_self, Option.getD_none]
      | some text =>
          simp only [document?_remember]
          split <;> rfl
  | closed other =>
      simp only [handle, Call.says?, document?_forget]
      split <;> rfl
  | configured value =>
      exact congrArg (List.lookup uri) (server.configure_silent value).2
  | saved other text =>
      simp only [handle]
      cases server.savedDocument? other text <;> rfl
  | execute command =>
      simp only [handle]
      split
      · rfl
      · split <;> rfl
  | _ => rfl

theorem Recalls.handle {server : Server} {history : List Call} (recalls : server.Recalls history)
    (waiter : Waiter) (call : Call) :
    (server.handle waiter call).1.Recalls (history ++ [call]) := by
  intro uri
  rw [document?_handle, recalled?_concat, recalls uri]

theorem savedDocument?_of_recalls {server : Server} {history : List Call}
    (recalls : server.Recalls history) (uri : Uri) (text : Option String) :
    (server.savedDocument? uri text).map Request.documentSaved =
      (Call.saved uri text).recompile? history := by
  cases text with
  | some text => simp only [savedDocument?, recalls uri, Option.map_some, Call.recompile?]
  | none =>
      simp only [savedDocument?, Call.recompile?, recalls uri]
      cases recalled? history uri <;> rfl

/-- A call submits the job that the reference asks for, once, and no other one
that would recompile a document. -/
theorem recompiles_of_recalls {server : Server} {history : List Call}
    (recalls : server.Recalls history) (waiter : Waiter) (call : Call) :
    (posts (server.handle waiter call).2.1).filter Event.recompiles =
      (call.recompile? history).toList.map Request.posted := by
  have uris : ∀ request : Uri → Request, (∀ uri, (request uri).kind.category ≠ .recompile) →
      ∀ listed : List Uri,
        (listed.map fun uri => Event.submit (request uri) none).filter Event.recompiles = [] := by
    intro request other listed
    refine List.filter_eq_nil_iff.mpr fun event member => ?_
    rcases List.mem_map.mp member with ⟨uri, _, rfl⟩
    exact fun same => other uri (decide_eq_true_iff.mp same)
  cases call with
  | introduce options root =>
      exact congrArg (List.filter Event.recompiles) (server.posts_introduce options root)
  | configured value =>
      exact congrArg (List.filter Event.recompiles) (server.configure_silent value).1
  | changed uri version texts =>
      simp only [handle, Call.recompile?]
      cases texts.getLast? <;> rfl
  | saved uri text =>
      rw [← savedDocument?_of_recalls recalls]
      simp only [handle]
      cases server.savedDocument? uri text <;> rfl
  | addUris listed =>
      have posted : posts (server.handle waiter (.addUris listed)).2.1 = _ :=
        posts_uris _ Request.addUri listed
      rw [posted]
      exact uris Request.addUri (fun _ => Category.noConfusion) listed
  | removeUris listed =>
      have posted : posts (server.handle waiter (.removeUris listed)).2.1 = _ :=
        posts_uris _ Request.removeUri listed
      rw [posted]
      exact uris Request.removeUri (fun _ => Category.noConfusion) listed
  | execute command =>
      simp only [handle]
      split
      · rfl
      · split <;> rfl
  | _ => rfl

end Server

/-! ## One document among others -/

/-- What is not about a document says nothing of it. -/
theorem Call.says?_of_not_isAbout {uri : Uri} {call : Call} (other : call.isAbout uri = false) :
    call.says? uri = none := by
  have different : call.uri? ≠ some uri := of_decide_eq_false other
  cases call with
  | opened document => exact if_neg fun same => different (congrArg some same)
  | changed uri version texts => exact if_neg fun same => different (congrArg some same)
  | closed uri => exact if_neg fun same => different (congrArg some same)
  | _ => rfl

theorem recalled?_filter (history : List Call) (uri : Uri) :
    recalled? (history.filter (Call.isAbout uri)) uri = recalled? history uri := by
  induction history using List.reverseRecOn with
  | nil => rfl
  | append_singleton before call inductionHypothesis =>
      rw [recalled?_concat, List.filter_append]
      cases about : call.isAbout uri with
      | true =>
          rw [List.filter_cons_of_pos about, List.filter_nil, recalled?_concat,
            inductionHypothesis]
      | false =>
          rw [List.filter_cons_of_neg (by simp [about]), List.filter_nil, List.append_nil,
            inductionHypothesis, Call.says?_of_not_isAbout about, Option.getD_none]

/-- The job that a call asks for is about the document that the call is about. -/
theorem Call.coalesceKey_of_recompile? {history : List Call} {call : Call} {request : Request}
    (asked : call.recompile? history = some request) : request.coalesceKey = call.uri? := by
  cases call with
  | opened document =>
      cases asked
      rfl
  | changed uri version texts =>
      rcases Option.map_eq_some_iff.mp asked with ⟨text, _, rfl⟩
      rfl
  | saved uri text =>
      cases text with
      | some text =>
          cases asked
          rfl
      | none =>
          rcases Option.map_eq_some_iff.mp asked with ⟨document, _, rfl⟩
          rfl
  | _ => cases asked

/-- A call that is about a document asks for what it would ask for among the
calls about that document alone. -/
theorem Call.recompile?_filter {history : List Call} {uri : Uri} {call : Call}
    (about : call.isAbout uri = true) :
    call.recompile? (history.filter (Call.isAbout uri)) = call.recompile? history := by
  cases call with
  | saved other text =>
      have same : other = uri := Option.some.inj (of_decide_eq_true about)
      cases same
      cases text <;> simp only [recompile?, recalled?_filter]
  | _ => rfl

/-- The jobs about a document are those of the calls about it. -/
theorem recompilesAfter_filter (history calls : List Call) (uri : Uri) :
    (recompilesAfter history calls).filter
        (fun request => decide (request.coalesceKey = some uri)) =
      recompilesAfter (history.filter (Call.isAbout uri)) (calls.filter (Call.isAbout uri)) := by
  induction calls generalizing history with
  | nil => rfl
  | cons call rest inductionHypothesis =>
      rw [recompilesAfter, List.filter_append, inductionHypothesis, List.filter_append]
      have key : ∀ request ∈ call.recompile? history,
          decide (request.coalesceKey = some uri) = call.isAbout uri := by
        intro request asked
        rw [Call.coalesceKey_of_recompile? asked, Call.isAbout]
      cases about : call.isAbout uri with
      | true =>
          have kept : (call.recompile? history).toList.filter
              (fun request => decide (request.coalesceKey = some uri)) =
                (call.recompile? history).toList :=
            List.filter_eq_self.mpr fun request asked =>
              (key request (Option.mem_toList.mp asked)).trans about
          rw [kept, List.filter_cons_of_pos about, List.filter_cons_of_pos about, List.filter_nil,
            recompilesAfter, Call.recompile?_filter about]
      | false =>
          have dropped : (call.recompile? history).toList.filter
              (fun request => decide (request.coalesceKey = some uri)) = [] :=
            List.filter_eq_nil_iff.mpr fun request asked own => by
              rw [key request (Option.mem_toList.mp asked), about] at own
              cases own
          rw [dropped, List.filter_cons_of_neg (by simp [about]),
            List.filter_cons_of_neg (by simp [about]), List.filter_nil, List.append_nil]
          rfl

/-! ## Runs -/

namespace Service

/-- The events that something brings to the loop. -/
def brings (service : Service) : Happening → List Event
  | .call waiter call => posts (service.server.handle waiter call).2.1
  | .heard generation event => [.compiler generation event]
  | .turn _ => []

/-- The events that are brought to the loop, in order. -/
def brought (service : Service) : List Happening → List Event
  | [] => []
  | happening :: rest => service.brings happening ++ (service.step happening).1.brought rest

/-- The jobs submitted for documents, in order, from the beginning on. -/
def submissions (base : Settings) (happenings : List Happening) : List Event :=
  ((initial base).brought happenings).filter Event.recompiles

theorem brought_append (service : Service) (first second : List Happening) :
    service.brought (first ++ second) =
      service.brought first ++ (service.run first).1.brought second := by
  induction first generalizing service with
  | nil => rfl
  | cons happening rest inductionHypothesis =>
      simp only [List.cons_append, brought, run, inductionHypothesis, List.append_assoc]

/-- The server never ends the supervisor. -/
theorem running (base : Settings) (happenings : List Happening) :
    (ran base happenings).1.loop.supervisor.halted = false := by
  rcases traces base happenings with ⟨handled, traces⟩
  exact traces.running

/-- What something brings goes behind the events that wait, and a turn handles
the first of them. -/
theorem step_brings {service : Service} (running : service.loop.supervisor.halted = false)
    (happening : Happening) :
    ∃ taken : List (Verdict × Event),
      (service.step happening).1.loop.supervisor = (service.loop.supervisor.run taken).1 ∧
        (service.step happening).2 = (service.loop.supervisor.run taken).2 ∧
        taken.map Prod.snd ++ (service.step happening).1.loop.pending =
          service.loop.pending ++ service.brings happening := by
  cases happening with
  | call waiter call =>
      refine ⟨[], ?_⟩
      simp only [step, EventLoop.postAll_of_running running]
      exact ⟨rfl, rfl, rfl⟩
  | heard generation event =>
      refine ⟨[], ?_⟩
      simp only [step, EventLoop.emit, running, Bool.false_eq_true, if_false]
      exact ⟨rfl, rfl, rfl⟩
  | turn verdict =>
      cases waits : service.loop.pending with
      | nil =>
          refine ⟨[], ?_⟩
          simp only [step, EventLoop.turn, waits]
          exact ⟨rfl, rfl, rfl⟩
      | cons event rest =>
          refine ⟨[(verdict, event)], ?_⟩
          rw [service.step_turn verdict waits, Supervisor.run_singleton]
          exact ⟨rfl, rfl, (List.append_nil _).symm⟩

/-- The events that were handled, and behind them those that wait, are the ones
that were brought. -/
theorem handled_brought (base : Settings) (happenings : List Happening) :
    ∃ handled : List (Verdict × Event),
      (ran base happenings).1.loop.supervisor = (Supervisor.initial.run handled).1 ∧
        (ran base happenings).2 = (Supervisor.initial.run handled).2 ∧
        handled.map Prod.snd ++ (ran base happenings).1.loop.pending =
          (initial base).brought happenings := by
  induction happenings using List.reverseRecOn with
  | nil => exact ⟨[], rfl, rfl, rfl⟩
  | append_singleton before happening inductionHypothesis =>
      rcases inductionHypothesis with ⟨handled, supervisor, effects, events⟩
      rcases step_brings (running base before) happening with ⟨taken, next, more, waiting⟩
      refine ⟨handled ++ taken, ?_⟩
      rw [Supervisor.run_append, ← supervisor, ← effects, ran, run_append, brought_append,
        ← events, List.map_append, List.append_assoc]
      simp only [run, brought, List.append_nil]
      exact ⟨next, congrArg (_ ++ ·) more, (congrArg (_ ++ ·) waiting).trans
        (List.append_assoc _ _ _).symm⟩

/-- Only calls touch the documents. -/
theorem recalls_step {service : Service} {history : List Call}
    (recalls : service.server.Recalls history) (happening : Happening) :
    (service.step happening).1.server.Recalls (history ++ happening.call?.toList) := by
  cases happening with
  | call waiter call => exact recalls.handle waiter call
  | heard generation event =>
      rw [show history ++ (Happening.heard generation event).call?.toList = history from
        List.append_nil _]
      exact recalls
  | turn verdict =>
      rw [show history ++ (Happening.turn verdict).call?.toList = history from List.append_nil _]
      simp only [step]
      split <;> exact recalls

/-- Of the events that something brings, those that recompile a document are
the one that a call asks for. -/
theorem brings_of_recalls {service : Service} {history : List Call}
    (recalls : service.server.Recalls history) (happening : Happening) :
    (service.brings happening).filter Event.recompiles =
      (happening.call?.bind (Call.recompile? history)).toList.map Request.posted := by
  cases happening with
  | call waiter call => exact Server.recompiles_of_recalls recalls waiter call
  | heard generation event => rfl
  | turn verdict => rfl

theorem recalls_run {service : Service} {history : List Call}
    (recalls : service.server.Recalls history) (happenings : List Happening) :
    (service.run happenings).1.server.Recalls (history ++ calls happenings) ∧
      (service.brought happenings).filter Event.recompiles =
        (recompilesAfter history (calls happenings)).map Request.posted := by
  induction happenings generalizing service history with
  | nil => exact ⟨(List.append_nil history).symm ▸ recalls, rfl⟩
  | cons happening rest inductionHypothesis =>
      have split : calls (happening :: rest) = happening.call?.toList ++ calls rest := by
        rw [calls, List.filterMap_cons]
        cases happening.call? <;> rfl
      rcases inductionHypothesis (recalls_step recalls happening) with ⟨later, jobs⟩
      rw [split, ← List.append_assoc]
      refine ⟨later, ?_⟩
      rw [brought, List.filter_append, brings_of_recalls recalls, jobs]
      cases happening.call? with
      | none => rw [Option.toList_none, List.append_nil]; rfl
      | some call => exact List.map_append.symm

/-- The documents that the server remembers, and the jobs submitted for them.
Both are compared with what the calls say, read in order and without a server.
-/
structure Documented (base : Settings) (happenings : List Happening) : Prop where
  /-- A document reads as the last call said that opened or changed it, if it
  was not closed since. -/
  remembered : ∀ uri document, (ran base happenings).1.server.document? uri = some document ↔
    ∃ early call late, calls happenings = early ++ call :: late ∧ call.Writes uri document ∧
      ∀ later ∈ late, later ≠ .closed uri ∧ ∀ other, ¬ later.Writes uri other
  /-- What the supervisor was given, and behind it what waits for it, are the
  jobs that were submitted. -/
  reached : ∃ handled : List (Verdict × Event),
    (ran base happenings).1.loop.supervisor = (Supervisor.initial.run handled).1 ∧
      (ran base happenings).2 = (Supervisor.initial.run handled).2 ∧
      (handled.map Prod.snd ++ (ran base happenings).1.loop.pending).filter Event.recompiles =
        submissions base happenings
  /-- The jobs that were submitted are those that the calls ask for. -/
  submitted : submissions base happenings =
    (recompiles (calls happenings)).map Request.posted
  /-- And so are those of one more call. -/
  next : ∀ waiter call,
    (posts ((ran base happenings).1.server.handle waiter call).2.1).filter Event.recompiles =
      (call.recompile? (calls happenings)).toList.map Request.posted
  /-- No changes at all change nothing, and nothing is done about them. -/
  idle : ∀ waiter uri version,
    (ran base happenings).1.server.handle waiter (.changed uri version []) =
        ((ran base happenings).1.server, [], .silent) ∧
      (ran base happenings).1.step (.call waiter (.changed uri version [])) =
        ((ran base happenings).1, [])
  /-- What is submitted for a document depends on the calls about it alone. -/
  apart : ∀ uri base' others,
    (calls others).filter (Call.isAbout uri) = (calls happenings).filter (Call.isAbout uri) →
      (submissions base' others).filter (Event.isAbout uri) =
        (submissions base happenings).filter (Event.isAbout uri)

theorem recalls_initial (base : Settings) : (initial base).server.Recalls [] :=
  fun _ => rfl

theorem submissions_eq (base : Settings) (happenings : List Happening) :
    submissions base happenings = (recompiles (calls happenings)).map Request.posted :=
  (recalls_run (recalls_initial base) happenings).2

/-- A text that is saved after its document was closed has no version to go
with. -/
example :
    let uri : Uri := ⟨"file:///draft"⟩
    recompiles [.opened ⟨uri, 3, "draft"⟩, .closed uri, .saved uri (some "fair"), .saved uri none] =
      [.documentChanged ⟨uri, 3, "draft"⟩, .documentSaved ⟨uri, 0, "fair"⟩] := by
  rfl

/-- The jobs submitted for a document are those that the calls about it ask
for. -/
theorem submissions_isAbout (base : Settings) (happenings : List Happening) (uri : Uri) :
    (submissions base happenings).filter (Event.isAbout uri) =
      (recompiles ((calls happenings).filter (Call.isAbout uri))).map Request.posted := by
  rw [submissions_eq, List.filter_map]
  exact congrArg (List.map Request.posted) (recompilesAfter_filter [] (calls happenings) uri)

/-- The server submits for documents what the calls ask for, whatever their
order, and whatever happens between them. -/
theorem documented (base : Settings) (happenings : List Happening) :
    Documented base happenings := by
  have recalls := (recalls_run (recalls_initial base) happenings).1
  refine ⟨?_, ?_, submissions_eq base happenings, ?_, fun _ _ _ => ⟨rfl, rfl⟩, ?_⟩
  · intro uri document
    rw [show (ran base happenings).1.server.document? uri = _ from recalls uri]
    exact recalled?_eq_some_iff
  · rcases handled_brought base happenings with ⟨handled, supervisor, effects, events⟩
    exact ⟨handled, supervisor, effects, congrArg (List.filter Event.recompiles) events⟩
  · exact fun waiter call => Server.recompiles_of_recalls recalls waiter call
  · intro uri base' others same
    rw [submissions_isAbout, submissions_isAbout, same]

end Service
end CompilerRelay
