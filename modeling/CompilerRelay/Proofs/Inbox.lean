import CompilerRelay.Inbox
import CompilerRelay.Proofs.Speech

/-!
# Waiters that stop listening

A waiter may stop listening at any time, and whoever tells it something learns
that only by telling.  Here a `Reactor` is given actions.  About each it gives a
speech, whose utterances are for the waiters or for the world at large, and
which may take notice of whether they were heard; `Reactor.attend` lets waiters
listen, be told and stop listening in between.

Two runs are compared by what is heard of them.  A reactor whose speeches take
no notice (`Reactor.Performs`) goes on as if everybody had listened.  If besides
it treats its waiters as mere names, so that it commutes with leaving some of
them out, then a run in which waiters stop listening is, for everybody else, the
run in which they go on to listen, and also the run in which they were never
there (`Reactor.records_of_commutes`).
-/

namespace CompilerRelay

/-- What happens to a reactor and to the waiters. -/
inductive Incident (α : Type) where
  /-- The reactor is given an action.  While it gives its speech, waiters may stop
  listening, some of them right before each utterance. -/
  | act (action : α) (meanwhile : Nat → List Waiter)
  /-- A new waiter begins to listen. -/
  | create
  /-- A waiter stops listening. -/
  | drop (waiter : Waiter)

/-- The incident with another action, and with no waiter that stops. -/
def Incident.lasting? {α : Type} (recast : α → α) : Incident α → Option (Incident α)
  | act action _ => some (.act (recast action) fun _ => [])
  | create => some .create
  | drop _ => none

/-- A system that is given actions and gives a speech about each of them, from
which its next state results.  The speech is interrupted by the answers of those
who are told something, so a step may depend on them. -/
structure Reactor (σ α β : Type) where
  step : σ → α → Speech β σ
  /-- The waiter that something is for.  It concerns everybody if there is none. -/
  waiter? : β → Option Waiter

namespace Inbox

/-- Each waiter that listens was created. -/
def Valid (inbox : Inbox) : Prop :=
  ∀ waiter ∈ inbox.listening, waiter < inbox.created

/-- A waiter was created and does not listen any more. -/
def Closed (inbox : Inbox) (waiter : Waiter) : Prop :=
  waiter < inbox.created ∧ waiter ∉ inbox.listening

/-- What comes of uttering several things. -/
structure Hearing (β : Type) where
  inbox : Inbox
  heard : List β
  /-- Those who stopped listening before they were told. -/
  silenced : List Waiter

/-- A waiter heard something that was for it. -/
def Hearing.Reaches {β : Type} (hearing : Hearing β) (waiter? : β → Option Waiter)
    (waiter : Waiter) : Prop :=
  ∃ said ∈ hearing.heard, waiter? said = some waiter

/-- Several utterances, and who stops listening right before each of them.  The
places are those of the whole list, so they move on with it. -/
def amid {β : Type} (meanwhile : Nat → List Waiter) : List β → List (Waiter ⊕ β)
  | [] => []
  | said :: rest =>
    (meanwhile 0).map .inl ++ .inr said :: amid (fun place => meanwhile (place + 1)) rest

theorem filterMap_amid {β : Type} (meanwhile : Nat → List Waiter) (utterances : List β) :
    (amid meanwhile utterances).filterMap Sum.getRight? = utterances := by
  induction utterances generalizing meanwhile with
  | nil => rfl
  | cons said rest inductionHypothesis =>
      rw [amid, List.filterMap_append, List.filterMap_map,
        List.filterMap_cons_some (f := Sum.getRight?) rfl, inductionHypothesis]
      exact congrArg (· ++ said :: rest) (List.filterMap_eq_nil_iff.mpr fun _ _ => rfl)

theorem amid_nobody {β : Type} (utterances : List β) :
    amid (fun _ => []) utterances = utterances.map .inr := by
  induction utterances with
  | nil => rfl
  | cons said rest inductionHypothesis => exact congrArg (.inr said :: ·) inductionHypothesis

/-- The same waiters were created, and apart from some the same ones listen.
Nothing is said of the order in which they are listed. -/
structure Agrees (others : List Waiter) (first second : Inbox) : Prop where
  created : first.created = second.created
  listening : ∀ waiter ∉ others, waiter ∈ first.listening ↔ waiter ∈ second.listening

section

variable {β : Type} (waiter? : β → Option Waiter)

/-- Whether something is for none of these waiters. -/
def spares (others : List Waiter) (utterance : β) : Bool :=
  (waiter? utterance).all (· ∉ others)

/-- What is uttered and is for none of these waiters. -/
def utteredBut (others : List Waiter) (course : List (Waiter ⊕ β)) : List (Waiter ⊕ β) :=
  ((course.filterMap Sum.getRight?).filter (spares waiter? others)).map .inr

/-- Utter something.  What is for a waiter is heard if the waiter listens, which
it does not any more after that; everything else is heard anyway. -/
def hear (inbox : Inbox) (utterance : β) : Inbox × Bool :=
  match waiter? utterance with
  | none => (inbox, true)
  | some waiter => ({ inbox with listening := inbox.listening.filter (· != waiter) },
      inbox.listening.contains waiter)

/-- Utter several things, while waiters stop listening. -/
def listen (inbox : Inbox) : List (Waiter ⊕ β) → Hearing β
  | [] => ⟨inbox, [], []⟩
  | .inl waiter :: rest =>
    let dropped := inbox.drop waiter
    let later := dropped.1.listen rest
    { later with
      silenced := if dropped.2 = some true then waiter :: later.silenced else later.silenced }
  | .inr utterance :: rest =>
    let told := inbox.hear waiter? utterance
    let later := told.1.listen rest
    { later with heard := if told.2 then utterance :: later.heard else later.heard }

/-- Attend a speech, while waiters stop listening: some right before the first
utterance, some right before the second, and so on.  Each utterance is answered
by whether it is heard, and the speech goes on from there. -/
def attend {α : Type} (inbox : Inbox) (meanwhile : Nat → List Waiter) :
    Speech β α → α × Hearing β
  | .done result => (result, ⟨inbox, [], []⟩)
  | .utter said next =>
    let stopped := inbox.listen waiter? ((meanwhile 0).map .inl)
    let told := stopped.inbox.hear waiter? said
    let later := told.1.attend (fun place => meanwhile (place + 1)) (next told.2)
    (later.1, { later.2 with
      heard := if told.2 then said :: later.2.heard else later.2.heard
      silenced := stopped.silenced ++ later.2.silenced })

/-- Resolutions are heard as they are told. -/
theorem listen_map {make : Resolution → β}
    (addressed : ∀ resolution, waiter? (make resolution) = some resolution.waiter)
    (inbox : Inbox) (resolutions : List Resolution) :
    inbox.listen waiter? (resolutions.map fun resolution => .inr (make resolution)) =
      ⟨(inbox.tellAll resolutions).1, (inbox.tellAll resolutions).2.map make, []⟩ := by
  induction resolutions generalizing inbox with
  | nil => rfl
  | cons resolution rest inductionHypothesis =>
      have told : inbox.hear waiter? (make resolution) = inbox.tell resolution := by
        rw [hear, addressed]
        rfl
      simp only [List.map_cons, listen, told, inductionHypothesis, tellAll]
      split <;> rfl

theorem listen_append (inbox : Inbox) (early late : List (Waiter ⊕ β)) :
    inbox.listen waiter? (early ++ late) =
      let before := inbox.listen waiter? early
      let after := before.inbox.listen waiter? late
      ⟨after.inbox, before.heard ++ after.heard, before.silenced ++ after.silenced⟩ := by
  induction early generalizing inbox with
  | nil => rfl
  | cons hap rest inductionHypothesis =>
      cases hap with
      | inl waiter =>
          simp only [List.cons_append, listen, inductionHypothesis]
          split <;> rfl
      | inr said =>
          simp only [List.cons_append, listen, inductionHypothesis]
          split <;> rfl

theorem heard_listen_stops (inbox : Inbox) (stops : List Waiter) :
    (inbox.listen waiter? (stops.map .inl)).heard = [] := by
  induction stops generalizing inbox with
  | nil => rfl
  | cons waiter rest inductionHypothesis => exact inductionHypothesis _

/-- A speech that takes no notice is attended by listening to what it says. -/
theorem attend_perform {α : Type} (inbox : Inbox) (meanwhile : Nat → List Waiter)
    (operated : α × List β) : inbox.attend waiter? meanwhile (.perform operated) =
      (operated.1, inbox.listen waiter? (amid meanwhile operated.2)) := by
  rcases operated with ⟨result, utterances⟩
  induction utterances generalizing inbox meanwhile with
  | nil => rfl
  | cons said rest inductionHypothesis =>
      change inbox.attend waiter? meanwhile (.utter said fun _ => .perform (result, rest)) = _
      rw [attend, inductionHypothesis, amid, listen_append]
      simp only [listen, heard_listen_stops, List.nil_append]

/-- Nobody stops listening while nobody wants to. -/
theorem silenced_listen_map (inbox : Inbox) (utterances : List β) :
    (inbox.listen waiter? (utterances.map .inr)).silenced = [] := by
  induction utterances generalizing inbox with
  | nil => rfl
  | cons utterance rest inductionHypothesis => exact inductionHypothesis _

variable {waiter?}

theorem mem_listening_hear {inbox : Inbox} {utterance : β} {waiter : Waiter} :
    waiter ∈ (inbox.hear waiter? utterance).1.listening ↔
      waiter ∈ inbox.listening ∧ waiter? utterance ≠ some waiter := by
  unfold hear
  cases waiter? utterance with
  | none => exact ⟨fun listed => ⟨listed, (nomatch ·)⟩, And.left⟩
  | some other =>
      simp only [List.mem_filter, bne_iff_ne, ne_eq, Option.some.injEq]
      exact and_congr_right fun _ => not_congr eq_comm

theorem created_hear (inbox : Inbox) (utterance : β) :
    (inbox.hear waiter? utterance).1.created = inbox.created := by
  unfold hear
  cases waiter? utterance <;> rfl

theorem mem_listening_drop {inbox : Inbox} {waiter other : Waiter} :
    waiter ∈ (inbox.drop other).1.listening ↔
      waiter ∈ inbox.listening ∧ (waiter = other → inbox.created ≤ other) := by
  unfold drop
  by_cases unknown : inbox.created ≤ other
  · rw [if_pos unknown]
    exact ⟨fun listed => ⟨listed, fun _ => unknown⟩, And.left⟩
  · rw [if_neg unknown]
    simp only [List.mem_filter, bne_iff_ne, ne_eq]
    exact and_congr_right fun _ => ⟨fun differs same => absurd same differs,
      fun known same => unknown (known same)⟩

theorem created_drop (inbox : Inbox) (waiter : Waiter) :
    (inbox.drop waiter).1.created = inbox.created := by
  unfold drop
  split <;> rfl

/-- A waiter that is dropped while it listens is closed by that. -/
theorem drop_eq_some_true_iff {inbox : Inbox} {waiter : Waiter} :
    (inbox.drop waiter).2 = some true ↔ waiter < inbox.created ∧ waiter ∈ inbox.listening := by
  unfold drop
  by_cases unknown : inbox.created ≤ waiter
  · rw [if_pos unknown]
    exact ⟨(nomatch ·), fun known => absurd known.1 (Nat.not_lt.mpr unknown)⟩
  · rw [if_neg unknown, Option.some.injEq, List.contains_iff_mem]
    exact ⟨fun listed => ⟨Nat.lt_of_not_le unknown, listed⟩, And.right⟩

/-- Who stops listening before it is told. -/
theorem mem_silenced_inl {inbox : Inbox} {waiter other : Waiter} {rest : List (Waiter ⊕ β)} :
    waiter ∈ (inbox.listen waiter? (.inl other :: rest)).silenced ↔
      ((inbox.drop other).2 = some true ∧ waiter = other) ∨
        waiter ∈ ((inbox.drop other).1.listen waiter? rest).silenced := by
  simp only [listen]
  by_cases listened : (inbox.drop other).2 = some true
  · rw [if_pos listened, List.mem_cons, and_iff_right listened]
  · rw [if_neg listened]
    exact (or_iff_right fun stopped => listened stopped.1).symm

/-- What is heard of several things. -/
theorem mem_heard_inr {inbox : Inbox} {said first : β} {rest : List (Waiter ⊕ β)} :
    said ∈ (inbox.listen waiter? (.inr first :: rest)).heard ↔
      ((inbox.hear waiter? first).2 = true ∧ said = first) ∨
        said ∈ ((inbox.hear waiter? first).1.listen waiter? rest).heard := by
  simp only [listen]
  by_cases told : (inbox.hear waiter? first).2 = true
  · rw [if_pos told, List.mem_cons, and_iff_right told]
  · rw [if_neg told]
    exact (or_iff_right fun heard => told heard.1).symm

/-! ## Inboxes that agree -/

namespace Agrees

variable {others : List Waiter} {first second : Inbox}

theorem refl (others : List Waiter) (inbox : Inbox) : Agrees others inbox inbox :=
  ⟨rfl, fun _ _ => Iff.rfl⟩

theorem symm (agree : Agrees others first second) : Agrees others second first :=
  ⟨agree.created.symm, fun waiter spared => (agree.listening waiter spared).symm⟩

theorem trans {third : Inbox} (agree : Agrees others first second)
    (follows : Agrees others second third) : Agrees others first third :=
  ⟨agree.created.trans follows.created, fun waiter spared =>
    (agree.listening waiter spared).trans (follows.listening waiter spared)⟩

theorem create (agree : Agrees others first second) :
    Agrees others first.create.1 second.create.1 where
  created := congrArg (· + 1) agree.created
  listening := by
    intro waiter spared
    change waiter ∈ first.created :: first.listening ↔ waiter ∈ second.created :: second.listening
    rw [List.mem_cons, List.mem_cons, agree.created]
    exact or_congr_right (agree.listening waiter spared)

/-- Only a waiter that is left out stops listening. -/
theorem drop (agree : Agrees others first second) {waiter : Waiter}
    (within : (first.drop waiter).2 = some true → waiter ∈ others) :
    Agrees others (first.drop waiter).1 second where
  created := (first.created_drop waiter).trans agree.created
  listening := by
    intro other spared
    rw [mem_listening_drop, ← agree.listening other spared]
    refine ⟨And.left, fun listed => ⟨listed, ?_⟩⟩
    rintro rfl
    by_contra known
    exact spared (within (drop_eq_some_true_iff.mpr ⟨Nat.lt_of_not_le known, listed⟩))

/-- What concerns nobody that is left out is heard alike. -/
theorem hear (agree : Agrees others first second) {utterance : β}
    (spared : spares waiter? others utterance = true) :
    Agrees others (first.hear waiter? utterance).1 (second.hear waiter? utterance).1 ∧
      (first.hear waiter? utterance).2 = (second.hear waiter? utterance).2 := by
  refine ⟨⟨?_, ?_⟩, ?_⟩
  · rw [created_hear, created_hear, agree.created]
  · intro waiter listed
    rw [mem_listening_hear, mem_listening_hear, agree.listening waiter listed]
  · unfold Inbox.hear
    cases addressed : waiter? utterance with
    | none => rfl
    | some waiter =>
        rw [spares, addressed, Option.all_some, decide_eq_true_eq] at spared
        exact Bool.eq_iff_iff.mpr (by
          rw [List.contains_iff_mem, List.contains_iff_mem, agree.listening waiter spared])

/-- What is for somebody who is left out changes nothing for the others. -/
theorem hear_left (agree : Agrees others first second) {utterance : β}
    (other : ¬ spares waiter? others utterance = true) :
    Agrees others (first.hear waiter? utterance).1 second where
  created := (first.created_hear utterance).trans agree.created
  listening := by
    intro waiter spared
    rw [mem_listening_hear, ← agree.listening waiter spared]
    refine ⟨And.left, fun listed => ⟨listed, fun addressed => other ?_⟩⟩
    rw [spares, addressed, Option.all_some, decide_eq_true_eq]
    exact spared

variable (waiter?) in
/-- Of several things the others hear what concerns nobody that is left out. -/
theorem listen_filter (agree : Agrees others first second) (course : List (Waiter ⊕ β))
    (within : ∀ waiter ∈ (first.listen waiter? course).silenced, waiter ∈ others) :
    Agrees others (first.listen waiter? course).inbox
        (second.listen waiter? (utteredBut waiter? others course)).inbox ∧
      (first.listen waiter? course).heard.filter (spares waiter? others) =
        (second.listen waiter? (utteredBut waiter? others course)).heard := by
  induction course generalizing first second with
  | nil => exact ⟨agree, rfl⟩
  | cons hap rest inductionHypothesis =>
      cases hap with
      | inl waiter =>
          have stopped : (first.drop waiter).2 = some true → waiter ∈ others :=
            fun listened => within waiter (mem_silenced_inl.mpr (.inl ⟨listened, rfl⟩))
          exact inductionHypothesis (agree.drop stopped) fun other listed =>
            within other (mem_silenced_inl.mpr (.inr listed))
      | inr said =>
          by_cases spared : spares waiter? others said = true
          · rcases agree.hear spared with ⟨next, same⟩
            rcases inductionHypothesis next within with ⟨after, heard⟩
            have uttered : utteredBut waiter? others (.inr said :: rest) =
                .inr said :: utteredBut waiter? others rest :=
              congrArg (List.map Sum.inr) (List.filter_cons_of_pos spared)
            rw [uttered]
            refine ⟨after, ?_⟩
            simp only [listen, same]
            split
            · rw [List.filter_cons_of_pos spared, heard]
            · exact heard
          · rcases inductionHypothesis (agree.hear_left spared) within with ⟨after, heard⟩
            have uttered : utteredBut waiter? others (.inr said :: rest) =
                utteredBut waiter? others rest :=
              congrArg (List.map Sum.inr) (List.filter_cons_of_neg spared)
            rw [uttered]
            refine ⟨after, ?_⟩
            simp only [listen]
            split
            · rw [List.filter_cons_of_neg spared, heard]
            · exact heard

end Agrees

/-! ## Waiters that are closed -/

theorem Closed.hear {inbox : Inbox} {waiter : Waiter} (closed : inbox.Closed waiter)
    (utterance : β) : (inbox.hear waiter? utterance).1.Closed waiter :=
  ⟨(inbox.created_hear utterance).symm ▸ closed.1,
    fun listed => closed.2 (mem_listening_hear.mp listed).1⟩

theorem Closed.create {inbox : Inbox} {waiter : Waiter} (closed : inbox.Closed waiter) :
    inbox.create.1.Closed waiter := by
  refine ⟨Nat.lt_succ_of_lt closed.1, fun listed => ?_⟩
  rcases List.mem_cons.mp listed with new | old
  · exact absurd new (Nat.ne_of_lt closed.1)
  · exact closed.2 old

theorem Closed.drop {inbox : Inbox} {waiter : Waiter} (closed : inbox.Closed waiter)
    (other : Waiter) : (inbox.drop other).1.Closed waiter :=
  ⟨(inbox.created_drop other).symm ▸ closed.1,
    fun listed => closed.2 (mem_listening_drop.mp listed).1⟩

theorem Valid.create {inbox : Inbox} (valid : inbox.Valid) : inbox.create.1.Valid := by
  intro waiter listed
  rcases List.mem_cons.mp listed with new | old
  · exact new ▸ Nat.lt_succ_self _
  · exact Nat.lt_succ_of_lt (valid waiter old)

theorem Valid.drop {inbox : Inbox} (valid : inbox.Valid) (waiter : Waiter) :
    (inbox.drop waiter).1.Valid :=
  fun other listed => (inbox.created_drop waiter).symm ▸
    valid other (mem_listening_drop.mp listed).1

/-- A waiter that stops while it listens is closed by that. -/
theorem closed_of_dropped {inbox : Inbox} {waiter : Waiter}
    (listened : (inbox.drop waiter).2 = some true) : (inbox.drop waiter).1.Closed waiter := by
  have known := drop_eq_some_true_iff.mp listened
  exact ⟨(inbox.created_drop waiter).symm ▸ known.1, fun listed =>
    absurd ((mem_listening_drop.mp listed).2 rfl) (Nat.not_le.mpr known.1)⟩

theorem Valid.hear {inbox : Inbox} (valid : inbox.Valid) (utterance : β) :
    (inbox.hear waiter? utterance).1.Valid :=
  fun waiter listed => (inbox.created_hear utterance).symm ▸
    valid waiter (mem_listening_hear.mp listed).1

variable (waiter?) in
/-- A closed waiter stays closed: it hears nothing, and cannot stop listening. -/
theorem Closed.listen {inbox : Inbox} {waiter : Waiter} (closed : inbox.Closed waiter)
    (course : List (Waiter ⊕ β)) :
    (inbox.listen waiter? course).inbox.Closed waiter ∧
      waiter ∉ (inbox.listen waiter? course).silenced ∧
        ¬ (inbox.listen waiter? course).Reaches waiter? waiter := by
  induction course generalizing inbox with
  | nil => exact ⟨closed, List.not_mem_nil, fun ⟨_, listed, _⟩ => nomatch listed⟩
  | cons hap rest inductionHypothesis =>
      cases hap with
      | inl other =>
          rcases inductionHypothesis (closed.drop other) with ⟨after, lasting, deaf⟩
          refine ⟨after, fun stopped => ?_, deaf⟩
          rcases mem_silenced_inl.mp stopped with ⟨listened, rfl⟩ | later
          · exact closed.2 (drop_eq_some_true_iff.mp listened).2
          · exact lasting later
      | inr first =>
          rcases inductionHypothesis (closed.hear first) with ⟨after, lasting, deaf⟩
          refine ⟨after, lasting, ?_⟩
          rintro ⟨said, listed, addressed⟩
          rcases mem_heard_inr.mp listed with ⟨heard, rfl⟩ | later
          · rw [Inbox.hear, addressed] at heard
            exact closed.2 (List.contains_iff_mem.mp heard)
          · exact deaf ⟨said, later, addressed⟩

variable (waiter?) in
/-- A waiter that stops listening or hears something is closed by it, and so it
cannot do the other as well. -/
theorem Valid.listen {inbox : Inbox} (valid : inbox.Valid) (course : List (Waiter ⊕ β)) :
    (inbox.listen waiter? course).inbox.Valid ∧ ∀ waiter,
      (waiter ∈ (inbox.listen waiter? course).silenced →
        (inbox.listen waiter? course).inbox.Closed waiter ∧
          ¬ (inbox.listen waiter? course).Reaches waiter? waiter) ∧
      ((inbox.listen waiter? course).Reaches waiter? waiter →
        (inbox.listen waiter? course).inbox.Closed waiter) := by
  induction course generalizing inbox with
  | nil => exact ⟨valid, fun _ => ⟨(nomatch ·), fun ⟨_, listed, _⟩ => nomatch listed⟩⟩
  | cons hap rest inductionHypothesis =>
      cases hap with
      | inl other =>
          rcases inductionHypothesis (valid.drop other) with ⟨after, closed⟩
          refine ⟨after, fun waiter => ⟨fun stopped => ?_, (closed waiter).2⟩⟩
          rcases mem_silenced_inl.mp stopped with ⟨listened, rfl⟩ | later
          · have done := (closed_of_dropped listened).listen waiter? rest
            exact ⟨done.1, done.2.2⟩
          · exact (closed waiter).1 later
      | inr first =>
          rcases inductionHypothesis (valid.hear first) with ⟨after, closed⟩
          refine ⟨after, fun waiter => ?_⟩
          by_cases told : (inbox.hear waiter? first).2 = true ∧ waiter? first = some waiter
          · have known : waiter ∈ inbox.listening := by
              rw [Inbox.hear, told.2] at told
              exact List.contains_iff_mem.mp told.1
            have done : (inbox.hear waiter? first).1.Closed waiter :=
              ⟨(inbox.created_hear first).symm ▸ valid waiter known,
                fun listed => (mem_listening_hear.mp listed).2 told.2⟩
            have later := done.listen waiter? rest
            exact ⟨fun stopped => absurd stopped later.2.1, fun _ => later.1⟩
          · have reaches : (inbox.listen waiter? (.inr first :: rest)).Reaches waiter? waiter ↔
                ((inbox.hear waiter? first).1.listen waiter? rest).Reaches waiter? waiter := by
              constructor
              · rintro ⟨said, listed, addressed⟩
                rcases mem_heard_inr.mp listed with ⟨heard, rfl⟩ | later
                · exact absurd ⟨heard, addressed⟩ told
                · exact ⟨said, later, addressed⟩
              · rintro ⟨said, listed, addressed⟩
                exact ⟨said, mem_heard_inr.mpr (.inr listed), addressed⟩
            rw [reaches]
            exact closed waiter

end

end Inbox

/-! ## Runs -/

/-- What is noticed of a run.  An utterance is noticed only if it was heard; one
that is for nobody is heard by everybody. -/
structure Attendance (σ β : Type) where
  /-- After each action the state and what was heard. -/
  records : List (σ × List β)
  /-- Those who stopped listening before they were told. -/
  silenced : List Waiter

namespace Reactor

variable {σ α β : Type} (reactor : Reactor σ α β)

/-- Let waiters listen, be told and stop listening. -/
def attend (s : σ) (inbox : Inbox) : List (Incident α) → Attendance σ β
  | [] => ⟨[], []⟩
  | .act action meanwhile :: rest =>
    let given := inbox.attend reactor.waiter? meanwhile (reactor.step s action)
    let later := attend given.1 given.2.inbox rest
    ⟨(given.1, given.2.heard) :: later.records, given.2.silenced ++ later.silenced⟩
  | .create :: rest => attend s inbox.create.1 rest
  | .drop waiter :: rest =>
    let hearing := inbox.listen reactor.waiter? [.inl waiter]
    let later := attend s hearing.inbox rest
    ⟨later.records, hearing.silenced ++ later.silenced⟩

/-- The records as everybody notices them who is none of these waiters. -/
def noticed (others : List Waiter) (records : List (σ × List β)) : List (σ × List β) :=
  records.map fun record => (record.1, record.2.filter (Inbox.spares reactor.waiter? others))

/-- The reactor takes no notice of whether it is heard: whatever the answers are,
each step says what `operate` lists, and its state is the one named there. -/
def Performs (operate : σ → α → σ × List β) : Prop :=
  ∀ s action, reactor.step s action = .perform (operate s action)

/-- Operations get on without these waiters: it makes no difference, except to
them, whether they are left out of the state and of the actions. -/
def Commutes (operate : σ → α → σ × List β) (others : List Waiter) (without : σ → σ)
    (recast : α → α) : Prop :=
  ∀ s action, (operate (without s) (recast action)).1 = without (operate s action).1 ∧
    (operate (without s) (recast action)).2.filter (Inbox.spares reactor.waiter? others) =
      (operate s action).2.filter (Inbox.spares reactor.waiter? others)

theorem commutes_refl (operate : σ → α → σ × List β) (others : List Waiter) :
    reactor.Commutes operate others id id :=
  fun _ _ => ⟨rfl, rfl⟩

variable {reactor} {operate : σ → α → σ × List β}

/-- One action of a run, with the answers out of play. -/
theorem Performs.attend_act (performs : reactor.Performs operate) (s : σ) (inbox : Inbox)
    (action : α) (meanwhile : Nat → List Waiter) (rest : List (Incident α)) :
    reactor.attend s inbox (.act action meanwhile :: rest) =
      let done := operate s action
      let hearing := inbox.listen reactor.waiter? (Inbox.amid meanwhile done.2)
      let later := reactor.attend done.1 hearing.inbox rest
      ⟨(done.1, hearing.heard) :: later.records, hearing.silenced ++ later.silenced⟩ := by
  rw [attend, performs, Inbox.attend_perform]

/-- If some waiters stop listening, the others notice what they would notice if
those went on to listen and were left out from the beginning. -/
theorem records_of_commutes (performs : reactor.Performs operate) {others : List Waiter}
    {without : σ → σ} {recast : α → α}
    (commutes : reactor.Commutes operate others without recast)
    (incidents : List (Incident α)) (s : σ) {inbox other : Inbox}
    (agree : Inbox.Agrees others inbox other)
    (within : ∀ waiter ∈ (reactor.attend s inbox incidents).silenced, waiter ∈ others) :
    reactor.noticed others ((reactor.attend s inbox incidents).records.map
        fun record => (without record.1, record.2)) =
      reactor.noticed others (reactor.attend (without s) other
        (incidents.filterMap (Incident.lasting? recast))).records := by
  induction incidents generalizing s inbox other with
  | nil => rfl
  | cons incident rest inductionHypothesis =>
      cases incident with
      | act action meanwhile =>
          rcases commutes s action with ⟨next, said⟩
          have recalled : (Incident.act action meanwhile :: rest).filterMap
              (Incident.lasting? recast) =
                .act (recast action) (fun _ => []) ::
                  rest.filterMap (Incident.lasting? recast) := rfl
          rw [performs.attend_act] at within ⊢
          rw [recalled, performs.attend_act]
          have here := agree.listen_filter reactor.waiter?
            (Inbox.amid meanwhile (operate s action).2) fun waiter stopped =>
              within waiter (List.mem_append_left _ stopped)
          have there := (Inbox.Agrees.refl others other).listen_filter reactor.waiter?
            (Inbox.amid (fun _ => []) (operate (without s) (recast action)).2) (by
              rw [Inbox.amid_nobody, Inbox.silenced_listen_map]
              exact fun _ stopped => nomatch stopped)
          simp only [Inbox.utteredBut, Inbox.filterMap_amid, said] at here there
          have later := inductionHypothesis (operate s action).1
            (here.1.trans there.1.symm)
            fun waiter stopped => within waiter (List.mem_append_right _ stopped)
          rw [← next] at later
          change (without (operate s action).1, List.filter _ _) :: _ =
            (_, List.filter _ _) :: _
          rw [← next]
          exact congrArg₂ List.cons (congrArg _ (here.2.trans there.2.symm)) later
      | create => exact inductionHypothesis s agree.create within
      | drop waiter =>
          have here := agree.listen_filter reactor.waiter? [.inl waiter] fun waiter stopped =>
            within waiter (List.mem_append_left _ stopped)
          exact inductionHypothesis s here.1
            fun waiter stopped => within waiter (List.mem_append_right _ stopped)

/-- A closed waiter hears nothing, and cannot stop listening. -/
theorem attend_closed (performs : reactor.Performs operate) {inbox : Inbox} {waiter : Waiter}
    (closed : inbox.Closed waiter) (incidents : List (Incident α)) (s : σ) :
    (∀ record ∈ (reactor.attend s inbox incidents).records, ∀ said ∈ record.2,
      reactor.waiter? said ≠ some waiter) ∧
        waiter ∉ (reactor.attend s inbox incidents).silenced := by
  induction incidents generalizing s inbox with
  | nil => exact ⟨fun _ listed => (nomatch listed), List.not_mem_nil⟩
  | cons incident rest inductionHypothesis =>
      cases incident with
      | act action meanwhile =>
          rcases closed.listen reactor.waiter? (Inbox.amid meanwhile (operate s action).2) with
            ⟨after, lasting, deaf⟩
          rcases inductionHypothesis after (operate s action).1 with ⟨silent, never⟩
          rw [performs.attend_act]
          refine ⟨fun record listed => ?_, fun stopped => ?_⟩
          · rcases List.mem_cons.mp listed with rfl | later
            · exact fun said member addressed => deaf ⟨said, member, addressed⟩
            · exact silent record later
          · exact (List.mem_append.mp stopped).elim lasting never
      | create => exact inductionHypothesis closed.create s
      | drop other =>
          rcases closed.listen reactor.waiter? [.inl other] with ⟨after, lasting, _⟩
          rcases inductionHypothesis after s with ⟨silent, never⟩
          exact ⟨silent, fun stopped => (List.mem_append.mp stopped).elim lasting never⟩

/-- Who stops listening before it is told hears nothing, before or after. -/
theorem attend_silenced (performs : reactor.Performs operate) {inbox : Inbox}
    (valid : inbox.Valid) {waiter : Waiter} (incidents : List (Incident α)) (s : σ)
    (stopped : waiter ∈ (reactor.attend s inbox incidents).silenced) :
    ∀ record ∈ (reactor.attend s inbox incidents).records, ∀ said ∈ record.2,
      reactor.waiter? said ≠ some waiter := by
  induction incidents generalizing s inbox with
  | nil => cases stopped
  | cons incident rest inductionHypothesis =>
      cases incident with
      | act action meanwhile =>
          rcases valid.listen reactor.waiter? (Inbox.amid meanwhile (operate s action).2) with
            ⟨after, closed⟩
          rw [performs.attend_act] at stopped ⊢
          intro record listed said member addressed
          rcases List.mem_append.mp stopped with now | later
          · rcases (closed waiter).1 now with ⟨done, deaf⟩
            rcases List.mem_cons.mp listed with rfl | behind
            · exact deaf ⟨said, member, addressed⟩
            · exact (attend_closed performs done rest _).1 record behind said member addressed
          · rcases List.mem_cons.mp listed with rfl | behind
            · have done := (closed waiter).2 ⟨said, member, addressed⟩
              exact (attend_closed performs done rest _).2 later
            · exact inductionHypothesis after _ later record behind said member addressed
      | create => exact inductionHypothesis valid.create s stopped
      | drop other =>
          rcases valid.listen reactor.waiter? [.inl other] with ⟨after, closed⟩
          rcases List.mem_append.mp stopped with now | later
          · exact (attend_closed performs ((closed waiter).1 now).1 rest s).1
          · exact inductionHypothesis after s later

end Reactor

/-! ## What does not depend on who listens -/

/-- What a run looks like to those who do not stop listening, whoever else does
and whenever. -/
structure Undisturbed {σ α β : Type} (reactor : Reactor σ α β) (without : List Waiter → σ → σ)
    (recast : List Waiter → α → α) (s : σ) (inbox : Inbox) (incidents : List (Incident α)) :
    Prop where
  /-- After each action the state is the one it would be if nobody had stopped
  listening, and the others and the world notice the same, in the same order. -/
  undropped :
    let run := reactor.attend s inbox incidents
    reactor.noticed run.silenced run.records = reactor.noticed run.silenced
      (reactor.attend s inbox (incidents.filterMap (Incident.lasting? id))).records
  /-- And so it would be if those who stopped had never been waited for; then the
  state differs in their names only. -/
  absent :
    let run := reactor.attend s inbox incidents
    reactor.noticed run.silenced
        (run.records.map fun record => (without run.silenced record.1, record.2)) =
      reactor.noticed run.silenced (reactor.attend (without run.silenced s) inbox
        (incidents.filterMap (Incident.lasting? (recast run.silenced)))).records
  /-- Those who stopped before they were told hear nothing. -/
  deaf : inbox.Valid → ∀ waiter ∈ (reactor.attend s inbox incidents).silenced,
    ∀ record ∈ (reactor.attend s inbox incidents).records, ∀ said ∈ record.2,
      reactor.waiter? said ≠ some waiter

/-- A reactor that takes no notice of its waiters, and that gets on without any of
them, is undisturbed by those who stop listening. -/
theorem Reactor.undisturbed_of_performs {σ α β : Type} {reactor : Reactor σ α β}
    {operate : σ → α → σ × List β} (performs : reactor.Performs operate)
    {without : List Waiter → σ → σ} {recast : List Waiter → α → α}
    (commutes : ∀ others, reactor.Commutes operate others (without others) (recast others))
    (s : σ) (inbox : Inbox) (incidents : List (Incident α)) :
    Undisturbed reactor without recast s inbox incidents where
  undropped := by
    have same := records_of_commutes performs (reactor.commutes_refl operate _) incidents s
      (Inbox.Agrees.refl _ inbox) fun _ stopped => stopped
    exact (congrArg _ (List.map_id _).symm).trans same
  absent := records_of_commutes performs (commutes _) incidents s (Inbox.Agrees.refl _ inbox)
    fun _ stopped => stopped
  deaf := fun valid _ stopped => attend_silenced performs valid incidents s stopped

end CompilerRelay
