import CompilerRelay.Proofs.Report
import CompilerRelay.Proofs.Text.Order

/-!
# What is sent when everything is withdrawn

A ledger is a map, and a map lists its entries in no order that anybody may rely
on.  `After` therefore lets the entries change places at any time: before an
operation, after it, and right before everything is withdrawn.  What is tracked
is told apart from the ledger, by the last word of the history about a document
(`leavesShown`).

Two retractions never compare as equal, because a document has one entry and its
text is all there is to a URI.  So there is one list that ascends strictly and
retracts just the tracked documents (`Retracts.unique`), and withdrawing sends
this list whatever the history was and however the entries stand.
-/

namespace CompilerRelay

def Uri.bytes (uri : Uri) : List UInt8 :=
  Text.Utf8.encode uri.text.toList

theorem Uri.bytes_lt {first second : Uri} (less : first.text < second.text) :
    first.bytes < second.bytes :=
  Text.Utf8.encode_lt (String.lt_iff.mp less)

namespace Ledger

/-- Something that is done to a ledger. -/
inductive Operation where
  | publish (uri : Uri) (diagnostics : List Diagnostic)
  | clear

/-- What an operation says of a document, if anything: whether it shows
something from now on. -/
def Operation.says? (uri : Uri) : Operation → Option Bool
  | publish other diagnostics => if uri = other then some !diagnostics.isEmpty else none
  | clear => some false

def perform (ledger : Ledger) : Operation → Ledger
  | .publish uri diagnostics => (ledger.publish uri diagnostics).1
  | .clear => ledger.clear.1

/-- Whether a history leaves a document showing something: the last operation
that says anything of it decides. -/
def leavesShown (history : List Operation) (uri : Uri) : Bool :=
  (history.reverse.findSome? (Operation.says? uri)).getD false

/-- The ledgers that a history can leave.  There are several, because entries
may change places at any time: no law may rely on where an entry stands. -/
inductive After : List Operation → Ledger → Prop
  | nothing : After [] empty
  | performed {history : List Operation} {ledger : Ledger} (operation : Operation)
      (before : After history ledger) : After (history ++ [operation]) (ledger.perform operation)
  /-- The entries may stand in any order at any time. -/
  | arranged {history : List Operation} {ledger other : Ledger}
      (same : other.entries.Perm ledger.entries) (before : After history ledger) :
      After history other

/-- Publications that take back what the tracked documents show, one for each
of them, in the order of the bytes of the documents' texts. -/
structure Retracts (tracked : Uri → Bool) (sent : List Publication) : Prop where
  retractions : ∀ publication ∈ sent, publication.isRetraction = true
  once : ∀ uri, (sent.map (·.uri)).count uri = if tracked uri then 1 else 0
  ascending : sent.Pairwise fun first second => first.uri.bytes < second.uri.bytes

/-- A retraction says no more than which document it is about. -/
theorem Retracts.restored {tracked : Uri → Bool} {sent : List Publication}
    (retracts : Retracts tracked sent) :
    (sent.map (·.uri)).map (fun uri => (⟨uri, []⟩ : Publication)) = sent := by
  have same : ∀ publication ∈ sent, (⟨publication.uri, []⟩ : Publication) = publication := by
    rintro ⟨uri, diagnostics⟩ listed
    have empty : diagnostics = [] :=
      List.isEmpty_iff.mp (retracts.retractions ⟨uri, diagnostics⟩ listed)
    rw [empty]
  rw [List.map_map]
  exact (List.map_congr_left same).trans (List.map_id sent)

/-- There is one way to take everything back. -/
theorem Retracts.unique {tracked : Uri → Bool} {sent other : List Publication}
    (left : Retracts tracked sent) (right : Retracts tracked other) : sent = other := by
  have uris : (sent.map (·.uri)).Perm (other.map (·.uri)) :=
    List.perm_iff_count.mpr fun uri => (left.once uri).trans (right.once uri).symm
  have same := uris.map fun uri => (⟨uri, []⟩ : Publication)
  rw [left.restored, right.restored] at same
  refine List.Perm.eq_of_pairwise ?_ left.ascending right.ascending same
  intro first second _ _ less greater
  exact absurd greater (List.lt_asymm less)

/-! ## What a history leaves -/

theorem WellFormed.arranged {ledger other : Ledger} (wellFormed : ledger.WellFormed)
    (same : other.entries.Perm ledger.entries) : other.WellFormed where
  distinct := (same.map Prod.fst).nodup_iff.mpr wellFormed.distinct
  shown := fun entry listed => wellFormed.shown entry (same.mem_iff.mp listed)

theorem isTracked_perform (ledger : Ledger) (operation : Operation) (uri : Uri) :
    (ledger.perform operation).isTracked uri =
      (operation.says? uri).getD (ledger.isTracked uri) := by
  cases operation with
  | clear => rfl
  | publish other diagnostics =>
      rw [isTracked, perform, get?_publish, Operation.says?]
      by_cases same : uri = other
      · rw [if_pos same, if_pos same]
        cases diagnostics <;> rfl
      · rw [if_neg same, if_neg same]
        rfl

theorem leavesShown_concat (history : List Operation) (last : Operation) (uri : Uri) :
    leavesShown (history ++ [last]) uri = (last.says? uri).getD (leavesShown history uri) := by
  rw [leavesShown, List.reverse_concat, List.findSome?_cons]
  cases last.says? uri <;> rfl

theorem After.wellFormed {history : List Operation} {ledger : Ledger}
    (after : After history ledger) : ledger.WellFormed := by
  induction after with
  | nothing => exact empty_wellFormed
  | performed operation _ inductionHypothesis =>
      cases operation with
      | publish uri diagnostics =>
          exact (publish_updates _ inductionHypothesis uri diagnostics).wellFormed
      | clear => exact empty_wellFormed
  | arranged same _ inductionHypothesis => exact inductionHypothesis.arranged same

/-- A document is tracked if the history's last word about it says so. -/
theorem After.isTracked {history : List Operation} {ledger : Ledger}
    (after : After history ledger) (uri : Uri) :
    ledger.isTracked uri = leavesShown history uri := by
  induction after with
  | nothing => rfl
  | performed operation _ inductionHypothesis =>
      rw [isTracked_perform, leavesShown_concat, inductionHypothesis]
  | arranged same _ inductionHypothesis =>
      rw [← inductionHypothesis, Bool.eq_iff_iff, isTracked_iff, isTracked_iff]
      exact (same.map Prod.fst).mem_iff

/-! ## Withdrawing everything -/

/-- Sorting different documents by their texts makes the texts ascend strictly. -/
theorem sorted_ascending {uris : List Uri} (distinct : uris.Nodup) :
    (uris.mergeSort fun a b => a.text ≤ b.text).Pairwise fun first second =>
      first.text < second.text := by
  have transitive : ∀ a b c : Uri, decide (a.text ≤ b.text) = true →
      decide (b.text ≤ c.text) = true → decide (a.text ≤ c.text) = true := by
    intro a b c early late
    rw [decide_eq_true_iff] at early late ⊢
    exact String.le_trans early late
  have total : ∀ a b : Uri, (decide (a.text ≤ b.text) || decide (b.text ≤ a.text)) = true := by
    intro a b
    rw [Bool.or_eq_true, decide_eq_true_iff, decide_eq_true_iff]
    exact String.le_total a.text b.text
  have apart := (List.mergeSort_perm uris fun a b => decide (a.text ≤ b.text)).symm.nodup distinct
  refine (List.pairwise_mergeSort transitive total uris).imp₂ ?_ apart
  intro first second before different
  -- neither equal nor the other way round, as the text is all there is to a URI
  refine String.not_le.mp fun behind => different ?_
  exact congrArg Uri.mk (String.le_antisymm (decide_eq_true_iff.mp before) behind)

/-- Withdrawing takes everything back, however the entries stand. -/
theorem clear_retracts (ledger : Ledger) (wellFormed : ledger.WellFormed) :
    Retracts ledger.isTracked ledger.clear.2 := by
  have withdraws := ledger.clear_withdraws
  refine ⟨withdraws.retracted, ?_, ?_⟩
  · intro uri
    rw [withdraws.once.count_eq, wellFormed.distinct.count]
    exact if_congr (ledger.isTracked_iff uri).symm rfl rfl
  · exact List.pairwise_map.mpr ((sorted_ascending wellFormed.distinct).imp Uri.bytes_lt)

/-- What withdrawing everything does to a ledger that a history left.  What is
sent depends on which documents are tracked and on nothing else. -/
structure Cleared (history : List Operation) (ledger : Ledger) : Prop where
  nothing : ledger.clear.1 = empty
  /-- The tracked documents are those that the history left showing something. -/
  tracked : ∀ uri, ledger.isTracked uri = leavesShown history uri
  retracts : Retracts ledger.isTracked ledger.clear.2
  /-- Where another history leaves the same documents tracked, the same list is
  sent. -/
  alike : ∀ otherHistory other, After otherHistory other →
    (∀ uri, other.isTracked uri = ledger.isTracked uri) → other.clear.2 = ledger.clear.2

/-- Withdrawing everything takes back what each tracked document shows, once and
in the order of the bytes, and leaves nothing tracked.  What is sent depends on
which documents are tracked, and neither on the order in which they came to be
tracked nor on the order of the entries. -/
theorem retracted_in_order {history : List Operation} {ledger : Ledger}
    (after : After history ledger) : Cleared history ledger where
  nothing := rfl
  tracked := after.isTracked
  retracts := ledger.clear_retracts after.wellFormed
  alike := by
    intro otherHistory other otherAfter same
    have tracked : other.isTracked = ledger.isTracked := funext same
    have retracts := other.clear_retracts otherAfter.wellFormed
    rw [tracked] at retracts
    exact retracts.unique (ledger.clear_retracts after.wellFormed)

/-- Of three documents one is clean again, and the entries of the others stand
the other way round. -/
theorem retracted_in_order_rearranged :
    let shown : List Diagnostic := [⟨⟨⟨0, 0⟩, ⟨0, 1⟩⟩, .error, "compiler", "unclear"⟩]
    let history : List Operation := [.publish ⟨"file:///plan"⟩ shown,
      .publish ⟨"file:///note"⟩ shown, .publish ⟨"file:///draft"⟩ shown,
      .publish ⟨"file:///note"⟩ []]
    let ledger : Ledger := ⟨[(⟨"file:///plan"⟩, shown), (⟨"file:///draft"⟩, shown)]⟩
    After history ledger ∧ Cleared history ledger ∧
      ledger.clear.2 = [⟨⟨"file:///draft"⟩, []⟩, ⟨⟨"file:///plan"⟩, []⟩] := by
  intro shown history ledger
  have after : After history ledger :=
    .arranged (by decide) (.performed _ (.performed _ (.performed _ (.performed _ .nothing))))
  have later : ¬ "file:///plan" ≤ "file:///draft" := by decide
  refine ⟨after, retracted_in_order after, ?_⟩
  simp [ledger, clear, List.mergeSort, later]

end Ledger
end CompilerRelay
