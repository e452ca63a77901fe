import CompilerRelay.Ledger

/-!
# The ledger and the editor's markers

An editor keeps the diagnostics of the last publication for each document.
`Markers.after` replays publications in that way, and `Ledger.markers` is what
the ledger says an editor shows.  The two are computed independently: the
replay never looks at a ledger, and the ledger never looks at a publication
that was sent.

`Ledger.Updates` is the simulation between them.  It joins the ledger before
and after an operation with the publications of that operation, and it
composes, so each operation is treated once and a run needs no argument of its
own.  Nothing here depends on who calls the ledger.
-/

namespace CompilerRelay

/-- What an editor shows for each document.  Nothing is known here of documents
that are open or closed; an editor that is told diagnostics shows them. -/
abbrev Markers := Uri → List Diagnostic

namespace Markers

/-- A publication replaces what its document showed, and nothing else. -/
def accept (markers : Markers) (publication : Publication) : Markers :=
  fun uri => if uri = publication.uri then publication.diagnostics else markers uri

/-- What an editor shows after several publications. -/
def acceptAll (markers : Markers) (publications : List Publication) : Markers :=
  publications.foldl accept markers

/-- What an editor shows that has received nothing but these publications.  It
begins with nothing, as an editor does that has just been started. -/
def after (publications : List Publication) : Markers :=
  acceptAll (fun _ => []) publications

/-- Every retraction takes something away at the moment it is sent.  The
condition speaks of what the editor shows then, so the publications before it
matter and those behind it do not. -/
def Sensible (markers : Markers) : List Publication → Prop
  | [] => True
  | publication :: rest =>
    (publication.isRetraction = true → markers publication.uri ≠ []) ∧
      Sensible (markers.accept publication) rest

theorem acceptAll_append (markers : Markers) (first second : List Publication) :
    markers.acceptAll (first ++ second) = (markers.acceptAll first).acceptAll second :=
  List.foldl_append

theorem sensible_append (markers : Markers) (first second : List Publication) :
    markers.Sensible (first ++ second) ↔
      markers.Sensible first ∧ (markers.acceptAll first).Sensible second := by
  induction first generalizing markers with
  | nil => exact ⟨fun late => ⟨trivial, late⟩, And.right⟩
  | cons publication rest inductionHypothesis =>
      have tail := inductionHypothesis (markers.accept publication)
      constructor
      · rintro ⟨head, later⟩
        exact ⟨⟨head, (tail.mp later).1⟩, (tail.mp later).2⟩
      · rintro ⟨⟨head, early⟩, late⟩
        exact ⟨head, tail.mpr ⟨early, late⟩⟩

/-- Withdrawing documents one after the other empties them, in any order. -/
theorem acceptAll_retractions (markers : Markers) (uris : List Uri) :
    markers.acceptAll (uris.map fun uri => ⟨uri, []⟩) =
      fun uri => if uri ∈ uris then [] else markers uri := by
  induction uris generalizing markers with
  | nil =>
      funext uri
      simp only [List.map_nil, List.not_mem_nil, if_false]
      rfl
  | cons head rest inductionHypothesis =>
      funext uri
      have tail := congrFun (inductionHypothesis (markers.accept ⟨head, []⟩)) uri
      change (markers.accept ⟨head, []⟩).acceptAll _ uri = _
      rw [tail]
      by_cases listed : uri ∈ rest
      · rw [if_pos listed, if_pos (List.mem_cons_of_mem head listed)]
      · rw [if_neg listed]
        by_cases same : uri = head
        · rw [accept, if_pos same, if_pos (same ▸ List.mem_cons_self)]
        · have missing : uri ∉ head :: rest := List.not_mem_cons_of_ne_of_not_mem same listed
          rw [accept, if_neg same, if_neg missing]

/-- Withdrawing different documents that all show something is sensible. -/
theorem sensible_retractions (markers : Markers) (uris : List Uri) (distinct : uris.Nodup)
    (shown : ∀ uri ∈ uris, markers uri ≠ []) :
    markers.Sensible (uris.map fun uri => ⟨uri, []⟩) := by
  induction uris generalizing markers with
  | nil => trivial
  | cons head rest inductionHypothesis =>
      have parts := List.nodup_cons.mp distinct
      refine ⟨fun _ => shown head List.mem_cons_self, inductionHypothesis _ parts.2 ?_⟩
      intro uri listed
      have different : uri ≠ head := by
        intro same
        exact parts.1 (same ▸ listed)
      simp only [accept, if_neg different]
      exact shown uri (List.mem_cons_of_mem head listed)

end Markers

/-- Without the entries under one URI, those under the others are looked up as
before. -/
theorem lookup_others {α : Type} (entries : List (Uri × α)) (uri other : Uri) :
    (entries.filter fun entry => entry.1 != uri).lookup other =
      if other = uri then none else entries.lookup other := by
  induction entries with
  | nil => simp only [List.filter_nil, List.lookup_nil, ite_self]
  | cons entry rest inductionHypothesis =>
      rcases entry with ⟨key, content⟩
      by_cases dropped : key = uri
      · subst key
        rw [List.filter_cons_of_neg (by simp), inductionHypothesis]
        by_cases same : other = uri
        · simp only [if_pos same]
        · simp only [if_neg same, List.lookup_cons, beq_eq_false_iff_ne.mpr same]
      · rw [List.filter_cons_of_pos (by simpa using dropped), List.lookup_cons,
          inductionHypothesis, List.lookup_cons]
        by_cases found : other = key
        · subst other
          simp only [beq_self_eq_true, if_neg dropped]
        · simp only [beq_eq_false_iff_ne.mpr found]

namespace Ledger

/-- What the ledger says an editor shows. -/
def markers (ledger : Ledger) : Markers :=
  fun uri => (ledger.get? uri).getD []

/-- Each tracked document has one entry, and shows something.  Otherwise what is
held would not be what is shown, and a document that shows nothing could be
retracted. -/
structure WellFormed (ledger : Ledger) : Prop where
  distinct : (ledger.entries.map Prod.fst).Nodup
  shown : ∀ entry ∈ ledger.entries, entry.2 ≠ []

theorem empty_wellFormed : empty.WellFormed :=
  ⟨List.nodup_nil, fun _ member => absurd member List.not_mem_nil⟩

/-- An entry is what its document shows. -/
theorem get?_of_mem {ledger : Ledger} (wellFormed : ledger.WellFormed)
    {entry : Uri × List Diagnostic} (listed : entry ∈ ledger.entries) :
    ledger.get? entry.1 = some entry.2 := by
  rcases List.append_of_mem listed with ⟨front, back, split⟩
  have distinct := wellFormed.distinct
  rw [split, List.map_append, List.map_cons] at distinct
  refine List.lookup_eq_some_iff.mpr ⟨front, back, split, fun other before => ?_⟩
  have first := (List.nodup_append.mp distinct).2.2 other.1 (List.mem_map_of_mem before) entry.1
    List.mem_cons_self
  exact bne_iff_ne.mpr first.symm

/-- The entries of the other documents are looked up as before. -/
theorem lookup_without (ledger : Ledger) (uri other : Uri) :
    (ledger.without uri).lookup other = if other = uri then none else ledger.get? other :=
  lookup_others ledger.entries uri other

theorem keys_without (ledger : Ledger) (uri : Uri) :
    (ledger.without uri).map Prod.fst = (ledger.entries.map Prod.fst).filter (· != uri) := by
  rw [without, List.filter_map]
  rfl

theorem without_wellFormed (ledger : Ledger) (wellFormed : ledger.WellFormed) (uri : Uri) :
    WellFormed ⟨ledger.without uri⟩ where
  distinct := by
    change ((ledger.without uri).map Prod.fst).Nodup
    rw [keys_without]
    exact wellFormed.distinct.filter _
  shown := fun entry member => wellFormed.shown entry (List.mem_filter.mp member).1

theorem isTracked_iff (ledger : Ledger) (uri : Uri) :
    ledger.isTracked uri = true ↔ uri ∈ ledger.entries.map Prod.fst := by
  rw [isTracked, get?, List.lookup_isSome_iff, List.mem_map]
  constructor
  · rintro ⟨entry, listed, same⟩
    exact ⟨entry, listed, (beq_iff_eq.mp same).symm⟩
  · rintro ⟨entry, listed, same⟩
    exact ⟨entry, listed, beq_iff_eq.mpr same.symm⟩

/-- A document shows something exactly when it is tracked. -/
theorem markers_ne_nil (ledger : Ledger) (wellFormed : ledger.WellFormed) (uri : Uri) :
    ledger.markers uri ≠ [] ↔ uri ∈ ledger.entries.map Prod.fst := by
  rw [← isTracked_iff, markers, isTracked]
  cases found : ledger.get? uri with
  | none => exact ⟨fun shows => absurd rfl shows, fun tracked => nomatch tracked⟩
  | some diagnostics =>
      rcases List.lookup_eq_some_iff.mp found with ⟨before, after, split, _⟩
      have listed : (uri, diagnostics) ∈ ledger.entries := by
        rw [split]
        exact List.mem_append_right _ List.mem_cons_self
      exact ⟨fun _ => rfl, fun _ => wellFormed.shown _ listed⟩

/-- An operation that takes one ledger to another sends publications that take
an editor from showing the one to showing the other, and none of them in vain. -/
structure Updates (before : Ledger) (publications : List Publication) (after : Ledger) :
    Prop where
  wellFormed : after.WellFormed
  markers : before.markers.acceptAll publications = after.markers
  sensible : before.markers.Sensible publications

theorem Updates.refl (ledger : Ledger) (wellFormed : ledger.WellFormed) :
    ledger.Updates [] ledger :=
  ⟨wellFormed, rfl, trivial⟩

theorem Updates.trans {first second third : Ledger} {early late : List Publication}
    (left : first.Updates early second) (right : second.Updates late third) :
    first.Updates (early ++ late) third where
  wellFormed := right.wellFormed
  markers := by
    rw [Markers.acceptAll_append, left.markers]
    exact right.markers
  sensible := by
    rw [Markers.sensible_append, left.markers]
    exact ⟨left.sensible, right.sensible⟩

/-- Recording what a document shows, the empty list included. -/
theorem publish_updates (ledger : Ledger) (wellFormed : ledger.WellFormed) (uri : Uri)
    (diagnostics : List Diagnostic) :
    ledger.Updates (ledger.publish uri diagnostics).2.toList
      (ledger.publish uri diagnostics).1 := by
  have kept := ledger.without_wellFormed wellFormed uri
  cases diagnostics with
  | nil =>
      by_cases tracked : ledger.isTracked uri = true
      · simp only [publish, List.isEmpty_nil, if_pos tracked, if_true, Option.toList]
        refine ⟨kept, ?_, ?_, trivial⟩
        · funext other
          change (if other = uri then [] else ledger.markers other) =
            ((ledger.without uri).lookup other).getD []
          rw [lookup_without]
          by_cases same : other = uri
          · simp only [if_pos same, Option.getD_none]
          · simp only [if_neg same]
            rfl
        · intro _
          exact (ledger.markers_ne_nil wellFormed uri).mpr ((ledger.isTracked_iff uri).mp tracked)
      · simp only [publish, List.isEmpty_nil, if_neg tracked, if_true, Option.toList]
        exact Updates.refl ledger wellFormed
  | cons first others =>
      simp only [publish, List.isEmpty_cons, Bool.false_eq_true, if_false, Option.toList]
      refine ⟨⟨?_, ?_⟩, ?_, ?_, trivial⟩
      · change (uri :: (ledger.without uri).map Prod.fst).Nodup
        refine List.nodup_cons.mpr ⟨?_, kept.distinct⟩
        rw [keys_without]
        intro member
        have differs := (List.mem_filter.mp member).2
        simp at differs
      · intro entry member
        rcases List.mem_cons.mp member with head | later
        · rw [head]
          exact List.cons_ne_nil first others
        · exact kept.shown entry later
      · funext other
        change (if other = uri then first :: others else ledger.markers other) =
          (((uri, first :: others) :: ledger.without uri).lookup other).getD []
        rw [List.lookup_cons, lookup_without]
        by_cases same : other = uri
        · simp only [if_pos same, beq_iff_eq.mpr same, Option.getD_some]
        · simp only [if_neg same, beq_eq_false_iff_ne.mpr same]
          rfl
      · intro retraction
        cases retraction

/-- Recording a report, in which a document may occur more than once. -/
theorem publishAll_updates (ledger : Ledger) (wellFormed : ledger.WellFormed)
    (files : List (Uri × List Diagnostic)) :
    ledger.Updates (ledger.publishAll files).2 (ledger.publishAll files).1 := by
  induction files generalizing ledger with
  | nil => exact Updates.refl ledger wellFormed
  | cons file rest inductionHypothesis =>
      have first := ledger.publish_updates wellFormed file.1 file.2
      exact first.trans (inductionHypothesis _ first.wellFormed)

/-- What is sent for one of several documents is what that document shows. -/
theorem mem_of_publishAll {ledger : Ledger} {files : List (Uri × List Diagnostic)}
    {publication : Publication} (sent : publication ∈ (ledger.publishAll files).2) :
    (publication.uri, publication.diagnostics) ∈ files := by
  induction files generalizing ledger with
  | nil => cases sent
  | cons file rest inductionHypothesis =>
      rcases file with ⟨uri, diagnostics⟩
      rcases List.mem_append.mp sent with now | later
      · have told := Option.mem_toList.mp now
        unfold publish at told
        by_cases empty : diagnostics.isEmpty = true
        · rw [if_pos empty] at told
          by_cases tracked : ledger.isTracked uri = true
          · rw [if_pos tracked] at told
            cases told
            rw [List.isEmpty_iff.mp empty]
            exact List.mem_cons_self
          · rw [if_neg tracked] at told
            cases told
        · rw [if_neg empty] at told
          cases told
          exact List.mem_cons_self
      · exact List.mem_cons_of_mem _ (inductionHypothesis later)

/-- Withdrawing everything.  The order of the retractions plays no part. -/
theorem clear_updates (ledger : Ledger) (wellFormed : ledger.WellFormed) :
    ledger.Updates ledger.clear.2 ledger.clear.1 := by
  have permuted := List.mergeSort_perm (ledger.entries.map Prod.fst)
    (fun a b => decide (a.text ≤ b.text))
  refine ⟨empty_wellFormed, ?_, ?_⟩
  · funext uri
    simp only [clear, Markers.acceptAll_retractions]
    change _ = []
    by_cases listed : uri ∈ ledger.entries.map Prod.fst
    · exact if_pos (permuted.mem_iff.mpr listed)
    · rw [if_neg (fun member => listed (permuted.mem_iff.mp member))]
      exact Classical.byContradiction fun shows =>
        listed ((ledger.markers_ne_nil wellFormed uri).mp shows)
  · refine Markers.sensible_retractions _ _ (permuted.symm.nodup wellFormed.distinct) ?_
    intro uri member
    exact (ledger.markers_ne_nil wellFormed uri).mpr (permuted.mem_iff.mp member)

end Ledger
end CompilerRelay
