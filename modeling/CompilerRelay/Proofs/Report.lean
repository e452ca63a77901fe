import CompilerRelay.Report
import CompilerRelay.Proofs.Ledger

/-!
# Reports and the ledger

A report may list a document more than once, and then its last entry counts.
`Report.entry?` is that entry, and `Ledger.Takes` says what a ledger holds
after a report by means of it alone.  Neither looks at the order in which the
other documents are listed, nor at the publications in between.

A report is read as a whole.  If one of the files that an answer gives cannot
be read, or one of the findings in a file, the answer is no report at all, so
nothing of it can reach the ledger.
-/

namespace CompilerRelay

/-- What a document shows when an entry of a report was published. -/
def FileReport.diagnostics (source : String) (file : FileReport) : List Diagnostic :=
  file.findings.map (Finding.toDiagnostic source)

/-- The last entry of a report for a document. -/
def Report.entry? (report : Report) (uri : Uri) : Option FileReport :=
  report.files.reverse.find? fun file => file.uri = uri

/-- The entries further on count first. -/
theorem Report.entry?_cons (file : FileReport) (rest : List FileReport) (uri : Uri) :
    Report.entry? ⟨file :: rest⟩ uri =
      (Report.entry? ⟨rest⟩ uri).or (if file.uri = uri then some file else none) := by
  simp only [Report.entry?, List.reverse_cons, List.find?_append, List.find?_singleton,
    decide_eq_true_eq]

namespace Ledger

/-- What the ledger holds for a document that shows these diagnostics. -/
def entryFor (diagnostics : List Diagnostic) : Option (List Diagnostic) :=
  if diagnostics = [] then none else some diagnostics

/-- The ledger after a report was published, and what was sent.  Each document
that is listed shows what its last entry says, and the others keep what they
showed. -/
structure Takes (before : Ledger) (source : String) (report : Report)
    (sent : List Publication) (after : Ledger) : Prop where
  listed : ∀ uri file, report.entry? uri = some file →
    after.get? uri = entryFor (file.diagnostics source)
  others : ∀ uri, report.entry? uri = none → after.get? uri = before.get? uri
  /-- Nothing is sent for a document that is not listed. -/
  confined : ∀ publication ∈ sent, ∃ file ∈ report.files, file.uri = publication.uri

/-- Everything that was tracked was taken back once, and nothing is tracked.  In
which order it is taken back is left open here. -/
structure Withdraws (before : Ledger) (sent : List Publication) (after : Ledger) : Prop where
  nothing : after = .empty
  retracted : ∀ publication ∈ sent, publication.isRetraction = true
  once : (sent.map (·.uri)).Perm (before.entries.map Prod.fst)

theorem get?_publish (ledger : Ledger) (uri other : Uri) (diagnostics : List Diagnostic) :
    (ledger.publish uri diagnostics).1.get? other =
      if other = uri then entryFor diagnostics else ledger.get? other := by
  cases diagnostics with
  | nil =>
      by_cases tracked : ledger.isTracked uri = true
      · simp only [publish, List.isEmpty_nil, if_pos tracked, if_true]
        exact ledger.lookup_without uri other
      · simp only [publish, List.isEmpty_nil, if_neg tracked, if_true]
        by_cases same : other = uri
        · subst other
          rw [if_pos rfl]
          exact Option.not_isSome_iff_eq_none.mp tracked
        · rw [if_neg same]
  | cons first rest =>
      simp only [publish, List.isEmpty_cons, Bool.false_eq_true, if_false]
      change ((uri, first :: rest) :: ledger.without uri).lookup other = _
      rw [List.lookup_cons, lookup_without]
      by_cases same : other = uri
      · simp only [if_pos same, beq_iff_eq.mpr same]
        rfl
      · simp only [if_neg same, beq_eq_false_iff_ne.mpr same]

theorem uri_of_publish (ledger : Ledger) (uri : Uri) (diagnostics : List Diagnostic)
    {publication : Publication}
    (sent : (ledger.publish uri diagnostics).2 = some publication) : publication.uri = uri := by
  unfold publish at sent
  by_cases empty : diagnostics.isEmpty = true
  · by_cases tracked : ledger.isTracked uri = true
    · simp only [if_pos empty, if_pos tracked] at sent
      exact (Option.some.inj sent) ▸ rfl
    · simp only [if_pos empty, if_neg tracked] at sent
      cases sent
  · simp only [if_neg empty] at sent
    exact (Option.some.inj sent) ▸ rfl

/-- Of several entries for one document the last one counts. -/
theorem publishAll_takes (ledger : Ledger) (source : String) (report : Report) :
    ledger.Takes source report (ledger.publishAll (report.diagnostics source)).2
      (ledger.publishAll (report.diagnostics source)).1 := by
  rcases report with ⟨files⟩
  induction files generalizing ledger with
  | nil =>
      exact ⟨fun _ _ found => (nomatch found), fun _ _ => rfl,
        fun _ member => absurd member List.not_mem_nil⟩
  | cons file rest inductionHypothesis =>
      let first := ledger.publish file.uri (file.diagnostics source)
      have later := inductionHypothesis first.1
      have passed : ∀ uri, Report.entry? ⟨rest⟩ uri = none →
          (ledger.publishAll (Report.diagnostics source ⟨file :: rest⟩)).1.get? uri =
            if uri = file.uri then entryFor (file.diagnostics source) else ledger.get? uri :=
        fun uri missing => (later.others uri missing).trans (ledger.get?_publish _ _ _)
      refine ⟨?_, ?_, ?_⟩
      · intro uri entry found
        rw [Report.entry?_cons] at found
        cases behind : Report.entry? ⟨rest⟩ uri with
        | some last =>
            rw [behind, Option.some_or] at found
            exact Option.some.inj found ▸ later.listed uri last behind
        | none =>
            rw [behind, Option.none_or] at found
            by_cases same : file.uri = uri
            · rw [if_pos same] at found
              rw [passed uri behind, if_pos same.symm, Option.some.inj found]
            · rw [if_neg same] at found
              cases found
      · intro uri missing
        rw [Report.entry?_cons] at missing
        rcases Option.or_eq_none_iff.mp missing with ⟨behind, here⟩
        have different : ¬ uri = file.uri := by
          intro same
          rw [if_pos same.symm] at here
          cases here
        rw [passed uri behind, if_neg different]
      · intro publication member
        rcases List.mem_append.mp member with now | afterwards
        · exact ⟨file, List.mem_cons_self, (ledger.uri_of_publish file.uri
            (file.diagnostics source) (Option.mem_toList.mp now)).symm⟩
        · rcases later.confined publication afterwards with ⟨other, listed, same⟩
          exact ⟨other, List.mem_cons_of_mem _ listed, same⟩

theorem clear_withdraws (ledger : Ledger) : ledger.Withdraws ledger.clear.2 ledger.clear.1 where
  nothing := rfl
  retracted := by
    intro publication member
    rcases List.mem_map.mp member with ⟨uri, _, same⟩
    exact same ▸ rfl
  once := by
    change ((_ : List Uri).map fun uri => (⟨uri, []⟩ : Publication)).map (·.uri) |>.Perm _
    rw [List.map_map]
    exact (List.map_id _).symm ▸ List.mergeSort_perm _ _

end Ledger

/-! ## A report is read as a whole -/

/-- The list in a field that is given by its name or by its position. -/
def Json.listAt (name : String) (position : Nat) (value : Json) : List Json :=
  let field := match value with
    | obj members => find? name members
    | arr elements => elements[position]?
    | _ => none
  match field with
  | some (arr items) => items
  | _ => []

/-- One item that cannot be read spoils a list. -/
theorem Decoder.list_of_malformed {α : Type} {decode : Decoder α} {items : List Json}
    {item : Json} (listed : item ∈ items) {complaint : DecodeError}
    (malformed : decode item = .error complaint) :
    ∃ first, Decoder.list decode (.arr items) = .error first := by
  change ∃ first, items.mapM decode = .error first
  induction items with
  | nil => cases listed
  | cons head rest inductionHypothesis =>
      rw [List.mapM_cons]
      cases read : decode head with
      | error first => exact ⟨first, rfl⟩
      | ok value =>
          rcases List.mem_cons.mp listed with here | later
          · rw [here, read] at malformed
            cases malformed
          · rcases inductionHypothesis later with ⟨first, failed⟩
            rw [failed]
            exact ⟨first, rfl⟩

section

variable {α β : Type} {form : Form (List α → β)} {name : String} {decode : Decoder α}
  {items : List Json} {first : DecodeError}
  (malformed : Decoder.list decode (.arr items) = .error first)

include malformed

/-- A list that cannot be read, in the last field of an object. -/
theorem Form.decodeMembers_of_malformed {members : List (String × Json)}
    (found : Json.find? name members = some (.arr items)) :
    ∃ complaint, (form.and (Form.trailing name (Decoder.list decode) [])).decodeMembers members =
      .error complaint := by
  unfold decodeMembers
  cases complaint? (form.and (Form.trailing name (Decoder.list decode) [])) members with
  | some complaint => exact ⟨complaint, rfl⟩
  | none =>
      simp only [Form.and, Form.seq, trailing, field, found, malformed]
      cases form.ofMembers (Json.find? · members) with
      | error complaint => exact ⟨complaint, rfl⟩
      | ok make => exact ⟨first, rfl⟩

/-- A list that cannot be read, in the last field of an array. -/
theorem Form.decodeElements_of_malformed {elements : List Json} (excess : Excess) (title : String)
    (reaches : ∀ wanted make left, form.ofElements 0 wanted elements = .ok (make, left) →
      ∃ rest, left = .arr items :: rest) :
    ∃ complaint, (form.and (Form.trailing name (Decoder.list decode) [])).decodeElements excess
      title elements = .error complaint := by
  simp only [decodeElements, Form.and, Form.seq]
  generalize wantedLength title _ = wanted
  cases read : form.ofElements 0 wanted elements with
  | error complaint => exact ⟨complaint, rfl⟩
  | ok made =>
      rcases made with ⟨make, left⟩
      rcases reaches wanted make left read with ⟨rest, rfl⟩
      refine ⟨first, ?_⟩
      simp only [trailing, field, bind, Except.bind, malformed, Except.map]

end

/-- A finding that cannot be read spoils the file. -/
theorem FileReport.decode_of_malformed {file item : Json}
    (listed : item ∈ file.listAt "diagnostics" 1) {complaint : DecodeError}
    (malformed : Finding.decode item = .error complaint) :
    ∃ first, FileReport.decode file = .error first := by
  unfold Json.listAt at listed
  cases file with
  | obj members =>
      cases found : Json.find? "diagnostics" members with
      | none => simp [found] at listed
      | some field =>
          cases field with
          | arr items =>
              simp only [found] at listed
              rcases Decoder.list_of_malformed listed malformed with ⟨first, failed⟩
              exact Form.decodeMembers_of_malformed failed found
          | _ => simp [found] at listed
  | arr elements =>
      rcases elements with _ | ⟨uri, _ | ⟨field, rest⟩⟩
      · cases listed
      · cases listed
      · cases field with
        | arr items =>
            rcases Decoder.list_of_malformed listed malformed with ⟨first, failed⟩
            refine Form.decodeElements_of_malformed failed .ofArray _ ?_
            intro wanted make left read
            change (Uri.decode uri).map _ >>= _ = _ at read
            cases parsed : Uri.decode uri with
            | error complaint =>
                rw [parsed] at read
                cases read
            | ok value =>
                rw [parsed] at read
                exact ⟨rest, (congrArg Prod.snd (Except.ok.inj read)).symm⟩
        | _ => cases listed
  | _ => cases listed

/-- A file that cannot be read spoils the report. -/
theorem Report.ofAnswer_of_malformed {answer file : Json} (listed : file ∈ answer.listAt "files" 0)
    {complaint : DecodeError} (malformed : FileReport.decode file = .error complaint) :
    ∃ error, Report.ofAnswer answer = .error error := by
  have refused : ∀ first, Report.decode answer = .error first → answer.isNull = false →
      ∃ error, Report.ofAnswer answer = .error error := by
    intro first failed present
    rw [ofAnswer, present, failed]
    exact ⟨_, rfl⟩
  unfold Json.listAt at listed
  cases answer with
  | obj members =>
      cases found : Json.find? "files" members with
      | none => simp [found] at listed
      | some field =>
          cases field with
          | arr items =>
              simp only [found] at listed
              rcases Decoder.list_of_malformed listed malformed with ⟨first, failed⟩
              rcases Form.decodeMembers_of_malformed failed found with ⟨complaint, spoiled⟩
              exact refused complaint spoiled rfl
          | _ => simp [found] at listed
  | arr elements =>
      rcases elements with _ | ⟨field, rest⟩
      · cases listed
      · cases field with
        | arr items =>
            rcases Decoder.list_of_malformed listed malformed with ⟨first, failed⟩
            have spoiled : ∃ complaint, Report.decode (.arr (.arr items :: rest)) =
                .error complaint := by
              refine Form.decodeElements_of_malformed failed .ofArray _ ?_
              intro wanted make left read
              exact ⟨rest, (congrArg Prod.snd (Except.ok.inj read)).symm⟩
            rcases spoiled with ⟨complaint, spoiled⟩
            exact refused complaint spoiled rfl
        | _ => cases listed
  | _ => cases listed

end CompilerRelay
