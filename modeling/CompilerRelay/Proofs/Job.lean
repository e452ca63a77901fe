import CompilerRelay.Job
import CompilerRelay.Proofs.Json.Printable
import CompilerRelay.Proofs.Json.Spelling

/-!
# The line of a job

A compiler is told of a job on one line.  The line has no control character,
so it holds no line feed, and it is read as the value it was written from.  The
value says everything about the job, so no two jobs have one line.

Identifiers have 64 bits, versions 32 bits with a sign, and positions 32 bits.
A job whose numbers are of these sizes `Fits`.
-/

namespace CompilerRelay

open Json

/-! ## Numbers of bounded size -/

def Position.Fits (position : Position) : Prop :=
  position.line < Word.size 32 ∧ position.character < Word.size 32

def Snapshot.Fits (document : Snapshot) : Prop :=
  -(Word.size 31 : Int) ≤ document.version ∧ document.version < Word.size 31

def Request.Fits : Request → Prop
  | documentChanged document => document.Fits
  | documentSaved document => document.Fits
  | hover query => query.position.Fits
  | definition query => query.position.Fits
  | _ => True

/-- A job whose numbers are of the sizes they have. -/
structure Job.Fits (job : Job) : Prop where
  id : job.id < Word.size 64
  request : job.request.Fits

instance (position : Position) : Decidable position.Fits :=
  inferInstanceAs (Decidable (_ ∧ _))

instance (document : Snapshot) : Decidable document.Fits :=
  inferInstanceAs (Decidable (_ ∧ _))

instance : (request : Request) → Decidable request.Fits
  | .documentChanged document => inferInstanceAs (Decidable document.Fits)
  | .documentSaved document => inferInstanceAs (Decidable document.Fits)
  | .hover query => inferInstanceAs (Decidable query.position.Fits)
  | .definition query => inferInstanceAs (Decidable query.position.Fits)
  | .internalReady => .isTrue trivial
  | .shutdown => .isTrue trivial
  | .addUri _ => .isTrue trivial
  | .removeUri _ => .isTrue trivial

instance (job : Job) : Decidable job.Fits :=
  decidable_of_iff (job.id < Word.size 64 ∧ job.request.Fits)
    ⟨fun fits => ⟨fits.1, fits.2⟩, fun fits => ⟨fits.id, fits.request⟩⟩

/-! ## What is written is read -/

theorem legible_nat (depth : Nat) {n : Nat} (fits : n < Word.size 64) :
    Legible depth (.int n) := by
  refine legible_int depth ?_ (Int.ofNat_lt.mpr fits)
  have negative : (0 : Int) ≤ Word.size 63 := Int.natCast_nonneg _
  omega

theorem Position.legible {position : Position} (fits : position.Fits) :
    Legible 1 position.toJson := by
  have within : ∀ n, n < Word.size 32 → n < Word.size 64 :=
    fun n small => Nat.lt_trans small (by decide)
  refine legible_obj ?_ (show ["character", "line"].Pairwise (· < ·) by decide)
  intro member listed
  rcases List.mem_pair.mp listed with rfl | rfl
  · exact legible_nat 0 (within _ fits.2)
  · exact legible_nat 0 (within _ fits.1)

theorem Snapshot.legible {document : Snapshot} (fits : document.Fits) :
    Legible 1 document.toJson := by
  refine legible_obj ?_ (show ["text", "uri", "version"].Pairwise (· < ·) by decide)
  intro member listed
  rcases List.mem_cons.mp listed with rfl | listed
  · exact legible_str 0 document.text
  · rcases List.mem_pair.mp listed with rfl | rfl
    · exact legible_str 0 document.uri.text
    · have narrow : Word.size 31 ≤ Word.size 63 := by decide
      have narrow' : Word.size 31 ≤ Word.size 64 := by decide
      have bounds := fits
      rw [Fits] at bounds
      exact legible_int 0 (by omega) (by omega)

theorem Query.legible {query : Query} (fits : query.position.Fits) : Legible 2 query.toJson := by
  refine legible_obj ?_ (show ["position", "uri"].Pairwise (· < ·) by decide)
  intro member listed
  rcases List.mem_pair.mp listed with rfl | rfl
  · exact query.position.legible fits
  · exact legible_str 1 query.uri.text

theorem Request.legible {request : Request} (fits : request.Fits) {params : Json}
    (told : request.params = some params) : Legible 2 params := by
  have alone : ∀ uri : Uri, Legible 2 (.obj [("uri", uri.toJson)]) := by
    intro uri
    refine legible_obj ?_ (List.pairwise_singleton _ _)
    exact List.forall_mem_singleton.mpr (legible_str 1 uri.text)
  cases request with
  | internalReady => cases told
  | shutdown => cases told
  | addUri uri => exact Option.some.inj told ▸ alone uri
  | removeUri uri => exact Option.some.inj told ▸ alone uri
  | documentChanged document =>
      exact Option.some.inj told ▸ (Snapshot.legible fits).mono (by decide)
  | documentSaved document =>
      exact Option.some.inj told ▸ (Snapshot.legible fits).mono (by decide)
  | hover query => exact Option.some.inj told ▸ Query.legible fits
  | definition query => exact Option.some.inj told ▸ Query.legible fits

namespace Job

theorem legible {job : Job} (fits : job.Fits) : Legible 3 job.toJson := by
  cases told : job.request.params with
  | none =>
      rw [toJson, told]
      refine legible_obj ?_ (show ["id", "kind"].Pairwise (· < ·) by decide)
      intro member listed
      rcases List.mem_pair.mp listed with rfl | rfl
      · exact legible_nat 2 fits.id
      · exact legible_str 2 job.kind.name
  | some params =>
      rw [toJson, told]
      refine legible_obj ?_ (show ["id", "kind", "params"].Pairwise (· < ·) by decide)
      intro member listed
      rcases List.mem_cons.mp listed with rfl | listed
      · exact legible_nat 2 fits.id
      · rcases List.mem_pair.mp listed with rfl | rfl
        · exact legible_str 2 job.kind.name
        · exact Request.legible fits.request told

/-- The line of a job is read as the value it was written from. -/
theorem parse_line {job : Job} (fits : job.Fits) : parse job.line.toList = .ok job.toJson := by
  rw [line, render, String.toList_ofList]
  exact parse_text ((legible fits).mono (by decide))

theorem printable_line (job : Job) : Printable job.line.toList := by
  rw [line, render, String.toList_ofList]
  exact printable_text job.toJson

end Job

/-! ## What is read tells the job -/

theorem JobKind.name_injective {first second : JobKind} (same : first.name = second.name) :
    first = second := by
  cases first <;> cases second <;> first | rfl | exact absurd same (by decide)

theorem Uri.toJson_injective {first second : Uri} (same : first.toJson = second.toJson) :
    first = second := by
  rcases first with ⟨text⟩
  rcases second with ⟨text'⟩
  exact congrArg Uri.mk (Json.str.inj same)

theorem Position.toJson_injective {first second : Position}
    (same : first.toJson = second.toJson) : first = second := by
  rcases first with ⟨line, character⟩
  rcases second with ⟨line', character'⟩
  simp only [toJson, obj.injEq, List.cons.injEq, Prod.mk.injEq, int.injEq, Int.natCast_inj,
    true_and, and_true] at same
  rw [same.1, same.2]

theorem Snapshot.toJson_injective {first second : Snapshot}
    (same : first.toJson = second.toJson) : first = second := by
  rcases first with ⟨uri, version, text⟩
  rcases second with ⟨uri', version', text'⟩
  simp only [toJson, obj.injEq, List.cons.injEq, Prod.mk.injEq, int.injEq, str.injEq, true_and,
    and_true] at same
  rcases same with ⟨rfl, uris, rfl⟩
  rw [Uri.toJson_injective uris]

theorem Query.toJson_injective {first second : Query} (same : first.toJson = second.toJson) :
    first = second := by
  rcases first with ⟨uri, position⟩
  rcases second with ⟨uri', position'⟩
  simp only [toJson, obj.injEq, List.cons.injEq, Prod.mk.injEq, true_and, and_true] at same
  rw [Position.toJson_injective same.1, Uri.toJson_injective same.2]

/-- A request is told by its kind and its parameters. -/
theorem Request.eq_of_told {first second : Request} (kinds : first.kind = second.kind)
    (told : first.params = second.params) : first = second := by
  have alone : ∀ {uri uri' : Uri}, some (Json.obj [("uri", uri.toJson)]) =
      some (.obj [("uri", uri'.toJson)]) → uri = uri' := by
    intro uri uri' same
    simp only [Option.some.injEq, obj.injEq, List.cons.injEq, Prod.mk.injEq, true_and,
      and_true] at same
    exact Uri.toJson_injective same
  cases first <;> cases second <;> cases kinds
  case internalReady.internalReady => rfl
  case shutdown.shutdown => rfl
  case addUri.addUri => rw [alone told]
  case removeUri.removeUri => rw [alone told]
  case documentChanged.documentChanged => rw [Snapshot.toJson_injective (Option.some.inj told)]
  case documentSaved.documentSaved => rw [Snapshot.toJson_injective (Option.some.inj told)]
  case hover.hover => rw [Query.toJson_injective (Option.some.inj told)]
  case definition.definition => rw [Query.toJson_injective (Option.some.inj told)]

namespace Job

/-- What a compiler finds in the object it is told. -/
theorem toJson_members (job : Job) : ∃ members, job.toJson = .obj members ∧
    find? "id" members = some (.int job.id) ∧ find? "kind" members = some (.str job.kind.name) ∧
      find? "params" members = job.request.params := by
  cases told : job.request.params with
  | none => exact ⟨_, rfl, rfl, rfl, by rw [told]; rfl⟩
  | some params => exact ⟨_, rfl, rfl, rfl, by rw [told]; rfl⟩

theorem toJson_injective {first second : Job} (same : first.toJson = second.toJson) :
    first = second := by
  rcases first.toJson_members with ⟨members, written, id, kind, params⟩
  rcases second.toJson_members with ⟨members', written', id', kind', params'⟩
  rw [written, written'] at same
  cases same
  have ids : first.id = second.id := by
    have equal := id.symm.trans id'
    simpa only [Option.some.injEq, int.injEq, Int.natCast_inj] using equal
  have kinds : first.kind = second.kind := by
    have equal := kind.symm.trans kind'
    exact JobKind.name_injective (by simpa only [Option.some.injEq, str.injEq] using equal)
  have requests := Request.eq_of_told kinds (params.symm.trans params')
  rcases first with ⟨number, request⟩
  rcases second with ⟨number', request'⟩
  cases ids
  cases requests
  rfl

/-- Different jobs have different lines. -/
theorem line_injective {first second : Job} (fits : first.Fits) (fits' : second.Fits)
    (same : first.line = second.line) : first = second := by
  have parsed := parse_line fits
  rw [same, parse_line fits'] at parsed
  exact (toJson_injective (Except.ok.inj parsed)).symm

/-- What a compiler makes of the line of a job.  The line has no line end in it,
and no two jobs have the same one. -/
structure Told (job : Job) : Prop where
  /-- No control character is in the line. -/
  printable : ∀ c ∈ job.line.toList, 0x20 ≤ c.toNat
  /-- The line is an object that names the job, its kind, and its parameters if
  there are any. -/
  parsed : job.Fits → ∃ members, parse job.line.toList = .ok (.obj members) ∧
    find? "id" members = some (.int job.id) ∧ find? "kind" members = some (.str job.kind.name) ∧
      find? "params" members = job.request.params
  /-- No other job has the line. -/
  unique : job.Fits → ∀ other : Job, other.Fits → other.line = job.line → other = job

theorem told (job : Job) : job.Told where
  printable := printable_line job
  parsed := by
    intro fits
    rcases job.toJson_members with ⟨members, written, found⟩
    exact ⟨members, written ▸ parse_line fits, found⟩
  unique := fun fits _ fits' same => line_injective fits' fits same

end Job
end CompilerRelay
