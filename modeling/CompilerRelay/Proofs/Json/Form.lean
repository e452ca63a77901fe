import CompilerRelay.Json.Form
import CompilerRelay.Proofs.Json.Members

/-!
# Filling a form from members

Before a form is filled from an object, each member is checked by itself, in
the order of the object.  That decides which complaint comes first, and no
more: what fills a form passes its checks.  `Form.Sound` says this of a form.
It holds of a single field and is kept when forms are put together.

An object whose members are in the order of their names therefore fills a form
exactly if the fields that are found by their names do.
-/

namespace CompilerRelay

open Json

variable {α β : Type}

theorem except_bind_eq_ok_iff {ε : Type} {first : Except ε α} {next : α → Except ε β} {result : β} :
    first >>= next = .ok result ↔ ∃ value, first = .ok value ∧ next value = .ok result := by
  cases first with
  | error complaint => exact ⟨nofun, fun ⟨_, made, _⟩ => nomatch made⟩
  | ok value =>
      constructor
      · exact fun made => ⟨value, rfl, made⟩
      · rintro ⟨_, ⟨⟩, made⟩
        exact made

namespace Form

/-! ## Filling field by field -/

section

variable {find : String → Option Json}

theorem ofMembers_field {name : String} {decode : Decoder α} {absence : Absence α} {content : Json}
    (found : find name = some content) :
    (field name decode absence).ofMembers find = decode content := by
  simp only [field, found]

theorem ofMembers_absent {name : String} {decode : Decoder α} {absence : Absence α} {value : α}
    (missing : find name = none) (taken : absence.ofMember? = some value) :
    (field name decode absence).ofMembers find = .ok value := by
  simp only [field, missing, taken]

theorem ofMembers_and_iff {f : Form (α → β)} {x : Form α} {result : β} :
    (f.and x).ofMembers find = .ok result ↔
      ∃ g value, f.ofMembers find = .ok g ∧ x.ofMembers find = .ok value ∧ g value = result := by
  change (f.ofMembers find >>= fun g => x.ofMembers find >>= fun value => pure (g value)) = _ ↔ _
  simp only [except_bind_eq_ok_iff, pure, Except.pure, Except.ok.injEq, ← exists_and_left]

theorem ofMembers_and {f : Form (α → β)} {x : Form α} {g : α → β} {value : α}
    (first : f.ofMembers find = .ok g) (second : x.ofMembers find = .ok value) :
    (f.and x).ofMembers find = .ok (g value) :=
  ofMembers_and_iff.mpr ⟨g, value, first, second, rfl⟩

end

/-! ## Forms whose checks are sound -/

/-- Nothing that the form is filled from is complained of.  So whether a form
can be filled is decided by the fields, each for itself. -/
def Sound (form : Form α) : Prop :=
  ∀ find value, form.ofMembers find = .ok value → ∀ field ∈ form.fields, ∀ content,
    find field.1 = some content → field.2 content = none

theorem sound_pure (value : α) : (Form.pure value).Sound :=
  fun _ _ _ _ listed => absurd listed List.not_mem_nil

theorem sound_field (name : String) (decode : Decoder α) (absence : Absence α) :
    (field name decode absence).Sound := by
  intro find value filled part listed content found
  rw [List.mem_singleton.mp listed] at found ⊢
  simp only [field, found] at filled
  simp only [filled]

theorem Sound.and {f : Form (α → β)} {x : Form α} (first : f.Sound) (second : x.Sound) :
    (f.and x).Sound := by
  intro find value filled part listed content found
  rcases ofMembers_and_iff.mp filled with ⟨g, argument, made, given, _⟩
  rcases List.mem_append.mp listed with here | there
  · exact first find g made part here content found
  · exact second find argument given part there content found

theorem mem_of_lookup {fields : List (String × (Json → Option DecodeError))} {name : String}
    {check : Json → Option DecodeError} (known : fields.lookup name = some check) :
    (name, check) ∈ fields := by
  rcases List.lookup_eq_some_iff.mp known with ⟨before, after, rfl, _⟩
  exact List.mem_append_right _ List.mem_cons_self

theorem Sound.passes {form : Form α} (sound : form.Sound) {find : String → Option Json} {value : α}
    (filled : form.ofMembers find = .ok value) {name : String} {check : Json → Option DecodeError}
    (known : form.fields.lookup name = some check) {content : Json}
    (found : find name = some content) : check content = none :=
  sound find value filled (name, check) (mem_of_lookup known) content found

/-- Every member is checked. -/
theorem complaint?_eq_none {form : Form α} {members : List (String × Json)}
    (pass : ∀ member ∈ members, ∀ check, form.fields.lookup member.1 = some check →
      check member.2 = none) : form.complaint? members = none := by
  induction members with
  | nil => rfl
  | cons member rest inductionHypothesis =>
      rcases member with ⟨name, value⟩
      have later := inductionHypothesis fun member listed =>
        pass member (List.mem_cons_of_mem _ listed)
      have here : (form.fields.lookup name).bind (· value) = none := by
        cases known : form.fields.lookup name with
        | none => rfl
        | some check => exact pass (name, value) List.mem_cons_self check known
      simp only [complaint?, here, later]

/-- What is filled from an object is filled from its members. -/
theorem ofMembers_of_decodeMembers {form : Form α} {members : List (String × Json)} {value : α}
    (decoded : form.decodeMembers members = .ok value) :
    form.ofMembers (find? · members) = .ok value := by
  unfold decodeMembers at decoded
  cases complained : form.complaint? members with
  | some complaint =>
      rw [complained] at decoded
      cases decoded
  | none =>
      rw [complained] at decoded
      exact decoded

theorem decodeMembers_eq_ok_iff {form : Form α} (sound : form.Sound)
    {members : List (String × Json)} (ascending : Ascending members) (value : α) :
    form.decodeMembers members = .ok value ↔ form.ofMembers (find? · members) = .ok value := by
  constructor
  · exact ofMembers_of_decodeMembers
  · intro filled
    have none := @complaint?_eq_none α form members fun member listed check known =>
      sound.passes filled known (ascending.find?_of_mem listed)
    rw [decodeMembers, none]
    exact filled

end Form
end CompilerRelay
