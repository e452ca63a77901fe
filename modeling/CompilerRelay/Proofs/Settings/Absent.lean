import CompilerRelay.Proofs.Settings

/-!
# Settings that a refinement does not mention

What is laid over the settings is read back as a record, and a record may be
written as an object or as an array.  Objects are laid over objects member by
member, so a setting whose name is absent stays as it is.  An array has no
names, and it takes the place of all that was there: what it does not reach is
filled with the default of the program, and no longer with what was set.

So a setting that is not mentioned is kept, or there is an array where the
object of its member would be (`Settings.kept_or_displaced`), and the array
alone says what becomes of it.
-/

namespace CompilerRelay

namespace Form

/-! ## Filling a form from an array -/

variable {α β : Type}

theorem ofElements_and_iff {f : Form (α → β)} {x : Form α} {before : Nat} {wanted : String}
    {elements rest : List Json} {result : β} :
    (f.and x).ofElements before wanted elements = .ok (result, rest) ↔
      ∃ g others value, f.ofElements before wanted elements = .ok (g, others) ∧
        x.ofElements (before + f.fields.length) wanted others = .ok (value, rest) ∧
          g value = result := by
  change (f.ofElements before wanted elements >>= fun first =>
    x.ofElements (before + f.fields.length) wanted first.2 >>= fun second =>
      pure (first.1 second.1, second.2)) = _ ↔ _
  simp only [except_bind_eq_ok_iff, pure, Except.pure, Except.ok.injEq, Prod.mk.injEq]
  constructor
  · rintro ⟨⟨g, others⟩, first, ⟨value, _⟩, second, rfl, rfl⟩
    exact ⟨g, others, value, first, second, rfl⟩
  · rintro ⟨g, others, value, first, second, rfl⟩
    exact ⟨(g, others), first, (value, rest), second, rfl, rfl⟩

/-- No element may be left over. -/
theorem decode_arr_iff {form : Form α} {name : String} {elements : List Json} {value : α} :
    form.decode name (.arr elements) = .ok value ↔
      form.ofElements 0 (wantedLength name form.fields.length) elements = .ok (value, []) := by
  change (form.ofElements 0 (wantedLength name form.fields.length) elements >>= fun read =>
    if read.2.isEmpty then pure read.1
    else throw (Excess.ofArray.complaint form.fields.length elements.length)) = _ ↔ _
  rw [except_bind_eq_ok_iff]
  constructor
  · rintro ⟨⟨read, rest⟩, filled, done⟩
    cases rest with
    | nil =>
        cases done
        exact filled
    | cons element more => cases done
  · exact fun filled => ⟨_, filled, rfl⟩

end Form

namespace Settings

open Json

theorem ofElements_trailing_iff {α : Type} {name : String} {decode : Decoder α} {default : α}
    {before : Nat} {wanted : String} {elements rest : List Json} {value : α} :
    (Form.trailing name decode default).ofElements before wanted elements = .ok (value, rest) ↔
      Takes (fun element new => decode element = .ok new) elements.head? default value ∧
        rest = elements.tail := by
  cases elements with
  | nil =>
      change Except.ok (default, []) = .ok (value, rest) ↔ value = default ∧ rest = []
      rw [Except.ok.injEq, Prod.mk.injEq, eq_comm, @eq_comm _ rest]
  | cons element more =>
      change (decode element).map (·, more) = _ ↔ decode element = .ok value ∧ rest = more
      cases decode element with
      | error complaint => exact ⟨nofun, fun ⟨impossible, _⟩ => nomatch impossible⟩
      | ok read =>
          change Except.ok (read, more) = _ ↔ _
          rw [Except.ok.injEq, Prod.mk.injEq, Except.ok.injEq, @eq_comm _ rest]

theorem ofMembers_trailing_iff {α : Type} {name : String} {decode : Decoder α} {default : α}
    {find : String → Option Json} {value : α} :
    (Form.trailing name decode default).ofMembers find = .ok value ↔
      Takes (fun element new => decode element = .ok new) (find name) default value := by
  cases found : find name with
  | none =>
      rw [Form.trailing, Form.ofMembers_absent found rfl, Except.ok.injEq, eq_comm]
      rfl
  | some element =>
      rw [Form.trailing, Form.ofMembers_field found]
      rfl

/-- Settings for the start of a compiler that are read from an array: what it
does not reach is as if nothing had ever been set. -/
structure Listed (items : List Json) (launch : LaunchSettings) : Prop where
  short : items.length ≤ 3
  command : Takes meansText items[0]? "compiler" launch.command
  args : Takes meansTexts items[1]? [] launch.args
  workingDirectory : Takes meansDirectory (items[2]?.filter fun item => !item.isNull) none
    launch.workingDirectory

/-- All settings, read from an array.  Elements that are missing bring the
settings of a program that was never told any, and not those that were there
before. -/
structure ListedAll (elements : List Json) (settings : Settings) : Prop where
  short : elements.length ≤ 2
  compiler : Takes (fun value launch => LaunchSettings.decode value = .ok launch) elements[0]? {}
    settings.compiler
  source : Takes meansText elements[1]? "compiler" settings.diagnosticsSource

theorem takes_congr {α : Type} {first second : Json → α → Prop}
    (same : ∀ value new, first value new ↔ second value new) {asked : Option Json} {old new : α} :
    Takes first asked old new ↔ Takes second asked old new := by
  cases asked with
  | none => exact Iff.rfl
  | some value => exact same value new

theorem directory_item_iff (item : Json) (directory : Option Path) :
    Decoder.option Path.decode item = .ok directory ↔
      Takes meansDirectory ((some item).filter fun item => !item.isNull) none directory := by
  cases null : item.isNull with
  | true =>
      cases item with
      | null =>
          change Except.ok none = _ ↔ directory = none
          rw [Except.ok.injEq, eq_comm]
      | _ => cases null
  | false =>
      have kept : (some item).filter (fun item => !item.isNull) = some item := by
        rw [Option.filter_some, null]
        rfl
      rw [kept, directory_iff item directory null]
      rfl

theorem launch_decode_arr_iff {items : List Json} {launch : LaunchSettings} :
    LaunchSettings.decode (.arr items) = .ok launch ↔ Listed items launch := by
  have short : [] = items.tail.tail.tail ↔ items.length ≤ 3 := by
    rw [eq_comm, ← List.length_eq_zero_iff, List.length_tail, List.length_tail, List.length_tail]
    omega
  have directory : Takes (fun item new => Decoder.option Path.decode item = .ok new) items[2]? none
      launch.workingDirectory ↔
        Takes meansDirectory (items[2]?.filter fun item => !item.isNull) none
          launch.workingDirectory := by
    cases items[2]? with
    | none => exact Iff.rfl
    | some item => exact directory_item_iff item launch.workingDirectory
  have first : items.head? = items[0]? := List.head?_eq_getElem?
  have second : items.tail.head? = items[1]? := by
    rw [List.head?_eq_getElem?, List.getElem?_tail]
  have third : items.tail.tail.head? = items[2]? := by
    rw [List.head?_eq_getElem?, List.getElem?_tail, List.getElem?_tail]
  rw [LaunchSettings.decode, Form.decode_arr_iff]
  simp only [LaunchSettings.form, Form.ofElements_and_iff, ofElements_trailing_iff]
  constructor
  · rintro ⟨_, _, _, ⟨_, _, _, ⟨_, _, _, ⟨⟩, ⟨command, rfl⟩, rfl⟩, ⟨args, rfl⟩, rfl⟩,
      ⟨last, rest⟩, rfl⟩
    rw [first] at command
    rw [second] at args
    rw [third] at last
    exact ⟨short.mp rest, (takes_congr string_iff).mp command, (takes_congr strings_iff).mp args,
      directory.mp last⟩
  · rintro ⟨rest, command, args, last⟩
    rw [← first] at command
    rw [← second] at args
    rw [← directory, ← third] at last
    exact ⟨_, _, _, ⟨_, _, _, ⟨_, _, _, rfl, ⟨(takes_congr string_iff).mpr command, rfl⟩, rfl⟩,
      ⟨(takes_congr strings_iff).mpr args, rfl⟩, rfl⟩, ⟨last, short.mpr rest⟩, rfl⟩

theorem decode_arr_iff {elements : List Json} {settings : Settings} :
    decode (.arr elements) = .ok settings ↔ ListedAll elements settings := by
  have short : [] = elements.tail.tail ↔ elements.length ≤ 2 := by
    rw [eq_comm, ← List.length_eq_zero_iff, List.length_tail, List.length_tail]
    omega
  have first : elements.head? = elements[0]? := List.head?_eq_getElem?
  have second : elements.tail.head? = elements[1]? := by
    rw [List.head?_eq_getElem?, List.getElem?_tail]
  rw [decode, Form.decode_arr_iff]
  simp only [form, Form.ofElements_and_iff, ofElements_trailing_iff]
  constructor
  · rintro ⟨_, _, _, ⟨_, _, _, ⟨⟩, ⟨compiler, rfl⟩, rfl⟩, ⟨source, rest⟩, rfl⟩
    rw [first] at compiler
    rw [second] at source
    exact ⟨short.mp rest, compiler, (takes_congr string_iff).mp source⟩
  · rintro ⟨rest, compiler, source⟩
    rw [← first] at compiler
    rw [← second] at source
    exact ⟨_, _, _, ⟨_, _, _, rfl, ⟨compiler, rfl⟩, rfl⟩,
      ⟨(takes_congr string_iff).mpr source, short.mpr rest⟩, rfl⟩

/-! ## What is not mentioned -/

/-- The settings one by one. -/
inductive Setting where
  | command
  | args
  | workingDirectory
  | source
  deriving DecidableEq, Repr

namespace Setting

/-- The names of the members that a setting is found under. -/
def path : Setting → List String
  | command => ["compiler", "command"]
  | args => ["compiler", "args"]
  | workingDirectory => ["compiler", "workingDirectory"]
  | source => ["diagnosticsSource"]

/-- The setting is what it was. -/
def Kept (old new : Settings) : Setting → Prop
  | command => new.compiler.command = old.compiler.command
  | args => new.compiler.args = old.compiler.args
  | workingDirectory => new.compiler.workingDirectory = old.compiler.workingDirectory
  | source => new.diagnosticsSource = old.diagnosticsSource

end Setting

/-- A value has members of such names, one inside the other. -/
def Mentions : List String → Json → Prop
  | [], _ => True
  | name :: rest, value => ∃ inner, value.member? name = some inner ∧ Mentions rest inner

/-- A refinement does not mention a setting, and neither does the part of it
that is meant for this program. -/
structure Absent (refinement : Json) (setting : Setting) : Prop where
  outside : ¬ Mentions setting.path refinement
  inside : ∀ own, refinement.member? sectionName = some own → ¬ Mentions setting.path own

theorem Absent.ownPart {refinement : Json} {setting : Setting}
    (absent : Absent refinement setting) : ¬ Mentions setting.path (ownPart refinement) := by
  rw [Settings.ownPart]
  cases found : refinement.member? sectionName with
  | none => exact absent.outside
  | some own => exact absent.inside own found

/-- What becomes of settings where an array stands in place of an object.  The
array is read by position, so settings that it does not mention are lost. -/
inductive Displaced (refinement : Json) (refined : Settings) : Setting → Prop
  | all {elements : List Json} (setting : Setting) (array : ownPart refinement = .arr elements)
      (listed : ListedAll elements refined) : Displaced refinement refined setting
  | launch {own : List (String × Json)} {items : List Json} {setting : Setting}
      (part : ownPart refinement = .obj own) (array : find? "compiler" own = some (.arr items))
      (inner : setting ≠ .source) (listed : Listed items refined.compiler) :
      Displaced refinement refined setting

section

variable {settings refined : Settings} {refinement : Json}

/-- Settings that cannot be written are not refined. -/
theorem refine_of_bytes {raw : List UInt8}
    (directory : settings.compiler.workingDirectory = some (.bytes raw)) (refinement : Json) :
    settings.refine refinement = .error (.other "path contains invalid UTF-8 characters") := by
  have written : settings.compiler.toJson? =
      .error (.other "path contains invalid UTF-8 characters") := by
    rw [LaunchSettings.toJson?, directory]
    rfl
  rw [refine, toJson?, written]
  rfl

theorem valid_of_refine (done : settings.refine refinement = .ok refined) (raw : List UInt8) :
    settings.compiler.workingDirectory ≠ some (.bytes raw) := by
  intro directory
  rw [refine_of_bytes directory] at done
  cases done

def members (settings : Settings) : List (String × Json) :=
  [("compiler", .obj (launchMembers settings.compiler)),
    ("diagnosticsSource", .str settings.diagnosticsSource)]

theorem refine_eq (valid : ∀ raw, settings.compiler.workingDirectory ≠ some (.bytes raw)) :
    settings.refine refinement =
      decode ((Json.obj settings.members).overlay (ownPart refinement)) := by
  rw [refine, toJson?, launch_toJson? valid]
  rfl

theorem asked_of_absent {name : String} {own launch : List (String × Json)}
    (start : launchPart? own = some launch) (absent : ¬ Mentions ["compiler", name] (.obj own)) :
    asked name launch = none := by
  cases found : find? name launch with
  | none => rw [asked, found]; rfl
  | some value =>
      refine absurd ?_ absent
      unfold launchPart? at start
      cases wanted : asked "compiler" own with
      | none =>
          rw [wanted] at start
          cases start
          cases found
      | some compiler =>
          rw [wanted] at start
          have there := (Option.filter_eq_some_iff.mp wanted).1
          cases compiler with
          | obj members =>
              cases start
              exact ⟨_, there, value, found, trivial⟩
          | _ => cases start

theorem asked_source {own : List (String × Json)}
    (absent : ¬ Mentions ["diagnosticsSource"] (.obj own)) :
    asked "diagnosticsSource" own = none := by
  cases found : find? "diagnosticsSource" own with
  | none => rw [asked, found]; rfl
  | some value => exact absurd ⟨value, found, trivial⟩ absent

theorem eq_of_takes {α : Type} {means : Json → α → Prop} {asked : Option Json} {old new : α}
    (taken : Takes means asked old new) (none : asked = none) : new = old := by
  rw [none] at taken
  exact taken

/-- Where objects are laid over objects, what is absent is kept. -/
theorem Refines.kept {own launch : List (String × Json)}
    (refines : Refines settings own launch refined) (start : launchPart? own = some launch)
    {setting : Setting} (absent : ¬ Mentions setting.path (.obj own)) :
    setting.Kept settings refined := by
  cases setting with
  | command => exact eq_of_takes refines.command (asked_of_absent start absent)
  | args => exact eq_of_takes refines.args (asked_of_absent start absent)
  | workingDirectory => exact eq_of_takes refines.workingDirectory (asked_of_absent start absent)
  | source => exact eq_of_takes refines.source (asked_source absent)

/-- Where something else is laid over the settings of the compiler, it is read
alone. -/
theorem refine_of_plain {own : List (String × Json)} (held : refinement.Held)
    (done : settings.refine refinement = .ok refined) (part : ownPart refinement = .obj own)
    (start : launchPart? own = none) : ∃ value, find? "compiler" own = some value ∧
      (∀ members, value ≠ .obj members) ∧ LaunchSettings.decode value = .ok refined.compiler ∧
        Takes meansText (asked "diagnosticsSource" own) settings.diagnosticsSource
          refined.diagnosticsSource := by
  have ⟨ascending, _⟩ : Held (.obj own) := part ▸ held_ownPart held
  have distinct := ascending.nodup
  have order : Ascending settings.members := by
    change List.Pairwise (· < ·) ["compiler", "diagnosticsSource"]
    decide
  have source := @find?_overlayMembers_plain settings.members own "diagnosticsSource" _ distinct rfl
    nofun
  unfold launchPart? at start
  cases wanted : asked "compiler" own with
  | none =>
      rw [wanted] at start
      cases start
  | some value =>
      rw [wanted] at start
      have plain : ∀ members, value ≠ .obj members := by
        rintro members rfl
        cases start
      have there := (Option.filter_eq_some_iff.mp wanted).1
      have replaced : ∀ base, overlay base value = value := by
        have present := asked_not_null wanted
        intro base
        cases value with
        | obj members => exact absurd rfl (plain members)
        | null => cases present
        | _ => rfl
      have compiler : find? "compiler" (overlayMembers settings.members own) = some value := by
        rw [find?_overlayMembers distinct, there]
        exact congrArg some (replaced _)
      rw [refine_eq (valid_of_refine done), part] at done
      change form.decodeMembers (overlayMembers settings.members own) = _ at done
      rw [Form.decodeMembers_eq_ok_iff form_sound (ascending_overlayMembers order),
        form_iff compiler source, takes_iff (fun value new _ => string_iff value new) rfl] at done
      exact ⟨value, there, plain, done⟩

/-- Null is laid over nothing. -/
theorem refine_of_null (done : settings.refine refinement = .ok refined)
    (part : ownPart refinement = .null) : refined = settings := by
  have valid := valid_of_refine done
  have same : settings.refine refinement = settings.refine (.obj []) := by
    rw [refine_eq valid, refine_eq valid, part]
    rfl
  rw [same] at done
  have refines := (@refine_iff settings (.obj []) [] [] valid ⟨List.Pairwise.nil, trivial⟩ rfl rfl
    refined).mp done
  rcases settings with ⟨⟨command, args, directory⟩, source⟩
  rcases refined with ⟨⟨command', args', directory'⟩, source'⟩
  cases refines.command
  cases refines.args
  cases refines.workingDirectory
  cases refines.source
  rfl

/-- A setting that a refinement does not mention is kept, or an array stands in
the way. -/
theorem kept_or_displaced (held : refinement.Held)
    (done : settings.refine refinement = .ok refined) {setting : Setting}
    (absent : Absent refinement setting) :
    setting.Kept settings refined ∨ Displaced refinement refined setting := by
  have valid := valid_of_refine done
  have silent := absent.ownPart
  cases part : ownPart refinement with
  | null =>
      rw [refine_of_null done part]
      exact .inl (by cases setting <;> rfl)
  | obj own =>
      rw [part] at silent
      cases start : launchPart? own with
      | some launch =>
          exact .inl (((refine_iff valid held part start refined).mp done).kept start silent)
      | none =>
          rcases refine_of_plain held done part start with ⟨value, found, plain, read, source⟩
          by_cases outer : setting = .source
          · subst outer
            exact .inl (eq_of_takes source (asked_source silent))
          -- Nothing else than an object or an array can be read as settings.
          · cases value with
            | arr items => exact .inr (.launch part found outer (launch_decode_arr_iff.mp read))
            | obj members => exact absurd rfl (plain members)
            | _ => cases read
  | arr elements =>
      rw [refine_eq valid, part] at done
      exact .inr (.all setting part (decode_arr_iff.mp done))
  | _ =>
      rw [refine_eq valid, part] at done
      cases done

end

/-- An empty list where the settings of the compiler would be, as an empty
table is written by an editor that does not tell lists from objects. -/
def emptied : Json :=
  .obj [("compilerBridge", .obj [("compiler", .arr [])])]

theorem held_emptied : emptied.Held :=
  ⟨List.pairwise_singleton _ _, ⟨List.pairwise_singleton _ _, trivial, trivial⟩, trivial⟩

theorem absent_emptied (setting : Setting) : Absent emptied setting where
  outside := by
    cases setting <;> exact fun ⟨_, found, _⟩ => nomatch found
  inside := by
    rintro own ⟨⟩
    cases setting with
    | source => exact fun ⟨_, found, _⟩ => nomatch found
    | _ =>
        rintro ⟨_, ⟨⟩, _, found, _⟩
        cases found

def pinned : Settings :=
  ⟨⟨"/opt/lc", ["--server"], some (.text "/work")⟩, "lc"⟩

theorem refine_emptied : pinned.refine emptied = .ok ⟨{}, "lc"⟩ :=
  rfl

theorem kept_or_displaced_emptied :
    (Setting.source.Kept pinned ⟨{}, "lc"⟩ ∨ Displaced emptied ⟨{}, "lc"⟩ .source) ∧
      (Setting.command.Kept pinned ⟨{}, "lc"⟩ ∨ Displaced emptied ⟨{}, "lc"⟩ .command) :=
  ⟨kept_or_displaced held_emptied refine_emptied (absent_emptied .source),
    kept_or_displaced held_emptied refine_emptied (absent_emptied .command)⟩

/-- A setting that a refinement does not mention may be lost. -/
theorem absent_not_kept : ¬ ∀ (settings refined : Settings) (refinement : Json),
    refinement.Held → settings.refine refinement = .ok refined →
      ∀ setting, Absent refinement setting → setting.Kept settings refined := by
  intro kept
  have same := kept pinned _ emptied held_emptied refine_emptied .command (absent_emptied .command)
  have different : "compiler" ≠ "/opt/lc" := by decide
  exact different same

end Settings
end CompilerRelay
