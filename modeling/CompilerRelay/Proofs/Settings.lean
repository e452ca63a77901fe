import CompilerRelay.Proofs.Json.Form
import CompilerRelay.Proofs.Json.Held
import CompilerRelay.Settings

/-!
# Refining the settings

Settings are refined by a detour: they are written as JSON, the refinement is
laid over them, and the outcome is read back.  What comes of it is said here
without the detour.  A refinement asks for a setting by a member that is not
null (`Json.asked`).  It is accepted exactly if all that it asks for has the
right type (`Settings.WellTyped`), and then each setting is what was asked for,
or else what it was (`Settings.Refines`).

A null and a missing member thus come to the same, although the one is laid
over what is written and the other is not, and members that no setting is
read from do not matter at any depth.
-/

namespace CompilerRelay

/-! ## Laying members over others -/

namespace Json

/-- The value that members ask for by a name.  Null asks for nothing, as if the
name were not given. -/
def asked (name : String) (members : List (String × Json)) : Option Json :=
  (find? name members).filter fun value => !value.isNull

theorem overlayMembers_cons (old : List (String × Json)) (name : String) (value : Json)
    (rest : List (String × Json)) :
    overlayMembers old ((name, value) :: rest) =
      overlayMembers (insertMember name ((find? name old).elim value (overlay · value)) old)
        rest := by
  rw [overlayMembers]
  cases find? name old <;> rfl

theorem ascending_overlayMembers {old news : List (String × Json)} (ascending : Ascending old) :
    Ascending (overlayMembers old news) := by
  induction news generalizing old with
  | nil => exact ascending
  | cons member rest inductionHypothesis =>
      rw [overlayMembers_cons]
      exact inductionHypothesis (ascending_insertMember ascending _ _)

theorem find?_overlayMembers {old news : List (String × Json)}
    (distinct : (news.map Prod.fst).Nodup) (name : String) :
    find? name (overlayMembers old news) = match find? name news with
      | some value => some ((find? name old).elim value (overlay · value))
      | none => find? name old := by
  induction news generalizing old with
  | nil => rfl
  | cons member rest inductionHypothesis =>
      rcases member with ⟨key, value⟩
      rcases List.nodup_cons.mp distinct with ⟨new, others⟩
      rw [overlayMembers_cons, inductionHypothesis others, find?_insertMember]
      by_cases same : name = key
      · -- The name does not come again, so what is laid over it now remains.
        subst same
        have absent : find? name rest = none :=
          find?_eq_none fun other listed => new (List.mem_map.mpr ⟨(name, other), listed, rfl⟩)
        rw [absent, find?, if_pos rfl]
        simp only [if_true]
      · rw [if_neg same, find?, if_neg (Ne.symm same)]

/-- What is no object is replaced as a whole, except by null. -/
theorem overlay_of_plain {base : Json} (plain : ∀ members, base ≠ .obj members) (value : Json) :
    overlay base value = if value.isNull then base else value := by
  cases value with
  | obj members =>
      cases base with
      | obj old => exact absurd rfl (plain old)
      | _ => rfl
  | _ => rfl

theorem find?_overlayMembers_plain {old news : List (String × Json)} {name : String} {base : Json}
    (distinct : (news.map Prod.fst).Nodup) (found : find? name old = some base)
    (plain : ∀ members, base ≠ .obj members) :
    find? name (overlayMembers old news) = some ((asked name news).getD base) := by
  rw [find?_overlayMembers distinct, found, asked]
  cases find? name news with
  | none => rfl
  | some value =>
      simp only [Option.elim, overlay_of_plain plain]
      cases null : value.isNull <;> simp [Option.filter, null]

theorem asked_not_null {name : String} {members : List (String × Json)} {value : Json}
    (found : asked name members = some value) : value.isNull = false := by
  have kept := (Option.filter_eq_some_iff.mp found).2
  exact Bool.not_eq_true' _ ▸ kept

end Json

/-! ## Settings -/

namespace Settings

open Json

/-- A setting after a refinement: what was asked for, or else what it was.  The
value that was asked for is given as JSON and has to be of the type of the
setting. -/
def Takes {α : Type} (means : Json → α → Prop) (asked : Option Json) (old new : α) : Prop :=
  match asked with
  | some value => means value new
  | none => new = old

def meansText (value : Json) (text : String) : Prop :=
  value = .str text

def meansTexts (value : Json) (texts : List String) : Prop :=
  value = .arr (texts.map .str)

def meansDirectory (value : Json) (directory : Option Path) : Prop :=
  ∃ text, value = .str text ∧ directory = some (.text text)

/-- The members of a refinement that are about the start of the compiler, where
these are an object, null or absent. -/
def launchPart? (own : List (String × Json)) : Option (List (String × Json)) :=
  match asked "compiler" own with
  | none => some []
  | some (.obj members) => some members
  | some _ => none

/-- The settings that come of a refinement.  Each setting is decided by itself,
and members that name no setting decide nothing. -/
structure Refines (settings : Settings) (own launch : List (String × Json)) (refined : Settings) :
    Prop where
  command : Takes meansText (asked "command" launch) settings.compiler.command
    refined.compiler.command
  args : Takes meansTexts (asked "args" launch) settings.compiler.args refined.compiler.args
  workingDirectory : Takes meansDirectory (asked "workingDirectory" launch)
    settings.compiler.workingDirectory refined.compiler.workingDirectory
  source : Takes meansText (asked "diagnosticsSource" own) settings.diagnosticsSource
    refined.diagnosticsSource

/-- All that a refinement asks for is of the right type.  Null asks for nothing,
so it is of every type, and further members are of no interest. -/
structure WellTyped (own launch : List (String × Json)) : Prop where
  command : ∀ value, asked "command" launch = some value → ∃ text, value = .str text
  args : ∀ value, asked "args" launch = some value →
    ∃ texts : List String, value = .arr (texts.map .str)
  workingDirectory : ∀ value, asked "workingDirectory" launch = some value →
    ∃ text, value = .str text
  source : ∀ value, asked "diagnosticsSource" own = some value → ∃ text, value = .str text

theorem takes_iff {α : Type} {decode : Decoder α} {means : Json → α → Prop} {written : Json}
    {old new : α} {members : List (String × Json)} {name : String}
    (reads : ∀ value new, value.isNull = false → (decode value = .ok new ↔ means value new))
    (kept : decode written = .ok old) :
    decode ((asked name members).getD written) = .ok new ↔
      Takes means (asked name members) old new := by
  cases found : asked name members with
  | none =>
      rw [Option.getD_none, kept]
      exact ⟨fun same => (Except.ok.inj same).symm, fun same => congrArg Except.ok same.symm⟩
  | some value => exact reads value new (asked_not_null found)

theorem string_iff (value : Json) (text : String) :
    Decoder.string value = .ok text ↔ meansText value text := by
  unfold meansText
  cases value <;> simp [Decoder.string, Decoder.wrongType]

theorem strings_iff (value : Json) (texts : List String) :
    Decoder.list Decoder.string value = .ok texts ↔ meansTexts value texts := by
  unfold meansTexts
  cases value with
  | arr items =>
      rw [Json.arr.injEq]
      change items.mapM Decoder.string = .ok texts ↔ _
      induction items generalizing texts with
      | nil =>
          rw [List.mapM_nil, eq_comm, @eq_comm _ [], List.map_eq_nil_iff]
          exact ⟨Except.ok.inj, congrArg Except.ok⟩
      | cons item rest inductionHypothesis =>
          rw [List.mapM_cons, @eq_comm _ (item :: rest), List.map_eq_cons_iff]
          simp only [except_bind_eq_ok_iff, string_iff, inductionHypothesis, meansText, pure,
            Except.pure, Except.ok.injEq]
          constructor
          · rintro ⟨text, rfl, others, rfl, rfl⟩
            exact ⟨text, others, rfl, rfl, rfl⟩
          · rintro ⟨text, others, rfl, rfl, rfl⟩
            exact ⟨text, rfl, others, rfl, rfl⟩
  | _ => simp [Decoder.list, Decoder.wrongType]

theorem directory_iff (value : Json) (directory : Option Path) (present : value.isNull = false) :
    Decoder.option Path.decode value = .ok directory ↔ meansDirectory value directory := by
  unfold meansDirectory
  cases value with
  | null => cases present
  | str text =>
      change Except.ok (some (Path.text text)) = Except.ok directory ↔ _
      constructor
      · rintro ⟨⟩
        exact ⟨text, rfl, rfl⟩
      · rintro ⟨_, ⟨⟩, rfl⟩
        rfl
  | _ => exact ⟨nofun, fun ⟨_, other, _⟩ => nomatch other⟩

def directoryJson : Option Path → Json
  | some (.text text) => .str text
  | _ => .null

theorem directoryJson_plain (directory : Option Path) (members : List (String × Json)) :
    directoryJson directory ≠ .obj members := by
  unfold directoryJson
  split <;> exact nofun

theorem directory_read {directory : Option Path} (valid : ∀ raw, directory ≠ some (.bytes raw)) :
    Decoder.option Path.decode (directoryJson directory) = .ok directory := by
  rcases directory with _ | text | raw
  · rfl
  · rfl
  · exact absurd rfl (valid raw)

/-- The members that the launch settings are written as. -/
def launchMembers (settings : LaunchSettings) : List (String × Json) :=
  [("args", .arr (settings.args.map .str)), ("command", .str settings.command),
    ("workingDirectory", directoryJson settings.workingDirectory)]

theorem launch_toJson? {settings : LaunchSettings}
    (valid : ∀ raw, settings.workingDirectory ≠ some (.bytes raw)) :
    settings.toJson? = .ok (.obj (launchMembers settings)) := by
  unfold LaunchSettings.toJson? launchMembers
  cases directory : settings.workingDirectory with
  | none => rfl
  | some path =>
      cases path with
      | text text => rfl
      | bytes raw => exact absurd directory (valid raw)

theorem launchForm_sound : LaunchSettings.form.Sound :=
  (((Form.sound_pure _).and (Form.sound_field _ _ _)).and (Form.sound_field _ _ _)).and
    (Form.sound_field _ _ _)

theorem form_sound : form.Sound :=
  ((Form.sound_pure _).and (Form.sound_field _ _ _)).and (Form.sound_field _ _ _)

section

variable {find : String → Option Json} {command args directory compiler source : Json}

theorem launchForm_iff (command_found : find "command" = some command)
    (args_found : find "args" = some args)
    (directory_found : find "workingDirectory" = some directory) (new : LaunchSettings) :
    LaunchSettings.form.ofMembers find = .ok new ↔ Decoder.string command = .ok new.command ∧
      Decoder.list Decoder.string args = .ok new.args ∧
        Decoder.option Path.decode directory = .ok new.workingDirectory := by
  simp only [LaunchSettings.form, Form.trailing, Form.ofMembers_and_iff,
    Form.ofMembers_field command_found, Form.ofMembers_field args_found,
    Form.ofMembers_field directory_found]
  constructor
  · rintro ⟨_, _, ⟨_, _, ⟨_, _, ⟨⟩, first, rfl⟩, second, rfl⟩, third, rfl⟩
    exact ⟨first, second, third⟩
  · rintro ⟨first, second, third⟩
    exact ⟨_, _, ⟨_, _, ⟨_, _, rfl, first, rfl⟩, second, rfl⟩, third, rfl⟩

theorem form_iff (compiler_found : find "compiler" = some compiler)
    (source_found : find "diagnosticsSource" = some source) (new : Settings) :
    form.ofMembers find = .ok new ↔ LaunchSettings.decode compiler = .ok new.compiler ∧
      Decoder.string source = .ok new.diagnosticsSource := by
  simp only [form, Form.trailing, Form.ofMembers_and_iff, Form.ofMembers_field compiler_found,
    Form.ofMembers_field source_found]
  constructor
  · rintro ⟨_, _, ⟨_, _, ⟨⟩, first, rfl⟩, second, rfl⟩
    exact ⟨first, second⟩
  · rintro ⟨first, second⟩
    exact ⟨_, _, ⟨_, _, rfl, first, rfl⟩, second, rfl⟩

end

theorem launch_decode_iff {old : LaunchSettings} {launch : List (String × Json)}
    (valid : ∀ raw, old.workingDirectory ≠ some (.bytes raw)) (ascending : Ascending launch)
    (new : LaunchSettings) :
    LaunchSettings.decode (.obj (overlayMembers (launchMembers old) launch)) = .ok new ↔
      Takes meansText (asked "command" launch) old.command new.command ∧
        Takes meansTexts (asked "args" launch) old.args new.args ∧
          Takes meansDirectory (asked "workingDirectory" launch) old.workingDirectory
            new.workingDirectory := by
  have order : Ascending (launchMembers old) := by
    change List.Pairwise (· < ·) ["args", "command", "workingDirectory"]
    decide
  have distinct := ascending.nodup
  have command := @find?_overlayMembers_plain (launchMembers old) launch "command" _ distinct rfl
    nofun
  have args := @find?_overlayMembers_plain (launchMembers old) launch "args" _ distinct rfl nofun
  have directory := @find?_overlayMembers_plain (launchMembers old) launch "workingDirectory" _
    distinct rfl (directoryJson_plain _)
  change LaunchSettings.form.decodeMembers _ = _ ↔ _
  rw [Form.decodeMembers_eq_ok_iff launchForm_sound (ascending_overlayMembers order)]
  rw [launchForm_iff command args directory,
    takes_iff (fun value new _ => string_iff value new) rfl,
    takes_iff (fun value new _ => strings_iff value new) ((strings_iff _ _).mpr rfl),
    takes_iff directory_iff (directory_read valid)]

theorem compiler_found {old : LaunchSettings} {source : Json} {own launch : List (String × Json)}
    (distinct : (own.map Prod.fst).Nodup) (start : launchPart? own = some launch) :
    find? "compiler" (overlayMembers
      [("compiler", .obj (launchMembers old)), ("diagnosticsSource", source)] own) =
        some (.obj (overlayMembers (launchMembers old) launch)) := by
  rw [find?_overlayMembers distinct]
  unfold launchPart? asked at start
  cases found : find? "compiler" own with
  | none =>
      rw [found] at start
      cases start
      rfl
  | some value =>
      rw [found] at start
      cases value with
      | null =>
          cases start
          rfl
      | obj members =>
          cases start
          rfl
      | _ => cases start

theorem held_ownPart {refinement : Json} (held : refinement.Held) : (ownPart refinement).Held := by
  cases refinement with
  | obj members =>
      change Held ((find? sectionName members).getD (.obj members))
      cases found : find? sectionName members with
      | none => exact held
      | some value => exact held_of_find? held.2 found
  | _ => exact held

theorem ascending_launch {own launch : List (String × Json)} (held : MembersHeld own)
    (start : launchPart? own = some launch) : Ascending launch := by
  unfold launchPart? at start
  cases found : asked "compiler" own with
  | none =>
      rw [found] at start
      cases start
      exact List.Pairwise.nil
  | some value =>
      rw [found] at start
      have kept := (Option.filter_eq_some_iff.mp found).1
      cases value with
      | obj members =>
          cases start
          exact (held_of_find? held kept).1
      | _ => cases start

theorem refine_iff {settings : Settings} {refinement : Json} {own launch : List (String × Json)}
    (valid : ∀ raw, settings.compiler.workingDirectory ≠ some (.bytes raw))
    (held : refinement.Held) (part : ownPart refinement = .obj own)
    (start : launchPart? own = some launch) (refined : Settings) :
    settings.refine refinement = .ok refined ↔ Refines settings own launch refined := by
  have ⟨ascending, inner⟩ : Held (.obj own) := part ▸ held_ownPart held
  have distinct := ascending.nodup
  have order : Ascending [("compiler", .obj (launchMembers settings.compiler)),
      ("diagnosticsSource", .str settings.diagnosticsSource)] := by
    change List.Pairwise (· < ·) ["compiler", "diagnosticsSource"]
    decide
  have compiler := @compiler_found settings.compiler (.str settings.diagnosticsSource) _ _ distinct
    start
  have source := @find?_overlayMembers_plain [("compiler", .obj (launchMembers settings.compiler)),
    ("diagnosticsSource", .str settings.diagnosticsSource)] own "diagnosticsSource" _ distinct rfl
    nofun
  -- What is written has the members of the settings and no others, and laying
  -- members over it leaves them in order.
  have laid : settings.refine refinement = form.decodeMembers (overlayMembers
      [("compiler", .obj (launchMembers settings.compiler)),
        ("diagnosticsSource", .str settings.diagnosticsSource)] own) := by
    unfold refine toJson?
    rw [launch_toJson? valid, part]
    rfl
  rw [laid, Form.decodeMembers_eq_ok_iff form_sound (ascending_overlayMembers order),
    form_iff compiler source, launch_decode_iff valid (ascending_launch inner start),
    takes_iff (fun value new _ => string_iff value new) rfl]
  constructor
  · rintro ⟨⟨command, args, directory⟩, source⟩
    exact ⟨command, args, directory, source⟩
  · rintro ⟨command, args, directory, source⟩
    exact ⟨⟨command, args, directory⟩, source⟩

theorem exists_takes_iff {α : Type} {means : Json → α → Prop} {wanted : Option Json} {old : α} :
    (∃ new, Takes means wanted old new) ↔
      ∀ value, wanted = some value → ∃ new, means value new := by
  cases wanted with
  | none => exact ⟨fun _ _ other => (nomatch other), fun _ => ⟨old, rfl⟩⟩
  | some value =>
      constructor
      · rintro ⟨new, taken⟩ _ ⟨⟩
        exact ⟨new, taken⟩
      · exact fun given => given value rfl

theorem exists_refines_iff {settings : Settings} {own launch : List (String × Json)} :
    (∃ refined, Refines settings own launch refined) ↔ WellTyped own launch := by
  constructor
  · rintro ⟨refined, refines⟩
    refine ⟨exists_takes_iff.mp ⟨_, refines.command⟩, exists_takes_iff.mp ⟨_, refines.args⟩, ?_,
      exists_takes_iff.mp ⟨_, refines.source⟩⟩
    intro value wanted
    rcases exists_takes_iff.mp ⟨_, refines.workingDirectory⟩ value wanted with ⟨_, text, same, _⟩
    exact ⟨text, same⟩
  · intro typed
    have directories : ∀ value, asked "workingDirectory" launch = some value →
        ∃ directory, meansDirectory value directory := by
      intro value wanted
      rcases typed.workingDirectory value wanted with ⟨text, same⟩
      exact ⟨_, text, same, rfl⟩
    rcases exists_takes_iff.mpr typed.command with ⟨command, first⟩
    rcases exists_takes_iff.mpr typed.args with ⟨args, second⟩
    rcases exists_takes_iff.mpr directories with ⟨directory, third⟩
    rcases exists_takes_iff.mpr typed.source with ⟨source, fourth⟩
    exact ⟨⟨⟨command, args, directory⟩, source⟩, first, second, third, fourth⟩

/-- A refinement is accepted exactly if all that it asks for is of the right
type, and it changes what it asks for and no more. -/
theorem refine_exactly {settings : Settings} {refinement : Json}
    {own launch : List (String × Json)}
    (valid : ∀ raw, settings.compiler.workingDirectory ≠ some (.bytes raw))
    (held : refinement.Held) (part : ownPart refinement = .obj own)
    (start : launchPart? own = some launch) :
    ((∃ refined, settings.refine refinement = .ok refined) ↔ WellTyped own launch) ∧
      ∀ refined, settings.refine refinement = .ok refined ↔
        Refines settings own launch refined := by
  have exact_iff := refine_iff valid held part start
  exact ⟨(exists_congr exact_iff).trans exists_refines_iff, exact_iff⟩

/-- A refinement with members for settings, one of them null, and with others. -/
def verbose : List (String × Json) :=
  [("args", .arr [.str "--verbose"]), ("command", .null), ("shell", .obj [("args", .int 3)])]

theorem refine_verbose :
    (⟨⟨"lc", ["--server"], some (.text "/work")⟩, "lc"⟩ : Settings).refine
      (.obj [("compilerBridge", .obj [("compiler", .obj verbose), ("theme", .bool true)])]) =
        .ok ⟨⟨"lc", ["--verbose"], some (.text "/work")⟩, "lc"⟩ := by
  have single : ∀ name value, Ascending [(name, value)] := fun _ _ => List.pairwise_singleton _ _
  have inner : Held (.obj verbose) := by
    have order : List.Pairwise (· < ·) ["args", "command", "shell"] := by decide
    exact ⟨order, ⟨trivial, trivial⟩, trivial, ⟨single _ _, trivial, trivial⟩, trivial⟩
  have part : Held (.obj [("compiler", .obj verbose), ("theme", .bool true)]) := by
    have order : List.Pairwise (· < ·) ["compiler", "theme"] := by decide
    exact ⟨order, inner, trivial, trivial⟩
  have held : Held (.obj [("compilerBridge", .obj [("compiler", .obj verbose),
      ("theme", .bool true)])]) := ⟨single _ _, part, trivial⟩
  refine ((refine_exactly (by simp) held rfl rfl).2 _).mpr ?_
  exact ⟨rfl, rfl, rfl, rfl⟩

end Settings
end CompilerRelay
