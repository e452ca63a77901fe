import CompilerRelay.Proofs.Service
import CompilerRelay.Proofs.Settings.Absent

/-!
# Whether changed settings are taken over

Settings are changed by writing them as JSON first.  A directory that is no text
cannot be written, so settings that hold one are never changed again
(`Settings.Unwritable`).  No refinement brings such a directory, because it is
read from a string.  It comes from the root of the project alone, whose URI may
hold any bytes, and only where no directory was set before (`Call.Spoils`).

So a change of the right type is taken over and used from the next restart on,
or the root has spoilt the settings before, and then this change is refused like
all that follow.
-/

namespace CompilerRelay

open Effect

/-! ## Settings that cannot be written -/

namespace Settings

open Json

/-- The directory of the compiler is no text.  Such settings cannot be written
as JSON, which is the first thing that a refinement does. -/
def Unwritable (settings : Settings) : Prop :=
  ∃ raw, settings.compiler.workingDirectory = some (.bytes raw)

/-- A directory that is read is a text. -/
theorem text_of_takes {asked : Option Json} {directory : Option Path}
    (read : Takes (fun value new => Decoder.option Path.decode value = .ok new) asked none
      directory) (raw : List UInt8) : directory ≠ some (.bytes raw) := by
  rintro rfl
  cases asked with
  | none => cases read
  | some value =>
      cases null : value.isNull with
      | true =>
          cases value with
          | null => cases read
          | _ => cases null
      | false =>
          rcases (directory_iff value _ null).mp read with ⟨text, _, same⟩
          cases same

theorem text_of_launch {value : Json} {launch : LaunchSettings}
    (read : LaunchSettings.decode value = .ok launch) (raw : List UInt8) :
    launch.workingDirectory ≠ some (.bytes raw) := by
  cases value with
  | arr items =>
      rw [LaunchSettings.decode, Form.decode_arr_iff] at read
      rcases Form.ofElements_and_iff.mp read with ⟨_, others, directory, first, last, rfl⟩
      rcases Form.ofElements_and_iff.mp first with ⟨_, _, _, start, _, rfl⟩
      rcases Form.ofElements_and_iff.mp start with ⟨_, _, _, ⟨⟩, _, rfl⟩
      exact text_of_takes (ofElements_trailing_iff.mp last).1 raw
  | obj members =>
      have filled := Form.ofMembers_of_decodeMembers read
      rcases Form.ofMembers_and_iff.mp filled with ⟨_, directory, first, last, rfl⟩
      rcases Form.ofMembers_and_iff.mp first with ⟨_, _, start, _, rfl⟩
      rcases Form.ofMembers_and_iff.mp start with ⟨_, _, ⟨⟩, _, rfl⟩
      exact text_of_takes (ofMembers_trailing_iff.mp last) raw
  | _ => cases read

theorem writable_of_takes {asked : Option Json} {launch : LaunchSettings}
    (read : Takes (fun value new => LaunchSettings.decode value = .ok new) asked {} launch)
    (raw : List UInt8) : launch.workingDirectory ≠ some (.bytes raw) := by
  cases asked with
  | none =>
      cases read
      exact nofun
  | some value => exact text_of_launch read raw

theorem writable_of_decode {value : Json} {settings : Settings}
    (read : decode value = .ok settings) : ¬ settings.Unwritable := by
  rintro ⟨raw, directory⟩
  cases value with
  | arr elements => exact writable_of_takes (decode_arr_iff.mp read).compiler raw directory
  | obj members =>
      have filled := Form.ofMembers_of_decodeMembers read
      rcases Form.ofMembers_and_iff.mp filled with ⟨_, _, first, _, rfl⟩
      rcases Form.ofMembers_and_iff.mp first with ⟨_, launch, ⟨⟩, compiler, rfl⟩
      exact writable_of_takes (ofMembers_trailing_iff.mp compiler) raw directory
  | _ => cases read

theorem writable_of_refine {settings refined : Settings} {refinement : Json}
    (done : settings.refine refinement = .ok refined) : ¬ refined.Unwritable := by
  rw [refine_eq (valid_of_refine done)] at done
  exact writable_of_decode done

/-- The root takes the place of a directory that is not set. -/
theorem unwritable_withRoot_iff {settings : Settings} (writable : ¬ settings.Unwritable)
    (root : Option Path) : (settings.withRoot root).Unwritable ↔
      settings.compiler.workingDirectory = none ∧ ∃ raw, root = some (.bytes raw) := by
  unfold withRoot
  cases directory : settings.compiler.workingDirectory with
  | none =>
      exact ⟨fun unwritable => ⟨rfl, unwritable⟩, And.right⟩
  | some path =>
      exact ⟨fun unwritable => absurd unwritable writable, fun ⟨other, _⟩ => nomatch other⟩

theorem withRoot_of_unwritable {settings : Settings} (unwritable : settings.Unwritable)
    (root : Option Path) : settings.withRoot root = settings := by
  rcases unwritable with ⟨raw, directory⟩
  simp only [withRoot, directory]

end Settings

/-! ## Calls -/

namespace Call

/-- The settings once options that come with the first call were laid over them. -/
def refined (settings : Settings) (options : Option Json) : Settings :=
  (options.bind fun value => (settings.refine value).toOption).getD settings

/-- A call brings a root that is no text, where no directory is set.  This is
the only way to settings that cannot be written: what is read from JSON is text.
-/
inductive Spoils (settings : Settings) : Call → Prop
  | introduce {options : Option Json} {root : Option Uri} {raw : List UInt8}
      (unset : (refined settings options).compiler.workingDirectory = none)
      (named : root.bind Uri.filePath? = some (.bytes raw)) :
      Spoils settings (.introduce options root)

theorem refined_of_unwritable {settings : Settings} (unwritable : settings.Unwritable)
    (options : Option Json) : refined settings options = settings := by
  rcases unwritable with ⟨raw, directory⟩
  cases options with
  | none => rfl
  | some value =>
      rw [refined, Option.bind_some, Settings.refine_of_bytes directory]
      rfl

theorem writable_refined {settings : Settings} (writable : ¬ settings.Unwritable)
    (options : Option Json) : ¬ (refined settings options).Unwritable := by
  cases options with
  | none => exact writable
  | some value =>
      rw [refined, Option.bind_some]
      cases done : settings.refine value with
      | error complaint => exact writable
      | ok new => exact Settings.writable_of_refine done

/-- A change of the settings refines them by a part of what it holds. -/
theorem reconfigures_configured (settings : Settings) (value : Json) :
    (configured value).reconfigures settings =
      refined settings (value.member? Settings.sectionName) :=
  rfl

/-- Settings that cannot be written stay as they are. -/
theorem reconfigures_of_unwritable {settings : Settings} (unwritable : settings.Unwritable)
    (call : Call) : call.reconfigures settings = settings := by
  cases call with
  | introduce options root =>
      change (refined settings options).withRoot _ = settings
      rw [refined_of_unwritable unwritable, Settings.withRoot_of_unwritable unwritable]
  | configured value => exact refined_of_unwritable unwritable _
  | _ => rfl

theorem unwritable_of_spoils {settings : Settings} {call : Call} (spoils : call.Spoils settings) :
    (call.reconfigures settings).Unwritable := by
  rcases spoils with @⟨options, root, raw, unset, named⟩
  refine ⟨raw, ?_⟩
  change ((refined settings options).withRoot (root.bind Uri.filePath?)).compiler.workingDirectory =
    some (.bytes raw)
  simp only [Settings.withRoot, unset]
  exact named

theorem unwritable_reconfigures_iff {settings : Settings} (writable : ¬ settings.Unwritable)
    (call : Call) : (call.reconfigures settings).Unwritable ↔ call.Spoils settings := by
  refine ⟨fun unwritable => ?_, unwritable_of_spoils⟩
  cases call with
  | introduce options root =>
      have none := writable_refined writable options
      rcases (Settings.unwritable_withRoot_iff none _).mp unwritable with ⟨unset, raw, named⟩
      exact .introduce unset named
  | configured value => exact absurd unwritable (writable_refined writable _)
  | _ => exact absurd unwritable writable

end Call

/-- The settings depend on the calls alone. -/
theorem Plan.settings_foldl (plan : Plan) (more : List Call) :
    (more.foldl add plan).settings =
      more.foldl (fun settings call => call.reconfigures settings) plan.settings := by
  induction more generalizing plan with
  | nil => rfl
  | cons call rest inductionHypothesis => exact inductionHypothesis (plan.add call)

/-! ## Runs -/

namespace Service

/-- The settings that the server has come to. -/
def current (base : Settings) (happenings : List Happening) : Settings :=
  (ran base happenings).1.server.settings

abbrev reconfigured (waiter : Waiter) (value : Json) : Happening :=
  .call waiter (.configured value)

abbrev restarted (waiter : Waiter) : Happening :=
  .call waiter (.execute Server.restartCommand)

variable (base : Settings) (before : List Happening)

theorem calls_append (first second : List Happening) :
    calls (first ++ second) = calls first ++ calls second :=
  List.filterMap_append

theorem calls_turns (verdicts : List Verdict) : calls (verdicts.map .turn) = [] :=
  List.filterMap_eq_nil_iff.mpr fun happening listed => by
    rcases List.mem_map.mp listed with ⟨verdict, _, rfl⟩
    rfl

/-- The settings go on from where they are. -/
theorem current_append (more : List Happening) : current base (before ++ more) =
    (calls more).foldl (fun settings call => call.reconfigures settings) (current base before) := by
  rcases traces base before with ⟨_, early⟩
  rcases traces base (before ++ more) with ⟨_, late⟩
  rw [current, current, late.settings, early.settings, calls_append, Plan.ofCalls_append,
    Plan.settings_foldl]

theorem current_call (waiter : Waiter) (call : Call) (more : List Happening) :
    current base (before ++ .call waiter call :: more) =
      (calls more).foldl (fun settings call => call.reconfigures settings)
        (call.reconfigures (current base before)) :=
  current_append base before (.call waiter call :: more)

theorem foldl_of_unwritable {settings : Settings} (unwritable : settings.Unwritable)
    (more : List Call) :
    more.foldl (fun settings call => call.reconfigures settings) settings = settings := by
  induction more with
  | nil => rfl
  | cons call rest inductionHypothesis =>
      rw [List.foldl_cons, Call.reconfigures_of_unwritable unwritable, inductionHypothesis]

theorem foldl_of_quiet (settings : Settings) {more : List Call}
    (quiet : ∀ call ∈ more, ¬ Configures call) :
    more.foldl (fun settings call => call.reconfigures settings) settings = settings := by
  induction more with
  | nil => rfl
  | cons call rest inductionHypothesis =>
      have here : call.reconfigures settings = settings := by
        have still := quiet call List.mem_cons_self
        cases call with
        | introduce options root => exact absurd (.introduce options root) still
        | configured value => exact absurd (.configured value) still
        | _ => rfl
      rw [List.foldl_cons, here]
      exact inductionHypothesis fun other listed => quiet other (List.mem_cons_of_mem call listed)

/-- The settings cannot be written if they never could, or since a call spoilt
them. -/
theorem unwritable_current_iff : (current base before).Unwritable ↔ base.Unwritable ∨
    ∃ early waiter call late, before = early ++ .call waiter call :: late ∧
      call.Spoils (current base early) := by
  constructor
  · induction before using List.reverseRecOn with
    | nil => exact Or.inl
    | append_singleton before happening inductionHypothesis =>
        intro unwritable
        by_cases already : (current base before).Unwritable
        · rcases inductionHypothesis already with first | ⟨early, waiter, call, late, rfl, spoils⟩
          · exact .inl first
          · exact .inr ⟨early, waiter, call, late ++ [happening], by simp, spoils⟩
        · cases happening with
          | call waiter call =>
              rw [current_call, calls, List.filterMap_nil, List.foldl_nil,
                Call.unwritable_reconfigures_iff already] at unwritable
              exact .inr ⟨before, waiter, call, [], rfl, unwritable⟩
          | _ =>
              rw [current_append] at unwritable
              exact absurd unwritable already
  · rintro (first | ⟨early, waiter, call, late, rfl, spoils⟩)
    · have kept := current_append base [] before
      change current base before = (calls before).foldl _ base at kept
      rw [foldl_of_unwritable first] at kept
      rw [kept]
      exact first
    · have spoilt := Call.unwritable_of_spoils spoils
      rw [current_call, foldl_of_unwritable spoilt]
      exact spoilt

/-- After a restart, and as many turns as events wait then, the last launch is
one with the settings of the restart. -/
theorem launches_of_restart (waiter : Waiter) (verdicts : List Verdict)
    (enough : (ran base (before ++ [restarted waiter])).1.loop.pending.length ≤ verdicts.length) :
    (launches (ran base (before ++ restarted waiter :: verdicts.map .turn)).2).getLast?.map
      (·.settings) = some (current base before).compiler := by
  rcases traces base before with ⟨_, early⟩
  rcases traces base (before ++ restarted waiter :: verdicts.map .turn) with ⟨_, late⟩
  have planned : (Plan.ofCalls base (calls (before ++ restarted waiter ::
      verdicts.map .turn))).launches =
        (Plan.ofCalls base (calls before)).launches ++ [current base before] := by
    rw [calls_append, Plan.ofCalls_append, current, early.settings]
    change ((.execute Server.restartCommand :: calls (verdicts.map .turn)).foldl Plan.add
      _).launches = _
    rw [calls_turns]
    rfl
  have nothing : (ran base (before ++ restarted waiter :: verdicts.map .turn)).1.loop.pending =
      [] := by
    rw [List.append_cons, ran, run_append, pending_turns]
    exact List.drop_eq_nil_of_le enough
  rcases used_of_traces late with ⟨used, _, all, settings, _⟩
  rw [← List.getLast?_map, settings, all nothing, planned, List.map_append]
  exact List.getLast?_concat

/-- What becomes of a change of the settings that is of the right type.  It is
taken over unless the settings that were there cannot be written, and then it
changes nothing, whatever it says. -/
structure Accepts (base : Settings) (before : List Happening) (value : Json)
    (own launch : List (String × Json)) : Prop where
  /-- It is taken over, and the next launch uses it. -/
  taken : ¬ (current base before).Unwritable → ∃ refined,
    Settings.Refines (current base before) own launch refined ∧
      ∀ waiter between, (∀ call ∈ calls between, ¬ Configures call) →
        ∀ happenings, happenings = before ++ reconfigured waiter value :: between →
          current base happenings = refined ∧
            ∀ waiter' (verdicts : List Verdict),
              (ran base (happenings ++ [restarted waiter'])).1.loop.pending.length ≤
                verdicts.length →
              (launches (ran base (happenings ++ restarted waiter' ::
                verdicts.map .turn)).2).getLast?.map (·.settings) = some refined.compiler
  /-- Unless the settings cannot be written: then it is refused, and nothing
  changes them any more. -/
  refused : (current base before).Unwritable → ∀ waiter,
    ((ran base before).1.server.handle waiter (.configured value)).2.1 =
      [.log (.info "Configuration changed"), .log (.warning
        "Failed to parse configuration: path contains invalid UTF-8 characters")] ∧
    ∀ more, current base (before ++ reconfigured waiter value :: more) = current base before
  /-- They cannot be written if they never could, or since the root of the
  project stands in for a directory. -/
  spoilt : (current base before).Unwritable ↔ base.Unwritable ∨
    ∃ early waiter call late, before = early ++ .call waiter call :: late ∧
      call.Spoils (current base early)

/-- A change of the right type is taken over, unless the root of the project has
spoilt the settings before. -/
theorem accepted_unless_spoilt {value part : Json} {own launch : List (String × Json)}
    (held : value.Held) (mentioned : value.member? Settings.sectionName = some part)
    (object : Settings.ownPart part = .obj own) (start : Settings.launchPart? own = some launch)
    (typed : Settings.WellTyped own launch) : Accepts base before value own launch where
  taken := by
    intro writable
    have inner : part.Held := by
      cases value with
      | obj members => exact Json.held_of_find? held.2 mentioned
      | _ => cases mentioned
    rcases Settings.exists_refines_iff.mpr typed with ⟨refined, refines⟩
    refine ⟨refined, refines, ?_⟩
    rintro waiter between quiet happenings rfl
    have valid : ∀ raw, (current base before).compiler.workingDirectory ≠ some (.bytes raw) :=
      fun raw directory => writable ⟨raw, directory⟩
    have done := (Settings.refine_iff valid inner object start refined).mpr refines
    have changed : current base (before ++ reconfigured waiter value :: between) = refined := by
      rw [current_call, foldl_of_quiet _ quiet, Call.reconfigures_configured, mentioned,
        Call.refined, Option.bind_some, done]
      rfl
    refine ⟨changed, fun waiter' verdicts enough => ?_⟩
    rw [launches_of_restart base _ waiter' verdicts enough, changed]
  refused := by
    intro unwritable waiter
    refine ⟨?_, fun more => ?_⟩
    · rcases unwritable with ⟨raw, directory⟩
      have failed := Settings.refine_of_bytes directory part
      rw [current] at failed
      simp only [Server.handle, Server.configure, mentioned, failed]
      rfl
    · rw [current_call, Call.reconfigures_of_unwritable unwritable,
        foldl_of_unwritable unwritable]
  spoilt := unwritable_current_iff base before

/-! ## A root that is no text -/

/-- The last escape of this root stands for a byte that begins no character. -/
def foreignRoot : Uri :=
  ⟨"file:///work%FF"⟩

theorem filePath?_foreignRoot :
    foreignRoot.filePath? = some (.bytes [0x2F, 0x77, 0x6F, 0x72, 0x6B, 0xFF]) := by
  have undecoded : Text.Utf8.decode? [0x2F, 0x77, 0x6F, 0x72, 0x6B, 0xFF] = none := by
    simp [Text.Utf8.decode?, Text.Utf8.character, Text.Utf8.lead?]
  have shape : foreignRoot.hostAndPath = (none, "/work%FF".toList) := by decide
  have bytes : Uri.closeDrive (Uri.Percent.decode (Text.Utf8.encode "/work%FF".toList)) =
      [0x2F, 0x77, 0x6F, 0x72, 0x6B, 0xFF] := by decide
  rw [Uri.filePath?, shape]
  change (if _ then some (Path.ofBytes (Uri.closeDrive (Uri.Percent.decode
    (Text.Utf8.encode "/work%FF".toList)))) else none) = _
  rw [if_pos (.inl rfl), bytes, Path.ofBytes, undecoded]

def introduced : List Happening :=
  [.call 0 (.introduce none (some foreignRoot)), .call 0 .initialized]

theorem current_introduced : current {} introduced =
    ⟨⟨"compiler", [], some (.bytes [0x2F, 0x77, 0x6F, 0x72, 0x6B, 0xFF])⟩, "compiler"⟩ := by
  have stored : current {} introduced =
      ⟨⟨"compiler", [], foreignRoot.filePath?⟩, "compiler"⟩ := rfl
  rw [stored, filePath?_foreignRoot]

def renamed : Json :=
  .obj [("compilerBridge", .obj [("compiler", .obj [("command", .str "lc")])])]

theorem held_renamed : renamed.Held :=
  ⟨List.pairwise_singleton _ _, ⟨List.pairwise_singleton _ _,
    ⟨List.pairwise_singleton _ _, trivial, trivial⟩, trivial⟩, trivial⟩

theorem wellTyped_renamed : Settings.WellTyped [("compiler", .obj [("command", .str "lc")])]
    [("command", .str "lc")] where
  command := by
    rintro value ⟨⟩
    exact ⟨"lc", rfl⟩
  args := nofun
  workingDirectory := nofun
  source := nofun

theorem accepted_unless_spoilt_renamed :
    Accepts {} [] renamed [("compiler", .obj [("command", .str "lc")])] [("command", .str "lc")] ∧
      current {} (introduced ++ [reconfigured 0 renamed]) = current {} introduced := by
  refine ⟨accepted_unless_spoilt {} [] held_renamed rfl rfl rfl wellTyped_renamed, ?_⟩
  have spoilt : (current {} introduced).Unwritable := ⟨_, by rw [current_introduced]⟩
  exact ((accepted_unless_spoilt {} introduced held_renamed rfl rfl rfl wellTyped_renamed).refused
    spoilt 0).2 []

/-- A change of the right type may be refused, and the next launch does without
it. -/
theorem change_refused : ¬ ∀ (base : Settings) (before : List Happening) (value part : Json)
    (own launch : List (String × Json)), value.Held →
      value.member? Settings.sectionName = some part → Settings.ownPart part = .obj own →
        Settings.launchPart? own = some launch → Settings.WellTyped own launch →
          ∃ refined, Settings.Refines (current base before) own launch refined ∧
            ∀ waiter waiter' (verdicts : List Verdict),
              (ran base (before ++ [reconfigured waiter value] ++
                [restarted waiter'])).1.loop.pending.length ≤ verdicts.length →
              (launches (ran base (before ++ [reconfigured waiter value] ++ restarted waiter' ::
                verdicts.map .turn)).2).getLast?.map (·.settings) = some refined.compiler := by
  intro accepted
  rcases accepted {} introduced renamed _ _ _ held_renamed rfl rfl rfl wellTyped_renamed with
    ⟨refined, refines, launched⟩
  have spoilt : (current {} introduced).Unwritable := ⟨_, by rw [current_introduced]⟩
  have kept : current {} (introduced ++ [reconfigured 0 renamed]) = current {} introduced := by
    rw [current_call, Call.reconfigures_of_unwritable spoilt, foldl_of_unwritable spoilt]
  let verdicts := List.replicate (ran {} (introduced ++ [reconfigured 0 renamed] ++
    [restarted 0])).1.loop.pending.length (⟨fun _ => none, fun _ => none⟩ : Verdict)
  have enough : (ran {} (introduced ++ [reconfigured 0 renamed] ++
      [restarted 0])).1.loop.pending.length ≤ verdicts.length :=
    Nat.le_of_eq List.length_replicate.symm
  have last := launched 0 0 verdicts enough
  rw [launches_of_restart {} _ 0 verdicts enough, kept, current_introduced] at last
  have command : "compiler" = refined.compiler.command :=
    congrArg LaunchSettings.command (Option.some.inj last)
  have wanted : Json.str "lc" = .str refined.compiler.command := refines.command
  have different : "compiler" ≠ "lc" := by decide
  exact different (command.trans (Json.str.inj wanted).symm)

end Service
end CompilerRelay
