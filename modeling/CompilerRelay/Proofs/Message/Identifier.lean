import CompilerRelay.Proofs.Json.Following
import CompilerRelay.Proofs.Message
import Mathlib.Data.List.TakeWhile

/-!
# A reply is never tied to another job

A line of the compiler is read as a message.  If that fails, it is read once
more, as any value, to find out which job it is about.  The two readings must
not disagree about the identifier, or a job would end that was not answered
while another one is in flight forever.

Both readings gather the members of the object in the order in which they are
written.  The first one sets the type apart (`Sorts`).  It gives up where it
finds the type a second time or a type that it does not know, and the line then
has to be `Spoilt`: no line without these faults may be given up.
-/

namespace CompilerRelay

open Reader Json

namespace Message
namespace Tagged

/-! ## The type -/

theorem refuses_of_yields {α : Type} {reader : Reader α} (none : Yields (fun _ => False) reader)
    (text : List Char) : ∃ error, reader text = .error error := by
  cases read : reader text with
  | error error => exact ⟨error, rfl⟩
  | ok done => exact (none text done.1 done.2 read).elim

theorem refuseNext_refuses {α : Type} (wanted : String) (text : List Char) :
    ∃ error, (refuseNext wanted : Reader α) text = .error error := by
  refine refuses_of_yields (yields_after fun token => ?_) text
  split
  · exact yields_fail _ _
  · exact yields_fail _ _
  · exact yields_after fun _ => yields_fail _ _

theorem refuseAtEnd_refuses {α : Type} (closing : Char) (complaint : DecodeError)
    (text : List Char) :
    ∃ error, (refuseAtEnd closing complaint : Reader α) text = .error error := by
  refine refuses_of_yields (yields_after fun token => ?_) text
  split
  · dsimp only
    split
    · exact yields_after fun _ => yields_fail _ _
    · exact yields_fail _ _
  · exact yields_fail _ _

/-- The value names a type, or it names none. -/
def Names (value : Json) : Option Tag → Prop
  | some tag => value = .str tag.name
  | none => ∀ tag : Tag, value ≠ .str tag.name

theorem ofName_cases (name : String) : (∃ tag : Tag, Tag.ofName name = .ok tag ∧ name = tag.name) ∨
    ∃ complaint, Tag.ofName name = .error complaint ∧ ∀ tag : Tag, name ≠ tag.name := by
  cases found : Tag.all.find? fun tag => tag.name == name with
  | some tag =>
      have same := List.find?_some (p := fun tag : Tag => tag.name == name) found
      refine Or.inl ⟨tag, ?_, (eq_of_beq same).symm⟩
      simp only [Tag.ofName, found]
  | none =>
      refine Or.inr ⟨.unknownVariant name (Tag.all.map Tag.name), ?_, fun tag same => ?_⟩
      · simp only [Tag.ofName, found]
      · have listed : tag ∈ Tag.all := by cases tag <;> decide
        have other := List.find?_eq_none.mp found tag listed
        exact other (beq_iff_eq.mpr same.symm)

/-- The type is read wherever a value is, and refused if it names no type. -/
theorem follows_tag : Follows Names (Reader.value (depthLimit - 1)) Tagged.tag := by
  intro text value rest read
  rcases @str_of_value 125 _ _ _ read with ⟨token, more, peeked, quoted | ⟨other, noText⟩⟩
  · rcases quoted with ⟨rfl, name, rfl, quoted⟩
    rw [Tagged.tag, bind_of_ok peeked]
    simp only []
    rw [bind_of_ok (show skip more = .ok ((), more.drop 1) from rfl), bind_of_ok quoted]
    rcases ofName_cases name with ⟨tag, named, rfl⟩ | ⟨complaint, unknown, differs⟩
    · rw [named]
      exact Or.inl ⟨tag, rfl, rfl⟩
    · rw [unknown]
      refine Or.inr ⟨⟨_, rfl⟩, fun tag same => differs tag (Json.str.inj same)⟩
  · refine Or.inr ⟨?_, fun tag => noText tag.name⟩
    rw [Tagged.tag, bind_of_ok peeked]
    generalize first : some token = next
    split
    · exact absurd (Option.some.inj first) other
    · exact refuseNext_refuses _ _

/-! ## The members -/

/-- How what is gathered for a message goes with what is gathered for a value:
the type is set apart, and the other members are the same. -/
structure Sorted (gathered : List (String × Json)) (sorted : Gathered) : Prop where
  type : find? "type" gathered = sorted.1.map fun tag => .str tag.name
  others : sorted.2 = gathered.filter fun member => member.1 ≠ "type"

/-- A name is given twice, or the type is none that is known. -/
def Spoilt (gathered : List (String × Json)) : Prop :=
  ¬ (gathered.map Prod.fst).Nodup ∨
    ∃ value, ("type", value) ∈ gathered ∧ ∀ tag : Tag, value ≠ .str tag.name

def Sorts (gathered : List (String × Json)) : Option Gathered → Prop
  | some sorted => Sorted gathered sorted
  | none => Spoilt gathered

theorem Spoilt.cons {gathered : List (String × Json)} (spoilt : Spoilt gathered)
    (member : String × Json) : Spoilt (member :: gathered) := by
  rcases spoilt with twice | ⟨value, listed, unknown⟩
  · exact Or.inl fun distinct => twice (List.nodup_cons.mp distinct).2
  · exact Or.inr ⟨value, List.mem_cons_of_mem _ listed, unknown⟩

theorem follows_gather (gathered : List (String × Json)) (sorted : Gathered) (name : String)
    (sorts : Sorted gathered sorted) :
    Follows Sorts (gatherMember (Reader.value (depthLimit - 1)) gathered name)
      (gather sorted name) := by
  rcases sorted with ⟨type, others⟩
  by_cases typed : name = "type"
  · subst typed
    rw [gather, if_pos rfl]
    cases type with
    | some known =>
        refine follows_refused (refuseAtEnd_refuses _ _) ?_
        refine yields_after fun _ => yields_after fun content => yields_pure (Or.inl ?_)
        have listed := List.mem_map_of_mem (f := Prod.fst) (mem_of_find? sorts.type)
        exact fun distinct => (List.nodup_cons.mp distinct).1 listed
    | none =>
        refine follows_after fun _ => follows_tag.bind (fun content tag named => ?_)
          fun content unknown => ?_
        · have plain := sorts.others
          refine follows_pure ⟨?_, ?_⟩
          · rw [find?, if_pos rfl]
            exact congrArg some named
          · rw [List.filter_cons_of_neg (by simp)]
            exact plain
        · exact yields_pure (Or.inr ⟨content, List.mem_cons_self, unknown⟩)
  · rw [gather, if_neg typed]
    refine follows_after fun _ => follows_after fun content => follows_pure ⟨?_, ?_⟩
    · rw [find?, if_neg typed]
      exact sorts.type
    · rw [List.filter_cons_of_pos (by simpa using typed)]
      exact congrArg (List.cons (name, content)) sorts.others

/-- Whatever else is read, what is spoilt stays so. -/
theorem yields_spoilt (gathered : List (String × Json)) (name : String)
    (spoilt : Sorts gathered none) : Yields (Sorts · none)
      (gatherMember (Reader.value (depthLimit - 1)) gathered name) :=
  yields_after fun _ => yields_after fun _ => yields_pure (Spoilt.cons spoilt _)

/-- An object is read as a message whose type is set apart, or it is given up
because it has no type or is spoilt. -/
theorem reader_of_value {text rest : List Char} {members : List (String × Json)}
    (read : Reader.value depthLimit text = .ok (.obj members, rest)) :
    ∃ gathered, ofMembers gathered.reverse = .obj members ∧
      (∀ raw behind, written text = .ok (.obj raw, behind) →
        raw.map Prod.fst = gathered.reverse.map Prod.fst) ∧
      ((∃ tag others, Tagged.reader text = .ok (Tagged.members tag others.reverse, rest) ∧
          find? "type" gathered = some (.str tag.name) ∧
            others = gathered.filter fun member => member.1 ≠ "type") ∨
        (∃ error, Tagged.reader text = .error error) ∧
          (find? "type" gathered = none ∨ Spoilt gathered)) := by
  rcases @obj_of_valueMaking _ 126 _ _ _ read with
    ⟨more, gathered, middle, peeked, taken, made, rfl⟩
  have follows : Follows Sorts
      (Reader.members (gatherMember (Reader.value (depthLimit - 1))) [])
        (Reader.members gather (none, [])) :=
    follows_members follows_gather yields_spoilt ⟨rfl, rfl⟩
  have opened : Tagged.reader text = ofObject (more.drop 1) := by
    rw [Tagged.reader, bind_of_ok peeked]
    simp only []
    rw [bind_of_ok (show skip more = .ok ((), more.drop 1) from rfl)]
  refine ⟨gathered, made, ?_, ?_⟩
  · intro raw behind written
    rcases @obj_of_valueMaking _ 126 _ _ _ written with
      ⟨more', gathered', _, peeked', taken', same, _⟩
    cases peeked.symm.trans peeked'
    cases same
    rcases follows_gatherMember (follows_valueMaking ofMembers Json.obj 126) _ _ _ taken with
      ⟨other, taken, names⟩ | ⟨_, impossible⟩
    · cases taken.symm.trans taken'
      rw [List.map_reverse, List.map_reverse]
      exact congrArg List.reverse (Option.some.inj names)
    · cases impossible
  rw [opened, ofObject]
  rcases follows (more.drop 1) gathered middle taken with
    ⟨⟨type, others⟩, read, sorted⟩ | ⟨⟨error, refused⟩, spoilt⟩
  · rw [bind_of_ok read]
    cases type with
    | some tag => exact Or.inl ⟨tag, others, rfl, sorted.type, sorted.others⟩
    | none => exact Or.inr ⟨refuseAtEnd_refuses _ _ _, Or.inl sorted.type⟩
  · exact Or.inr ⟨⟨error, bind_of_error refused⟩, Or.inr spoilt⟩

end Tagged

/-! ## The parts -/

/-- A message is made of members whose names differ exactly if its parts are
found among them. -/
theorem ofTagged_eq_ok_iff {tag : Tag} {members : List (String × Json)}
    (distinct : (members.map Prod.fst).Nodup) (message : Message) :
    ofTagged (.members tag members) = .ok message ↔
      (form tag).ofMembers (find? · members) = .ok message := by
  constructor
  · intro made
    unfold ofTagged at made
    cases complained : complaint? (form tag) [] members with
    | some complaint =>
        simp only [complained] at made
        cases made
    | none =>
        simp only [complained] at made
        exact made
  · intro filled
    have apart : members.Pairwise (Apart (form tag)) :=
      List.Pairwise.imp (fun differs same => absurd same differs) (List.pairwise_map.mp distinct)
    have passed : complaint? (form tag) [] members = none := by
      refine complaint?_eq_none apart fun member listed check known => ?_
      have found := find?_of_mem listed fun other twice =>
        congrArg Prod.snd (List.inj_on_of_nodup_map distinct twice listed rfl)
      exact ⟨List.not_mem_nil, (form_sound tag).passes filled known found⟩
    simp only [ofTagged, passed]
    exact filled

theorem required_string_eq_ok_iff {name : String} {find : String → Option Json} {text : String} :
    (Form.required name Decoder.string).ofMembers find = .ok text ↔
      find name = some (.str text) := by
  cases found : find name with
  | none =>
      simp only [Form.required, Form.field, found, Absence.ofMember?, reduceCtorEq]
  | some content =>
      rw [Form.required, Form.ofMembers_field found]
      cases content with
      | str s => simp [Decoder.string]
      | _ => simp [Decoder.string, Decoder.wrongType]

theorem trailing_json (name : String) (value : Json) (find : String → Option Json) :
    (Form.trailing name Decoder.json value).ofMembers find = .ok ((find name).getD value) := by
  cases found : find name with
  | none => exact Form.ofMembers_absent found rfl
  | some content => exact Form.ofMembers_field found

section

variable {find : String → Option Json} {n : Nat}

theorem form_result (identified : find "id" = some (.int n)) (fits : n < Word.size 64) :
    (form .result).ofMembers find = .ok (.result n ((find "result").getD .null)) :=
  Form.ofMembers_and
    (Form.ofMembers_and rfl ((Form.ofMembers_field identified).trans (word64_natCast fits)))
    (trailing_json "result" .null find)

theorem form_error_iff (identified : find "id" = some (.int n)) (fits : n < Word.size 64)
    (message : Message) : (form .error).ofMembers find = .ok message ↔
      ∃ text, find "message" = some (.str text) ∧ message = .error n text := by
  have began : ((Form.pure error).and (Form.required "id" Decoder.word64)).ofMembers find =
      .ok (.error n) :=
    Form.ofMembers_and rfl ((Form.ofMembers_field identified).trans (word64_natCast fits))
  constructor
  · intro filled
    rcases Form.ofMembers_and_iff.mp filled with ⟨make, text, begun, given, rfl⟩
    cases began.symm.trans begun
    exact ⟨text, required_string_eq_ok_iff.mp given, rfl⟩
  · rintro ⟨text, given, rfl⟩
    exact Form.ofMembers_and began (required_string_eq_ok_iff.mpr given)

theorem form_notification_iff (message : Message) :
    (form .notification).ofMembers find = .ok message ↔
      ∃ method, find "method" = some (.str method) ∧
        message = .notification method ((find "params").getD .null) := by
  have ends := trailing_json "params" .null find
  constructor
  · intro filled
    rcases Form.ofMembers_and_iff.mp filled with ⟨make, params, begun, given, rfl⟩
    rcases Form.ofMembers_and_iff.mp begun with ⟨_, method, made, named, rfl⟩
    cases made
    cases ends.symm.trans given
    exact ⟨method, required_string_eq_ok_iff.mp named, rfl⟩
  · rintro ⟨method, named, rfl⟩
    exact Form.ofMembers_and (Form.ofMembers_and rfl (required_string_eq_ok_iff.mpr named)) ends

end

/-! ## Lines -/

theorem parse?_eq_some {text : List Char} {value : Json} (parsed : Json.parse? text = some value) :
    ∃ rest behind, Reader.value depthLimit text = .ok (value, rest) ∧
      Reader.finish rest = .ok ((), behind) := by
  rw [Json.parse?, Json.parse, StateT.run] at parsed
  cases ran : Reader.document text with
  | error error =>
      rw [ran] at parsed
      cases parsed
  | ok done =>
      rw [ran] at parsed
      rcases bind_eq_ok_iff.mp ran with ⟨made, rest, read, ran⟩
      rcases bind_eq_ok_iff.mp ran with ⟨_, behind, ended, ran⟩
      cases ran
      cases parsed
      exact ⟨rest, _, read, ended⟩

theorem parse_of_reader {text rest behind : List Char} {tagged : Tagged}
    (read : Tagged.reader text = .ok (tagged, rest))
    (ended : Reader.finish rest = .ok ((), behind)) :
    parse text = (ofTagged tagged).mapError DecodeError.message := by
  rw [parse, StateT.run, read]
  simp only [Except.mapError, bind, Except.bind]
  cases ofTagged tagged with
  | error complaint => rfl
  | ok message =>
      simp only [StateT.run, ended]
      rfl

theorem parse_of_refused {text : List Char} {error : ReadError}
    (refused : Tagged.reader text = .error error) : parse text = .error (error.message text) := by
  rw [parse, StateT.run, refused]
  rfl

/-- The text is one object that gives no name twice, with these members.  That
no name is given twice is a condition on the text: once the object is made, it
can no longer be seen. -/
structure Carries (text : List Char) (members : List (String × Json)) : Prop where
  read : Json.parse? text = some (.obj members)
  distinct : ∃ raw rest, Json.beginning? text = some (.obj raw, rest) ∧ (raw.map Prod.fst).Nodup

theorem Tag.eq_of_named {tag : Tag} {value : Option Json} (other : Tag)
    (named : value = some (.str tag.name)) (typed : value = some (.str other.name)) :
    tag = other := by
  have same : tag.name = other.name := Json.str.inj (Option.some.inj (named.symm.trans typed))
  revert same
  cases tag <;> cases other <;> decide

/-- Every text that writes an object of distinct names carries its members, in
the order of their names. -/
theorem carries_of_spells {members sorted : List (String × Json)} {text : List Char}
    (spells : Spells (.obj members) text) (shallow : nesting (.obj members) ≤ depthLimit)
    (distinct : (members.map Prod.fst).Nodup)
    (same : remade ofMembers (.obj members) = .obj sorted) : Carries text sorted := by
  have parsed := parse_of_spells shallow spells gap_nil gap_nil
  rw [List.nil_append, List.append_nil, same] at parsed
  have began : written text = .ok (.obj (remadeMembers Json.obj members), []) := by
    have reads : Reads written (remade Json.obj (.obj members)) text :=
      reads_of_spells (.obj members) shallow spells
    have all := reads [] trivial
    rwa [List.append_nil] at all
  refine ⟨?_, remadeMembers Json.obj members, [], ?_, ?_⟩
  · rw [Json.parse?, parsed]
    rfl
  · rw [Json.beginning?, StateT.run, began]
    rfl
  · rw [remadeMembers_eq_map, List.map_map]
    exact distinct

/-- Either the type is known and the parts are found among the members, or the
line is no message. -/
theorem Carries.parse_cases {text : List Char} {members : List (String × Json)}
    (carries : Carries text members) :
    (∃ tag : Tag, find? "type" members = some (.str tag.name) ∧
      ∃ own, (own.map Prod.fst).Nodup ∧
        (∀ name, name ≠ "type" → find? name own = find? name members) ∧
          parse text = (ofTagged (.members tag own)).mapError DecodeError.message) ∨
      (∃ reason, parse text = .error reason) ∧
        ∀ tag : Tag, find? "type" members ≠ some (.str tag.name) := by
  rcases carries.distinct with ⟨raw, behind, began, distinct⟩
  rcases parse?_eq_some carries.read with ⟨rest, _, read, ended⟩
  rcases Tagged.reader_of_value read with ⟨gathered, made, names, outcome⟩
  have written : written text = .ok (.obj raw, behind) := by
    rw [Json.beginning?, StateT.run] at began
    cases ran : written text with
    | error error =>
        rw [ran] at began
        cases began
    | ok done =>
        rw [ran] at began
        exact congrArg Except.ok (Option.some.inj began)
  rw [names raw behind written] at distinct
  have found := find?_ofMembers distinct made
  have type : find? "type" gathered = find? "type" members := by
    rw [found]
    exact (find?_of_perm gathered.reverse_perm distinct "type").symm
  rcases outcome with ⟨tag, others, taken, named, rfl⟩ | ⟨⟨error, refused⟩, untyped⟩
  · refine Or.inl ⟨tag, type ▸ named, _, ?_, ?_, parse_of_reader taken ended⟩
    · rw [← List.filter_reverse]
      exact distinct.sublist (List.filter_sublist.map _)
    · intro name other
      rw [← List.filter_reverse, find?_filter other, found]
  · refine Or.inr ⟨⟨_, parse_of_refused refused⟩, fun tag named => ?_⟩
    rw [← type] at named
    rcases untyped with none | twice | ⟨value, listed, unknown⟩
    · rw [none] at named
      cases named
    · rw [List.map_reverse, List.nodup_reverse] at distinct
      exact twice distinct
    · rw [List.map_reverse, List.nodup_reverse] at distinct
      have same := List.inj_on_of_nodup_map distinct listed (mem_of_find? named) rfl
      exact unknown tag (congrArg Prod.snd same)

theorem Carries.recoverId {text : List Char} {members : List (String × Json)}
    (carries : Carries text members) {n : Nat} (identified : find? "id" members = some (.int n))
    (fits : n < Word.size 64) : recoverId text = some n := by
  have within : (0 : Int) ≤ n ∧ (n : Int) < Word.size 64 := by omega
  rw [Message.recoverId, carries.read]
  change (find? "id" members >>= Json.word64?) = some n
  rw [identified, Option.bind_eq_bind, Option.bind_some, Json.word64?, if_pos within,
    Int.toNat_natCast]

/-- How a job ends by a line that carries its identifier.  The cases exclude
each other, except that the wording of a complaint is left open. -/
inductive Answers (members : List (String × Json)) : Outcome → Prop
  | result (typed : find? "type" members = some (.str "result")) :
      Answers members (.ok ((find? "result" members).getD .null))
  | rejected {text : String} (typed : find? "type" members = some (.str "error"))
      (said : find? "message" members = some (.str text)) :
      Answers members (.error (.rejected text))
  /-- The line is neither a result nor an error that says why. -/
  | garbled (reason : String) (noResult : find? "type" members ≠ some (.str "result"))
      (noError : find? "type" members = some (.str "error") →
        ∀ text, find? "message" members ≠ some (.str text)) :
      Answers members (.error (.garbled reason))

end Message

namespace CompilerEvent

open Message

theorem isEmpty_trim_iff (line : List Char) :
    (Text.trim line).isEmpty = true ↔ ∀ c ∈ line, Text.isBlank c = true := by
  rw [List.isEmpty_iff, Text.trim, Text.trimEnd, List.reverse_eq_nil_iff,
    List.dropWhile_eq_nil_iff]
  constructor
  · intro blank c listed
    rw [← @List.takeWhile_append_dropWhile _ Text.isBlank line] at listed
    rcases List.mem_append.mp listed with ahead | behind
    · exact List.mem_takeWhile_imp ahead
    · exact blank c (List.mem_reverse.mpr behind)
  · intro blank c listed
    exact blank c ((List.dropWhile_sublist _).subset (List.mem_reverse.mp listed))

theorem ofLine_of_ok {line : List Char} {message : Message}
    (visible : (Text.trim line).isEmpty = false)
    (parsed : Message.parse (Text.trim line) = .ok message) :
    ofLine line = some message.toEvent := by
  simp only [ofLine, visible, Bool.false_eq_true, if_false, parsed]

theorem ofLine_of_error {line : List Char} {reason : String} {n : Nat}
    (visible : (Text.trim line).isEmpty = false)
    (failed : Message.parse (Text.trim line) = .error reason)
    (recovered : recoverId (Text.trim line) = some n) :
    ofLine line = some (.response n (.error (.garbled reason))) := by
  simp only [ofLine, visible, Bool.false_eq_true, if_false, failed, recovered]

/-- What a line that carries an identifier can be.  Which of the fields applies
is decided by the type that the line gives, also where that type is none or
unknown. -/
structure Attributed (line : List Char) : Prop where
  /-- An announcement is no reply, even if it has an identifier. -/
  ready : ∀ members (n : Nat), Carries (Text.trim line) members →
    find? "id" members = some (.int n) → n < Word.size 64 →
      find? "type" members = some (.str "ready") → ofLine line = some .ready
  /-- Neither is a notification that names its method. -/
  notification : ∀ members (n : Nat) method, Carries (Text.trim line) members →
    find? "id" members = some (.int n) → n < Word.size 64 →
      find? "type" members = some (.str "notification") →
        find? "method" members = some (.str method) → ofLine line =
          some (.notification (.ofCompiler method ((find? "params" members).getD .null)))
  /-- Every other line ends the job of that identifier, and no other job. -/
  response : ∀ members (n : Nat), Carries (Text.trim line) members →
    find? "id" members = some (.int n) → n < Word.size 64 →
      find? "type" members ≠ some (.str "ready") →
        (find? "type" members = some (.str "notification") →
          ∀ method, find? "method" members ≠ some (.str method)) →
            ∃ outcome, ofLine line = some (.response n outcome) ∧ Answers members outcome
  /-- Nothing is told of blank lines, and something of all others. -/
  blank : ofLine line = none ↔ ∀ c ∈ line, Text.isBlank c = true
  /-- No line says that the compiler has ended. -/
  running : ofLine line ≠ some .exited

theorem visible_of_carries {line : List Char} {members : List (String × Json)}
    (carries : Carries (Text.trim line) members) : (Text.trim line).isEmpty = false := by
  have read := carries.read
  cases text : Text.trim line with
  | cons => rfl
  | nil =>
      rw [text] at read
      cases read

theorem mapError_eq_ok {made : Except DecodeError Message} {message : Message}
    (same : made = .ok message) : made.mapError DecodeError.message = .ok message := by
  rw [same]
  rfl

/-- A message that is not made of its parts is complained of. -/
theorem mapError_eq_error {made : Except DecodeError Message}
    (none : ∀ message, made ≠ .ok message) :
    ∃ reason, made.mapError DecodeError.message = .error reason := by
  cases made with
  | error complaint => exact ⟨_, rfl⟩
  | ok message => exact absurd rfl (none message)

section

variable {line : List Char} {tag : Tag} {own : List (String × Json)}

/-- A message that is complete is what the line tells. -/
theorem ofLine_of_filled (visible : (Text.trim line).isEmpty = false)
    (distinct : (own.map Prod.fst).Nodup)
    (parsed : Message.parse (Text.trim line) =
      (ofTagged (.members tag own)).mapError DecodeError.message)
    {message : Message} (filled : (form tag).ofMembers (find? · own) = .ok message) :
    ofLine line = some message.toEvent :=
  ofLine_of_ok visible
    (parsed.trans (mapError_eq_ok ((ofTagged_eq_ok_iff distinct message).mpr filled)))

/-- A message that is not complete is given up, and then the identifier is
looked up. -/
theorem ofLine_of_incomplete (visible : (Text.trim line).isEmpty = false)
    (distinct : (own.map Prod.fst).Nodup)
    (parsed : Message.parse (Text.trim line) =
      (ofTagged (.members tag own)).mapError DecodeError.message)
    {n : Nat} (recovered : recoverId (Text.trim line) = some n)
    (none : ∀ message, (form tag).ofMembers (find? · own) ≠ .ok message) :
    ∃ reason, ofLine line = some (.response n (.error (.garbled reason))) := by
  rcases mapError_eq_error fun message made =>
    none message ((ofTagged_eq_ok_iff distinct message).mp made) with ⟨reason, failed⟩
  exact ⟨reason, ofLine_of_error visible (parsed.trans failed) recovered⟩

end

/-- A result that is written plainly ends the job that it names. -/
theorem ofLine_result {n : Nat} (fits : n < Word.size 64) {value : Json}
    (legible : Legible 126 value) :
    ofLine (text (.obj [("id", .int n), ("result", value), ("type", .str "result")])) =
      some (.response n (.ok value)) := by
  let members := [("id", Json.int n), ("result", value), ("type", .str "result")]
  let line := text (.obj members)
  have whole : Legible depthLimit (.obj members) := by
    have ordered : ["id", "result", "type"].Pairwise (· < ·) := by decide
    refine @legible_obj 126 members (fun member listed => ?_) ordered
    simp only [members, List.mem_cons, List.not_mem_nil, or_false] at listed
    rcases listed with rfl | rfl | rfl
    · exact legible_int 126 (by omega) (by omega)
    · exact legible
    · exact legible_str 126 "result"
  have trimmed : Text.trim line = line := by
    have around := @Text.trim_around [] line [] nofun nofun '\x7b' '\x7d'
      (membersText members ++ ['\x7d']) ('\x7b' :: membersText members) rfl rfl rfl rfl
    rwa [List.nil_append, List.append_nil] at around
  have carries : Carries (Text.trim line) members := by
    rw [trimmed]
    have distinct : ["id", "result", "type"].Nodup := by decide
    exact carries_of_spells (spells_text _ whole.exact) whole.shallow distinct whole.ordered
  have typed : find? "type" members = some (.str Tag.result.name) := rfl
  rcases carries.parse_cases with ⟨tag, named, own, distinct, found, parsed⟩ | ⟨_, untyped⟩
  · cases Tag.eq_of_named .result named typed
    have filled := @form_result (find? · own) n (found "id" (by decide)) fits
    rw [show find? "result" own = some value from found "result" (by decide)] at filled
    exact ofLine_of_filled (visible_of_carries carries) distinct parsed filled
  · exact absurd typed (untyped .result)

/-- A line is blank, or it tells one thing, which is not the end. -/
theorem told_cases (line : List Char) :
    ((Text.trim line).isEmpty = true ∧ ofLine line = none) ∨
      (Text.trim line).isEmpty = false ∧ ∃ event, ofLine line = some event ∧ event ≠ .exited := by
  cases visible : (Text.trim line).isEmpty with
  | true =>
      refine Or.inl ⟨rfl, ?_⟩
      simp only [ofLine, visible, if_true]
  | false =>
      refine Or.inr ⟨rfl, ?_⟩
      cases parsed : Message.parse (Text.trim line) with
      | ok message =>
          refine ⟨_, ofLine_of_ok visible parsed, ?_⟩
          cases message <;> exact CompilerEvent.noConfusion
      | error reason =>
          cases recovered : recoverId (Text.trim line) with
          | some n =>
              exact ⟨_, ofLine_of_error visible parsed recovered, CompilerEvent.noConfusion⟩
          | none =>
              refine ⟨.unmatched reason, ?_, CompilerEvent.noConfusion⟩
              simp only [ofLine, visible, Bool.false_eq_true, if_false, parsed, recovered]

/-- Whatever is wrong with a line, it concerns the job that it identifies. -/
theorem attributed (line : List Char) : Attributed line where
  ready := by
    intro members n carries _ _ typed
    rcases carries.parse_cases with ⟨tag, named, own, distinct, _, parsed⟩ | ⟨_, untyped⟩
    · cases Tag.eq_of_named .ready named typed
      exact ofLine_of_filled (visible_of_carries carries) distinct parsed rfl
    · exact absurd typed (untyped .ready)
  notification := by
    intro members n method carries _ _ typed said
    rcases carries.parse_cases with ⟨tag, named, own, distinct, found, parsed⟩ | ⟨_, untyped⟩
    · cases Tag.eq_of_named .notification named typed
      have filled := (@form_notification_iff (find? · own) _).mpr
        ⟨method, (found "method" (by decide)).trans said, rfl⟩
      rw [ofLine_of_filled (visible_of_carries carries) distinct parsed filled,
        found "params" (by decide)]
      rfl
    · exact absurd typed (untyped .notification)
  response := by
    intro members n carries identified fits noReady noNotification
    have recovered := carries.recoverId identified fits
    have visible := visible_of_carries carries
    rcases carries.parse_cases with
      ⟨tag, named, own, distinct, found, parsed⟩ | ⟨⟨reason, failed⟩, untyped⟩
    · have identified := (found "id" (by decide)).trans identified
      cases tag with
      | ready => exact absurd named noReady
      | result =>
          have filled := @form_result (find? · own) n identified fits
          refine ⟨_, ofLine_of_filled visible distinct parsed filled, ?_⟩
          rw [found "result" (by decide)]
          exact .result named
      | error =>
          have noResult : find? "type" members ≠ some (.str "result") := by
            intro typed
            cases Tag.eq_of_named .result named typed
          by_cases said : ∃ text, find? "message" members = some (.str text)
          · rcases said with ⟨text, said⟩
            have filled := (@form_error_iff (find? · own) n identified fits _).mpr
              ⟨text, (found "message" (by decide)).trans said, rfl⟩
            exact ⟨_, ofLine_of_filled visible distinct parsed filled, .rejected named said⟩
          · have none : ∀ message, (form .error).ofMembers (find? · own) ≠ .ok message := by
              intro message filled
              rcases (form_error_iff identified fits message).mp filled with ⟨text, given, _⟩
              exact said ⟨text, (found "message" (by decide)).symm.trans given⟩
            rcases ofLine_of_incomplete visible distinct parsed recovered none with ⟨reason, told⟩
            exact ⟨_, told, .garbled reason noResult fun _ text given => said ⟨text, given⟩⟩
      | notification =>
          have none : ∀ message, (form .notification).ofMembers (find? · own) ≠ .ok message := by
            intro message filled
            rcases (form_notification_iff message).mp filled with ⟨method, given, _⟩
            exact noNotification named method ((found "method" (by decide)).symm.trans given)
          rcases ofLine_of_incomplete visible distinct parsed recovered none with ⟨reason, told⟩
          refine ⟨_, told, .garbled reason (fun typed => ?_) fun typed => ?_⟩
          · cases Tag.eq_of_named .result named typed
          · cases Tag.eq_of_named .error named typed
    · exact ⟨_, ofLine_of_error visible failed recovered,
        .garbled reason (untyped .result) fun typed => absurd typed (untyped .error)⟩
  blank := by
    rw [← isEmpty_trim_iff]
    rcases told_cases line with ⟨blank, none⟩ | ⟨visible, event, told, _⟩
    · exact ⟨fun _ => blank, fun _ => none⟩
    · rw [told, visible]
      simp only [reduceCtorEq]
  running := by
    rcases told_cases line with ⟨_, none⟩ | ⟨_, event, told, alive⟩
    · rw [none]
      exact (Option.some_ne_none _).symm
    · rw [told]
      exact fun same => alive (Option.some.inj same)

/-- An error whose message is no text fails the job that it names. -/
theorem attributed_of_unread_error :
    let members := [("id", Json.int 7), ("message", .int 5), ("type", .str "error")]
    let line := ' ' :: text (.obj members) ++ ['\r']
    Attributed line ∧ ∃ reason, ofLine line = some (.response 7 (.error (.garbled reason))) := by
  intro members line
  have legible : Legible depthLimit (.obj members) := by
    refine @legible_obj 126 members (fun member listed => ?_) (by decide)
    rcases List.mem_cons.mp listed with rfl | listed
    · exact legible_int 126 (by decide) (by decide)
    · rcases List.mem_cons.mp listed with rfl | listed
      · exact legible_int 126 (by decide) (by decide)
      · rw [List.mem_singleton.mp listed]
        exact legible_str 126 "error"
  have trimmed : Text.trim line = text (.obj members) := by decide
  have carries : Carries (Text.trim line) members := by
    rw [trimmed]
    exact carries_of_spells (spells_text _ legible.exact) legible.shallow (by decide)
      legible.ordered
  have typed : find? "type" members = some (.str Tag.error.name) := rfl
  have five : find? "message" members = some (.int 5) := rfl
  have read := attributed line
  rcases read.response members 7 carries rfl (by decide)
    (fun ready => Tag.noConfusion (Tag.eq_of_named .ready typed ready))
    (fun named => Tag.noConfusion (Tag.eq_of_named .notification typed named)) with
    ⟨outcome, told, answers⟩
  refine ⟨read, ?_⟩
  cases answers with
  | garbled reason => exact ⟨reason, told⟩
  | result named => cases Tag.eq_of_named .result typed named
  | rejected _ said => cases five.symm.trans said

end CompilerEvent
end CompilerRelay
