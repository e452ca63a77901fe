import CompilerRelay.Message
import CompilerRelay.Proofs.Json.Form
import CompilerRelay.Proofs.Json.Held

/-!
# Reading back the messages of a compiler

A message is an object with a member for its type and a member for each of its
parts.  Its members may be written in any order, so the type may come after
the parts it gives a meaning to, and members of other names may stand between
them.  `Message.Renders` says which texts write a message, by means of the
grammar of values alone.

Whatever the order, what is gathered is the type and the remaining members.
The parts are found among these by their names, and the others are passed over
(`Message.ofTagged_of_tells`).  A line is such a text with blanks around it.
-/

namespace CompilerRelay

open Reader Json

/-! ## Blanks around a line -/

namespace Text

/-- Trimming takes the blanks at both ends and no more. -/
theorem trim_around {before text after : List Char} (blank : ∀ c ∈ before, isBlank c = true)
    (blank' : ∀ c ∈ after, isBlank c = true) {first last : Char} {more others : List Char}
    (opening : text = first :: more) (closing : text = others ++ [last])
    (opens : isBlank first = false) (closes : isBlank last = false) :
    trim (before ++ text ++ after) = text := by
  have start : (before ++ text ++ after).dropWhile isBlank = text ++ after := by
    rw [List.append_assoc, List.dropWhile_append_of_pos blank, opening, List.cons_append,
      List.dropWhile_cons_of_neg (Bool.eq_false_iff.mp opens)]
  have reversed : ∀ c ∈ after.reverse, isBlank c = true :=
    fun c listed => blank' c (List.mem_reverse.mp listed)
  rw [trim, start, trimEnd, List.reverse_append, List.dropWhile_append_of_pos reversed, closing,
    List.reverse_append, List.reverse_singleton, List.singleton_append,
    List.dropWhile_cons_of_neg (Bool.eq_false_iff.mp closes), List.reverse_cons,
    List.reverse_reverse]

end Text

namespace Message

/-! ## The texts of a message -/

def tag : Message → Tag
  | ready => .ready
  | result _ _ => .result
  | error _ _ => .error
  | notification _ _ => .notification

/-- The names of the parts that a message of each type has. -/
def Tag.names : Tag → List String
  | ready => []
  | result => ["id", "result"]
  | error => ["id", "message"]
  | notification => ["method", "params"]

/-- The members that give the parts of a message.  A result and parameters
that are null may be left out. -/
inductive Tells : Message → List (String × Json) → Prop
  | ready : Tells ready []
  | result {id : Nat} (fits : id < Word.size 64) (value : Json) :
      Tells (result id value) [("id", .int id), ("result", value)]
  | noResult {id : Nat} (fits : id < Word.size 64) : Tells (result id .null) [("id", .int id)]
  | error {id : Nat} (fits : id < Word.size 64) (text : String) :
      Tells (error id text) [("id", .int id), ("message", .str text)]
  | notification (method : String) (params : Json) :
      Tells (notification method params) [("method", .str method), ("params", params)]
  | noParams (method : String) : Tells (notification method .null) [("method", .str method)]

/-- The text writes the message as an object: its type, the members that give
its parts, and any members of other names. -/
inductive Renders (message : Message) : List Char → Prop
  | intro {own others : List (String × Json)} {written : Json} {text : List Char}
      (tells : message.Tells own) (held : MembersHeld own)
      (others_names : ∀ other ∈ others, other.1 ≠ "type" ∧ other.1 ∉ message.tag.names)
      (arranges : Arranges (.obj (("type", .str message.tag.name) :: (own ++ others))) written)
      (shallow : nesting written ≤ depthLimit) (spells : Spells written text) :
      Renders message text

/-! ## Gathering the members -/

namespace Tagged

/-- A member that is not the type is kept. -/
theorem reads_gather {content : Json} {text gap gap' : List Char} (gathered : Gathered)
    {name : String} (other : name ≠ "type") (blank : Gap gap)
    (reads : Reads (Reader.value (depthLimit - 1)) content (gap' ++ text)) :
    Reads (gather gathered name) (gathered.1, (name, content) :: gathered.2)
      (gap ++ ':' :: (gap' ++ text)) := by
  intro rest ends
  rw [List.append_assoc, List.cons_append, gather, if_neg other, bind_of_ok (colon_gap blank _),
    bind_of_ok (reads rest ends)]
  rfl

theorem reads_gather_type {text gap gap' : List Char} (others : List (String × Json)) (tag : Tag)
    (blank : Gap gap) (blank' : Gap gap') (quotes : Quotes tag.name text) :
    Reads (gather (none, others) "type") (some tag, others) (gap ++ ':' :: (gap' ++ text)) := by
  intro rest _
  have known : Tag.ofName tag.name = .ok tag := by cases tag <;> rfl
  rcases string_of_quotes quotes rest with ⟨body, opening, read⟩
  have named : Tagged.tag (gap' ++ text ++ rest) = .ok (tag, rest) := by
    rw [List.append_assoc, opening, Tagged.tag, bind_of_ok (peekToken_gap blank' (by decide) _)]
    simp only []
    rw [bind_of_ok (skip_cons '"' _), bind_of_ok read, known]
    rfl
  rw [List.append_assoc, List.cons_append, gather, if_pos rfl]
  simp only []
  rw [bind_of_ok (colon_gap blank _), bind_of_ok named]
  rfl

theorem gathers_others : ∀ {members : List (String × Json)} {parts : List (List Char)}
    (gathered : Gathered), (∀ member ∈ members, member.1 ≠ "type") →
      membersNesting members ≤ depthLimit - 1 → SpellsMembers members parts →
        Gathers gather gathered parts
          (gathered.1, (remadeMembers ofMembers members).reverse ++ gathered.2)
  | [], _, gathered, _, _, spells => by
      rw [spells]
      exact .nil gathered
  | (name, value) :: rest, _, gathered, unnamed, shallow,
      ⟨title, gap, gap', written, others, quotes, blank, blank', here, later, shape⟩ => by
      have read := @reads_of_spells ofMembers value _ _ (Nat.le_trans (Nat.le_max_left _ _) shallow)
        here
      have first := reads_gather gathered (unnamed _ List.mem_cons_self) blank
        (read.behind_gap blank')
      have behind := gathers_others (gathered.1, (name, remade ofMembers value) :: gathered.2)
        (fun member listed => unnamed member (List.mem_cons_of_mem _ listed))
        (Nat.le_trans (Nat.le_max_right _ _) shallow) later
      rw [shape, remadeMembers, List.reverse_cons, List.append_assoc]
      exact .cons quotes first behind

/-- Wherever the type stands, it is gathered with the other members. -/
theorem gathers_members {tag : Tag} : ∀ {members : List (String × Json)}
    {parts : List (List Char)} (others : List (String × Json)),
    (members.filter fun member => member.1 = "type") = [("type", .str tag.name)] →
      membersNesting members ≤ depthLimit - 1 → SpellsMembers members parts →
        Gathers gather (none, others) parts (some tag,
          (remadeMembers ofMembers (members.filter fun member => member.1 ≠ "type")).reverse
            ++ others)
  | [], _, _, types, _, _ => nomatch types
  | (name, value) :: rest, _, others, types, shallow,
      ⟨title, gap, gap', written, parts, quotes, blank, blank', here, later, shape⟩ => by
      have deeper := Nat.le_trans (Nat.le_max_right _ _) shallow
      by_cases typed : name = "type"
      · subst typed
        rw [List.filter_cons_of_pos (by rfl)] at types
        have named : value = .str tag.name := congrArg Prod.snd (List.cons.inj types).1
        subst named
        -- The type is not given a second time, so the rest is kept as it is.
        have unnamed : ∀ member ∈ rest, member.1 ≠ "type" := by
          intro member listed same
          refine List.filter_eq_nil_iff.mp (List.cons.inj types).2 member listed ?_
          exact decide_eq_true same
        have kept : (rest.filter fun member => member.1 ≠ "type") = rest :=
          List.filter_eq_self.mpr fun member listed => decide_eq_true (unnamed member listed)
        rw [List.filter_cons_of_neg (by simp), kept, shape]
        exact .cons quotes (reads_gather_type others tag blank blank' here)
          (gathers_others (some tag, others) unnamed deeper later)
      · rw [List.filter_cons_of_neg (by simpa using typed)] at types
        have read := @reads_of_spells ofMembers value _ _
          (Nat.le_trans (Nat.le_max_left _ _) shallow) here
        have behind := gathers_members ((name, remade ofMembers value) :: others) types deeper later
        rw [List.filter_cons_of_pos (by simpa using typed), shape, remadeMembers,
          List.reverse_cons, List.append_assoc]
        exact .cons quotes (reads_gather (none, others) typed blank (read.behind_gap blank')) behind

/-- A message is read up to its last character. -/
theorem reader_of_spells {members : List (String × Json)} {tag : Tag} {text : List Char}
    (types : (members.filter fun member => member.1 = "type") = [("type", .str tag.name)])
    (shallow : nesting (.obj members) ≤ depthLimit) (spells : Spells (.obj members) text) :
    Tagged.reader text = .ok (Tagged.members tag
      (remadeMembers ofMembers (members.filter fun member => member.1 ≠ "type")), []) := by
  rcases spells with ⟨parts, inner, spelled, enclosed, rfl⟩
  have gathers := gathers_members [] types (Nat.le_sub_one_of_lt shallow) spelled
  have gathered := members_enclosed enclosed gathers []
  rw [List.append_nil] at gathered
  rw [reader, bind_of_ok (peekToken_cons (by decide) _)]
  simp only []
  rw [bind_of_ok (skip_cons _ _), ofObject, bind_of_ok gathered]
  simp only [List.reverse_reverse]
  rw [bind_of_ok (skip_cons _ _)]
  rfl

end Tagged

/-! ## The parts among the members -/

/-- Members of one name are no fields of the form.  So a name may be given twice
as long as nobody looks for it. -/
def Apart (form : Form Message) (first second : String × Json) : Prop :=
  first.1 = second.1 → form.fields.lookup first.1 = none

/-- Nothing is wrong with fields that are given once and can be read. -/
theorem complaint?_eq_none {form : Form Message} {seen : List String}
    {members : List (String × Json)} (apart : members.Pairwise (Apart form))
    (unseen : ∀ member ∈ members, ∀ check, form.fields.lookup member.1 = some check →
      member.1 ∉ seen ∧ check member.2 = none) : complaint? form seen members = none := by
  induction members generalizing seen with
  | nil => rfl
  | cons member rest inductionHypothesis =>
      rcases member with ⟨name, value⟩
      rcases List.pairwise_cons.mp apart with ⟨distinct, others⟩
      cases found : form.fields.lookup name with
      | none =>
          simp only [complaint?, found]
          exact inductionHypothesis others fun member listed =>
            unseen member (List.mem_cons_of_mem _ listed)
      | some check =>
          rcases unseen (name, value) List.mem_cons_self check found with ⟨new, read⟩
          have later : complaint? form (name :: seen) rest = none := by
            refine inductionHypothesis others fun member listed check' found' => ?_
            rcases unseen member (List.mem_cons_of_mem _ listed) check' found' with ⟨new', read'⟩
            refine ⟨fun listed' => ?_, read'⟩
            rcases List.mem_cons.mp listed' with same | earlier
            · have unknown := distinct member listed same.symm
              rw [found] at unknown
              cases unknown
            · exact new' earlier
          have fresh : seen.contains name = false := by
            rw [List.contains_eq_mem]
            exact decide_eq_false new
          simp only [complaint?, found, fresh, read, later, Bool.false_eq_true, if_false]

theorem word64_natCast {n : Nat} (fits : n < Word.size 64) :
    Decoder.word64 (.int n) = .ok n := by
  have within : (0 : Int) ≤ n ∧ (n : Int) ≤ (Word.size 64 : Nat) - 1 := by omega
  rw [Decoder.word64, Decoder.natural, Decoder.integer, if_pos within]
  rfl

theorem form_sound (tag : Tag) : (form tag).Sound := by
  cases tag with
  | ready => exact Form.sound_pure _
  | result => exact ((Form.sound_pure _).and (Form.sound_field _ _ _)).and (Form.sound_field _ _ _)
  | error => exact ((Form.sound_pure _).and (Form.sound_field _ _ _)).and (Form.sound_field _ _ _)
  | notification =>
      exact ((Form.sound_pure _).and (Form.sound_field _ _ _)).and (Form.sound_field _ _ _)

theorem form_names (tag : Tag) : (form tag).fields.map Prod.fst = tag.names := by
  cases tag <;> rfl

/-- Other names are no fields. -/
theorem lookup_eq_none {tag : Tag} {name : String} (other : name ∉ tag.names) :
    (form tag).fields.lookup name = none := by
  refine List.lookup_eq_none_iff.mpr fun field listed => bne_iff_ne.mpr ?_
  rintro rfl
  refine other ?_
  rw [← form_names]
  exact List.mem_map_of_mem listed

/-- A message is made of the parts that tell it. -/
theorem fills {message : Message} {own : List (String × Json)} (tells : message.Tells own)
    {find : String → Option Json} (given : ∀ part ∈ own, find part.1 = some part.2)
    (missing : ∀ name ∈ message.tag.names, name ∉ own.map Prod.fst → find name = none) :
    (form message.tag).ofMembers find = .ok message := by
  cases tells with
  | ready => rfl
  | result fits value =>
      have id := given _ List.mem_cons_self
      have result := given _ (List.mem_cons_of_mem _ List.mem_cons_self)
      exact Form.ofMembers_and
        (Form.ofMembers_and rfl ((Form.ofMembers_field id).trans (word64_natCast fits)))
        (Form.ofMembers_field result)
  | noResult fits =>
      have id := given _ List.mem_cons_self
      have result := missing "result" (show "result" ∈ ["id", "result"] by decide)
        (show "result" ∉ ["id"] by decide)
      exact Form.ofMembers_and
        (Form.ofMembers_and rfl ((Form.ofMembers_field id).trans (word64_natCast fits)))
        (Form.ofMembers_absent result rfl)
  | error fits text =>
      have id := given _ List.mem_cons_self
      have text := given _ (List.mem_cons_of_mem _ List.mem_cons_self)
      exact Form.ofMembers_and
        (Form.ofMembers_and rfl ((Form.ofMembers_field id).trans (word64_natCast fits)))
        (Form.ofMembers_field text)
  | notification method params =>
      have method := given _ List.mem_cons_self
      have params := given _ (List.mem_cons_of_mem _ List.mem_cons_self)
      exact Form.ofMembers_and (Form.ofMembers_and rfl (Form.ofMembers_field method))
        (Form.ofMembers_field params)
  | noParams method =>
      have method := given _ List.mem_cons_self
      have params := missing "params" (show "params" ∈ ["method", "params"] by decide)
        (show "params" ∉ ["method"] by decide)
      exact Form.ofMembers_and (Form.ofMembers_and rfl (Form.ofMembers_field method))
        (Form.ofMembers_absent params rfl)

theorem Tells.names {message : Message} {own : List (String × Json)} (tells : message.Tells own) :
    (own.map Prod.fst).Sublist message.tag.names := by
  cases tells with
  | ready => exact List.Sublist.refl _
  | result => exact List.Sublist.refl _
  | noResult => exact (List.nil_sublist _).cons_cons _
  | error => exact List.Sublist.refl _
  | notification => exact List.Sublist.refl _
  | noParams => exact (List.nil_sublist _).cons_cons _

theorem Tells.unnamed {message : Message} {own : List (String × Json)} (tells : message.Tells own) :
    ∀ part ∈ own, part.1 ≠ "type" := by
  intro part listed typed
  have field := tells.names.subset (List.mem_map_of_mem listed)
  rw [typed] at field
  revert field
  cases message.tag <;> decide

theorem Tag.names_nodup (tag : Tag) : tag.names.Nodup := by
  cases tag <;> decide

/-- The parts of a message are found among other members, in any order. -/
theorem ofTagged_of_tells {message : Message} {own others members : List (String × Json)}
    (tells : message.Tells own) (others_names : ∀ other ∈ others, other.1 ∉ message.tag.names)
    (same : members.Perm (own ++ others)) :
    ofTagged (.members message.tag members) = .ok message := by
  have own_names : ∀ part ∈ own, part.1 ∈ message.tag.names :=
    fun part listed => tells.names.subset (List.mem_map_of_mem listed)
  have distinct : (own.map Prod.fst).Nodup := tells.names.nodup message.tag.names_nodup
  have named : ∀ member ∈ members, member.1 ∈ message.tag.names → member ∈ own := by
    intro member listed field
    rcases List.mem_append.mp (same.mem_iff.mp listed) with here | there
    · exact here
    · exact absurd field (others_names member there)
  have found : ∀ part ∈ own, find? part.1 members = some part.2 := by
    rintro ⟨name, value⟩ listed
    refine find?_of_mem (same.mem_iff.mpr (List.mem_append_left _ listed)) fun other listed' => ?_
    have part := named _ listed' (own_names (name, value) listed)
    exact congrArg Prod.snd (List.inj_on_of_nodup_map distinct part listed rfl)
  have filled : (form message.tag).ofMembers (find? · members) = .ok message := by
    refine fills tells found fun name field absent => find?_eq_none fun value listed => ?_
    exact absent (List.mem_map_of_mem (named _ listed field))
  -- Parts differ in their names, and other members may not: they are no fields.
  have apart : members.Pairwise (Apart (form message.tag)) := by
    refine (same.pairwise_iff fun first equal => ?_).mpr ?_
    · rw [equal]
      exact first equal.symm
    · refine List.pairwise_append.mpr ⟨?_, ?_, ?_⟩
      · exact List.Pairwise.imp (fun differs equal => absurd equal differs)
          (List.pairwise_map.mp distinct)
      · have unknown := fun other listed => lookup_eq_none (others_names other listed)
        exact List.Pairwise.imp_of_mem (fun listed _ _ _ => unknown _ listed)
          (@List.pairwise_of_forall _ (fun _ _ => True) _ fun _ _ => trivial)
      · intro part listed other listed' equal
        rw [equal]
        exact lookup_eq_none (others_names other listed')
  have passed : complaint? (form message.tag) [] members = none := by
    refine complaint?_eq_none apart fun member listed check known => ?_
    refine ⟨List.not_mem_nil, (form_sound _).passes filled known (found member ?_)⟩
    refine named member listed ?_
    rw [← form_names]
    exact List.mem_map_of_mem (Form.mem_of_lookup known)
  rw [ofTagged, passed]
  exact filled

/-! ## Lines -/

theorem filter_type {tag : Tag} {members others : List (String × Json)}
    (same : members.Perm (("type", .str tag.name) :: others))
    (unnamed : ∀ other ∈ others, other.1 ≠ "type") :
    (members.filter fun member => member.1 = "type") = [("type", .str tag.name)] ∧
      (members.filter fun member => member.1 ≠ "type").Perm others := by
  have none : (others.filter fun member => member.1 = "type") = [] :=
    List.filter_eq_nil_iff.mpr fun other listed typed =>
      unnamed other listed (of_decide_eq_true typed)
  have all : (others.filter fun member => member.1 ≠ "type") = others :=
    List.filter_eq_self.mpr fun other listed => decide_eq_true (unnamed other listed)
  have types := same.filter fun member => member.1 = "type"
  have kept := same.filter fun member => member.1 ≠ "type"
  rw [List.filter_cons_of_pos (by rfl), none] at types
  rw [List.filter_cons_of_neg (by simp), all] at kept
  exact ⟨List.perm_singleton.mp types, kept⟩

/-- A text that writes a message is read as the message. -/
theorem parse_of_renders {message : Message} {text : List Char} (renders : message.Renders text) :
    parse text = .ok message := by
  rcases renders with
    @⟨own, others, written, _, tells, held, others_names, arranges, shallow, spells⟩
  rcases arranges with ⟨arranged, members, arranges, same, rfl⟩
  rcases arranges with ⟨_, rest, rfl, arranges, rfl⟩
  rcases arrangesMembers_append arranges with ⟨ownWritten, othersWritten, here, there, rfl⟩
  have others_names := @names_of_arranges (fun name => name ≠ "type" ∧ name ∉ message.tag.names)
    _ _ there others_names
  have unnamed : ∀ other ∈ ownWritten ++ othersWritten, other.1 ≠ "type" := by
    intro other listed
    rcases List.mem_append.mp listed with mine | foreign
    · exact @names_of_arranges (· ≠ "type") _ _ here tells.unnamed other mine
    · exact (others_names other foreign).1
  rcases filter_type same unnamed with ⟨types, kept⟩
  have read := Tagged.reader_of_spells types shallow spells
  have parts : (remadeMembers ofMembers (members.filter fun member => member.1 ≠ "type")).Perm
      (own ++ remadeMembers ofMembers othersWritten) := by
    have sorted := kept.map fun member => (member.1, remade ofMembers member.2)
    rw [List.map_append, ← remadeMembers_eq_map, ← remadeMembers_eq_map, ← remadeMembers_eq_map,
      remadeMembers_of_arranges held here] at sorted
    exact sorted
  have known : ∀ other ∈ remadeMembers ofMembers othersWritten, other.1 ∉ message.tag.names := by
    rw [remadeMembers_eq_map]
    intro other listed
    rcases List.mem_map.mp listed with ⟨before, foreign, rfl⟩
    exact (others_names before foreign).2
  rw [parse, StateT.run, read]
  simp only [Except.mapError, bind, Except.bind]
  rw [ofTagged_of_tells tells known parts]
  rfl

/-- A line that writes a message tells what the message says, whatever blanks
are around it. -/
theorem ofLine_of_renders {message : Message} {text before after : List Char}
    (renders : message.Renders text) (blank : ∀ c ∈ before, Text.isBlank c = true)
    (blank' : ∀ c ∈ after, Text.isBlank c = true) :
    CompilerEvent.ofLine (before ++ text ++ after) = some message.toEvent := by
  have read := parse_of_renders renders
  have trimmed : Text.trim (before ++ text ++ after) = text := by
    rcases renders with @⟨_, _, _, _, _, _, _, arranges, _, spells⟩
    rcases arranges with ⟨_, _, _, _, rfl⟩
    rcases spells with ⟨_, inner, _, _, rfl⟩
    have closing : '\x7b' :: (inner ++ ['\x7d']) = ('\x7b' :: inner) ++ ['\x7d'] := rfl
    exact Text.trim_around blank blank' rfl closing rfl rfl
  have filled : text.isEmpty = false := by
    cases text with
    | nil => cases read
    | cons => rfl
  rw [CompilerEvent.ofLine, trimmed]
  simp only [filled, read]
  rfl

/-- A notification whose type comes between its parts, and whose parameters
hold a character given by a pair of codes. -/
def noted : List Char :=
  "\x7b\"params\":[\"\\ud834\\uDD1e\", -7] ,\"id\":[],\"type\":\"notification\",\"method\":\"note\"\x7d".toList

def noted.params : Json :=
  .arr [.str "𝄞", .int (-7)]

def noted.members : List (String × Json) :=
  [("params", noted.params), ("id", .arr []), ("type", .str "notification"), ("method", .str "note")]

theorem spells_params : Spells noted.params "[\"\\ud834\\uDD1e\", -7]".toList := by
  have high : HexCode 0xD834 ['d', '8', '3', '4'] :=
    @HexCode.digits 13 8 3 4 _ _ _ _ (by decide) (by decide) (by decide) (by decide)
  have low : HexCode 0xDD1E ['D', 'D', '1', 'e'] :=
    @HexCode.digits 13 13 1 14 _ _ _ _ (by decide) (by decide) (by decide) (by decide)
  have clef : Spells (.str "𝄞") "\"\\ud834\\uDD1e\"".toList :=
    ⟨_, .cons (@Denotes.pair '𝄞' _ _ (by decide) high low) .nil, rfl⟩
  have seven : Spells (.int (-7)) "-7".toList := ⟨by decide, by decide, rfl⟩
  have space : Gap [' '] := fun c listed => List.mem_singleton.mp listed ▸ rfl
  exact ⟨_, _, ⟨_, _, clef, ⟨_, _, seven, rfl, rfl⟩, rfl⟩,
    .some gap_nil (.more gap_nil space (.last gap_nil)), by decide⟩

theorem spells_noted : Spells (.obj noted.members) noted := by
  have space : Gap [' '] := fun c listed => List.mem_singleton.mp listed ▸ rfl
  have empty : Spells (.arr []) "[]".toList := ⟨[], [], rfl, .none gap_nil, rfl⟩
  have type : Spells (.str "notification") _ := quotes_stringText "notification"
  have method : Spells (.str "note") _ := quotes_stringText "note"
  exact ⟨_, _, spellsMembers_tight spells_params (spellsMembers_tight empty
    (spellsMembers_tight type (spellsMembers_tight method rfl))), .some gap_nil (.more space gap_nil
      (row_tight (row_tight (.last gap_nil)))), by decide⟩

theorem renders_noted : (notification "note" noted.params).Renders noted := by
  have params : Arranges noted.params noted.params :=
    ⟨_, ⟨_, _, rfl, ⟨_, _, rfl, rfl, rfl⟩, rfl⟩, rfl⟩
  have empty : Arranges (.arr []) (.arr []) := ⟨_, rfl, rfl⟩
  have arranges : ArrangesMembers (("type", .str "notification") :: ([("method", .str "note"),
      ("params", noted.params)] ++ [("id", .arr [])])) [("type", .str "notification"),
        ("method", .str "note"), ("params", noted.params), ("id", .arr [])] :=
    ⟨_, _, rfl, ⟨_, _, rfl, ⟨_, _, params, ⟨_, _, empty, rfl, rfl⟩, rfl⟩, rfl⟩, rfl⟩
  have same : noted.members.Perm _ :=
    @List.perm_append_comm _ [("params", noted.params), ("id", .arr [])]
      [("type", .str "notification"), ("method", .str "note")]
  exact .intro (.notification "note" noted.params) ⟨trivial, ⟨trivial, trivial, trivial⟩, trivial⟩
    (by decide) ⟨_, _, arranges, same, rfl⟩ (by decide) spells_noted

theorem ofLine_noted : CompilerEvent.ofLine ("\u3000".toList ++ noted ++ "\r\u0085".toList) =
    some (.notification (.relay "note" (.arr [.str "𝄞", .int (-7)]))) :=
  ofLine_of_renders renders_noted (List.all_eq_true.mp (by decide))
    (List.all_eq_true.mp (by decide))

end Message
end CompilerRelay
