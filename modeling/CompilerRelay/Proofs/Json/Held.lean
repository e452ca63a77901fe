import CompilerRelay.Proofs.Json.Spelling

/-!
# Values as they are held and as they are written

The program holds the members of every object in the order of their names
(`Json.Held`).  A text may write them in any order, at any depth, and
`Json.Arranges` relates a value to what such a text writes.  A reader that
sorts the members as it goes gives back the value that is held.
-/

namespace CompilerRelay
namespace Json

mutual

/-- The members of every object in the value are in the order of their names,
and no name is there twice. -/
def Held : Json → Prop
  | arr items => ItemsHeld items
  | obj members => Ascending members ∧ MembersHeld members
  | _ => True

def ItemsHeld : List Json → Prop
  | [] => True
  | item :: rest => Held item ∧ ItemsHeld rest

def MembersHeld : List (String × Json) → Prop
  | [] => True
  | (_, value) :: rest => Held value ∧ MembersHeld rest

end

theorem held_of_find? {name : String} {value : Json} {members : List (String × Json)}
    (held : MembersHeld members) (found : find? name members = some value) : value.Held := by
  induction members with
  | nil => cases found
  | cons member rest inductionHypothesis =>
      by_cases same : member.1 = name
      · rw [find?, if_pos same] at found
        exact Option.some.inj found ▸ held.1
      · rw [find?, if_neg same] at found
        exact inductionHypothesis held.2 found

mutual

/-- The second value is the first one, but for the order of the members of its
objects. -/
def Arranges : Json → Json → Prop
  | arr items, written => ∃ others, ArrangesItems items others ∧ written = arr others
  | obj members, written => ∃ arranged others, ArrangesMembers members arranged ∧
      others.Perm arranged ∧ written = obj others
  | value, written => written = value

def ArrangesItems : List Json → List Json → Prop
  | [], others => others = []
  | item :: rest, others => ∃ first later, Arranges item first ∧ ArrangesItems rest later ∧
      others = first :: later

def ArrangesMembers : List (String × Json) → List (String × Json) → Prop
  | [], others => others = []
  | (name, value) :: rest, others => ∃ first later, Arranges value first ∧
      ArrangesMembers rest later ∧ others = (name, first) :: later

end

theorem arrangesMembers_append {first second : List (String × Json)} {others : List (String × Json)}
    (arranges : ArrangesMembers (first ++ second) others) :
    ∃ before after, ArrangesMembers first before ∧ ArrangesMembers second after ∧
      others = before ++ after := by
  induction first generalizing others with
  | nil => exact ⟨[], others, rfl, arranges, rfl⟩
  | cons member rest inductionHypothesis =>
      rcases arranges with ⟨value, later, here, behind, rfl⟩
      rcases inductionHypothesis behind with ⟨before, after, left, right, rfl⟩
      exact ⟨_, after, ⟨value, before, here, left, rfl⟩, right, rfl⟩

/-- Members keep their names. -/
theorem names_of_arranges {p : String → Prop} {members others : List (String × Json)}
    (arranges : ArrangesMembers members others) (all : ∀ member ∈ members, p member.1) :
    ∀ other ∈ others, p other.1 := by
  induction members generalizing others with
  | nil =>
      rw [arranges]
      exact fun _ listed => absurd listed List.not_mem_nil
  | cons member rest inductionHypothesis =>
      rcases arranges with ⟨value, later, _, behind, rfl⟩
      intro other listed
      rcases List.mem_cons.mp listed with rfl | further
      · exact all member List.mem_cons_self
      · exact inductionHypothesis behind (fun member listed => all member
          (List.mem_cons_of_mem _ listed)) other further

theorem remadeMembers_eq_map (object : List (String × Json) → Json)
    (members : List (String × Json)) :
    remadeMembers object members =
      members.map fun member => (member.1, remade object member.2) := by
  induction members with
  | nil => rfl
  | cons member rest inductionHypothesis =>
      rw [remadeMembers, inductionHypothesis, List.map_cons]

mutual

/-- Sorting the members at every depth gives back the value that is held. -/
theorem remade_of_arranges : ∀ {value written : Json}, Held value → Arranges value written →
    remade ofMembers written = value
  | .null, _, _, arranges => by
      rw [arranges]
      rfl
  | .bool _, _, _, arranges => by
      rw [arranges]
      rfl
  | .int _, _, _, arranges => by
      rw [arranges]
      rfl
  | .float _, _, _, arranges => by
      rw [arranges]
      rfl
  | .str _, _, _, arranges => by
      rw [arranges]
      rfl
  | .arr _, _, held, ⟨others, arranges, shape⟩ => by
      rw [shape, remade, remadeItems_of_arranges held arranges]
  | .obj members, _, held, ⟨arranged, others, arranges, same, shape⟩ => by
      have sorted := remadeMembers_of_arranges held.2 arranges
      rw [remadeMembers_eq_map] at sorted
      rw [shape, remade, remadeMembers_eq_map]
      exact ofMembers_of_perm held.1 (sorted ▸ same.map _)

theorem remadeItems_of_arranges : ∀ {items others : List Json}, ItemsHeld items →
    ArrangesItems items others → remadeItems ofMembers others = items
  | [], _, _, arranges => by
      rw [arranges]
      rfl
  | _ :: _, _, held, ⟨first, later, arranges, behind, shape⟩ => by
      rw [shape, remadeItems, remade_of_arranges held.1 arranges,
        remadeItems_of_arranges held.2 behind]

theorem remadeMembers_of_arranges : ∀ {members others : List (String × Json)},
    MembersHeld members → ArrangesMembers members others →
      remadeMembers ofMembers others = members
  | [], _, _, arranges => by
      rw [arranges]
      rfl
  | (_, _) :: _, _, held, ⟨first, later, arranges, behind, shape⟩ => by
      rw [shape, remadeMembers, remade_of_arranges held.1 arranges,
        remadeMembers_of_arranges held.2 behind]

end

end Json
end CompilerRelay
