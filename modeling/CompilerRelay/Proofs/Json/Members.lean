import CompilerRelay.Json.Value
import Mathlib.Data.List.Nodup

/-!
# The members of an object

Members are found by their names.  The program holds them in the order of
their names, no name twice (`Json.Ascending`), and whatever order they are
gathered in, sorting them gives the same object.
-/

namespace CompilerRelay
namespace Json

/-! ## Members in the order of their names -/

/-- The names ascend, so no two members have one name. -/
def Ascending (members : List (String × Json)) : Prop :=
  (members.map Prod.fst).Pairwise (· < ·)

theorem ascending_cons {name : String} {value : Json} {rest : List (String × Json)} :
    Ascending ((name, value) :: rest) ↔
      (∀ other ∈ rest, name < other.1) ∧ Ascending rest := by
  rw [Ascending, List.map_cons, List.pairwise_cons, List.forall_mem_map]
  rfl

theorem mem_insertMember {name : String} {value : Json} {members : List (String × Json)}
    {member : String × Json} (listed : member ∈ insertMember name value members) :
    member = (name, value) ∨ member ∈ members := by
  induction members with
  | nil => exact Or.inl (List.mem_singleton.mp listed)
  | cons first rest inductionHypothesis =>
      rcases first with ⟨key, old⟩
      unfold insertMember at listed
      split at listed
      · rcases List.mem_cons.mp listed with same | later
        · exact Or.inl same
        · exact Or.inr (List.mem_cons_of_mem _ later)
      · split at listed
        · exact List.mem_cons.mp listed
        · rcases List.mem_cons.mp listed with same | later
          · exact Or.inr (same ▸ List.mem_cons_self)
          · exact (inductionHypothesis later).imp id (List.mem_cons_of_mem _)

theorem ascending_insertMember {members : List (String × Json)} (ascending : Ascending members)
    (name : String) (value : Json) : Ascending (insertMember name value members) := by
  induction members with
  | nil => exact List.pairwise_singleton _ _
  | cons first rest inductionHypothesis =>
      rcases first with ⟨key, old⟩
      rcases ascending_cons.mp ascending with ⟨least, later⟩
      unfold insertMember
      split
      · rename_i same
        subst same
        exact ascending_cons.mpr ⟨least, later⟩
      · rename_i different
        split
        · rename_i smaller
          refine ascending_cons.mpr ⟨?_, ascending⟩
          intro other listed
          rcases List.mem_cons.mp listed with rfl | behind
          · exact smaller
          · exact String.lt_trans smaller (least other behind)
        · rename_i larger
          refine ascending_cons.mpr ⟨?_, inductionHypothesis later⟩
          intro other listed
          rcases mem_insertMember listed with rfl | behind
          · exact Std.lt_of_le_of_ne (String.not_lt.mp larger) (Ne.symm different)
          · exact least other behind

/-- A member that was put in is found, and the others as before. -/
theorem find?_insertMember (other name : String) (value : Json) (members : List (String × Json)) :
    find? other (insertMember name value members) =
      if other = name then some value else find? other members := by
  induction members with
  | nil =>
      simp only [insertMember, find?]
      by_cases same : other = name
      · rw [if_pos same.symm, if_pos same]
      · rw [if_neg (Ne.symm same), if_neg same]
  | cons first rest inductionHypothesis =>
      rcases first with ⟨key, old⟩
      by_cases same : other = name
      · subst same
        unfold insertMember
        rw [if_pos rfl] at inductionHypothesis ⊢
        split
        · rw [find?, if_pos rfl]
        · rename_i different
          split
          · rw [find?, if_pos rfl]
          · rw [find?, if_neg (Ne.symm different), inductionHypothesis]
      · unfold insertMember
        rw [if_neg same] at inductionHypothesis ⊢
        split
        · rename_i replaced
          subst replaced
          rw [find?, if_neg (Ne.symm same), find?, if_neg (Ne.symm same)]
        · split
          · rw [find?, if_neg (Ne.symm same)]
          · rw [find?, inductionHypothesis, find?]

theorem mem_of_find? {name : String} {value : Json} {members : List (String × Json)}
    (found : find? name members = some value) : (name, value) ∈ members := by
  induction members with
  | nil => cases found
  | cons first rest inductionHypothesis =>
      rcases first with ⟨key, old⟩
      by_cases same : key = name
      · rw [find?, if_pos same] at found
        rw [← same, ← Option.some.inj found]
        exact List.mem_cons_self
      · rw [find?, if_neg same] at found
        exact List.mem_cons_of_mem _ (inductionHypothesis found)

/-- The only member of a name is found by it. -/
theorem find?_of_mem {name : String} {value : Json} {members : List (String × Json)}
    (listed : (name, value) ∈ members) (only : ∀ other, (name, other) ∈ members → other = value) :
    find? name members = some value := by
  cases found : find? name members with
  | some other => rw [only other (mem_of_find? found)]
  | none =>
      clear only
      induction members with
      | nil => cases listed
      | cons first rest inductionHypothesis =>
          rcases first with ⟨key, old⟩
          by_cases same : key = name
          · rw [find?, if_pos same] at found
            cases found
          · rw [find?, if_neg same] at found
            rcases List.mem_cons.mp listed with here | behind
            · exact absurd (congrArg Prod.fst here).symm same
            · exact inductionHypothesis behind found

theorem find?_eq_none {name : String} {members : List (String × Json)}
    (unlisted : ∀ value, (name, value) ∉ members) : find? name members = none := by
  cases found : find? name members with
  | none => rfl
  | some value => exact absurd (mem_of_find? found) (unlisted value)

theorem Ascending.nodup {members : List (String × Json)} (ascending : Ascending members) :
    (members.map Prod.fst).Nodup := by
  refine List.Pairwise.imp ?_ ascending
  intro first second less same
  exact String.lt_irrefl second (same ▸ less)

theorem Ascending.find?_of_mem {members : List (String × Json)} (ascending : Ascending members)
    {name : String} {value : Json} (listed : (name, value) ∈ members) :
    find? name members = some value := by
  refine Json.find?_of_mem listed fun other listed' => ?_
  have same := List.inj_on_of_nodup_map ascending.nodup listed' listed rfl
  exact congrArg Prod.snd same

/-! ## Sorting members -/

theorem insertMember_perm {name : String} {value : Json} {members : List (String × Json)}
    (new : name ∉ members.map Prod.fst) :
    (insertMember name value members).Perm ((name, value) :: members) := by
  induction members with
  | nil => exact List.Perm.refl _
  | cons first rest inductionHypothesis =>
      rcases first with ⟨key, old⟩
      rw [List.map_cons, List.mem_cons, not_or] at new
      rcases new with ⟨different, others⟩
      unfold insertMember
      rw [if_neg different]
      split
      · exact List.Perm.refl _
      · exact ((inductionHypothesis others).cons _).trans (List.Perm.swap _ _ _)

theorem foldl_insertMember {members gathered : List (String × Json)}
    (ascending : Ascending gathered) (distinct : ((members ++ gathered).map Prod.fst).Nodup) :
    let sorted := members.foldl
      (fun sorted member => insertMember member.1 member.2 sorted) gathered
    Ascending sorted ∧ sorted.Perm (members ++ gathered) := by
  induction members generalizing gathered with
  | nil => exact ⟨ascending, List.Perm.refl _⟩
  | cons member rest inductionHypothesis =>
      have new : member.1 ∉ gathered.map Prod.fst := by
        intro listed
        refine (List.nodup_cons.mp distinct).1 ?_
        change member.1 ∈ (rest ++ gathered).map Prod.fst
        rw [List.map_append]
        exact List.mem_append_right _ listed
      have inserted := @insertMember_perm member.1 member.2 gathered new
      have moved : (rest ++ insertMember member.1 member.2 gathered).Perm
          (member :: rest ++ gathered) :=
        (inserted.append_left rest).trans List.perm_middle
      have later := inductionHypothesis (ascending_insertMember ascending member.1 member.2)
        ((moved.map Prod.fst).nodup_iff.mpr distinct)
      exact ⟨later.1, later.2.trans moved⟩

/-- Members come out in order, in whatever order they are gathered. -/
theorem ofMembers_of_perm {members others : List (String × Json)} (ascending : Ascending members)
    (same : others.Perm members) : ofMembers others = obj members := by
  have gathered := @foldl_insertMember others [] List.Pairwise.nil (by
    rw [List.append_nil]
    exact (same.map Prod.fst).nodup_iff.mpr ascending.nodup)
  rw [List.append_nil] at gathered
  have asymmetric : ∀ a b : String × Json, a.1 < b.1 → b.1 < a.1 → a = b :=
    fun a b less greater => absurd greater (String.lt_asymm less)
  exact congrArg obj (List.Perm.eq_of_pairwise (fun a b _ _ => asymmetric a b)
    (List.pairwise_map.mp gathered.1) (List.pairwise_map.mp ascending) (gathered.2.trans same))

/-- What is found under a name that differs from all others does not depend on
the order of the members. -/
theorem find?_of_perm {members others : List (String × Json)} (same : members.Perm others)
    (distinct : (members.map Prod.fst).Nodup) (name : String) :
    find? name members = find? name others := by
  cases found : find? name others with
  | some value =>
      refine find?_of_mem (same.mem_iff.mpr (mem_of_find? found)) fun other listed => ?_
      have listed' := same.mem_iff.mpr (mem_of_find? found)
      exact congrArg Prod.snd (List.inj_on_of_nodup_map distinct listed listed' rfl)
  | none =>
      refine find?_eq_none fun value listed => ?_
      have distinct' := (same.map Prod.fst).nodup_iff.mp distinct
      have listed' := same.mem_iff.mp listed
      have present := find?_of_mem listed' fun other twice =>
        congrArg Prod.snd (List.inj_on_of_nodup_map distinct' twice listed' rfl)
      rw [found] at present
      cases present

/-- The members of an object are those it is made of, if their names differ. -/
theorem find?_ofMembers {members made : List (String × Json)}
    (distinct : (members.map Prod.fst).Nodup) (same : ofMembers members = .obj made)
    (name : String) : find? name made = find? name members := by
  have sorted := (@foldl_insertMember members [] List.Pairwise.nil
    (by rw [List.append_nil]; exact distinct)).2
  rw [List.append_nil] at sorted
  cases same
  exact (find?_of_perm sorted.symm distinct name).symm

/-- Members of another name make no difference. -/
theorem find?_filter {name other : String} (different : name ≠ other)
    (members : List (String × Json)) :
    find? name (members.filter fun member => member.1 ≠ other) = find? name members := by
  induction members with
  | nil => rfl
  | cons first rest inductionHypothesis =>
      rcases first with ⟨key, value⟩
      by_cases dropped : key = other
      · rw [List.filter_cons_of_neg (by simpa using dropped), inductionHypothesis, find?,
          if_neg fun same => different (same.symm.trans dropped)]
      · rw [List.filter_cons_of_pos (by simpa using dropped), find?, find?, inductionHypothesis]

end Json
end CompilerRelay
