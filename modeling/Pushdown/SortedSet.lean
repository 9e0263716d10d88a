namespace Pushdown

/-!
# Sorted sets

A finite set is held as a strictly ascending list, so two sets with the same
members are equal.
-/

/-- A finite set, listed in strictly ascending order. -/
structure SortedSet (α : Type) [Ord α] where
  toList : List α
  ascending : toList.Pairwise fun earlier later => compare earlier later = .lt
deriving DecidableEq

namespace SortedSet

variable {α : Type} [Ord α]

def empty :
    SortedSet α :=
  ⟨[], .nil⟩

instance : Inhabited (SortedSet α) :=
  ⟨empty⟩

instance : Membership α (SortedSet α) :=
  ⟨fun set member => member ∈ set.toList⟩

instance [DecidableEq α] (member : α) (set : SortedSet α) : Decidable (member ∈ set) :=
  inferInstanceAs (Decidable (member ∈ set.toList))

theorem mem_iff_mem_toList
    {member : α}
    {set : SortedSet α} :
    member ∈ set ↔ member ∈ set.toList :=
  Iff.rfl

/-- Puts a member in its place; a member that is there already stays as it is. -/
def insertSorted
    (member : α) :
    List α → List α
  | [] =>
      [member]
  | first :: rest =>
      match compare member first with
      | .lt =>
          member :: first :: rest
      | .eq =>
          first :: rest
      | .gt =>
          first :: insertSorted member rest

/-- Nothing but the new member is added. -/
theorem eq_or_mem_of_mem_insertSorted
    {member other : α}
    {members : List α}
    (found : other ∈ insertSorted member members) :
    other = member ∨ other ∈ members := by
  induction members with
  | nil =>
      simpa [insertSorted] using found
  | cons first rest inductionHypothesis =>
      simp only [insertSorted] at found
      split at found
      · simpa using found
      · exact .inr found
      · rcases List.mem_cons.mp found with rfl | inRest
        · simp
        · rcases inductionHypothesis inRest with rfl | old
          · exact .inl rfl
          · exact .inr (List.mem_cons_of_mem first old)

/-- The new member and all old members are there afterwards. -/
theorem mem_insertSorted
    [Std.LawfulEqOrd α]
    {member other : α}
    {members : List α} :
    other ∈ insertSorted member members ↔ other = member ∨ other ∈ members := by
  refine ⟨eq_or_mem_of_mem_insertSorted, ?_⟩
  intro wanted
  induction members with
  | nil =>
      simpa [insertSorted] using wanted
  | cons first rest inductionHypothesis =>
      simp only [insertSorted]
      split
      · simpa using wanted
      · next same =>
          have equal := Std.LawfulEqOrd.eq_of_compare same
          subst equal
          simpa using wanted
      · rcases wanted with rfl | old
        · exact List.mem_cons_of_mem first (inductionHypothesis (.inl rfl))
        · rcases List.mem_cons.mp old with rfl | inRest
          · simp
          · exact List.mem_cons_of_mem first (inductionHypothesis (.inr inRest))

theorem insertSorted_ascending
    [Std.TransOrd α]
    (member : α)
    {members : List α}
    (ascending : members.Pairwise fun earlier later => compare earlier later = .lt) :
    (insertSorted member members).Pairwise
      fun earlier later => compare earlier later = .lt := by
  induction members with
  | nil =>
      simp [insertSorted]
  | cons first rest inductionHypothesis =>
      obtain ⟨firstLeast, restAscending⟩ := List.pairwise_cons.mp ascending
      simp only [insertSorted]
      split
      · next before =>
          refine List.pairwise_cons.mpr ⟨?_, ascending⟩
          intro other found
          rcases List.mem_cons.mp found with rfl | inRest
          · exact before
          · exact Std.TransCmp.lt_trans before (firstLeast other inRest)
      · exact ascending
      · next after =>
          refine List.pairwise_cons.mpr ⟨?_, inductionHypothesis restAscending⟩
          intro other found
          rcases eq_or_mem_of_mem_insertSorted found with rfl | inRest
          · exact Std.OrientedCmp.lt_of_gt after
          · exact firstLeast other inRest

variable [Std.TransOrd α]

theorem not_lt_self
    {member : α} :
    ¬ compare member member = .lt := by
  simp [Std.ReflCmp.compare_self]

theorem not_lt_of_lt
    {first second : α}
    (before : compare first second = .lt) :
    ¬ compare second first = .lt :=
  Std.OrientedCmp.not_lt_of_lt before

def insert
    (set : SortedSet α)
    (member : α) :
    SortedSet α :=
  ⟨insertSorted member set.toList, insertSorted_ascending member set.ascending⟩

/-- The members of a list in ascending order, repetitions included. -/
def sorted
    (members : List α) :
    List α :=
  members.mergeSort fun first second => (compare first second).isLE

/-- The set of the members of a list; sorting first lets every insertion stop at once. -/
def ofList
    (members : List α) :
    SortedSet α :=
  (sorted members).foldr (fun member set => set.insert member) empty

@[simp]
theorem mem_insert
    [Std.LawfulEqOrd α]
    {set : SortedSet α}
    {member other : α} :
    other ∈ set.insert member ↔ other = member ∨ other ∈ set :=
  mem_insertSorted

@[simp]
theorem mem_ofList
    [Std.LawfulEqOrd α]
    {members : List α}
    {member : α} :
    member ∈ ofList members ↔ member ∈ members := by
  suffices general : ∀ items : List α,
      member ∈ items.foldr (fun item set => set.insert item) empty ↔ member ∈ items by
    rw [ofList, general, sorted, List.mem_mergeSort]
  intro items
  induction items with
  | nil =>
      simp [empty, mem_iff_mem_toList]
  | cons first rest inductionHypothesis =>
      rw [List.foldr_cons, mem_insert, inductionHypothesis, List.mem_cons]

/-- Two ascending lists with the same members are one list. -/
theorem eq_of_ascending
    {first second : List α}
    (firstAscending : first.Pairwise fun earlier later => compare earlier later = .lt)
    (secondAscending : second.Pairwise fun earlier later => compare earlier later = .lt)
    (same : ∀ member, member ∈ first ↔ member ∈ second) :
    first = second := by
  induction first generalizing second with
  | nil =>
      cases second with
      | nil =>
          rfl
      | cons head _ =>
          simpa using same head
  | cons head rest inductionHypothesis =>
      cases second with
      | nil =>
          simpa using same head
      | cons otherHead otherRest =>
          obtain ⟨headLeast, restAscending⟩ := List.pairwise_cons.mp firstAscending
          obtain ⟨otherLeast, otherAscending⟩ := List.pairwise_cons.mp secondAscending
          have headsEqual : head = otherHead := by
            rcases List.mem_cons.mp ((same head).mp List.mem_cons_self) with equal | later
            · exact equal
            · rcases List.mem_cons.mp ((same otherHead).mpr List.mem_cons_self) with
                  equal | otherLater
              · exact equal.symm
              · exact (not_lt_of_lt (otherLeast head later)
                  (headLeast otherHead otherLater)).elim
          subst headsEqual
          rw [inductionHypothesis restAscending otherAscending]
          intro member
          constructor
          · intro inRest
            rcases List.mem_cons.mp ((same member).mp (List.mem_cons_of_mem head inRest)) with
                equal | found
            · exact (not_lt_self (equal ▸ headLeast member inRest)).elim
            · exact found
          · intro inRest
            rcases List.mem_cons.mp ((same member).mpr (List.mem_cons_of_mem head inRest)) with
                equal | found
            · exact (not_lt_self (equal ▸ otherLeast member inRest)).elim
            · exact found

theorem ext_mem
    {first second : SortedSet α}
    (same : ∀ member, member ∈ first ↔ member ∈ second) :
    first = second := by
  have lists := eq_of_ascending first.ascending second.ascending same
  cases first
  cases second
  simpa using lists

end SortedSet

end Pushdown
