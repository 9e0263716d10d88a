import Mathlib.Data.List.Forall2
import Mathlib.Data.List.Induction
import Mathlib.Data.List.Nodup
import Pushdown.Proofs.Data.Except

/-!
# Lists

Facts about lists of any items that the library does not have: lists that are read
item by item, lists whose items are related one by one, lists without their
repetitions, and lists that are cut at an item or at separators.
-/

namespace List

/-! ## Item by item -/

section ItemByItem

variable
  {ε α β γ : Type}

/-- A list is read when each of its items is. -/
theorem mapM_eq_ok_iff
    {read : α → Except ε β}
    {items : List α}
    {values : List β} :
    items.mapM read = .ok values ↔
      Forall₂ (fun item value => read item = .ok value) items values := by
  induction items generalizing values with
  | nil => cases values <;> simp [Except.pure_eq_ok_iff]
  | cons item rest inductionHypothesis =>
      simp only [mapM_cons, Except.bind_eq_ok_iff, Except.pure_eq_ok_iff, inductionHypothesis,
        forall₂_cons_left_iff]
      grind

/-- A list that is not read has an item that is not. -/
theorem exists_eq_error_of_mapM
    {read : α → Except ε β}
    {items : List α}
    {fault : ε}
    (failed : items.mapM read = .error fault) :
    ∃ item ∈ items, read item = .error fault := by
  induction items with
  | nil => cases failed
  | cons item rest inductionHypothesis =>
      rw [mapM_cons, Except.bind_eq_error_iff] at failed
      rcases failed with first | ⟨_, _, later⟩
      · exact ⟨item, mem_cons_self, first⟩
      · rw [Except.bind_eq_error_iff] at later
        rcases later with later | ⟨_, _, isPure⟩
        · obtain ⟨faulty, member, isFaulty⟩ := inductionHypothesis later
          exact ⟨faulty, mem_cons_of_mem item member, isFaulty⟩
        · cases isPure

/-- Items that are known to be read one by one are read as nothing else. -/
theorem eq_map_of_forall₂
    {read : α → Except ε β}
    {meaning : α → β}
    {items : List α}
    {values : List β}
    (reads : Forall₂ (fun item value => read item = .ok value) items values)
    (known : ∀ item ∈ items, read item = .ok (meaning item)) :
    values = items.map meaning := by
  induction reads with
  | nil => rfl
  | cons isRead _ inductionHypothesis =>
      rw [forall_mem_cons] at known
      have same := Except.ok.inj (isRead.symm.trans known.1)
      rw [same, inductionHypothesis known.2, map_cons]

variable
  {related : α → β → Prop}
  {items : List α}
  {values : List β}

/-- Items that can be found one by one can be found for a whole list. -/
theorem exists_map_eq_of_forall₂
    {found : α → γ → Prop}
    {image : γ → β}
    (lift : ∀ item value, related item value → ∃ origin, found item origin ∧ image origin = value)
    (both : Forall₂ related items values) :
    ∃ origins, Forall₂ found items origins ∧ origins.map image = values := by
  induction both with
  | nil => exact ⟨[], .nil, rfl⟩
  | cons first _ inductionHypothesis =>
      obtain ⟨origin, isFound, rfl⟩ := lift _ _ first
      obtain ⟨origins, areFound, rfl⟩ := inductionHypothesis
      exact ⟨origin :: origins, .cons isFound areFound, rfl⟩

theorem exists_forall₂_iff :
    (∃ values, Forall₂ related items values) ↔ ∀ item ∈ items, ∃ value, related item value := by
  induction items with
  | nil => simp
  | cons item rest inductionHypothesis =>
      simp [forall₂_cons_left_iff, ← inductionHypothesis]

theorem exists_mem_of_forall₂
    (both : Forall₂ related items values)
    {value : β}
    (isValue : value ∈ values) :
    ∃ item ∈ items, related item value := by
  induction both with
  | nil => cases isValue
  | cons first _ inductionHypothesis =>
      rcases mem_cons.mp isValue with rfl | later
      · exact ⟨_, mem_cons_self, first⟩
      · obtain ⟨item, isItem, isRelated⟩ := inductionHypothesis later
        exact ⟨item, mem_cons_of_mem _ isItem, isRelated⟩

/-- What is kept of the values can be told from the items. -/
theorem filterMap_congr_of_forall₂
    {keepItem : α → Option γ}
    {keepValue : β → Option γ}
    (both : Forall₂ related items values)
    (keepsSame : ∀ {item value}, related item value → keepValue value = keepItem item) :
    values.filterMap keepValue = items.filterMap keepItem := by
  induction both with
  | nil => rfl
  | cons first _ inductionHypothesis =>
      rw [filterMap_cons, filterMap_cons, keepsSame first, inductionHypothesis]

theorem filterMap_eq_of_forall₂
    {read? : α → Option β}
    (reads : Forall₂ (fun item value => read? item = some value) items values) :
    items.filterMap read? = values :=
  (filterMap_congr_of_forall₂ reads Eq.symm).symm.trans filterMap_some

end ItemByItem

/-! ## Repetitions -/

section Repetitions

variable
  {α β : Type}
  [BEq α]
  [LawfulBEq α]
  [BEq β]
  [LawfulBEq β]

theorem eraseDups_append_singleton
    (items : List α)
    (item : α) :
    (items ++ [item]).eraseDups = items.eraseDups ++ if item ∈ items then [] else [item] := by
  rw [eraseDups_append]
  split <;> simp [removeAll, eraseDups_cons, *]

theorem nodup_eraseDups
    (items : List α) :
    items.eraseDups.Nodup := by
  induction items using reverseRecOn with
  | nil => simp
  | append_singleton items item inductionHypothesis =>
      rw [eraseDups_append_singleton, nodup_append_comm]
      split <;> simp [*]

theorem eraseDups_sublist
    (items : List α) :
    items.eraseDups.Sublist items := by
  induction items using reverseRecOn with
  | nil => simp
  | append_singleton items item inductionHypothesis =>
      rw [eraseDups_append_singleton]
      exact inductionHypothesis.append (by split <;> simp)

theorem eraseDups_eq_self
    {items : List α}
    (distinct : items.Nodup) :
    items.eraseDups = items := by
  induction items using reverseRecOn with
  | nil => simp
  | append_singleton items item inductionHypothesis =>
      rw [nodup_append_comm, singleton_append, nodup_cons] at distinct
      rw [eraseDups_append_singleton, if_neg distinct.1, inductionHypothesis distinct.2]

theorem length_eraseDups_lt
    {items : List α}
    (repeats : ¬ items.Nodup) :
    items.eraseDups.length < items.length := by
  refine Nat.lt_of_le_of_ne (eraseDups_sublist items).length_le ?_
  intro sameLength
  have same := (eraseDups_sublist items).eq_of_length sameLength
  exact repeats (same ▸ nodup_eraseDups items)

/-- An item keeps its place exactly if there is no repetition up to it. -/
theorem getElem?_eq_some_iff_nodup_take
    {items : List α}
    {item : α}
    {place : Nat}
    (located : items.eraseDups[place]? = some item) :
    items[place]? = some item ↔ (items.take (place + 1)).Nodup := by
  obtain ⟨inside, _⟩ := getElem?_eq_some_iff.mp located
  have insideItems : place < items.length :=
    Nat.lt_of_lt_of_le inside (eraseDups_sublist items).length_le
  have inFront : place < (items.take (place + 1)).length := by
    rw [length_take]
    omega
  have split := take_append_drop (place + 1) items
  rw [← split, eraseDups_append] at located
  constructor
  · -- With a repetition in front the place is behind it, where no item of the front is left.
    intro stays
    by_contra repeats
    have shorter := length_eraseDups_lt repeats
    rw [length_take] at shorter
    rw [getElem?_append_right (by omega)] at located
    have behind := mem_eraseDups.mp (mem_of_getElem? located)
    rw [← getElem?_take_of_succ] at stays
    have front := mem_of_getElem? stays
    simp [removeAll, front] at behind
  · intro distinct
    rw [eraseDups_eq_self distinct, getElem?_append_left inFront] at located
    rw [← split, getElem?_append_left inFront, located]

/-- Repetitions are seen in the images, too, if different items have different images. -/
theorem map_eraseDups
    {items : List α}
    {change : α → β}
    (injective : ∀ first ∈ items, ∀ second ∈ items, change first = change second → first = second) :
    items.eraseDups.map change = (items.map change).eraseDups := by
  induction items using reverseRecOn with
  | nil => simp
  | append_singleton items item inductionHypothesis =>
      have known : change item ∈ items.map change ↔ item ∈ items := by
        constructor
        · intro member
          obtain ⟨other, isMember, same⟩ := mem_map.mp member
          exact injective other (by simp [isMember]) item (by simp) same ▸ isMember
        · exact mem_map_of_mem
      have earlier := inductionHypothesis fun first isFirst second isSecond =>
        injective first (by simp [isFirst]) second (by simp [isSecond])
      rw [map_append, map_singleton, eraseDups_append_singleton,
        eraseDups_append_singleton, map_append, earlier]
      by_cases repeated : item ∈ items <;> simp [known, repeated]

end Repetitions

/-! ## Cuts -/

section Cuts

variable
  {α : Type}

/-- A list has one cut at a place. -/
theorem append_cons_inj
    {before after front back : List α}
    {first second : α}
    (same : before ++ first :: after = front ++ second :: back)
    (sameLength : before.length = front.length) :
    before = front ∧ first = second ∧ after = back := by
  obtain ⟨fronts, backs⟩ := append_inj same sameLength
  exact ⟨fronts, cons.inj backs⟩

/-- Two items of a list, neither of which occurs before the other, are the same. -/
theorem eq_of_split
    {firstEarlier firstLater secondEarlier secondLater : List α}
    {first second : α}
    (same : firstEarlier ++ first :: firstLater = secondEarlier ++ second :: secondLater)
    (firstNotEarlier : first ∉ secondEarlier)
    (secondNotEarlier : second ∉ firstEarlier) :
    first = second := by
  rcases append_eq_append_iff.mp same with
      ⟨between, rfl, shape⟩ | ⟨between, rfl, shape⟩
  · cases between with
    | nil => exact (cons.inj shape).1
    | cons head rest => simp [(cons.inj shape).1] at firstNotEarlier
  · cases between with
    | nil => exact (cons.inj shape).1.symm
    | cons head rest => simp [(cons.inj shape).1] at secondNotEarlier

variable
  {separates : α → Bool}
  {items piece : List α}

/-- No piece has a separator in it. -/
theorem eq_false_of_mem_splitOnP
    (isPiece : piece ∈ items.splitOnP separates) :
    ∀ item ∈ piece, separates item = false := by
  induction items generalizing piece with
  | nil => simp_all
  | cons first rest inductionHypothesis =>
      obtain ⟨next, others, split⟩ :=
        exists_cons_of_ne_nil (splitOnP_ne_nil separates rest)
      rw [splitOnP_cons_eq_if_modifyHead, split] at isPiece
      rw [split] at inductionHypothesis
      split at isPiece
      · rcases mem_cons.mp isPiece with rfl | isOther
        · exact forall_mem_nil _
        · exact inductionHypothesis isOther
      · next solid =>
          rcases mem_cons.mp isPiece with rfl | isOther
          · exact forall_mem_cons.mpr
              ⟨Bool.not_eq_true _ ▸ solid, inductionHypothesis mem_cons_self⟩
          · exact inductionHypothesis (mem_cons_of_mem _ isOther)

/-- Every item that does not separate is in a piece. -/
theorem exists_mem_splitOnP
    {item : α}
    (member : item ∈ items)
    (solid : separates item = false) :
    ∃ piece ∈ items.splitOnP separates, item ∈ piece := by
  obtain ⟨front, back, rfl⟩ := append_of_mem member
  induction front with
  | nil =>
      obtain ⟨next, others, split⟩ :=
        exists_cons_of_ne_nil (splitOnP_ne_nil separates back)
      refine ⟨item :: next, ?_, mem_cons_self⟩
      simp [splitOnP_cons_eq_if_modifyHead, solid, split]
  | cons first rest inductionHypothesis =>
      obtain ⟨piece, isPiece, inPiece⟩ := inductionHypothesis (by simp)
      rw [cons_append, splitOnP_cons_eq_if_modifyHead]
      split
      · exact ⟨piece, mem_cons_of_mem _ isPiece, inPiece⟩
      · obtain ⟨next, others, split⟩ :=
          exists_cons_of_ne_nil (splitOnP_ne_nil separates (rest ++ item :: back))
        rw [split] at isPiece ⊢
        rcases mem_cons.mp isPiece with rfl | isOther
        · exact ⟨first :: piece, mem_cons_self, mem_cons_of_mem first inPiece⟩
        · exact ⟨piece, mem_cons_of_mem _ isOther, inPiece⟩

theorem splitOnP_congr
    {other : α → Bool}
    (same : ∀ item ∈ items, separates item = other item) :
    items.splitOnP separates = items.splitOnP other := by
  induction items with
  | nil => rfl
  | cons first rest inductionHypothesis =>
      rw [forall_mem_cons] at same
      rw [splitOnP_cons_eq_if_modifyHead, splitOnP_cons_eq_if_modifyHead, same.1,
        inductionHypothesis same.2]

variable
  [BEq α]
  [LawfulBEq α]
  {separator : α}

theorem not_mem_of_mem_splitOn
    (isPiece : piece ∈ items.splitOn separator) :
    separator ∉ piece := by
  intro member
  rw [splitOn_eq_splitOnP] at isPiece
  simpa using eq_false_of_mem_splitOnP isPiece separator member

theorem subset_of_mem_splitOn
    (isPiece : piece ∈ items.splitOn separator) :
    piece ⊆ items := by
  obtain ⟨place, located⟩ := mem_iff_getElem?.mp isPiece
  have interspersed : piece ∈ (items.splitOn separator).intersperse [separator] :=
    mem_of_getElem? (getElem?_intersperse_two_mul.trans located)
  intro item member
  have inWhole : item ∈ [separator].intercalate (items.splitOn separator) :=
    mem_flatten.mpr ⟨piece, interspersed, member⟩
  rwa [intercalate_splitOn] at inWhole

end Cuts

end List
