import Mathlib.Data.List.Sort
import Mathlib.Data.Prod.Lex

/-! Sorting by a rank when the order of equal ranks is left open, and what the
first and the last item of a sorted list are. -/

namespace OcneProvider.Data.Sorted

open List

variable {α κ : Type} [LinearOrder κ] {rank : α → κ}

/-- A sorting function that may put items of equal rank in any order. -/
structure Sorting (rank : α → κ) where
  sort : List α → List α
  perm : ∀ items, (sort items).Perm items
  sorted : ∀ items, (sort items).Pairwise (rank · ≤ rank ·)

def stable (rank : α → κ) (items : List α) : List α :=
  items.insertionSort (rank · ≤ rank ·)

theorem stable_perm (items : List α) : (stable rank items).Perm items :=
  perm_insertionSort _ items

theorem stable_sorted (rank : α → κ) (items : List α) : (stable rank items).Pairwise (rank · ≤ rank ·) := by
  have total : Std.Total (fun first second : α => rank first ≤ rank second) :=
    ⟨fun first second => le_total (rank first) (rank second)⟩
  have trans : IsTrans α (fun first second : α => rank first ≤ rank second) :=
    ⟨fun _ _ _ => le_trans⟩
  exact pairwise_insertionSort _ items

def Sorting.insertion (rank : α → κ) : Sorting rank := ⟨_, stable_perm, stable_sorted rank⟩

variable {items : List α} {order : α → α → Prop}

section

variable (sorted : items.Pairwise (rank · ≤ rank ·))
include sorted

theorem rank_find?_le {test : α → Bool}
    {found : α} (picked : items.find? test = some found) {other : α} (mem : other ∈ items)
    (passes : test other = true) : rank found ≤ rank other := by
  obtain ⟨-, before, after, rfl, none⟩ := find?_eq_some_iff_append.mp picked
  obtain ⟨-, later, -⟩ := pairwise_append.mp sorted
  rcases mem_append.mp mem with ahead | mem
  · simpa [passes] using none other ahead
  · rcases mem_cons.mp mem with rfl | behind
    · exact le_rfl
    · exact (pairwise_cons.mp later).1 other behind

theorem rank_head?_le {found : α}
    (picked : items.head? = some found) {other : α} (mem : other ∈ items) : rank found ≤ rank other := by
  obtain ⟨rest, rfl⟩ := head?_eq_some_iff.mp picked
  rcases mem_cons.mp mem with rfl | behind
  · exact le_rfl
  · exact (pairwise_cons.mp sorted).1 other behind

theorem le_rank_getLast? {found : α}
    (picked : items.getLast? = some found) {other : α} (mem : other ∈ items) : rank other ≤ rank found := by
  obtain ⟨front, rfl⟩ := getLast?_eq_some_iff.mp picked
  rcases mem_append.mp mem with ahead | last
  · exact (pairwise_append.mp sorted).2.2 other ahead found mem_cons_self
  · rw [mem_singleton.mp last]

end

theorem find?_orderedInsert [DecidableRel order] {wanted : α → Bool} {item : α}
    (first : wanted item = true → ∀ other ∈ items, wanted other = true → order item other) :
    (items.orderedInsert order item).find? wanted =
      if wanted item then some item else items.find? wanted := by
  induction items with
  | nil => by_cases found : wanted item <;> simp [found]
  | cons other rest ih =>
    have later := ih fun found another mem => first found another (mem_cons_of_mem _ mem)
    by_cases before : order item other
    · by_cases found : wanted item <;> simp [orderedInsert, before, find?_cons, found]
    · by_cases found : wanted item
      · have absent : wanted other = false := by
          by_contra present
          exact before (first found other (by simp) (by simpa using present))
        simp [orderedInsert, before, absent, later, found]
      · simp [orderedInsert, before, find?_cons, later, found]

theorem find?_insertionSort [DecidableRel order] {wanted : α → Bool}
    (same : ∀ item other, wanted item = true → wanted other = true → order item other) :
    (items.insertionSort order).find? wanted = items.find? wanted := by
  induction items with
  | nil => rfl
  | cons item rest ih =>
    rw [insertionSort_cons, find?_orderedInsert fun found other _ => same item other found, ih,
      find?_cons]
    cases wanted item <;> rfl

/-- A sorting that prefers one item to the others of its rank. -/
def Sorting.preferring [DecidableEq α] (rank : α → κ) (favourite : α) : Sorting rank where
  sort items := stable rank (if favourite ∈ items then favourite :: items.erase favourite else items)
  perm items := by
    refine (stable_perm _).trans ?_
    split
    · exact (List.perm_cons_erase ‹_›).symm
    · exact .refl _
  sorted items := stable_sorted rank _

theorem Sorting.preferring_find? [DecidableEq α] {favourite : α} {test : α → Bool}
    (mem : favourite ∈ items) (passes : test favourite = true)
    (least : ∀ other ∈ items, test other = true → rank favourite ≤ rank other) :
    ((preferring rank favourite).sort items).find? test = some favourite := by
  simp only [preferring, mem, if_true, stable, insertionSort_cons]
  rw [find?_orderedInsert, if_pos passes]
  intro _ other found passed
  have behind := (perm_insertionSort _ _).mem_iff.mp found
  exact least other (mem_of_mem_erase behind) passed

section Contract

/-- What a comparison has to be on the items to be sorted by it. -/
structure Orders (less : α → α → Bool) (items : List α) : Prop where
  irrefl : ∀ item ∈ items, less item item = false
  trans : ∀ first ∈ items, ∀ second ∈ items, ∀ third ∈ items, less first second = true → less second third = true →
    less first third = true
  transApart : ∀ first ∈ items, ∀ second ∈ items, ∀ third ∈ items, less first second = false →
    less second third = false → less first third = false

/-- Items that the comparison does not order may come in any order. -/
structure SortBy (less : α → α → Bool) where
  sort : List α → List α
  perm : ∀ items, (sort items).Perm items
  sorted : ∀ items, Orders less items → (sort items).Pairwise fun earlier later => less later earlier = false

/-- Moves an item, in a reversed list, past those it is less than. -/
def insertBack (less : α → α → Bool) (item : α) : List α → List α
  | [] => [item]
  | last :: earlier => if less item last then last :: insertBack less item earlier else item :: last :: earlier

/-- What `sort.Sort` does with up to twelve items. -/
def insertion (less : α → α → Bool) (items : List α) : List α :=
  (items.foldl (fun sorted item => insertBack less item sorted) []).reverse

theorem insertBack_perm (less : α → α → Bool) (item : α) (sorted : List α) :
    (insertBack less item sorted).Perm (item :: sorted) := by
  induction sorted with
  | nil => exact .refl _
  | cons last earlier ih =>
    unfold insertBack
    split
    · exact (ih.cons last).trans (.swap item last earlier)
    · exact .refl _

variable {less : α → α → Bool}

theorem Orders.asymm (orders : Orders less items) {first second : α}
    (isFirst : first ∈ items) (isSecond : second ∈ items) (before : less first second = true) :
    less second first = false := by
  by_contra after
  have itself := orders.trans first isFirst second isSecond first isFirst before (by simpa using after)
  rw [orders.irrefl first isFirst] at itself
  cases itself

theorem insertBack_sorted {items sorted : List α} (orders : Orders less items) {item : α}
    (mem : item ∈ items) (among : ∀ other ∈ sorted, other ∈ items)
    (inOrder : sorted.Pairwise fun later earlier => less later earlier = false) :
    (insertBack less item sorted).Pairwise fun later earlier => less later earlier = false := by
  induction sorted with
  | nil => exact pairwise_singleton _ _
  | cons last earlier ih =>
    obtain ⟨above, inOrder⟩ := pairwise_cons.mp inOrder
    obtain ⟨isLast, among⟩ := forall_mem_cons.mp among
    unfold insertBack
    split
    next before =>
      refine pairwise_cons.mpr ⟨fun other inside => ?_, ih among inOrder⟩
      rcases mem_cons.mp ((insertBack_perm less item earlier).mem_iff.mp inside) with rfl | inside
      · exact orders.asymm mem isLast before
      · exact above other inside
    next after =>
      have after : less item last = false := by simpa using after
      refine pairwise_cons.mpr ⟨fun other inside => ?_, pairwise_cons.mpr ⟨above, inOrder⟩⟩
      rcases mem_cons.mp inside with rfl | inside
      · exact after
      · exact orders.transApart item mem last isLast other (among other inside) after (above other inside)

theorem insertion_fold (items sorted : List α) :
    (items.foldl (fun sorted item => insertBack less item sorted) sorted).Perm (items ++ sorted) := by
  induction items generalizing sorted with
  | nil => exact .refl _
  | cons item rest ih =>
    refine (ih _).trans ?_
    exact ((insertBack_perm less item sorted).append_left rest).trans perm_middle

theorem insertion_fold_sorted {items all sorted : List α} (orders : Orders less all)
    (members : ∀ item ∈ items, item ∈ all) (among : ∀ other ∈ sorted, other ∈ all)
    (inOrder : sorted.Pairwise fun later earlier => less later earlier = false) :
    (items.foldl (fun sorted item => insertBack less item sorted) sorted).Pairwise
      fun later earlier => less later earlier = false := by
  induction items generalizing sorted with
  | nil => exact inOrder
  | cons item rest ih =>
    obtain ⟨mem, members⟩ := forall_mem_cons.mp members
    refine ih members (fun other inside => ?_) (insertBack_sorted orders mem among inOrder)
    rcases mem_cons.mp ((insertBack_perm less item sorted).mem_iff.mp inside) with rfl | inside
    · exact mem
    · exact among other inside

def SortBy.insertion (less : α → α → Bool) : SortBy less where
  sort := Sorted.insertion less
  perm items := (List.reverse_perm _).trans ((insertion_fold items []).trans (by rw [List.append_nil]))
  sorted items orders := by
    rw [Sorted.insertion, List.pairwise_reverse]
    exact insertion_fold_sorted orders (fun _ member => member) (fun _ none => absurd none List.not_mem_nil) .nil

theorem SortBy.exists_head [DecidableEq α] (unordered : ¬ Orders less items) {item : α}
    (mem : item ∈ items) : ∃ sort : SortBy less, (sort.sort items).head? = some item := by
  refine ⟨⟨fun others => if others = items then item :: items.erase item else (SortBy.insertion less).sort others,
    fun others => ?_, fun others orders => ?_⟩, by simp⟩
  · split
    next same => exact same ▸ (perm_cons_erase mem).symm
    next => exact (SortBy.insertion less).perm others
  · have differs : others ≠ items := fun same => unordered (same ▸ orders)
    rw [if_neg differs]
    exact (SortBy.insertion less).sorted others orders

theorem Orders.perm {first second : List α} (orders : Orders less first) (same : first.Perm second) :
    Orders less second where
  irrefl item mem := orders.irrefl item (same.mem_iff.mpr mem)
  trans first isFirst second isSecond third isThird :=
    orders.trans first (same.mem_iff.mpr isFirst) second (same.mem_iff.mpr isSecond) third (same.mem_iff.mpr isThird)
  transApart first isFirst second isSecond third isThird :=
    orders.transApart first (same.mem_iff.mpr isFirst) second (same.mem_iff.mpr isSecond) third (same.mem_iff.mpr isThird)

end Contract

end OcneProvider.Data.Sorted
