import Mathlib.Data.List.Chain
import OcneProvider.Data.Strings

/-! Paths with slashes, as Go's `path` package cleans and joins them, and when a joined path stays in its directory. -/

namespace OcneProvider.Data.Paths
open Strings List

variable {path directory name : List Char}

abbrev Name := List Char

def current : Name := ['.']

def parent : Name := ['.', '.']

/-- One more part of a path, after the names so far from the last one to the first. -/
def enter (rooted : Bool) (names : List Name) (part : Name) : List Name :=
  if part = [] ∨ part = current then names
  else if part = parent then
    match names with
    | [] => if rooted then [] else [parent]
    | last :: earlier => if last = parent then parent :: names else earlier
  else part :: names

def isRooted (path : List Char) : Bool := path.head? == some '/'

def components (path : List Char) : List Name :=
  ((path.splitOn '/').foldl (enter (isRooted path)) []).reverse

def clean (path : List Char) : List Char :=
  if isRooted path then '/' :: ['/'].intercalate (components path)
  else if components path = [] then current
  else ['/'].intercalate (components path)

def join (elements : List (List Char)) : List Char :=
  match elements.dropWhile (· == []) with
  | [] => []
  | nonempty => clean (['/'].intercalate nonempty)

/-- A clean path that is another one or lies below it. -/
def Within (directory path : List Char) : Prop :=
  path = directory ∨ directory ++ ['/'] <+: path

section Names

/-- What can be the name of a file. -/
structure Proper (name : Name) : Prop where
  nonempty : name ≠ []
  notCurrent : name ≠ current
  notParent : name ≠ parent
  slash : '/' ∉ name

variable {rooted : Bool} {names parts : List Name} {part : Name}

theorem enter_of_proper (proper : Proper part) : enter rooted names part = part :: names := by
  simp [enter, proper.nonempty, proper.notCurrent, proper.notParent]

theorem enter_all_of_proper (proper : ∀ part ∈ parts, Proper part) :
    parts.foldl (enter rooted) names = parts.reverse ++ names := by
  induction parts generalizing names with
  | nil => rfl
  | cons first rest ih =>
    obtain ⟨here, later⟩ := forall_mem_cons.mp proper
    rw [foldl_cons, enter_of_proper here, ih later]
    simp

theorem proper_enter (proper : ∀ name ∈ names, Proper name) (slash : '/' ∉ part) :
    ∀ name ∈ enter true names part, Proper name := by
  unfold enter
  split
  · exact proper
  next kept =>
    rw [not_or] at kept
    split
    · cases names with
      | nil => exact proper
      | cons last earlier =>
        obtain ⟨top, rest⟩ := forall_mem_cons.mp proper
        simp only [if_neg top.notParent]
        exact rest
    next notParent =>
      rw [forall_mem_cons]
      exact ⟨⟨kept.1, kept.2, notParent, slash⟩, proper⟩

theorem proper_components (absolute : isRooted path = true) : ∀ name ∈ components path, Proper name := by
  have all (parts : List Name) (slash : ∀ part ∈ parts, '/' ∉ part) (names : List Name)
      (proper : ∀ name ∈ names, Proper name) : ∀ name ∈ parts.foldl (enter true) names, Proper name := by
    induction parts generalizing names with
    | nil => exact proper
    | cons first rest ih =>
      obtain ⟨here, later⟩ := forall_mem_cons.mp slash
      exact ih later _ (proper_enter proper here)
  intro name mem
  rw [components, absolute, mem_reverse] at mem
  exact all _ (fun part among => not_mem_of_mem_splitOn among) [] (by simp) name mem

theorem components_absolute (proper : ∀ name ∈ names, Proper name) :
    components ('/' :: ['/'].intercalate names) = names := by
  have rooted : isRooted ('/' :: ['/'].intercalate names) = true := rfl
  have split : ('/' :: ['/'].intercalate names).splitOn '/' = [] :: (['/'].intercalate names).splitOn '/' :=
    splitOn_append_cons_self_of_not_mem not_mem_nil _
  rw [components, rooted, split, foldl_cons]
  by_cases none : names = []
  · rw [none]
    rfl
  · rw [splitOn_intercalate '/' (fun name mem => (proper name mem).slash) none]
    have entered : enter true [] [] = [] := rfl
    rw [entered, enter_all_of_proper proper, append_nil, reverse_reverse]

theorem components_clean (absolute : isRooted path = true) : components (clean path) = components path := by
  rw [clean, if_pos absolute, components_absolute (proper_components absolute)]

end Names

section Descent

variable {rooted : Bool} {names below : List Name} {part : Name} {parts : List Name}

theorem suffix_enter (stays : part ≠ parent) : names <:+ enter rooted names part := by
  unfold enter
  split
  · exact suffix_rfl
  · exact suffix_cons part names

theorem suffix_enter_all (stay : ∀ part ∈ parts, part ≠ parent) : names <:+ parts.foldl (enter rooted) names := by
  induction parts generalizing names with
  | nil => exact suffix_rfl
  | cons first rest ih =>
    obtain ⟨here, later⟩ := forall_mem_cons.mp stay
    exact (suffix_enter here).trans (ih later)

theorem suffix_of_enter {last : Name} (deep : last :: names <:+ below) : names <:+ enter rooted below part := by
  have shallow : names <:+ below := (suffix_cons last names).trans deep
  unfold enter
  split
  · exact shallow
  split
  · cases below with
    | nil => exact absurd deep.length_le (by simp)
    | cons top earlier =>
      have rest : names <:+ earlier := by
        obtain same | deeper := suffix_cons_iff.mp deep
        · obtain ⟨-, rfl⟩ := cons.inj same
          exact suffix_rfl
        · exact (suffix_cons last names).trans deeper
      simp only
      split
      · exact shallow.trans (suffix_cons parent _)
      · exact rest
  · exact shallow.trans (suffix_cons part below)

/-- A path goes down at first, and up at most at its end. -/
structure Descends (path : List Char) : Prop where
  nonempty : firstPart '/' path ≠ []
  notCurrent : firstPart '/' path ≠ current
  notParent : firstPart '/' path ≠ parent
  stays : ∀ part ∈ (path.splitOn '/').dropLast, part ≠ parent

theorem Descends.suffix (descends : Descends path) (names : List Name) :
    names <:+ (path.splitOn '/').foldl (enter rooted) names := by
  obtain ⟨nonempty, notCurrent, notParent, stays⟩ := descends
  obtain ⟨first, rest, parts⟩ := exists_cons_of_ne_nil (splitOn_ne_nil '/' path)
  simp only [firstPart, parts, head_cons] at nonempty notCurrent notParent
  have entered : enter rooted names first = first :: names := by
    simp [enter, nonempty, notCurrent, notParent]
  rw [parts, foldl_cons, entered]
  rw [parts] at stays
  obtain rfl | ⟨init, last, rfl⟩ := rest.eq_nil_or_concat
  · exact suffix_cons first names
  · rw [concat_eq_append] at stays ⊢
    rw [foldl_append]
    apply suffix_of_enter
    apply suffix_enter_all
    intro part mem
    apply stays
    simp [dropLast_cons_of_ne_nil, mem]

variable (absolute : isRooted directory = true)
include absolute

theorem isRooted_append : isRooted (directory ++ '/' :: name) = true := by
  cases directory with
  | nil => rfl
  | cons first rest => exact absolute

theorem join_eq_clean : join [directory, name] = clean (directory ++ '/' :: name) := by
  have nonempty : directory ≠ [] := by
    rintro rfl
    cases absolute
  simp [join, nonempty, intercalate_cons_cons]

theorem components_append : components (directory ++ '/' :: name) =
      ((name.splitOn '/').foldl (enter true) (components directory).reverse).reverse := by
  rw [components, isRooted_append absolute, splitOn_append_cons_self, foldl_append, components, absolute,
    reverse_reverse]

theorem components_of_descends
    (descends : Descends name) : components directory <+: components (directory ++ '/' :: name) := by
  rw [components_append absolute, ← reverse_suffix, reverse_reverse]
  exact descends.suffix _

theorem components_join
    (descends : Descends name) : components directory <+: components (join [directory, name]) := by
  rw [join_eq_clean absolute, components_clean (isRooted_append absolute)]
  exact components_of_descends absolute descends

/-- A name that descends from a directory is joined to it without leaving it. -/
theorem join_within
    (inner : components directory ≠ []) (descends : Descends name) :
    Within (clean directory) (join [directory, name]) := by
  obtain ⟨more, same⟩ := components_of_descends absolute descends
  rw [join_eq_clean absolute, clean, clean, if_pos absolute, if_pos (isRooted_append absolute), ← same]
  by_cases below : more = []
  · left
    rw [below, append_nil]
  · right
    rw [intercalate_append inner below]
    exact ⟨['/'].intercalate more, by simp⟩

end Descent

section Ends

variable {separator bad : Char} {text : List Char}

theorem head?_of_splitOn_nil {second : List Char} {others : List (List Char)}
    (parts : text.splitOn separator = [] :: second :: others) : text.head? = some separator := by
  cases text with
  | nil => simp at parts
  | cons first rest =>
    rw [splitOn_cons_eq_if_modifyHead] at parts
    split at parts
    next same => simpa using same
    next =>
      obtain ⟨head, tail, again⟩ := exists_cons_of_ne_nil (splitOn_ne_nil separator rest)
      rw [again] at parts
      cases parts

theorem getLast?_part_ne (apart : text.IsChain fun first second => ¬ (first = bad ∧ second = separator)) :
    ∀ part ∈ (text.splitOn separator).dropLast, part.getLast? ≠ some bad := by
  induction text with
  | nil => simp
  | cons first rest ih =>
    rw [isChain_cons] at apart
    have later := ih apart.2
    obtain ⟨head, tail, parts⟩ := exists_cons_of_ne_nil (splitOn_ne_nil separator rest)
    rw [splitOn_cons_eq_if_modifyHead]
    split
    next =>
      rw [dropLast_cons_of_ne_nil (splitOn_ne_nil separator rest)]
      simp only [mem_cons, forall_eq_or_imp]
      exact ⟨by simp, later⟩
    next other =>
      rw [parts, modifyHead_cons]
      rw [parts] at later
      cases tail with
      | nil => simp
      | cons second others =>
        rw [dropLast_cons_of_ne_nil (by simp)] at later ⊢
        simp only [mem_cons, forall_eq_or_imp] at later ⊢
        refine ⟨?_, later.2⟩
        cases head with
        | nil =>
          -- the part is one character, which the separator follows
          intro ends
          exact apart.1 separator (head?_of_splitOn_nil parts) ⟨Option.some.inj ends, rfl⟩
        | cons next more =>
          exact later.1

end Ends

end OcneProvider.Data.Paths
