import Mathlib.Computability.Language

/-! Regular expressions with capturing groups, matched by trying the alternatives in order. A repetition takes as much as
it can first, and so does an optional part. -/

namespace OcneProvider.Data.Regex
open Computability List

inductive Expr (α : Type*) where
  | char (accepts : α → Bool)
  | seq (first second : Expr α)
  | alt (first second : Expr α)
  | star (body : Expr α)

abbrev Split (α : Type*) := List α × List α

variable {α : Type*}

/-- Each repetition takes something; the number bounds them. -/
def repeated (step : List α → List (Split α)) : Nat → List α → List (Split α)
  | 0, input => [([], input)]
  | fuel + 1, input =>
    ((step input).filter fun first => !first.1.isEmpty).flatMap (fun first =>
      (repeated step fuel first.2).map fun more => (first.1 ++ more.1, more.2)) ++ [([], input)]

/-- All matches at the start of an input, preferred ones first. -/
def Expr.run : Expr α → List α → List (Split α)
  | .char accepts, input =>
    match input with
    | [] => []
    | first :: rest => if accepts first then [([first], rest)] else []
  | .seq first second, input =>
    (first.run input).flatMap fun before => (second.run before.2).map fun after => (before.1 ++ after.1, after.2)
  | .alt first second, input => first.run input ++ second.run input
  | .star body, input => repeated body.run input.length input

def Expr.andMore (expr : Expr α) : Nat → Expr α
  | 0 => expr
  | count + 1 => .seq expr (expr.andMore count)

/-- An expression with groups, none of which is repeated. -/
inductive Pattern (α : Type*) where
  | plain (expr : Expr α)
  | group (expr : Expr α)
  | seq (first second : Pattern α)
  | opt (body : Pattern α)

def Pattern.groups : Pattern α → Nat
  | .plain _ => 0
  | .group _ => 1
  | .seq first second => first.groups + second.groups
  | .opt body => body.groups

/-- A group that takes no part has the empty text. -/
abbrev Outcome (α : Type*) := List (List α) × List α

def Pattern.run : Pattern α → List α → List (Outcome α)
  | .plain expr, input => (expr.run input).map fun split => ([], split.2)
  | .group expr, input => (expr.run input).map fun split => ([split.1], split.2)
  | .seq first second, input =>
    (first.run input).flatMap fun before => (second.run before.2).map fun after => (before.1 ++ after.1, after.2)
  | .opt body, input => body.run input ++ [(List.replicate body.groups [], input)]

/-- The texts of the groups in the preferred match of a whole input. -/
def Pattern.submatches (pattern : Pattern α) (input : List α) : Option (List (List α)) :=
  ((pattern.run input).find? (·.2.isEmpty)).map Prod.fst

section Language

def Expr.language : Expr α → Language α
  | .char accepts => {text | ∃ char, accepts char = true ∧ text = [char]}
  | .seq first second => first.language * second.language
  | .alt first second => first.language + second.language
  | .star body => body.language∗

def Expr.nullable : Expr α → Bool
  | .char _ => false
  | .seq first second => first.nullable && second.nullable
  | .alt first second => first.nullable || second.nullable
  | .star _ => true

variable {first second : Expr α} {accepts : α → Bool} {text : List α}

theorem mem_char : text ∈ (Expr.char accepts).language ↔ ∃ char, accepts char = true ∧ text = [char] := Iff.rfl

theorem mem_seq : text ∈ (Expr.seq first second).language ↔
    ∃ before ∈ first.language, ∃ after ∈ second.language, before ++ after = text :=
  Language.mem_mul

theorem mem_alt : text ∈ (Expr.alt first second).language ↔ text ∈ first.language ∨ text ∈ second.language := Iff.rfl

theorem mem_andMore_char {count : Nat} : text ∈ ((Expr.char accepts).andMore count).language ↔
      text.length = count + 1 ∧ ∀ char ∈ text, accepts char = true := by
  induction count generalizing text with
  | zero =>
    rw [Expr.andMore, mem_char, length_eq_one_iff]
    constructor
    · rintro ⟨char, accepted, rfl⟩
      exact ⟨⟨char, rfl⟩, by simpa using accepted⟩
    · rintro ⟨⟨char, rfl⟩, accepted⟩
      exact ⟨char, accepted char mem_cons_self, rfl⟩
  | succ count ih =>
    simp only [Expr.andMore, mem_seq, mem_char, ih]
    constructor
    · rintro ⟨_, ⟨char, accepted, rfl⟩, rest, ⟨length, others⟩, rfl⟩
      refine ⟨by simp [length], ?_⟩
      simpa [accepted] using others
    · rintro ⟨length, accepted⟩
      obtain ⟨char, rest, rfl⟩ := exists_cons_of_length_eq_add_one length
      rw [length_cons, Nat.add_right_cancel_iff] at length
      rw [forall_mem_cons] at accepted
      exact ⟨[char], ⟨char, accepted.1, rfl⟩, rest, ⟨length, accepted.2⟩, rfl⟩

theorem nil_mem_language_iff (expr : Expr α) : [] ∈ expr.language ↔ expr.nullable = true := by
  induction expr with
  | char accepts => simp [mem_char, Expr.nullable]
  | seq first second ihFirst ihSecond =>
    rw [mem_seq, Expr.nullable, Bool.and_eq_true, ← ihFirst, ← ihSecond]
    constructor
    · rintro ⟨before, isBefore, after, isAfter, split⟩
      obtain ⟨rfl, rfl⟩ := append_eq_nil_iff.mp split
      exact ⟨isBefore, isAfter⟩
    · rintro ⟨isBefore, isAfter⟩
      exact ⟨[], isBefore, [], isAfter, rfl⟩
  | alt first second ihFirst ihSecond => rw [mem_alt, ihFirst, ihSecond, Expr.nullable, Bool.or_eq_true]
  | star body => exact iff_of_true (Language.nil_mem_kstar _) rfl

end Language

section Matching

theorem append_mem_kstar {language : Language α} {first more : List α} (isFirst : first ∈ language)
    (isMore : more ∈ language∗) : first ++ more ∈ language∗ := by
  rw [← Language.one_add_self_mul_kstar_eq_kstar]
  exact .inr (Language.append_mem_mul isFirst isMore)

theorem mem_repeated {language : Language α} {step : List α → List (Split α)}
    (steps : ∀ input split, split ∈ step input ↔ input = split.1 ++ split.2 ∧ split.1 ∈ language)
    {fuel : Nat} {input : List α} (enough : input.length ≤ fuel) {split : Split α} :
    split ∈ repeated step fuel input ↔ input = split.1 ++ split.2 ∧ split.1 ∈ language∗ := by
  obtain ⟨text, rest⟩ := split
  induction fuel generalizing input text rest with
  | zero =>
    obtain rfl := length_eq_zero_iff.mp (Nat.le_zero.mp enough)
    simp only [repeated, mem_singleton, Prod.mk.injEq, nil_eq, append_eq_nil_iff]
    exact ⟨fun none => ⟨none, none.1 ▸ Language.nil_mem_kstar _⟩, And.left⟩
  | succ fuel ih =>
    simp only [repeated, mem_append, mem_flatMap, mem_filter, mem_map, mem_singleton,
      Prod.mk.injEq, Bool.not_eq_true', isEmpty_eq_false_iff]
    constructor
    · rintro (⟨first, ⟨isFirst, nonempty⟩, more, isMore, rfl, rfl⟩ | ⟨rfl, rfl⟩)
      · obtain ⟨rfl, inFirst⟩ := (steps _ _).mp isFirst
        have shorter : first.2.length ≤ fuel := by
          have positive := length_pos_iff.mpr nonempty
          rw [length_append] at enough
          omega
        obtain ⟨later, inMore⟩ := (ih shorter _ _).mp isMore
        exact ⟨by rw [later, append_assoc], append_mem_kstar inFirst inMore⟩
      · exact ⟨rfl, Language.nil_mem_kstar _⟩
    · rintro ⟨rfl, inText⟩
      obtain ⟨pieces, rfl, all⟩ := Language.mem_kstar_iff_exists_nonempty.mp inText
      cases pieces with
      | nil => exact .inr ⟨rfl, rfl⟩
      | cons first pieces =>
        obtain ⟨inFirst, nonempty⟩ := all first mem_cons_self
        rw [flatten_cons, append_assoc] at enough ⊢
        refine .inl ⟨(first, pieces.flatten ++ rest), ⟨(steps _ _).mpr ⟨rfl, inFirst⟩, nonempty⟩,
          (pieces.flatten, rest), ?_, rfl, rfl⟩
        have shorter : (pieces.flatten ++ rest).length ≤ fuel := by
          have positive := length_pos_iff.mpr nonempty
          rw [length_append] at enough
          omega
        exact (ih shorter _ _).mpr
          ⟨rfl, Language.join_mem_kstar fun piece isPiece => (all piece (mem_cons_of_mem _ isPiece)).1⟩

/-- The matches are the beginnings of the input that are in the language. -/
theorem Expr.mem_run {expr : Expr α} {input : List α} {split : Split α} :
    split ∈ expr.run input ↔ input = split.1 ++ split.2 ∧ split.1 ∈ expr.language := by
  induction expr generalizing input split with
  | char accepts =>
    obtain ⟨text, rest⟩ := split
    cases input with
    | nil =>
      refine iff_of_false not_mem_nil ?_
      rintro ⟨none, only, -, rfl⟩
      cases none
    | cons first others =>
      rw [Expr.run, mem_char]
      constructor
      · intro found
        split at found
        next accepted =>
          obtain ⟨rfl, rfl⟩ := Prod.mk.inj (mem_singleton.mp found)
          exact ⟨rfl, first, accepted, rfl⟩
        next => cases found
      · rintro ⟨same, only, accepted, rfl⟩
        obtain ⟨rfl, rfl⟩ := cons.inj same
        rw [if_pos accepted]
        exact mem_singleton_self _
  | seq first second ihFirst ihSecond =>
    simp only [Expr.run, mem_flatMap, mem_map, mem_seq, ihFirst, ihSecond]
    constructor
    · rintro ⟨before, ⟨rfl, inFirst⟩, after, ⟨later, inSecond⟩, rfl⟩
      exact ⟨by rw [later, append_assoc], before.1, inFirst, after.1, inSecond, rfl⟩
    · rintro ⟨rfl, before, inFirst, after, inSecond, joined⟩
      refine ⟨(before, after ++ split.2), ⟨?_, inFirst⟩, (after, split.2), ⟨rfl, inSecond⟩, ?_⟩
      · rw [← joined, append_assoc]
      · rw [joined]
  | alt first second ihFirst ihSecond =>
    rw [Expr.run, mem_append, ihFirst, ihSecond, mem_alt, and_or_left]
  | star body ih => exact mem_repeated (fun _ _ => ih) le_rfl

def Pattern.Matches : Pattern α → List α → List (List α) → Prop
  | .plain expr, text, captures => text ∈ expr.language ∧ captures = []
  | .group expr, text, captures => text ∈ expr.language ∧ captures = [text]
  | .seq first second, text, captures => ∃ before after firsts seconds, text = before ++ after ∧
      captures = firsts ++ seconds ∧ first.Matches before firsts ∧ second.Matches after seconds
  | .opt body, text, captures => body.Matches text captures ∨ (text = [] ∧ captures = List.replicate body.groups [])

theorem mem_captured (capture : List α → List (List α)) {expr : Expr α} {input rest : List α} {captures : List (List α)} :
    (captures, rest) ∈ (expr.run input).map (fun split => (capture split.1, split.2)) ↔
      ∃ text, input = text ++ rest ∧ text ∈ expr.language ∧ captures = capture text := by
  simp only [mem_map, Expr.mem_run, Prod.mk.injEq]
  constructor
  · rintro ⟨split, ⟨whole, inside⟩, rfl, rfl⟩
    exact ⟨split.1, whole, inside, rfl⟩
  · rintro ⟨text, whole, inside, rfl⟩
    exact ⟨(text, rest), ⟨whole, inside⟩, rfl, rfl⟩

variable {pattern : Pattern α} {input : List α} {captures : List (List α)}

theorem Pattern.mem_run {outcome : Outcome α} :
    outcome ∈ pattern.run input ↔ ∃ text, input = text ++ outcome.2 ∧ pattern.Matches text outcome.1 := by
  obtain ⟨captures, rest⟩ := outcome
  induction pattern generalizing input captures rest with
  | plain expr => exact mem_captured fun _ => []
  | group expr => exact mem_captured fun text => [text]
  | seq first second ihFirst ihSecond =>
    simp only [Pattern.run, Pattern.Matches, mem_flatMap, mem_map, Prod.mk.injEq]
    constructor
    · rintro ⟨⟨firsts, middle⟩, isFirst, ⟨seconds, last⟩, isSecond, rfl, rfl⟩
      obtain ⟨before, rfl, inFirst⟩ := (ihFirst _ _).mp isFirst
      obtain ⟨after, rfl, inSecond⟩ := (ihSecond _ _).mp isSecond
      exact ⟨before ++ after, (append_assoc _ _ _).symm, before, after, firsts, seconds, rfl, rfl, inFirst, inSecond⟩
    · rintro ⟨text, rfl, before, after, firsts, seconds, rfl, rfl, inFirst, inSecond⟩
      exact ⟨(firsts, after ++ rest), (ihFirst _ _).mpr ⟨before, append_assoc _ _ _, inFirst⟩,
        (seconds, rest), (ihSecond _ _).mpr ⟨after, rfl, inSecond⟩, rfl, rfl⟩
  | opt body ih =>
    simp only [Pattern.run, Pattern.Matches, mem_append, mem_singleton, Prod.mk.injEq, ih]
    constructor
    · rintro (⟨text, whole, inside⟩ | ⟨rfl, rfl⟩)
      · exact ⟨text, whole, .inl inside⟩
      · exact ⟨[], rfl, .inr ⟨rfl, rfl⟩⟩
    · rintro ⟨text, whole, inside | ⟨rfl, rfl⟩⟩
      · exact .inl ⟨text, whole, inside⟩
      · exact .inr ⟨rfl, whole.symm⟩

theorem Pattern.matches_of_submatches
    (found : pattern.submatches input = some captures) : pattern.Matches input captures := by
  obtain ⟨outcome, first, rfl⟩ := Option.map_eq_some_iff.mp found
  obtain ⟨text, whole, inside⟩ := Pattern.mem_run.mp (mem_of_find?_eq_some first)
  have atEnd := find?_some first
  rw [whole, isEmpty_iff.mp atEnd, append_nil]
  exact inside

theorem Pattern.exists_submatches
    (inside : pattern.Matches input captures) : ∃ found, pattern.submatches input = some found := by
  have mem : (captures, []) ∈ pattern.run input := Pattern.mem_run.mpr ⟨input, (append_nil _).symm, inside⟩
  have first : ((pattern.run input).find? (·.2.isEmpty)).isSome = true :=
    find?_isSome.mpr ⟨_, mem, rfl⟩
  obtain ⟨outcome, isFirst⟩ := Option.isSome_iff_exists.mp first
  exact ⟨outcome.1, by rw [Pattern.submatches, isFirst, Option.map_some]⟩

theorem Pattern.submatches_char (accepts : α → Bool) (first : α) :
    (Pattern.seq (.plain (.char accepts)) pattern).submatches (first :: input) =
      if accepts first then pattern.submatches input else none := by
  unfold Pattern.submatches
  rw [Pattern.run, Pattern.run, Expr.run]
  split
  · simp
  · rfl

end Matching

end OcneProvider.Data.Regex
