import OcneProvider.Data.Strings

/-! Literal block scalars as YAML 1.2 reads them from the lines of a text, and the texts that come back after each
of their lines was indented. -/

namespace OcneProvider.Data.Literal
open Strings List

abbrev Line := List Char

/-- It breaks no line and does not mark the byte order. -/
def isNbChar (char : Char) : Bool :=
  let code := char.toNat
  code == 0x9 || (0x20 ≤ code && code ≤ 0x7E) || code == 0x85 || (0xA0 ≤ code && code ≤ 0xD7FF) ||
    (0xE000 ≤ code && code ≤ 0xFFFD && code != 0xFEFF) || 0x10000 ≤ code

/-- A line feed, a carriage return, or one after the other breaks a line. -/
def lines : List Char → List Line
  | [] => [[]]
  | '\r' :: '\n' :: rest => [] :: lines rest
  | char :: rest =>
    if char = '\n' ∨ char = '\r' then [] :: lines rest else (lines rest).modifyHead (char :: ·)

def joined (parts : List Line) : List Char := ['\n'].intercalate parts

/-- Without the line feeds at its end. -/
def unended (text : List Char) : List Char := text.rdropWhile (· == '\n')

def isBlank (line : Line) : Bool := line.all (· == ' ')

def indentation (line : Line) : Nat := (line.takeWhile (· == ' ')).length

/-- The first line that is not blank gives the indentation, which no line before may exceed, and the scalar goes on as
long as lines have it. -/
def literalBody (parent : Nat) (leading rest : List Line) : Option (List Char × List Line) :=
  match rest with
  | [] => some ([], [])
  | first :: _ =>
    let indent := indentation first
    let inside (line : Line) : Bool := isBlank line || indent ≤ indentation line
    if indent ≤ parent then some ([], rest)
    else if leading.any fun line => indent < line.length then none
    else if (rest.takeWhile inside).all fun line => line.all isNbChar then
      some (unended (joined (leading.map (fun _ => []) ++ (rest.takeWhile inside).map (List.drop indent))),
        rest.dropWhile inside)
    else none

/-- The value of a scalar below some indentation, and the lines after it. -/
def literal (parent : Nat) (lines : List Line) : Option (List Char × List Line) :=
  literalBody parent (lines.takeWhile isBlank) (lines.dropWhile isBlank)

section Lines

variable {text : List Char}

theorem lines_eq_splitOn (returns : '\r' ∉ text) : lines text = text.splitOn '\n' := by
  induction text with
  | nil => rfl
  | cons char rest ih =>
    rw [mem_cons, not_or] at returns
    have unpaired : lines (char :: rest) =
        if char = '\n' ∨ char = '\r' then [] :: lines rest else (lines rest).modifyHead (char :: ·) := by
      rw [lines.eq_def]
      split
      next same => cases same
      next same => exact absurd (cons.inj same).1.symm returns.1
      next same =>
        obtain ⟨rfl, rfl⟩ := cons.inj same
        rfl
    rw [unpaired, ih returns.2, splitOn_cons_eq_if_modifyHead]
    by_cases feed : char = '\n'
    · simp [feed]
    · simp [feed, Ne.symm returns.1]

variable {parts : List Line} {part : Line} {char : Char}

theorem splitOn_joined (nonempty : parts ≠ []) (feeds : ∀ part ∈ parts, '\n' ∉ part) :
    (joined parts).splitOn '\n' = parts :=
  splitOn_intercalate '\n' feeds nonempty

theorem joined_splitOn (text : List Char) : joined (text.splitOn '\n') = text :=
  intercalate_splitOn '\n'

theorem joined_dropWhile (text : List Char) :
    joined ((text.splitOn '\n').dropWhile (· == [])) = text.dropWhile (· == '\n') := by
  induction text with
  | nil => rfl
  | cons char rest ih =>
    by_cases feed : char = '\n'
    · subst feed
      simpa [splitOn_cons_eq_if_modifyHead] using ih
    · have whole := joined_splitOn (char :: rest)
      obtain ⟨head, tail, parts⟩ := exists_cons_of_ne_nil (splitOn_ne_nil '\n' rest)
      rw [splitOn_cons_eq_if_modifyHead, if_neg (by simpa using feed), parts, modifyHead_cons] at whole ⊢
      rw [dropWhile_cons_of_neg (by simp), dropWhile_cons_of_neg (by simpa using feed), whole]

theorem mem_joined (mem : char ∈ joined parts) : char = '\n' ∨ ∃ part ∈ parts, char ∈ part := by
  induction parts with
  | nil => cases mem
  | cons first rest ih =>
    cases rest with
    | nil => exact .inr ⟨first, mem_cons_self, by simpa [joined] using mem⟩
    | cons second others =>
      rw [joined, intercalate_cons_cons, mem_append, mem_append, mem_singleton] at mem
      obtain (early | feed) | late := mem
      · exact .inr ⟨first, mem_cons_self, early⟩
      · exact .inl feed
      · obtain feed | ⟨part, among, here⟩ := ih late
        · exact .inl feed
        · exact .inr ⟨part, mem_cons_of_mem _ among, here⟩

theorem mem_joined_of_mem (among : part ∈ parts) (here : char ∈ part) : char ∈ joined parts := by
  induction parts with
  | nil => cases among
  | cons first rest ih =>
    cases rest with
    | nil =>
      obtain rfl := mem_singleton.mp among
      simpa [joined] using here
    | cons second others =>
      rw [joined, intercalate_cons_cons, mem_append]
      obtain rfl | later := mem_cons.mp among
      · exact .inl (mem_append_left _ here)
      · exact .inr (ih later)

theorem mem_of_mem_splitOn (among : part ∈ text.splitOn '\n') (here : char ∈ part) : char ∈ text := by
  rw [← joined_splitOn text]
  exact mem_joined_of_mem among here

end Lines

section Fine

/-- A literal can hold it: its characters are taken as they are, and its first line that is not empty has no space
first. -/
structure Fine (text : List Char) : Prop where
  chars : ∀ char ∈ text, isNbChar char = true ∨ char = '\n'
  start : (text.dropWhile (· == '\n')).head? ≠ some ' '

variable {text : List Char}

theorem fine_iff : Fine text ↔
    (text.all fun char => isNbChar char || char == '\n') = true ∧ (text.dropWhile (· == '\n')).head? ≠ some ' ' := by
  simp only [all_eq_true, Bool.or_eq_true, beq_iff_eq]
  exact ⟨fun fine => ⟨fine.chars, fine.start⟩, fun ⟨chars, start⟩ => ⟨chars, start⟩⟩

instance : Decidable (Fine text) := decidable_of_iff _ fine_iff.symm

theorem exists_unended (text : List Char) :
    ∃ feeds, text = unended text ++ feeds ∧ ∀ char ∈ feeds, (char == '\n') = true :=
  ⟨text.rtakeWhile (· == '\n'), rdropWhile_append_rtakeWhile.symm, fun _ => mem_rtakeWhile_imp⟩

theorem fine_unended : Fine (unended text) ↔ Fine text := by
  obtain ⟨feeds, same, ended⟩ := exists_unended text
  have chars : (∀ char ∈ unended text, isNbChar char = true ∨ char = '\n') ↔
      ∀ char ∈ text, isNbChar char = true ∨ char = '\n' := by
    conv_rhs => rw [same]
    rw [forall_mem_append, and_iff_left]
    intro char mem
    exact .inr (beq_iff_eq.mp (ended char mem))
  have start : ((unended text).dropWhile (· == '\n')).head? = (text.dropWhile (· == '\n')).head? := by
    conv_rhs => rw [same, dropWhile_append]
    split
    next empty =>
      rw [isEmpty_iff.mp empty, dropWhile_eq_nil_iff.mpr ended]
    next nonempty =>
      rw [head?_append_of_ne_nil]
      exact fun empty => nonempty (isEmpty_iff.mpr empty)
  constructor
  · rintro ⟨valid, begins⟩
    exact ⟨chars.mp valid, start ▸ begins⟩
  · rintro ⟨valid, begins⟩
    exact ⟨chars.mpr valid, start ▸ begins⟩

theorem head?_joined {first : Line} (nonempty : first ≠ []) (more : List Line) :
    (joined (first :: more)).head? = first.head? := by
  cases more with
  | nil => simp [joined]
  | cons second others =>
    rw [joined, intercalate_cons_cons, append_assoc, head?_append_of_ne_nil _ nonempty]

theorem fine_joined {before : List Line} {first : Line} {more : List Line} (empty : ∀ line ∈ before, line = [])
    (nonempty : first ≠ []) (start : first.head? ≠ some ' ')
    (chars : ∀ line ∈ first :: more, ∀ char ∈ line, isNbChar char = true) :
    Fine (joined (before ++ first :: more)) := by
  have valid : ∀ line ∈ before ++ first :: more, ∀ char ∈ line, isNbChar char = true := by
    intro line mem char here
    obtain early | late := mem_append.mp mem
    · rw [empty line early] at here
      cases here
    · exact chars line late char here
  have feeds : ∀ line ∈ before ++ first :: more, '\n' ∉ line := by
    intro line mem here
    exact absurd (valid line mem '\n' here) (by decide)
  constructor
  · intro char mem
    obtain feed | ⟨line, among, here⟩ := mem_joined mem
    · exact .inr feed
    · exact .inl (valid line among char here)
  · rw [← joined_dropWhile, splitOn_joined (by simp) feeds, dropWhile_append_of_pos (by simpa using empty),
      dropWhile_cons_of_neg (by simpa using nonempty), head?_joined nonempty]
    exact start

end Fine

section Literal

variable {parent width : Nat} {value : List Char} {rest : List Line}

variable (line : Line) {before : List Line}

theorem drop_indentation : line.drop (indentation line) = line.dropWhile (· == ' ') := by
  have whole := prefix_iff_eq_append.mp (List.takeWhile_prefix (· == ' ') : line.takeWhile (· == ' ') <+: line)
  exact append_cancel_left (whole.trans takeWhile_append_dropWhile.symm)

theorem dropWhile_of_not_blank {line : Line} (filled : isBlank line = false) :
    line.dropWhile (· == ' ') ≠ [] ∧ (line.dropWhile (· == ' ')).head? ≠ some ' ' := by
  constructor
  · intro gone
    rw [dropWhile_eq_nil_iff] at gone
    exact Bool.eq_false_iff.mp filled (all_eq_true.mpr gone)
  · intro begins
    have kept := head?_dropWhile_not (· == ' ') line
    rw [begins] at kept
    simp at kept

/-- Whatever a literal is read from, its value is one that a literal can hold. -/
theorem literal_fine {lines : List Line} (read : literal parent lines = some (value, rest)) : Fine value := by
  have nothing : Fine [] := ⟨by simp, by simp⟩
  unfold literal literalBody at read
  split at read
  next => cases read; exact nothing
  next first more found =>
    have filled : isBlank first = false := by
      have stops := head?_dropWhile_not isBlank lines
      rwa [found] at stops
    dsimp only at read
    split_ifs at read with shallow exceeded valid
    · cases read
      exact nothing
    · cases read
      rw [found, takeWhile_cons_of_pos (by simp)] at valid ⊢
      rw [fine_unended, map_cons, drop_indentation]
      obtain ⟨nonempty, start⟩ := dropWhile_of_not_blank filled
      apply fine_joined (by simp) nonempty start
      rw [← drop_indentation, ← map_cons]
      intro line mem char here
      obtain ⟨whole, among, rfl⟩ := mem_map.mp mem
      exact all_eq_true.mp (all_eq_true.mp valid whole among) char (mem_of_mem_drop here)

theorem takeWhile_append_stop {α : Type} {test : α → Bool} {passing others : List α}
    (pass : ∀ a ∈ passing, test a = true) (stop : ∀ a ∈ others.head?, test a = false) :
    (passing ++ others).takeWhile test = passing ∧ (passing ++ others).dropWhile test = others := by
  rw [takeWhile_append_of_pos pass, dropWhile_append_of_pos pass]
  cases others with
  | nil => simp
  | cons first rest => simp [stop first rfl]

theorem isBlank_of_head {line : Line} (nonempty : line ≠ []) (start : line.head? ≠ some ' ') :
    isBlank line = false ∧ indentation line = 0 := by
  obtain ⟨first, rest, rfl⟩ := exists_cons_of_ne_nil nonempty
  have other : first ≠ ' ' := fun same => start (congrArg some same)
  simp [isBlank, indentation, other]

def indented (width : Nat) (line : Line) : Line := List.replicate width ' ' ++ line

theorem isBlank_indented : isBlank (indented width line) = isBlank line := by
  simp [indented, isBlank, all_append, all_replicate]

theorem indentation_indented : indentation (indented width line) = width + indentation line := by
  rw [indented, indentation, takeWhile_append_of_pos, length_append, length_replicate, indentation]
  intro char mem
  simpa using eq_of_mem_replicate mem

theorem blank_of_empty (empty : ∀ line ∈ before, line = []) :
    ∀ line ∈ before.map (indented width), isBlank line = true := by
  intro line mem
  obtain ⟨part, among, rfl⟩ := mem_map.mp mem
  rw [isBlank_indented, empty part among]
  rfl

variable (ends : ∀ line ∈ rest.head?, isBlank line = false ∧ indentation line ≤ parent)
include ends

theorem literal_empty (empty : ∀ line ∈ before, line = []) :
    literal parent (before.map (indented width) ++ rest) = some ([], rest) := by
  obtain ⟨taken, dropped⟩ := takeWhile_append_stop (blank_of_empty empty) fun line among => (ends line among).1
  rw [literal, taken, dropped]
  cases rest with
  | nil => rfl
  | cons line others => exact if_pos (ends line rfl).2

omit ends in
theorem map_drop_indented (width : Nat) (parts : List Line) : (parts.map (indented width)).map (drop width) = parts := by
  have unpadded : drop width ∘ indented width = id := by
    funext line
    simp [indented]
  rw [map_map, unpadded, map_id]

omit ends in
theorem all_isNbChar_indented (width : Nat) {parts : List Line} (chars : ∀ line ∈ parts, ∀ char ∈ line, isNbChar char = true) :
    ((parts.map (indented width)).all fun line => line.all isNbChar) = true := by
  rw [all_map, all_eq_true]
  intro line mem
  rw [Function.comp_apply, all_eq_true]
  intro char here
  obtain space | printed := mem_append.mp here
  · rw [eq_of_mem_replicate space]
    decide
  · exact chars line mem char printed

theorem literalBody_indented {leading : List Line} {first : Line} {more : List Line}
    (short : ∀ line ∈ leading, line.length ≤ width) (unindented : indentation first = 0)
    (chars : ∀ line ∈ first :: more, ∀ char ∈ line, isNbChar char = true) (deeper : parent < width) :
    literalBody parent leading ((first :: more).map (indented width) ++ rest) =
      some (unended (joined (leading.map (fun _ => []) ++ first :: more)), rest) := by
  have depth : indentation (indented width first) = width := by
    rw [indentation_indented, unindented, Nat.add_zero]
  have inside : ∀ line ∈ (first :: more).map (indented width),
      (isBlank line || decide (width ≤ indentation line)) = true := by
    intro line mem
    obtain ⟨part, among, rfl⟩ := mem_map.mp mem
    simp [indentation_indented]
  have outside : ∀ line ∈ rest.head?, (isBlank line || decide (width ≤ indentation line)) = false := by
    intro line mem
    obtain ⟨printed, shallow⟩ := ends line mem
    simp only [printed, Bool.false_or, decide_eq_false_iff_not]
    omega
  obtain ⟨taken, dropped⟩ := takeWhile_append_stop inside outside
  have within : ¬ (leading.any fun line => decide (width < line.length)) = true := by
    simpa using short
  have valid := all_isNbChar_indented width chars
  have unpadded := map_drop_indented width (first :: more)
  rw [map_cons, cons_append] at taken dropped ⊢
  rw [map_cons] at valid unpadded
  unfold literalBody
  simp only [depth]
  rw [if_neg (by omega), if_neg within, taken, dropped, if_pos valid, unpadded]

theorem literal_lines {first : Line} {more : List Line} (empty : ∀ line ∈ before, line = [])
    (nonempty : first ≠ []) (start : first.head? ≠ some ' ')
    (chars : ∀ line ∈ first :: more, ∀ char ∈ line, isNbChar char = true) (deeper : parent < width) :
    literal parent (before.map (indented width) ++ ((first :: more).map (indented width) ++ rest)) =
      some (unended (joined (before ++ first :: more)), rest) := by
  obtain ⟨solid, unindented⟩ := isBlank_of_head nonempty start
  have stops : ∀ line ∈ ((first :: more).map (indented width) ++ rest).head?, isBlank line = false := by
    simpa [isBlank_indented] using solid
  obtain ⟨leading, body⟩ := takeWhile_append_stop (blank_of_empty empty) stops
  have short : ∀ line ∈ before.map (indented width), line.length ≤ width := by
    intro line mem
    obtain ⟨part, among, rfl⟩ := mem_map.mp mem
    simp [empty part among, indented]
  have blanked : (before.map (indented width)).map (fun _ => []) = before := by
    rw [map_map]
    conv_rhs => rw [← map_id before]
    apply map_congr_left
    intro line mem
    exact (empty line mem).symm
  rw [literal, leading, body, literalBody_indented ends short unindented chars deeper, blanked]

/-- A text whose lines were indented is read back, if a line follows that is indented less. -/
theorem literal_indented {text : List Char} (fine : Fine text) (deeper : parent < width) :
    literal parent ((text.splitOn '\n').map (indented width) ++ rest) = some (unended text, rest) := by
  have whole : (text.splitOn '\n').takeWhile (· == []) ++ (text.splitOn '\n').dropWhile (· == []) =
      text.splitOn '\n' := takeWhile_append_dropWhile
  have content := joined_dropWhile text
  have empty : ∀ line ∈ (text.splitOn '\n').takeWhile (· == []), line = [] := by
    intro line mem
    simpa using mem_takeWhile_imp mem
  have filled := head?_dropWhile_not (· == []) (text.splitOn '\n')
  generalize (text.splitOn '\n').takeWhile (· == []) = before at whole empty
  generalize (text.splitOn '\n').dropWhile (· == []) = after at whole content filled
  rw [← whole, map_append, append_assoc]
  cases after with
  | nil =>
    have feeds : unended text = [] := by
      rw [unended, rdropWhile_eq_nil_iff, ← dropWhile_eq_nil_iff]
      exact content.symm
    rw [feeds]
    exact literal_empty ends empty
  | cons first more =>
    have nonempty : first ≠ [] := by simpa using filled
    have start : first.head? ≠ some ' ' := by
      rw [← head?_joined nonempty more, content]
      exact fine.start
    have chars : ∀ line ∈ first :: more, ∀ char ∈ line, isNbChar char = true := by
      intro line mem char here
      have among : line ∈ text.splitOn '\n' := whole ▸ mem_append_right before mem
      apply (fine.chars char (mem_of_mem_splitOn among here)).resolve_right
      rintro rfl
      exact not_mem_of_mem_splitOn among here
    rw [literal_lines ends empty nonempty start chars deeper, whole, joined_splitOn]

end Literal

end OcneProvider.Data.Literal
