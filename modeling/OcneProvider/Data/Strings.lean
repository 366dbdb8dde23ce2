import Mathlib.Data.List.DropRight

/-! Operations on texts, as Go's `strings` package has them. -/

namespace OcneProvider.Data.Strings

open List

variable {α : Type*} [DecidableEq α]

section LastIndex

def lastIndex (char : α) : List α → Option Nat
  | [] => none
  | first :: rest =>
    match lastIndex char rest with
    | some index => some (index + 1)
    | none => if first = char then some 0 else none

variable {char : α} {after text : List α} {index : Nat}

theorem lastIndex_eq_none (absent : char ∉ text) : lastIndex char text = none := by
  induction text with
  | nil => rfl
  | cons first rest ih =>
    rw [mem_cons, not_or] at absent
    rw [lastIndex, ih absent.2]
    exact if_neg (Ne.symm absent.1)

theorem lastIndex_append (before : List α) (absent : char ∉ after) :
    lastIndex char (before ++ char :: after) = some before.length := by
  induction before with
  | nil => simp [lastIndex, lastIndex_eq_none absent]
  | cons first rest ih => simp [lastIndex, ih]

theorem eq_of_lastIndex (found : lastIndex char text = some index) :
    text = text.take index ++ char :: text.drop (index + 1) := by
  induction text generalizing index with
  | nil => cases found
  | cons first rest ih =>
    rw [lastIndex] at found
    split at found
    next later same =>
      obtain rfl := Option.some.inj found
      exact congrArg (first :: ·) (ih same)
    next =>
      split_ifs at found with here
      obtain rfl := Option.some.inj found
      rw [here]
      rfl

end LastIndex

section Trim

def trim (drop : α → Bool) (text : List α) : List α :=
  (text.dropWhile drop).rdropWhile drop

variable {α : Type*} {drop weaker : α → Bool} {before text after : List α}

theorem trim_append (front : ∀ char ∈ before, drop char = true) (back : ∀ char ∈ after, drop char = true) :
    trim drop (before ++ text ++ after) = trim drop text := by
  have cut (first : List α) : (first ++ after).rdropWhile drop = first.rdropWhile drop := by
    rw [rdropWhile, reverse_append, dropWhile_append_of_pos]
    · rfl
    · intro char mem
      exact back char (mem_reverse.mp mem)
  rw [trim, append_assoc, dropWhile_append_of_pos front, dropWhile_append]
  split
  next blank =>
    have gone : text.dropWhile drop = [] := isEmpty_iff.mp blank
    rw [dropWhile_eq_nil_iff.mpr back, trim, gone]
  next => exact cut _

theorem exists_trim :
    ∃ before after, text = before ++ trim drop text ++ after ∧ (∀ char ∈ before, drop char = true) ∧
      ∀ char ∈ after, drop char = true := by
  refine ⟨text.takeWhile drop, (text.dropWhile drop).rtakeWhile drop, ?_, ?_, ?_⟩
  · rw [trim, append_assoc, rdropWhile_append_rtakeWhile, takeWhile_append_dropWhile]
  · intro char mem
    exact mem_takeWhile_imp mem
  · intro char mem
    exact mem_rtakeWhile_imp mem

theorem trim_trim_of_imp (imp : ∀ char, weaker char = true → drop char = true) :
    trim drop (trim weaker text) = trim drop text := by
  obtain ⟨before, after, same, front, back⟩ := exists_trim
  calc trim drop (trim weaker text)
    _ = trim drop (before ++ trim weaker text ++ after) :=
        (trim_append (fun char mem => imp char (front char mem))
          fun char mem => imp char (back char mem)).symm
    _ = trim drop text := by rw [← same]

theorem dropWhile_eq_self : text.dropWhile drop = text ↔ ∀ char ∈ text.head?, drop char = false := by
  cases text with
  | nil => simp
  | cons first rest => simp [dropWhile_eq_self_iff]

theorem rdropWhile_eq_self : text.rdropWhile drop = text ↔ ∀ char ∈ text.getLast?, drop char = false := by
  obtain rfl | ⟨front, last, rfl⟩ := text.eq_nil_or_concat
  · simp
  · simp

theorem trim_eq_self_iff : trim drop text = text ↔
    (∀ char ∈ text.head?, drop char = false) ∧ ∀ char ∈ text.getLast?, drop char = false := by
  rw [← dropWhile_eq_self, ← rdropWhile_eq_self, trim]
  constructor
  · intro same
    have long : text.length ≤ (text.dropWhile drop).length := by
      conv_lhs => rw [← same]
      exact (List.rdropWhile_prefix drop _).length_le
    have front : text.dropWhile drop = text := (dropWhile_suffix drop).eq_of_length_le long
    rw [front] at same
    exact ⟨front, same⟩
  · rintro ⟨front, back⟩
    rw [front, back]

theorem trim_eq_self_of_imp (imp : ∀ char, weaker char = true → drop char = true) (trimmed : trim drop text = text) :
    trim weaker text = text := by
  have weak : ∀ char, drop char = false → weaker char = false := by
    intro char kept
    exact Bool.eq_false_iff.mpr fun passes => Bool.eq_false_iff.mp kept (imp char passes)
  rw [trim_eq_self_iff] at trimmed ⊢
  exact ⟨fun char mem => weak char (trimmed.1 char mem), fun char mem => weak char (trimmed.2 char mem)⟩

theorem length_trim_le : (trim drop text).length ≤ text.length :=
  (List.rdropWhile_prefix drop _).length_le.trans (dropWhile_suffix drop).length_le

theorem trim_ne_nil {char : α} (mem : char ∈ text) (kept : drop char = false) : trim drop text ≠ [] := by
  intro empty
  obtain ⟨before, after, same, front, back⟩ := exists_trim
  rw [empty, append_nil] at same
  rw [same, mem_append] at mem
  obtain early | late := mem
  · exact Bool.eq_false_iff.mp kept (front char early)
  · exact Bool.eq_false_iff.mp kept (back char late)

theorem trim_trim : trim drop (trim drop text) = trim drop text :=
  trim_trim_of_imp (fun _ => id)

end Trim

def trimSuffix (suffix text : List α) : List α :=
  if suffix <:+ text then text.rdrop suffix.length else text

def trimPrefix (start text : List α) : List α :=
  if start <+: text then text.drop start.length else text

theorem trimSuffix_append (text suffix : List α) : trimSuffix suffix (text ++ suffix) = text := by
  rw [trimSuffix, if_pos (suffix_append text suffix)]
  simp [rdrop]

theorem trimPrefix_append (start text : List α) : trimPrefix start (start ++ text) = text := by
  rw [trimPrefix, if_pos (prefix_append start text), drop_left]

section Parts

def firstPart (separator : α) (text : List α) : List α :=
  (text.splitOn separator).head (List.splitOn_ne_nil separator text)

def lastPart (separator : α) (text : List α) : List α :=
  (text.splitOn separator).getLast (List.splitOn_ne_nil separator text)

variable {separator : α} {before text after : List α}

theorem firstPart_append (absent : separator ∉ before) :
    firstPart separator (before ++ separator :: after) = before := by
  simp [firstPart, splitOn_append_cons_self_of_not_mem absent]

theorem firstPart_cons {char : α} (other : char ≠ separator) :
    firstPart separator (char :: text) = char :: firstPart separator text := by
  obtain ⟨head, tail, parts⟩ := exists_cons_of_ne_nil (splitOn_ne_nil separator text)
  simp [firstPart, splitOn_cons_eq_if_modifyHead, beq_false_of_ne other, parts]

theorem lastPart_append (absent : separator ∉ after) :
    lastPart separator (before ++ separator :: after) = after := by
  simp [lastPart, splitOn_append_cons_self, splitOn_eq_singleton absent]

theorem lastPart_eq_self (absent : separator ∉ text) : lastPart separator text = text := by
  simp [lastPart, splitOn_eq_singleton absent]

theorem not_mem_of_mem_splitOn {part : List α} (mem : part ∈ text.splitOn separator) : separator ∉ part := by
  induction text generalizing part with
  | nil => simp_all
  | cons first rest ih =>
    rw [splitOn_cons_eq_if_modifyHead] at mem
    split at mem
    next =>
      obtain rfl | later := mem_cons.mp mem
      · exact not_mem_nil
      · exact ih later
    next other =>
      obtain ⟨head, tail, parts⟩ := exists_cons_of_ne_nil (splitOn_ne_nil separator rest)
      rw [parts, modifyHead_cons, mem_cons] at mem
      rw [parts] at ih
      obtain rfl | later := mem
      · rw [mem_cons, not_or]
        exact ⟨fun same => other (beq_iff_eq.mpr same.symm), ih mem_cons_self⟩
      · exact ih (mem_cons_of_mem _ later)

omit [DecidableEq α] in
theorem intercalate_append {first second : List (List α)} (nonempty : first ≠ []) (more : second ≠ []) :
    [separator].intercalate (first ++ second) =
      [separator].intercalate first ++ separator :: [separator].intercalate second := by
  induction first with
  | nil => exact absurd rfl nonempty
  | cons part rest ih =>
    cases rest with
    | nil => simp [intercalate_cons_of_ne_nil more]
    | cons next others => simp [intercalate_cons_cons, ← ih]

end Parts

section Replace

/-- The replacement after some characters that an occurrence still covers. -/
def replaceFrom (old new : List α) : Nat → List α → List α
  | _, [] => []
  | covered + 1, _ :: rest => replaceFrom old new covered rest
  | 0, first :: rest =>
    if old <+: first :: rest then new ++ replaceFrom old new (old.length - 1) rest
    else first :: replaceFrom old new 0 rest

/-- Each occurrence of a text that is not empty is replaced, from left to right. -/
def replaceAll (old new text : List α) : List α :=
  replaceFrom old new 0 text

variable {old new text rest : List α} {first : α}

theorem replaceAll_cons (absent : ¬ old <+: first :: rest) :
    replaceAll old new (first :: rest) = first :: replaceAll old new rest :=
  if_neg absent

end Replace

def hex (width number : Nat) : List Char :=
  let digits := Nat.toDigits 16 number
  List.replicate (width - digits.length) '0' ++ digits

/-- Which characters beyond ASCII are printed is given. -/
def isPrinted (isPrint : Char → Bool) (char : Char) : Bool :=
  if char.toNat < 0x80 then 0x20 ≤ char.toNat && char.toNat < 0x7F else isPrint char

/-- A character as it stands between quotes. -/
def escaped (isPrint : Char → Bool) (char : Char) : List Char :=
  if char = '"' ∨ char = '\\' then ['\\', char]
  else if isPrinted isPrint char then [char]
  else
    match char.toNat with
    | 0x07 => ['\\', 'a']
    | 0x08 => ['\\', 'b']
    | 0x0C => ['\\', 'f']
    | 0x0A => ['\\', 'n']
    | 0x0D => ['\\', 'r']
    | 0x09 => ['\\', 't']
    | 0x0B => ['\\', 'v']
    | code =>
      if code < 0x20 ∨ code = 0x7F then '\\' :: 'x' :: hex 2 code
      else if code < 0x10000 then '\\' :: 'u' :: hex 4 code
      else '\\' :: 'U' :: hex 8 code

def quote (isPrint : Char → Bool) (text : String) : String :=
  String.ofList ('"' :: text.toList.flatMap (escaped isPrint) ++ ['"'])

def Plain (char : Char) : Prop := 0x20 ≤ char.toNat ∧ char.toNat < 0x7F ∧ char ≠ '"' ∧ char ≠ '\\'

theorem escaped_plain {isPrint : Char → Bool} {char : Char} (plain : Plain char) : escaped isPrint char = [char] := by
  obtain ⟨least, most, notQuote, notSlash⟩ := plain
  have printed : isPrinted isPrint char = true := by
    rw [isPrinted, if_pos (by omega)]
    simp [least, most]
  simp [escaped, notQuote, notSlash, printed]

theorem quote_plain {isPrint : Char → Bool} {text : String} (plain : ∀ char ∈ text.toList, Plain char) :
    quote isPrint text = "\"" ++ text ++ "\"" := by
  have same : text.toList.flatMap (escaped isPrint) = text.toList := by
    have each : text.toList.flatMap (escaped isPrint) = text.toList.flatMap fun char => [char] :=
      flatMap_congr fun char mem => escaped_plain (plain char mem)
    rw [each, flatMap_singleton']
  apply String.toList_injective
  simp [quote, same]

end OcneProvider.Data.Strings
