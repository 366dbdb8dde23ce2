import Mathlib.Data.List.TakeDrop

/-! Formatting a text without arguments, as `fmt.Sprintf` does it. Each percent sign begins a conversion: flags, an index
in brackets, a width, a precision and a verb. A doubled sign stands for itself, and for want of an argument all other
conversions are replaced by a note that starts with a percent sign. -/

namespace OcneProvider.Data.Printf

open List

/-- What is known of a conversion while it is read. -/
structure Conversion where
  rest : List Char
  /-- Whether an index has just been read. -/
  indexed : Bool
  /-- Whether there is an index; no index refers to an argument. -/
  badIndex : Bool
  written : List Char

def isFlag (char : Char) : Bool :=
  char ∈ ['#', '0', '+', '-', ' ']

/-- Digits, and whether there are any; a number that gets too large ends the reading. -/
def readNumber (number : Nat) (found : Bool) : List Char → Bool × List Char
  | [] => (found, [])
  | char :: rest =>
    if char.isDigit then
      if 1000000 < number then (false, []) else readNumber (10 * number + (char.toNat - '0'.toNat)) true rest
    else (found, char :: rest)

/-- Of a bracket that is not closed only the bracket is read. -/
def readIndex (conversion : Conversion) : Conversion :=
  match conversion.rest with
  | '[' :: after =>
    match after.span (· != ']') with
    | (content, _ :: rest) =>
      if after.length < 2 then { conversion with rest := after, indexed := false, badIndex := true }
      else { conversion with rest := rest, indexed := readNumber 0 false content == (true, []), badIndex := true }
    | (_, []) => { conversion with rest := after, indexed := false, badIndex := true }
  | _ => { conversion with indexed := false }

def readWidth (conversion : Conversion) : Conversion :=
  match conversion.rest with
  | '*' :: rest =>
    { conversion with rest := rest, indexed := false, written := conversion.written ++ "%!(BADWIDTH)".toList }
  | chars =>
    let (found, rest) := readNumber 0 false chars
    { conversion with rest := rest, badIndex := conversion.badIndex || (conversion.indexed && found) }

def readPrecision (conversion : Conversion) : Conversion :=
  match conversion.rest with
  | '.' :: rest =>
    let conversion := readIndex { conversion with rest := rest, badIndex := conversion.badIndex || conversion.indexed }
    match conversion.rest with
    | '*' :: rest =>
      { conversion with rest := rest, indexed := false, written := conversion.written ++ "%!(BADPREC)".toList }
    | chars => { conversion with rest := (readNumber 0 false chars).2 }
  | _ => conversion

/-- What is written for a conversion, and what follows it in the text. -/
def readVerb (conversion : Conversion) : List Char × List Char :=
  let conversion := if conversion.indexed then conversion else readIndex conversion
  match conversion.rest with
  | [] => (conversion.written ++ "%!(NOVERB)".toList, [])
  | '%' :: rest => (conversion.written ++ ['%'], rest)
  | verb :: rest =>
    (conversion.written ++ ['%', '!', verb] ++
      (if conversion.badIndex then "(BADINDEX)" else "(MISSING)").toList, rest)

def readUpToVerb (chars : List Char) : Conversion :=
  readPrecision (readWidth (readIndex ⟨chars.dropWhile isFlag, false, false, []⟩))

def convert (chars : List Char) : List Char × List Char :=
  readVerb (readUpToVerb chars)

/-- Formats a text; the number bounds its length. -/
def format : Nat → List Char → List Char
  | 0, _ => []
  | _ + 1, [] => []
  | fuel + 1, char :: rest =>
    if char = '%' then (convert rest).1 ++ format fuel (convert rest).2 else char :: format fuel rest

def sprintf (text : String) : String :=
  String.ofList (format text.toList.length text.toList)

section Reading

theorem readNumber_suffix (number : Nat) (found : Bool) (chars : List Char) : (readNumber number found chars).2 <:+ chars := by
  induction chars generalizing number found with
  | nil => exact suffix_rfl
  | cons char rest ih =>
    unfold readNumber
    split
    · split
      · exact nil_suffix
      · exact (ih _ _).trans (suffix_cons char rest)
    · exact suffix_rfl

variable (conversion : Conversion) (chars : List Char)

theorem readIndex_suffix : (readIndex conversion).rest <:+ conversion.rest := by
  unfold readIndex
  split
  next after opens =>
    rw [opens]
    split
    next content bracket rest spanned =>
      have split : after = content ++ bracket :: rest := by
        rw [span_eq_takeWhile_dropWhile, Prod.mk.injEq] at spanned
        rw [← spanned.1, ← spanned.2, takeWhile_append_dropWhile]
      split
      · exact suffix_cons _ _
      · refine List.IsSuffix.trans ?_ (suffix_cons _ _)
        exact ⟨content ++ [bracket], by rw [split, append_assoc]; rfl⟩
    next => exact suffix_cons _ _
  next => exact suffix_rfl

theorem readWidth_suffix : (readWidth conversion).rest <:+ conversion.rest := by
  unfold readWidth
  split
  next rest star => exact star ▸ suffix_cons _ _
  next => exact readNumber_suffix _ _ _

theorem readPrecision_suffix : (readPrecision conversion).rest <:+ conversion.rest := by
  unfold readPrecision
  split
  next rest dot =>
    have index := readIndex_suffix { conversion with rest := rest, badIndex := conversion.badIndex || conversion.indexed }
    rw [dot]
    refine List.IsSuffix.trans ?_ (suffix_cons _ _)
    dsimp only
    split
    next star => exact (star ▸ suffix_cons _ _ : _ <:+ (readIndex _).rest).trans index
    next => exact (readNumber_suffix _ _ _).trans index
  next => exact suffix_rfl

theorem rest_readVerb :
    (readVerb conversion).2 = (if conversion.indexed then conversion else readIndex conversion).rest.tail := by
  unfold readVerb
  dsimp only
  split
  next none => rw [none]; rfl
  next some => rw [some]; rfl
  next some => rw [some]; rfl

theorem readUpToVerb_suffix : (readUpToVerb chars).rest <:+ chars := by
  have flags : chars.dropWhile isFlag <:+ chars := dropWhile_suffix isFlag
  exact (readPrecision_suffix _).trans ((readWidth_suffix _).trans ((readIndex_suffix _).trans flags))

theorem exists_converted : ∃ converted, chars = converted ++ (convert chars).2 ∧ (chars ≠ [] → converted ≠ []) := by
  have suffix : (if (readUpToVerb chars).indexed then readUpToVerb chars else readIndex (readUpToVerb chars)).rest <:+
      chars := by
    split
    · exact readUpToVerb_suffix chars
    · exact (readIndex_suffix _).trans (readUpToVerb_suffix chars)
  obtain ⟨before, split⟩ := suffix
  rw [convert, rest_readVerb]
  generalize (if (readUpToVerb chars).indexed then readUpToVerb chars else readIndex (readUpToVerb chars)).rest = verb
    at split ⊢
  cases verb with
  | nil => exact ⟨chars, by simp, id⟩
  | cons char later => exact ⟨before ++ [char], by simp [← split], by simp⟩

theorem convert_nil : convert [] = ("%!(NOVERB)".toList, []) := by
  simp [convert, readUpToVerb, readIndex, readWidth, readNumber, readPrecision, readVerb]

theorem convert_exclamation (rest : List Char) : convert ('!' :: rest) = ("%!!(MISSING)".toList, rest) := by
  have noFlags : ('!' :: rest).dropWhile isFlag = '!' :: rest := dropWhile_cons_of_neg (by decide)
  simp [convert, readUpToVerb, noFlags, readIndex, readWidth, readNumber, readPrecision, readVerb]

end Reading

section Writing

/-- Notes, each with a percent sign and an exclamation mark, or a percent sign, which may come after notes. -/
inductive Written : List Char → Prop
  | percent : Written ['%']
  | note {body : List Char} (clean : '%' ∉ body) : Written ('%' :: '!' :: body)
  | more {body later : List Char} (clean : '%' ∉ body) (written : Written later) : Written ('%' :: '!' :: (body ++ later))

variable (conversion : Conversion) {out : List Char}

theorem Written.of_append (written : Written out) {front back : List Char} (nonempty : front ≠ [])
    (split : out = front ++ '%' :: back) : Written ('%' :: back) := by
  induction written generalizing front with
  | percent =>
    obtain ⟨char, front, rfl⟩ := exists_cons_of_ne_nil nonempty
    simp at split
  | note clean =>
    obtain ⟨char, front, rfl⟩ := exists_cons_of_ne_nil nonempty
    rw [cons_append, cons.injEq] at split
    have inside : '%' ∈ front ++ '%' :: back := by simp
    rw [← split.2] at inside
    simp [clean] at inside
  | @more body later clean written ih =>
    obtain ⟨char, front, rfl⟩ := exists_cons_of_ne_nil nonempty
    rw [cons_append, cons.injEq, ← cons_append] at split
    rcases append_eq_append_iff.mp split.2 with ⟨between, _, rest⟩ | ⟨between, body, rest⟩
    · cases between with
      | nil => exact (nil_append _ ▸ rest) ▸ written
      | cons => exact ih (cons_ne_nil _ _) rest
    · cases between with
      | nil => exact (nil_append _ ▸ rest.symm) ▸ written
      | cons first between =>
        obtain ⟨rfl, _⟩ := cons.inj rest
        have inside : '%' ∈ front ++ '%' :: between := by simp
        rw [← body] at inside
        simp [clean] at inside

theorem Written.exists_cons (written : Written out) : ∃ back, out = '%' :: back := by
  cases written with
  | percent => exact ⟨_, rfl⟩
  | note => exact ⟨_, rfl⟩
  | more => exact ⟨_, rfl⟩

theorem Written.cases_cons {back : List Char} (written : Written ('%' :: back)) : back = [] ∨ back.head? = some '!' := by
  cases written with
  | percent => exact .inl rfl
  | note => exact .inr rfl
  | more => exact .inr rfl

theorem written_readIndex : (readIndex conversion).written = conversion.written := by
  unfold readIndex
  split
  · split
    · split <;> rfl
    · rfl
  · rfl

theorem written_readWidth : ∃ note, (note = [] ∨ note = "%!(BADWIDTH)".toList) ∧
    (readWidth conversion).written = conversion.written ++ note := by
  unfold readWidth
  split
  · exact ⟨_, .inr rfl, rfl⟩
  · exact ⟨[], .inl rfl, (append_nil _).symm⟩

theorem written_readPrecision : ∃ note, (note = [] ∨ note = "%!(BADPREC)".toList) ∧
    (readPrecision conversion).written = conversion.written ++ note := by
  unfold readPrecision
  split
  · dsimp only
    split
    · exact ⟨_, .inr rfl, by rw [written_readIndex]⟩
    · exact ⟨[], .inl rfl, by rw [written_readIndex, append_nil]⟩
  · exact ⟨[], .inl rfl, (append_nil _).symm⟩

theorem written_readVerb : ∃ last, Written last ∧ (readVerb conversion).1 = conversion.written ++ last := by
  have held : (if conversion.indexed then conversion else readIndex conversion).written = conversion.written := by
    split
    · rfl
    · exact written_readIndex conversion
  unfold readVerb
  dsimp only
  rw [held]
  split
  · exact ⟨_, .note (by decide), rfl⟩
  · exact ⟨_, .percent, rfl⟩
  next verb rest other _ =>
    have noSign : ∀ badIndex : Bool, '%' ∉ (if badIndex then "(BADINDEX)" else "(MISSING)").toList := by decide
    have clean : '%' ∉ verb :: (if (if conversion.indexed then conversion else readIndex conversion).badIndex
        then "(BADINDEX)" else "(MISSING)").toList := by
      rw [mem_cons, not_or]
      exact ⟨fun percent => other percent.symm, noSign _⟩
    exact ⟨_, .note clean, by rw [append_assoc]; rfl⟩

theorem written_convert (chars : List Char) : Written (convert chars).1 := by
  obtain ⟨last, written, verb⟩ := written_readVerb (readUpToVerb chars)
  obtain ⟨second, isSecond, precision⟩ := written_readPrecision (readWidth (readIndex ⟨chars.dropWhile isFlag, false, false, []⟩))
  obtain ⟨first, isFirst, width⟩ := written_readWidth (readIndex ⟨chars.dropWhile isFlag, false, false, []⟩)
  rw [convert, verb, readUpToVerb, precision, width, written_readIndex, nil_append, append_assoc]
  have later : Written (second ++ last) := by
    rcases isSecond with rfl | rfl
    · exact written
    · exact Written.more (show '%' ∉ "(BADPREC)".toList by decide) written
  rcases isFirst with rfl | rfl
  · exact later
  · exact Written.more (show '%' ∉ "(BADWIDTH)".toList by decide) later

end Writing

theorem length_convert_le (chars : List Char) : (convert chars).2.length ≤ chars.length := by
  obtain ⟨converted, split, _⟩ := exists_converted chars
  have size := congrArg length split
  rw [length_append] at size
  omega

theorem format_eq {fuel : Nat} {chars : List Char} (enough : chars.length ≤ fuel) :
    format fuel chars = format chars.length chars := by
  induction fuel using Nat.strongRecOn generalizing chars with
  | ind fuel ih =>
    cases fuel with
    | zero => rw [length_eq_zero_iff.mp (Nat.le_zero.mp enough)]; rfl
    | succ fuel =>
      cases chars with
      | nil => rfl
      | cons char rest =>
        rw [length_cons] at enough ⊢
        have shorter := length_convert_le rest
        unfold format
        split
        · rw [ih fuel (by omega) (by omega : (convert rest).2.length ≤ fuel),
            ih rest.length (by omega) shorter]
        · rw [ih fuel (by omega) (by omega : rest.length ≤ fuel)]

def formatted (chars : List Char) : List Char :=
  format chars.length chars

theorem formatted_cons {char : Char} (rest : List Char) (other : char ≠ '%') :
    formatted (char :: rest) = char :: formatted rest := by
  rw [formatted, length_cons, format, if_neg other, formatted]

theorem formatted_percent (rest : List Char) : formatted ('%' :: rest) = (convert rest).1 ++ formatted (convert rest).2 := by
  rw [formatted, length_cons, format, if_pos rfl, format_eq (length_convert_le rest), formatted]

theorem formatted_append {text : List Char} (clean : '%' ∉ text) (rest : List Char) :
    formatted (text ++ rest) = text ++ formatted rest := by
  induction text with
  | nil => rfl
  | cons char text ih =>
    obtain ⟨other, clean⟩ := not_or.mp (mem_cons.not.mp clean)
    rw [cons_append, formatted_cons _ (Ne.symm other), ih clean, cons_append]

/-- The output never makes up for a piece of text that is ahead of it. -/
theorem formatted_ne_append {chars ahead : List Char} (nonempty : ahead ≠ []) : formatted chars ≠ ahead ++ chars := by
  induction size : chars.length using Nat.strongRecOn generalizing chars ahead with
  | ind length ih =>
    subst size
    intro same
    cases chars with
    | nil =>
      have none : [] = ahead ++ [] := same
      simp [nonempty] at none
    | cons char rest =>
      obtain ⟨first, ahead, rfl⟩ := exists_cons_of_ne_nil nonempty
      by_cases percent : char = '%'
      · subst percent
        rw [formatted_percent] at same
        obtain ⟨converted, split, consumed⟩ := exists_converted rest
        have shorter := length_convert_le rest
        -- Either the text ahead covers what is written for the conversion, or a percent sign is written after its start.
        rcases append_eq_append_iff.mp same with ⟨between, _, later⟩ | ⟨between, written, later⟩
        · have remains : formatted (convert rest).2 = between ++ '%' :: converted ++ (convert rest).2 := by
            rw [later, append_assoc, cons_append, ← split]
          exact ih _ (by rw [length_cons]; omega) (by simp) rfl remains
        · cases between with
          | nil =>
            have remains : formatted (convert rest).2 = '%' :: converted ++ (convert rest).2 := by
              rw [cons_append, ← split]
              exact later.symm
            exact ih _ (by rw [length_cons]; omega) (by simp) rfl remains
          | cons sign back =>
            rw [cons_append, cons.injEq] at later
            obtain ⟨rfl, later⟩ := later
            have tail := (written_convert rest).of_append (cons_ne_nil first ahead) written
            rcases tail.cases_cons with rfl | exclaims
            · refine ih _ (by rw [length_cons]; omega) (consumed fun none => ?_) rfl (later.symm.trans split)
              have ends := congrArg getLast? written
              rw [none, convert_nil, getLast?_append] at ends
              cases ends
            · obtain ⟨back, rfl⟩ := head?_eq_some_iff.mp exclaims
              have inside : '%' ∈ (first :: ahead ++ '%' :: '!' :: back).tail := by simp
              rw [← written, later, cons_append, convert_exclamation] at inside
              have noSign : '%' ∉ "%!!(MISSING)".toList.tail := by decide
              exact noSign inside
      · rw [formatted_cons rest percent, cons_append, cons.injEq] at same
        refine ih rest.length (by simp) (append_ne_nil_of_right_ne_nil ahead (cons_ne_nil char [])) rfl ?_
        rw [same.2, append_assoc]
        rfl

theorem append_formatted_ne {chars text : List Char} (nonempty : text ≠ []) (clean : '%' ∉ text) :
    text ++ formatted chars ≠ chars := by
  induction size : chars.length using Nat.strongRecOn generalizing chars with
  | ind length ih =>
    intro same
    have again : text ++ formatted (formatted chars) = formatted chars := by
      rw [← formatted_append clean, same]
    have shorter := congrArg List.length same
    have positive := length_pos_iff.mpr nonempty
    rw [length_append] at shorter
    exact ih _ (by omega) rfl again

theorem formatted_eq_self_iff (chars : List Char) : formatted chars = chars ↔ '%' ∉ chars := by
  constructor
  · intro same
    induction chars with
    | nil => exact not_mem_nil
    | cons char rest ih =>
      by_cases percent : char = '%'
      · subst percent
        rw [formatted_percent] at same
        obtain ⟨converted, split, consumed⟩ := exists_converted rest
        obtain ⟨back, output⟩ := (written_convert rest).exists_cons
        rw [output, cons_append, cons.injEq] at same
        have written := written_convert rest
        rw [output] at written
        rcases written.cases_cons with rfl | exclaims
        · refine absurd (same.2.trans split) (formatted_ne_append (consumed fun none => ?_))
          rw [none, convert_nil] at output
          cases output
        · obtain ⟨back, rfl⟩ := head?_eq_some_iff.mp exclaims
          obtain ⟨later, rfl⟩ : ∃ later, rest = '!' :: later := ⟨_, same.2.symm⟩
          rw [convert_exclamation] at output same
          obtain rfl : back = "!(MISSING)".toList := (cons.inj (cons.inj output).2).2.symm
          have ahead : "!(MISSING)".toList ++ formatted later = later := (cons.inj same.2).2
          exact absurd ahead (append_formatted_ne (by decide) (by decide))
      · rw [formatted_cons rest percent, cons.injEq] at same
        exact mem_cons.not.mpr (not_or.mpr ⟨Ne.symm percent, ih same.2⟩)
  · intro clean
    have whole := formatted_append clean []
    rwa [append_nil, show formatted [] = [] from rfl, append_nil] at whole

theorem sprintf_eq_self_iff (text : String) : sprintf text = text ↔ '%' ∉ text.toList := by
  rw [← formatted_eq_self_iff, ← String.toList_inj, sprintf, String.toList_ofList, formatted]

example : sprintf "100% done" = "100%!d(MISSING)one" := by decide

example : sprintf "a%%b%[1]*.c%" = "a%b%!(BADWIDTH)%!c(BADINDEX)%!(NOVERB)" := by decide

end OcneProvider.Data.Printf
