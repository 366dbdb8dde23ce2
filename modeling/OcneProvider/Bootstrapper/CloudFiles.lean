import OcneProvider.Api.Bootstrap
import OcneProvider.Data.Literal

/-! The files of a machine in the user data for cloud-init, and which contents are still the same when the section is
read as YAML. -/

namespace OcneProvider.Bootstrapper.CloudFiles
open Api.Bootstrap Data.Literal Data.Strings List

def templateYAMLIndent (i : Nat) (input : List Char) : List Char :=
  List.replicate i ' ' ++ ('\n' :: List.replicate i ' ').intercalate (input.splitOn '\n')

def header : Line := "write_files:".toList

def encodingKey (file : File) : Line := "encoding: \"".toList ++ file.encoding.toList ++ "\"".toList

def ownerKey (file : File) : Line := "owner: ".toList ++ file.owner.toList

def permissionsKey (file : File) : Line := "permissions: '".toList ++ file.permissions.toList ++ "'".toList

def appendKey : Line := "append: true".toList

def contentKey : Line := "content: |".toList

def pathLine (file : File) : Line := "-   path: ".toList ++ file.path.toList

/-- A key only there under a condition. -/
def keyIf (condition : Bool) (key : Line) : List Char :=
  if condition then key ++ '\n' :: indented 4 [] else []

def fileEntry (file : File) : List Char :=
  '\n' :: pathLine file ++ '\n' :: indented 4 [] ++
    keyIf (file.encoding != "") (encodingKey file) ++ keyIf (file.owner != "") (ownerKey file) ++
    keyIf (file.permissions != "") (permissionsKey file) ++ keyIf file.append appendKey ++
    contentKey ++ '\n' :: templateYAMLIndent 6 file.content.toList

def filesTemplate (files : List File) : List Char :=
  header ++ files.flatMap fileEntry

/-- The first key of an entry, a further key, or the content of its file. -/
inductive Token where
  | entry (key : Line)
  | key (key : Line)
  | content (value : List Char)
  deriving DecidableEq

/-- A line that neither starts an entry nor is a key of it makes the section invalid. -/
def tokens : Nat → List Line → Option (List Token)
  | _, [] => some []
  | 0, _ :: _ => none
  | fuel + 1, line :: rest =>
    if isBlank line then tokens fuel rest
    else if "-   ".toList <+: line then (tokens fuel rest).map (.entry (line.drop 4) :: ·)
    else if indentation line = 4 then
      if line.drop 4 = contentKey then
        match literal 4 rest with
        | none => none
        | some (value, after) => (tokens fuel after).map (.content value :: ·)
      else (tokens fuel rest).map (.key (line.drop 4) :: ·)
    else none

def readFiles (text : List Char) : Option (List Token) :=
  match lines text with
  | [] => none
  | first :: rest => if first = header then tokens rest.length rest else none

def given (condition : Bool) (key : Line) : List Line := if condition then [key] else []

def keys (file : File) : List Line :=
  given (file.encoding != "") (encodingKey file) ++ (given (file.owner != "") (ownerKey file) ++
    (given (file.permissions != "") (permissionsKey file) ++ given file.append appendKey))

def contentLines (file : File) : List Line :=
  (file.content.toList.splitOn '\n').map (indented 6)

def entryLines (file : File) : List Line :=
  pathLine file :: ((keys file).map (indented 4) ++
    (indented 4 contentKey :: contentLines file))

theorem joined_cons {first : Line} {rest : List Line} (more : rest ≠ []) :
    joined (first :: rest) = first ++ '\n' :: joined rest := by
  rw [joined, intercalate_cons_of_ne_nil more]
  simp [joined]

theorem templateYAMLIndent_eq (i : Nat) (input : List Char) :
    templateYAMLIndent i input = joined ((input.splitOn '\n').map (indented i)) := by
  rw [templateYAMLIndent]
  have nonempty := splitOn_ne_nil '\n' input
  generalize input.splitOn '\n' = parts at nonempty
  induction parts with
  | nil => exact absurd rfl nonempty
  | cons first rest ih =>
    cases rest with
    | nil => simp [joined, indented]
    | cons second others =>
      rw [map_cons, joined_cons (by simp), ← ih (by simp), intercalate_cons_cons]
      simp [indented]

theorem indented_eq (width : Nat) (line : Line) : indented width line = indented width [] ++ line := by
  simp [indented]

theorem joined_keyIf (condition : Bool) (key : Line) {text : List Char} {rest : List Line} (nonempty : rest ≠ [])
    (same : indented 4 [] ++ text = joined rest) :
    indented 4 [] ++ (keyIf condition key ++ text) = joined ((given condition key).map (indented 4) ++ rest) := by
  cases condition with
  | false => exact same
  | true =>
    simp only [given, keyIf, if_true, map_cons, map_nil, singleton_append]
    rw [joined_cons nonempty, ← same, indented_eq 4 key]
    simp only [append_assoc, cons_append]

theorem joined_content (file : File) :
    indented 4 [] ++ (contentKey ++ '\n' :: templateYAMLIndent 6 file.content.toList) =
      joined (indented 4 contentKey :: contentLines file) := by
  rw [joined_cons (by simp [contentLines]), templateYAMLIndent_eq, indented_eq 4 contentKey, append_assoc]
  rfl

theorem fileEntry_eq (file : File) : fileEntry file = '\n' :: joined (entryLines file) := by
  have all := joined_keyIf (file.encoding != "") (encodingKey file) (by simp) <|
    joined_keyIf (file.owner != "") (ownerKey file) (by simp) <|
    joined_keyIf (file.permissions != "") (permissionsKey file) (by simp) <|
    joined_keyIf file.append appendKey (by simp) (joined_content file)
  rw [fileEntry, entryLines, joined_cons (by simp)]
  simp only [keys, map_append, append_assoc, cons_append] at all ⊢
  rw [all]

theorem joined_files {before : List Line} (nonempty : before ≠ []) (files : List File) :
    joined before ++ files.flatMap fileEntry = joined (before ++ files.flatMap entryLines) := by
  induction files generalizing before with
  | nil => simp
  | cons file rest ih =>
    have one : joined before ++ fileEntry file = joined (before ++ entryLines file) := by
      rw [fileEntry_eq, joined, joined, joined, intercalate_append nonempty (by simp [entryLines])]
    rw [flatMap_cons, flatMap_cons, ← append_assoc, one, ih (by simp [nonempty]), append_assoc]

theorem filesTemplate_eq (files : List File) : filesTemplate files = joined (header :: files.flatMap entryLines) := by
  have all := joined_files (cons_ne_nil header []) files
  exact all

def Unbroken (text : List Char) : Prop := '\n' ∉ text ∧ '\r' ∉ text

instance (text : List Char) : Decidable (Unbroken text) := inferInstanceAs (Decidable (_ ∧ _))

theorem Unbroken.append {first second : List Char} (left : Unbroken first) (right : Unbroken second) :
    Unbroken (first ++ second) := by
  simp [Unbroken, left.1, left.2, right.1, right.2]

/-- The fields that the template writes into one line each are texts of one line. -/
structure OneLine (file : File) : Prop where
  path : Unbroken file.path.toList
  encoding : Unbroken file.encoding.toList
  owner : Unbroken file.owner.toList
  permissions : Unbroken file.permissions.toList

theorem forall_mem_keys {file : File} {property : Line → Prop} (encoding : property (encodingKey file))
    (owner : property (ownerKey file)) (permissions : property (permissionsKey file)) (append : property appendKey) :
    ∀ key ∈ keys file, property key := by
  have one (condition : Bool) (line : Line) (holds : property line) : ∀ key ∈ given condition line, property key := by
    intro key mem
    cases condition with
    | false => cases mem
    | true => exact mem_singleton.mp mem ▸ holds
  simp only [keys, forall_mem_append]
  exact ⟨one _ _ encoding, one _ _ owner, one _ _ permissions, one _ _ append⟩

theorem keys_unbroken {file : File} (oneLine : OneLine file) : ∀ key ∈ keys file, Unbroken key := by
  apply forall_mem_keys
  · exact Unbroken.append (Unbroken.append (by decide) oneLine.encoding) (by decide)
  · exact Unbroken.append (by decide) oneLine.owner
  · exact Unbroken.append (Unbroken.append (by decide) oneLine.permissions) (by decide)
  · decide

theorem entryLines_unbroken {file : File} (oneLine : OneLine file) (fine : Fine file.content.toList) :
    ∀ line ∈ entryLines file, Unbroken line := by
  have padding (width : Nat) : Unbroken (indented width []) := by
    simp [Unbroken, indented, mem_replicate]
  have content : ∀ line ∈ file.content.toList.splitOn '\n', Unbroken line := by
    intro line mem
    refine ⟨not_mem_of_mem_splitOn mem, fun here => ?_⟩
    obtain printed | feed := fine.chars '\r' (mem_of_mem_splitOn mem here)
    · exact absurd printed (by decide)
    · exact absurd feed (by decide)
  intro line mem
  simp only [entryLines, contentLines, mem_cons, mem_append, mem_map] at mem
  obtain rfl | ⟨key, among, rfl⟩ | rfl | ⟨part, among, rfl⟩ := mem
  · exact Unbroken.append (by decide) oneLine.path
  · exact (padding 4).append (keys_unbroken oneLine key among)
  · exact (padding 4).append (by decide)
  · exact (padding 6).append (content part among)

section RoundTrip

def entryTokens (file : File) : List Token :=
  .entry ((pathLine file).drop 4) :: ((keys file).map .key ++ [.content (unended file.content.toList)])

/-- Whatever is read as a content is one that a literal can hold. -/
theorem tokens_fine {fuel : Nat} {lines : List Line} {read : List Token} (done : tokens fuel lines = some read)
    {value : List Char} (mem : .content value ∈ read) : Fine value := by
  induction fuel generalizing lines read with
  | zero =>
    cases lines with
    | nil =>
      cases done
      cases mem
    | cons line rest => cases done
  | succ fuel ih =>
    cases lines with
    | nil =>
      cases done
      cases mem
    | cons line rest =>
      have next {token : Token} {after : List Line} (own : token = .content value → Fine value)
          (done : (tokens fuel after).map (token :: ·) = some read) : Fine value := by
        obtain ⟨later, read, rfl⟩ := Option.map_eq_some_iff.mp done
        obtain same | among := mem_cons.mp mem
        · exact own same.symm
        · exact ih read among
      rw [tokens] at done
      split_ifs at done with blank starts indent content
      · exact ih done mem
      · exact next (fun same => by cases same) done
      · split at done
        next => cases done
        next held after found =>
          refine next (fun same => ?_) done
          cases same
          exact literal_fine found
      · exact next (fun same => by cases same) done

variable {fuel : Nat} {rest : List Line}

theorem indented_cases (key : Line) {char : Char} (starts : key.head? = some char) (space : char ≠ ' ') :
    isBlank (indented 4 key) = false ∧ ¬ "-   ".toList <+: indented 4 key ∧ indentation (indented 4 key) = 4 ∧
      (indented 4 key).drop 4 = key := by
  have nonempty : key ≠ [] := by
    rintro rfl
    cases starts
  obtain ⟨printed, unindented⟩ := isBlank_of_head nonempty (by simpa [starts] using space)
  refine ⟨(isBlank_indented key).trans printed, ?_, by rw [indentation_indented, unindented], rfl⟩
  intro begins
  exact absurd (cons_prefix_cons.mp begins).1 (by decide)

theorem tokens_key {key : Line} {char : Char} (starts : key.head? = some char) (space : char ≠ ' ')
    (other : char ≠ 'c') : tokens (fuel + 1) (indented 4 key :: rest) = (tokens fuel rest).map (.key key :: ·) := by
  obtain ⟨printed, inner, depth, unpadded⟩ := indented_cases key starts space
  have differs : key ≠ contentKey := by
    rintro rfl
    exact other (Option.some.inj starts).symm
  rw [tokens, if_neg (by simp [printed]), if_neg inner, if_pos depth, unpadded, if_neg differs]

theorem tokens_keys {keys : List Line}
    (starts : ∀ key ∈ keys, ∃ char, key.head? = some char ∧ char ≠ ' ' ∧ char ≠ 'c') :
    tokens (fuel + keys.length) (keys.map (indented 4) ++ rest) = (tokens fuel rest).map (keys.map .key ++ ·) := by
  induction keys with
  | nil => simp
  | cons first more ih =>
    obtain ⟨here, later⟩ := forall_mem_cons.mp starts
    obtain ⟨char, begins, space, other⟩ := here
    rw [length_cons, ← Nat.add_assoc, map_cons, cons_append, tokens_key begins space other, ih later,
      Option.map_map]
    rfl

variable (file : File) {files : List File}

theorem keys_start : ∀ key ∈ keys file, ∃ char, key.head? = some char ∧ char ≠ ' ' ∧ char ≠ 'c' := by
  apply forall_mem_keys
  · exact ⟨'e', rfl, by decide, by decide⟩
  · exact ⟨'o', rfl, by decide, by decide⟩
  · exact ⟨'p', rfl, by decide, by decide⟩
  · exact ⟨'a', rfl, by decide, by decide⟩

theorem tokens_path :
    tokens (fuel + 1) (pathLine file :: rest) = (tokens fuel rest).map (.entry ((pathLine file).drop 4) :: ·) := by
  have begins : "-   ".toList <+: pathLine file := ⟨"path: ".toList ++ file.path.toList, rfl⟩
  have printed : isBlank (pathLine file) = false := rfl
  rw [tokens, if_neg (by simp [printed]), if_pos begins]

section

variable (ends : ∀ line ∈ rest.head?, isBlank line = false ∧ indentation line ≤ 4)
include ends

theorem tokens_content {file : File} (fine : Fine file.content.toList) :
    tokens (fuel + 1) (indented 4 contentKey :: (contentLines file ++ rest)) =
      (tokens fuel rest).map (.content (unended file.content.toList) :: ·) := by
  obtain ⟨printed, inner, depth, unpadded⟩ := indented_cases contentKey rfl (by decide : 'c' ≠ ' ')
  have read : literal 4 (contentLines file ++ rest) = some (unended file.content.toList, rest) :=
    literal_indented ends fine (by decide)
  rw [tokens, if_neg (by simp [printed]), if_neg inner, if_pos depth, unpadded]
  rw [if_pos rfl]
  simp only [read]

/-- Each line of the entries is read at most once. -/
theorem tokens_entry {file : File} (fine : Fine file.content.toList) :
    tokens (fuel + 1 + (keys file).length + 1) (entryLines file ++ rest) =
      (tokens fuel rest).map (entryTokens file ++ ·) := by
  rw [entryLines, cons_append, tokens_path, append_assoc, tokens_keys (keys_start file), cons_append,
    tokens_content ends fine, Option.map_map, Option.map_map]
  congr 1
  funext read
  simp [entryTokens]

end

theorem length_entryLines : 1 + (keys file).length + 1 ≤ (entryLines file).length := by
  simp only [entryLines, length_cons, length_append, length_map]
  omega

theorem tokens_files (fine : ∀ file ∈ files, Fine file.content.toList)
    (enough : (files.flatMap entryLines).length ≤ fuel) :
    tokens fuel (files.flatMap entryLines) = some (files.flatMap entryTokens) := by
  induction files generalizing fuel with
  | nil => simp [tokens]
  | cons file others ih =>
    obtain ⟨here, later⟩ := forall_mem_cons.mp fine
    have ends : ∀ line ∈ (others.flatMap entryLines).head?, isBlank line = false ∧ indentation line ≤ 4 := by
      intro line first
      cases others with
      | nil => cases first
      | cons next more =>
        cases first
        exact ⟨rfl, Nat.zero_le 4⟩
    rw [flatMap_cons, length_append] at enough
    obtain ⟨left, rfl⟩ := Nat.exists_eq_add_of_le
      ((length_entryLines file).trans ((Nat.le_add_right _ _).trans enough))
    rw [flatMap_cons, flatMap_cons,
      (by omega : 1 + (keys file).length + 1 + left = left + 1 + (keys file).length + 1), tokens_entry ends here]
    have shorter := length_entryLines file
    rw [ih later (by omega)]
    rfl

theorem lines_filesTemplate (oneLine : ∀ file ∈ files, OneLine file) (fine : ∀ file ∈ files, Fine file.content.toList) :
    lines (filesTemplate files) = header :: files.flatMap entryLines := by
  have unbroken : ∀ line ∈ header :: files.flatMap entryLines, Unbroken line := by
    rw [forall_mem_cons]
    refine ⟨by decide, fun line mem => ?_⟩
    obtain ⟨file, among, here⟩ := mem_flatMap.mp mem
    exact entryLines_unbroken (oneLine file among) (fine file among) line here
  rw [filesTemplate_eq, lines_eq_splitOn, splitOn_joined (cons_ne_nil _ _) fun line mem =>
    (unbroken line mem).1]
  intro returns
  obtain feed | ⟨line, among, here⟩ := mem_joined returns
  · exact absurd feed (by decide)
  · exact (unbroken line among).2 here

theorem readFiles_fine {text : List Char} {read : List Token} (done : readFiles text = some read) {value : List Char}
    (mem : .content value ∈ read) : Fine value := by
  rw [readFiles] at done
  split at done
  next => cases done
  next =>
    split_ifs at done
    exact tokens_fine done mem

/-- A section whose other texts are of one line is read as it was written exactly if a literal can hold every content. -/
theorem content_survives_iff (files : List File) (oneLine : ∀ file ∈ files, OneLine file) :
    readFiles (filesTemplate files) = some (files.flatMap entryTokens) ↔
      ∀ file ∈ files, Fine file.content.toList := by
  constructor
  · intro done file among
    rw [← fine_unended]
    apply readFiles_fine done
    exact mem_flatMap.mpr ⟨file, among, by simp [entryTokens]⟩
  · intro fine
    rw [readFiles, lines_filesTemplate oneLine fine]
    exact (if_pos rfl).trans (tokens_files fine le_rfl)

def plainFile (content : String) : File := ⟨"/etc/conf", "", "", "", false, content, none⟩

theorem plain_oneLine (content : String) : OneLine (plainFile content) := by
  have path : Unbroken "/etc/conf".toList := by decide
  have nothing : Unbroken "".toList := by decide
  exact ⟨path, nothing, nothing, nothing⟩

/-- The lines after the first may be empty or begin with spaces. -/
theorem nested_content_survives : let files := [plainFile "key:\n\n  nested: true\n", plainFile ""]
    readFiles (filesTemplate files) = some (files.flatMap entryTokens) := by
  refine (content_survives_iff _ ?_).mpr ?_
  · simp only [forall_mem_cons, not_mem_nil, false_implies, implies_true, and_true]
    exact ⟨plain_oneLine _, plain_oneLine _⟩
  · simp only [forall_mem_cons, not_mem_nil, false_implies, implies_true, and_true]
    exact ⟨by decide +kernel, by decide +kernel⟩

/-- Spaces at the start are lost or invalid, and what follows a carriage return becomes a key. -/
theorem content_lost : let entry := Token.entry "path: /etc/conf".toList
    readFiles (filesTemplate [plainFile "  a\n  b"]) = some [entry, .content "a\nb".toList] ∧
      readFiles (filesTemplate [plainFile "  a\nb"]) = none ∧
      readFiles (filesTemplate [plainFile "a\r    owner: b"]) =
        some [entry, .content "a".toList, .key "owner: b".toList] := by
  decide +kernel

end RoundTrip

end OcneProvider.Bootstrapper.CloudFiles
