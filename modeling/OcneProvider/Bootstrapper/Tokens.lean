import OcneProvider.Api.Bootstrap
import OcneProvider.Data.Regex
import OcneProvider.Data.Strings

/-! Bootstrap tokens and their JSON form. A token is written in quotes, and it is read after all quotes are removed. -/

namespace OcneProvider.Bootstrapper.Tokens
open Api.Meta Api.Bootstrap Data.Regex Data.Strings List

def isTokenChar (char : Char) : Bool :=
  ('a' ≤ char && char ≤ 'z') || ('0' ≤ char && char ≤ '9')

def bootstrapTokenPattern : String := "\\A([a-z0-9]\x7b6\x7d)\\.([a-z0-9]\x7b16\x7d)\\z"

def bootstrapTokenRegexp : Pattern Char :=
  .seq (.group ((Expr.char isTokenChar).andMore 5))
    (.seq (.plain (.char (· == '.'))) (.group ((Expr.char isTokenChar).andMore 15)))

-- Which characters beyond the ASCII ones can be printed.
variable (isPrint : Char → Bool)

def newBootstrapTokenString (token : String) : Except Err BootstrapTokenString :=
  match bootstrapTokenRegexp.submatches token.toList with
  | some [id, secret] => .ok ⟨String.ofList id, String.ofList secret⟩
  | _ => .error (errorf ("the bootstrap token " ++ quote isPrint token ++ " was not of the form " ++
      quote isPrint bootstrapTokenPattern))

def tokenFromIDAndSecret (id secret : String) : String := id ++ "." ++ secret

def BootstrapTokenString.string (bts : BootstrapTokenString) : String :=
  if bts.id ≠ "" ∧ bts.secret ≠ "" then tokenFromIDAndSecret bts.id bts.secret else ""

def marshalJSON (bts : BootstrapTokenString) : String := quote isPrint (BootstrapTokenString.string bts)

/-- An empty input leaves the token as it is. -/
def unmarshalJSON (bts : BootstrapTokenString) (b : String) : Except Err BootstrapTokenString :=
  if b = "" then .ok bts
  else newBootstrapTokenString isPrint (String.ofList (b.toList.filter (· ≠ '"')))

section Reading

variable {isPrint} {id secret text : List Char} {captures : List (List Char)} {token : String}
  {bts before : BootstrapTokenString}

def Word (length : Nat) (text : List Char) : Prop :=
  text.length = length ∧ ∀ char ∈ text, isTokenChar char = true

theorem matches_iff : bootstrapTokenRegexp.Matches text captures ↔
    ∃ id secret, captures = [id, secret] ∧ text = id ++ '.' :: secret ∧ Word 6 id ∧ Word 16 secret := by
  simp only [bootstrapTokenRegexp, Pattern.Matches, mem_andMore_char, mem_char, beq_iff_eq]
  constructor
  · rintro ⟨id, _, _, _, rfl, rfl, ⟨isId, rfl⟩, _, secret, _, _, rfl, rfl, ⟨⟨_, rfl, rfl⟩, rfl⟩, isSecret, rfl⟩
    exact ⟨id, secret, rfl, rfl, isId, isSecret⟩
  · rintro ⟨id, secret, rfl, rfl, isId, isSecret⟩
    exact ⟨id, '.' :: secret, [id], [secret], rfl, rfl, ⟨isId, rfl⟩, ['.'], secret, [], [secret], rfl, rfl,
      ⟨⟨'.', rfl, rfl⟩, rfl⟩, isSecret, rfl⟩

theorem submatches_eq_some_iff : bootstrapTokenRegexp.submatches text = some captures ↔
    ∃ id secret, captures = [id, secret] ∧ text = id ++ '.' :: secret ∧ Word 6 id ∧ Word 16 secret := by
  constructor
  · intro found
    exact matches_iff.mp (Pattern.matches_of_submatches found)
  · intro parts
    obtain ⟨others, found⟩ := Pattern.exists_submatches (matches_iff.mpr parts)
    obtain ⟨id, secret, rfl, rfl, isId, isSecret⟩ := parts
    -- The part before the dot has a fixed length, so there is one way only to match.
    obtain ⟨otherId, otherSecret, rfl, same, isOtherId, -⟩ := matches_iff.mp (Pattern.matches_of_submatches found)
    obtain ⟨rfl, rest⟩ := append_inj same (isId.1.trans isOtherId.1.symm)
    obtain ⟨-, rfl⟩ := cons.inj rest
    exact found

theorem newBootstrapTokenString_eq_ok_iff : newBootstrapTokenString isPrint token = .ok bts ↔
    token = tokenFromIDAndSecret bts.id bts.secret ∧ Word 6 bts.id.toList ∧ Word 16 bts.secret.toList := by
  unfold newBootstrapTokenString
  constructor
  · intro read
    split at read
    next id secret found =>
      cases read
      obtain ⟨_, _, same, split, isId, isSecret⟩ := submatches_eq_some_iff.mp found
      cases same
      refine ⟨?_, by simpa using isId, by simpa using isSecret⟩
      apply String.toList_injective
      simp [tokenFromIDAndSecret, split]
    next => cases read
  · rintro ⟨rfl, isId, isSecret⟩
    have found : bootstrapTokenRegexp.submatches (tokenFromIDAndSecret bts.id bts.secret).toList =
        some [bts.id.toList, bts.secret.toList] :=
      submatches_eq_some_iff.mpr ⟨_, _, rfl, by simp [tokenFromIDAndSecret], isId, isSecret⟩
    rw [found]
    simp

end Reading

section Json

def isJsonBody : List Char → Bool
  | [] => true
  | '\\' :: 'u' :: first :: second :: third :: fourth :: rest =>
    [first, second, third, fourth].all (fun char => char.isDigit || ('a' ≤ char && char ≤ 'f') || ('A' ≤ char && char ≤ 'F')) &&
      isJsonBody rest
  | '\\' :: char :: rest => char ∈ ['"', '\\', '/', 'b', 'f', 'n', 'r', 't'] && isJsonBody rest
  | char :: rest => char ≠ '"' && char ≠ '\\' && 0x20 ≤ char.toNat && isJsonBody rest

def IsJsonString (text : String) : Prop :=
  ∃ body, text = "\"" ++ String.ofList body ++ "\"" ∧ isJsonBody body = true

variable {isPrint : Char → Bool} {body : List Char} {bts before : BootstrapTokenString} {text : String}

theorem quote_notMem (valid : isJsonBody body = true) (unescaped : '\\' ∉ body) : '"' ∉ body := by
  induction body using isJsonBody.induct with
  | case1 => simp
  | case2 => simp at unescaped
  | case3 => simp at unescaped
  | case4 char rest _ _ ih =>
    rw [mem_cons, not_or] at unescaped
    rw [isJsonBody] at valid
    · simp only [Bool.and_eq_true, decide_eq_true_eq] at valid
      rw [mem_cons, not_or]
      exact ⟨Ne.symm valid.1.1.1, ih valid.2 unescaped.2⟩
    · assumption
    · assumption

theorem plain_of_isTokenChar {char : Char} (isChar : isTokenChar char = true) : Plain char := by
  have range : (97 ≤ char.toNat ∧ char.toNat ≤ 122) ∨ (48 ≤ char.toNat ∧ char.toNat ≤ 57) := by
    simpa [isTokenChar, Char.le_def, UInt32.le_iff_toNat_le] using isChar
  refine ⟨by omega, by omega, ?_, ?_⟩
  · rintro rfl
    revert range
    decide
  · rintro rfl
    revert range
    decide

theorem plain_token (isId : Word 6 bts.id.toList) (isSecret : Word 16 bts.secret.toList) :
    ∀ char ∈ (tokenFromIDAndSecret bts.id bts.secret).toList, Plain char := by
  intro char mem
  rw [tokenFromIDAndSecret, String.toList_append, String.toList_append, mem_append, mem_append] at mem
  rcases mem with (inId | isDot) | inSecret
  · exact plain_of_isTokenChar (isId.2 char inId)
  · obtain rfl : char = '.' := by simpa using isDot
    exact ⟨by decide, by decide, by decide, by decide⟩
  · exact plain_of_isTokenChar (isSecret.2 char inSecret)

theorem ne_empty_of_word {length : Nat} (word : Word (length + 1) text.toList) : text ≠ "" := by
  rintro rfl
  cases word.1

theorem marshalJSON_token (isId : Word 6 bts.id.toList) (isSecret : Word 16 bts.secret.toList) :
    marshalJSON isPrint bts = "\"" ++ tokenFromIDAndSecret bts.id bts.secret ++ "\"" := by
  rw [marshalJSON, BootstrapTokenString.string, if_pos ⟨ne_empty_of_word isId, ne_empty_of_word isSecret⟩]
  exact quote_plain (plain_token isId isSecret)

theorem filter_quotes (plain : '"' ∉ body) : ("\"" ++ String.ofList body ++ "\"").toList.filter (· ≠ '"') = body := by
  have kept : body.filter (· ≠ '"') = body := by
    rw [filter_eq_self]
    intro char mem
    rw [decide_eq_true_eq]
    rintro rfl
    exact plain mem
  simpa using kept

theorem inQuotes_ne_empty : "\"" ++ text ++ "\"" ≠ "" := by
  intro same
  have length := congrArg String.length same
  simp at length

theorem unmarshalJSON_quoted (plain : '"' ∉ body) : unmarshalJSON isPrint before ("\"" ++ String.ofList body ++ "\"") =
      newBootstrapTokenString isPrint (String.ofList body) := by
  rw [unmarshalJSON, if_neg inQuotes_ne_empty, filter_quotes plain]

theorem unmarshalJSON_marshalJSON (made : newBootstrapTokenString isPrint text = .ok bts) :
    unmarshalJSON isPrint before (marshalJSON isPrint bts) = .ok bts := by
  obtain ⟨rfl, isId, isSecret⟩ := newBootstrapTokenString_eq_ok_iff.mp made
  have plain : '"' ∉ (tokenFromIDAndSecret bts.id bts.secret).toList := fun member =>
    (plain_token isId isSecret '"' member).2.2.1 rfl
  rw [marshalJSON_token isId isSecret, ← String.ofList_toList (s := tokenFromIDAndSecret bts.id bts.secret),
    unmarshalJSON_quoted plain, String.ofList_toList]
  exact made

theorem marshalJSON_unmarshalJSON (isString : IsJsonString text)
    (accepted : unmarshalJSON isPrint before text = .ok bts) : marshalJSON isPrint bts = text := by
  obtain ⟨body, rfl, valid⟩ := isString
  rw [unmarshalJSON, if_neg inQuotes_ne_empty] at accepted
  obtain ⟨token, isId, isSecret⟩ := newBootstrapTokenString_eq_ok_iff.mp accepted
  have chars := plain_token isId isSecret
  rw [← token] at chars
  have unescaped : '\\' ∉ body := by
    intro mem
    have kept : '\\' ∈ (String.ofList (("\"" ++ String.ofList body ++ "\"").toList.filter (· ≠ '"'))).toList := by
      simpa using mem
    exact (chars _ kept).2.2.2 rfl
  rw [filter_quotes (quote_notMem valid unescaped)] at token
  rw [marshalJSON_token isId isSecret, ← token]

theorem unmarshalJSON_zero : unmarshalJSON isPrint before (marshalJSON isPrint ⟨"", ""⟩) ≠ .ok bts := by
  have written : marshalJSON isPrint ⟨"", ""⟩ = "\"" ++ String.ofList [] ++ "\"" :=
    quote_plain (by simp [BootstrapTokenString.string])
  rw [written, unmarshalJSON_quoted not_mem_nil]
  intro read
  obtain ⟨token, -⟩ := newBootstrapTokenString_eq_ok_iff.mp read
  have length := congrArg (length ∘ String.toList) token
  simp [tokenFromIDAndSecret] at length

/-- Every token but the empty one is restored, and what is accepted is written as it was. -/
theorem token_roundTrip_iff (isPrint : Char → Bool) (bts before : BootstrapTokenString)
    (known : bts = ⟨"", ""⟩ ∨ ∃ token, newBootstrapTokenString isPrint token = .ok bts) :
    (unmarshalJSON isPrint before (marshalJSON isPrint bts) = .ok bts ↔ bts ≠ ⟨"", ""⟩) ∧
      ∀ text after, IsJsonString text → unmarshalJSON isPrint before text = .ok after →
        marshalJSON isPrint after = text := by
  refine ⟨?_, fun text after => marshalJSON_unmarshalJSON⟩
  constructor
  · rintro read rfl
    exact unmarshalJSON_zero read
  · intro nonzero
    obtain ⟨token, made⟩ := known.resolve_left nonzero
    exact unmarshalJSON_marshalJSON made

private def ascii : Char → Bool := fun _ => false

theorem token_restored : newBootstrapTokenString ascii "abcdef.0123456789abcdef" = .ok ⟨"abcdef", "0123456789abcdef"⟩ ∧
    unmarshalJSON ascii ⟨"", ""⟩ (marshalJSON ascii ⟨"abcdef", "0123456789abcdef"⟩) =
      .ok ⟨"abcdef", "0123456789abcdef"⟩ := by
  have made : newBootstrapTokenString ascii "abcdef.0123456789abcdef" = .ok ⟨"abcdef", "0123456789abcdef"⟩ := by decide
  exact ⟨made, (token_roundTrip_iff ascii ⟨"abcdef", "0123456789abcdef"⟩ ⟨"", ""⟩ (.inr ⟨_, made⟩)).1.mpr (by decide)⟩

theorem empty_token_refused : marshalJSON ascii ⟨"", ""⟩ = "\"\"" ∧ unmarshalJSON ascii ⟨"", ""⟩ "\"\"" = .error (errorf
      "the bootstrap token \"\" was not of the form \"\\\\A([a-z0-9]\x7b6\x7d)\\\\.([a-z0-9]\x7b16\x7d)\\\\z\"") := by
  decide

end Json

end OcneProvider.Bootstrapper.Tokens
