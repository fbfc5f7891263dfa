import Mathlib.Data.List.TakeWhile
import ThreeAddress.Token.Scan

/-!
The spelling of tokens. `TokenKind.Written` says how each token is spelled and what may come after
it, without reference to how it is read. Reading recognizes a token exactly where one is written,
and takes up exactly its spelling.
-/

namespace ThreeAddress

namespace Text

theorem alpha_code {c : Char} (alpha : c.isAlpha = true) :
    65 ≤ c.toNat ∧ c.toNat ≤ 90 ∨ 97 ≤ c.toNat ∧ c.toNat ≤ 122 := by
  rcases Bool.or_eq_true_iff.1 alpha with upper | lower
  · exact .inl (of_decide_eq_true upper)
  · obtain ⟨above, below⟩ := Bool.and_eq_true_iff.1 lower
    exact .inr ⟨of_decide_eq_true above, of_decide_eq_true below⟩

theorem digit_code {c : Char} (digit : c.isDigit = true) : 48 ≤ c.toNat ∧ c.toNat ≤ 57 := by
  obtain ⟨above, below⟩ := Bool.and_eq_true_iff.1 digit
  exact ⟨of_decide_eq_true above, of_decide_eq_true below⟩

theorem start_code {c : Char} (start : isIdentifierStart c = true) :
    65 ≤ c.toNat ∧ c.toNat ≤ 90 ∨ 97 ≤ c.toNat ∧ c.toNat ≤ 122 ∨ c.toNat = 95 := by
  rcases Bool.or_eq_true_iff.1 start with alpha | underscore
  · have code := alpha_code alpha
    omega
  · rw [eq_of_beq underscore]
    decide

theorem part_code {c : Char} (part : isIdentifierPart c = true) :
    65 ≤ c.toNat ∧ c.toNat ≤ 90 ∨ 97 ≤ c.toNat ∧ c.toNat ≤ 122 ∨ 48 ≤ c.toNat ∧ c.toNat ≤ 57 ∨
      c.toNat = 95 := by
  rcases Bool.or_eq_true_iff.1 part with letter | underscore
  · rcases Bool.or_eq_true_iff.1 letter with alpha | digit
    · have code := alpha_code alpha
      omega
    · have code := digit_code digit
      omega
  · rw [eq_of_beq underscore]
    decide

theorem blank_code {c : Char} (blank : isBlank c = true) : c.toNat ≤ 32 ∨ 128 ≤ c.toNat := by
  simp only [isBlank, Bool.or_eq_true, Bool.and_eq_true, decide_eq_true_eq, beq_iff_eq] at blank
  omega

theorem blank_not_part {c : Char} (blank : isBlank c = true) : isIdentifierPart c = false := by
  rw [← Bool.not_eq_true]
  intro part
  have low := blank_code blank
  have high := part_code part
  omega

theorem digit_is_part {c : Char} (digit : c.isDigit = true) : isIdentifierPart c = true := by
  simp [isIdentifierPart, Char.isAlphanum, digit]

theorem blank_not_digit {c : Char} (blank : isBlank c = true) : c.isDigit = false := by
  rw [← Bool.not_eq_true]
  intro digit
  have other := blank_not_part blank
  rw [digit_is_part digit] at other
  cases other

theorem blank_ne {c other : Char} (blank : isBlank c = true)
    (printable : 32 < other.toNat ∧ other.toNat < 128) : c ≠ other := by
  rintro rfl
  have code := blank_code blank
  omega

theorem is_identifier_cons {name : List Char} (valid : isIdentifier name = true) :
    ∃ first rest, name = first :: rest ∧ isIdentifierStart first = true ∧
      ∀ c ∈ name, isIdentifierPart c = true := by
  cases name with
  | nil => cases valid
  | cons first rest =>
      rw [isIdentifier, Bool.and_eq_true, List.all_eq_true] at valid
      refine ⟨first, rest, rfl, valid.1, ?_⟩
      intro c member
      rcases List.mem_cons.1 member with rfl | later
      · exact is_identifier_part_of_start valid.1
      · exact valid.2 c later

theorem bare_name_of_identifier {name : String} (valid : isIdentifier name.toList = true) :
    bareName name = name := by
  obtain ⟨first, rest, whole, start, -⟩ := is_identifier_cons valid
  unfold bareName
  split
  · rename_i later found
    rw [whole] at found
    cases found
    cases start
  · rfl

theorem not_mem_of_identifier {mark : Char} {name : List Char} (valid : isIdentifier name = true)
    (other : isIdentifierPart mark = false) : mark ∉ name := by
  obtain ⟨first, rest, -, -, parts⟩ := is_identifier_cons valid
  intro member
  rw [parts mark member] at other
  cases other

theorem count_line_breaks_of_identifier {name : List Char} (valid : isIdentifier name = true) :
    name.count '\n' = 0 := by
  rw [List.count_eq_zero]
  exact not_mem_of_identifier valid (by decide)

def Ends (letter : Char → Bool) (after : List Char) : Prop := ∀ c ∈ after.head?, letter c = false

theorem take_while_of_ends {letter : Char → Bool} {run after : List Char}
    (inside : ∀ c ∈ run, letter c = true) (ends : Ends letter after) :
    (run ++ after).takeWhile letter = run := by
  rw [List.takeWhile_append_of_pos inside]
  cases after with
  | nil => simp
  | cons c after => simp [ends c rfl]

theorem drop_while_of_ends {letter : Char → Bool} {run after : List Char}
    (inside : ∀ c ∈ run, letter c = true) (ends : Ends letter after) :
    (run ++ after).dropWhile letter = after := by
  rw [List.dropWhile_append_of_pos inside]
  cases after with
  | nil => rfl
  | cons c after => simp [ends c rfl]

theorem take_identifier {name after : List Char} (valid : isIdentifier name = true)
    (ends : Ends isIdentifierPart after) : (name ++ after).takeWhile isIdentifierPart = name := by
  obtain ⟨first, rest, -, -, parts⟩ := is_identifier_cons valid
  exact take_while_of_ends parts ends

theorem ends_drop_while (letter : Char → Bool) (text : List Char) :
    Ends letter (text.dropWhile letter) := by
  intro c member
  have found := List.head?_dropWhile_not letter text
  rw [Option.mem_def.1 member] at found
  exact found

end Text

theorem Keyword.of_spelling_eq_none_iff {word : String} :
    ofSpelling? word = none ↔ ∀ keyword : Keyword, keyword.spelling ≠ word := by
  rw [Option.eq_none_iff_forall_ne_some]
  apply forall_congr'
  intro keyword
  rw [Ne, of_spelling_eq_some_iff]

theorem Keyword.is_identifier_spelling (keyword : Keyword) :
    Text.isIdentifier keyword.spelling.toList = true := by
  cases keyword <;> decide

/-- How a token is spelled, and what may come right after it. -/
inductive TokenKind.Written : TokenKind → List Char → List Char → Prop where
  | identifier {name : String} {after : List Char} (valid : Text.isIdentifier name.toList = true)
      (free : ∀ word : Keyword, word.spelling ≠ name) (ends : Text.Ends Text.isIdentifierPart after)
      (noLabel : after.head? = some ':' → after.take 2 = [':', '=']) :
      Written (.identifier name) name.toList after
  | globalRef {name : String} {after : List Char} (valid : Text.isIdentifier name.toList = true)
      (ends : Text.Ends Text.isIdentifierPart after) :
      Written (.globalRef name) ('@' :: name.toList) after
  | label {name : String} {after : List Char} (valid : Text.isIdentifier name.toList = true)
      (free : ∀ word : Keyword, word.spelling ≠ name) (alone : after.head? ≠ some '=') :
      Written (.label name) (name.toList ++ [':']) after
  | number {value : Integer} {digits after : List Char} (nonempty : digits ≠ [])
      (decimal : ∀ c ∈ digits, c.isDigit = true) (ends : Text.Ends Char.isDigit after)
      (same : value.toInt = Nat.ofDigitChars 10 digits 0) : Written (.number value) digits after
  | string {contents : String} {after : List Char} (closed : Lexeme.quote ∉ contents.toList) :
      Written (.string contents) (Lexeme.quote :: (contents.toList ++ [Lexeme.quote])) after
  | assign {after : List Char} : Written .assign [':', '='] after
  | operator (op : BinaryOperator) {after : List Char}
      (longest : op = .lt ∨ op = .gt → after.head? ≠ some '=') :
      Written (.operator op) op.symbol.toList after
  | keyword {word : Keyword} {after : List Char} (ends : Text.Ends Text.isIdentifierPart after) :
      Written (.keyword word) word.spelling.toList after

/-- A token stays written when what follows it changes only behind the characters that matter: the
next one and, for an identifier, a `:=`. -/
theorem TokenKind.Written.with_after {kind : TokenKind} {lexeme after other : List Char}
    (written : kind.Written lexeme after) (heads : ∀ c, other.head? = some c → after.head? = some c)
    (assigns : other.head? = some ':' → after.take 2 = [':', '='] → other.take 2 = [':', '=']) :
    kind.Written lexeme other := by
  have ends_other : ∀ {letter}, Text.Ends letter after → Text.Ends letter other := by
    intro letter ends c member
    exact ends c (heads c member)
  cases written with
  | identifier valid free ends noLabel =>
      refine .identifier valid free (ends_other ends) fun colon => ?_
      exact assigns colon (noLabel (heads ':' colon))
  | globalRef valid ends => exact .globalRef valid (ends_other ends)
  | label valid free alone => exact .label valid free fun equals => alone (heads '=' equals)
  | number nonempty decimal ends same => exact .number nonempty decimal (ends_other ends) same
  | string closed => exact .string closed
  | assign => exact .assign
  | operator op longest =>
      exact .operator op fun short equals => longest short (heads '=' equals)
  | keyword ends => exact .keyword (ends_other ends)

def TokenKind.breaks : TokenKind → Nat
  | .string contents => contents.toList.count '\n'
  | _ => 0

theorem TokenKind.Written.breaks_eq {kind : TokenKind} {lexeme after : List Char}
    (written : kind.Written lexeme after) : kind.breaks = lexeme.count '\n' := by
  cases written with
  | identifier valid free ends noLabel =>
      rw [Text.count_line_breaks_of_identifier valid]
      rfl
  | globalRef valid ends =>
      simp [breaks, Text.count_line_breaks_of_identifier valid]
  | label valid free alone =>
      simp [breaks, Text.count_line_breaks_of_identifier valid]
  | number nonempty decimal ends same =>
      have none : '\n' ∉ lexeme := fun member => absurd (decimal _ member) (by decide)
      rw [List.count_eq_zero.2 none]
      rfl
  | string closed => simp [breaks, Lexeme.quote]
  | assign => rfl
  | operator op longest => cases op <;> rfl
  | @keyword word _ ends => cases word <;> rfl

theorem Token.end_line_eq {token : Token}
    (bounded : token.line + token.kind.breaks ≤ lastLine) :
    token.endLine = token.line + token.kind.breaks := by
  obtain ⟨kind, span⟩ := token
  cases kind with
  | string contents => exact Nat.min_eq_left bounded
  | identifier | globalRef | label | number | assign | operator | keyword => rfl

namespace Lexeme

theorem ne_of_code {c other : Char} (different : c.toNat ≠ other.toNat) : c ≠ other := by
  rintro rfl
  exact different rfl

theorem read_of_start {first : Char} {rest : List Char}
    (start : Text.isIdentifierStart first = true) : read first rest = readWord (first :: rest) := by
  have code := Text.start_code start
  have notQuote : first ≠ quote := ne_of_code (by show first.toNat ≠ 39; omega)
  have notAt : first ≠ '@' := ne_of_code (by show first.toNat ≠ 64; omega)
  have notDigit : first.isDigit = false := by
    rw [← Bool.not_eq_true]
    intro digit
    have other := Text.digit_code digit
    omega
  rw [read, if_neg (by simpa using notQuote), if_neg (by simpa using notAt),
    if_neg (by simp [notDigit]), if_pos start]

theorem read_of_digit {first : Char} {rest : List Char} (digit : first.isDigit = true) :
    read first rest = readNumber (first :: rest) := by
  have code := Text.digit_code digit
  have notQuote : first ≠ quote := ne_of_code (by show first.toNat ≠ 39; omega)
  have notAt : first ≠ '@' := ne_of_code (by show first.toNat ≠ 64; omega)
  rw [read, if_neg (by simpa using notQuote), if_neg (by simpa using notAt), if_pos digit]

/-! ### What is written is read -/

theorem read_of_identifier {letters after : List Char} (valid : Text.isIdentifier letters = true) :
    ∃ first more, letters ++ after = first :: more ∧
      read first more = readWord (letters ++ after) := by
  obtain ⟨first, more, rfl, start, -⟩ := Text.is_identifier_cons valid
  exact ⟨first, more ++ after, rfl, read_of_start start⟩

theorem read_word_identifier {name : String} {after : List Char}
    (valid : Text.isIdentifier name.toList = true) (free : ∀ word : Keyword, word.spelling ≠ name)
    (ends : Text.Ends Text.isIdentifierPart after)
    (noLabel : after.head? = some ':' → after.take 2 = [':', '=']) :
    readWord (name.toList ++ after) = .token (.identifier name) name.toList.length := by
  simp only [readWord, Text.take_identifier valid ends, List.drop_left, String.ofList_toList,
    Keyword.of_spelling_eq_none_iff.2 free]
  split
  · rfl
  · rename_i rest other
    have assigned := noLabel rfl
    cases rest with
    | nil => cases assigned
    | cons c rest =>
        have equals : c = '=' := by simpa using assigned
        exact absurd (by rw [equals]) (other rest)
  · rfl

theorem read_word_label {name : String} {after : List Char}
    (valid : Text.isIdentifier name.toList = true) (free : ∀ word : Keyword, word.spelling ≠ name)
    (alone : after.head? ≠ some '=') :
    readWord (name.toList ++ ':' :: after) = .token (.label name) (name.toList.length + 1) := by
  have ends : Text.Ends Text.isIdentifierPart (':' :: after) := by
    intro c member
    cases member
    decide
  simp only [readWord, Text.take_identifier valid ends, List.drop_left, String.ofList_toList,
    Keyword.of_spelling_eq_none_iff.2 free]
  split
  · rename_i same
    cases same
    exact absurd rfl alone
  · rfl
  · rename_i other
    exact absurd rfl (other after)

theorem read_word_keyword {word : Keyword} {after : List Char}
    (ends : Text.Ends Text.isIdentifierPart after) :
    readWord (word.spelling.toList ++ after) =
      .token (.keyword word) word.spelling.toList.length := by
  have spelled : Keyword.ofSpelling? word.spelling = some word :=
    Keyword.of_spelling_eq_some_iff.2 rfl
  simp only [readWord, Text.take_identifier word.is_identifier_spelling ends, String.ofList_toList,
    spelled]

theorem read_global_name {name : String} {after : List Char}
    (valid : Text.isIdentifier name.toList = true) (ends : Text.Ends Text.isIdentifierPart after) :
    readGlobal (name.toList ++ after) = .token (.globalRef name) (name.toList.length + 1) := by
  obtain ⟨first, more, whole, start, -⟩ := Text.is_identifier_cons valid
  have begun : (name.toList ++ after).head?.any Text.isIdentifierStart = true := by
    rw [whole]
    exact start
  simp only [readGlobal, if_pos begun, Text.take_identifier valid ends, String.ofList_toList]

theorem read_number_digits {value : Integer} {digits after : List Char}
    (decimal : ∀ c ∈ digits, c.isDigit = true) (ends : Text.Ends Char.isDigit after)
    (same : value.toInt = Nat.ofDigitChars 10 digits 0) :
    readNumber (digits ++ after) = .token (.number value) digits.length := by
  simp only [readNumber, Text.take_while_of_ends decimal ends, ← same, Integer.of_int_to_int]

theorem read_string_closed {contents rest : List Char} (closed : quote ∉ contents) :
    readString (contents ++ quote :: rest) =
      .token (.string (String.ofList contents)) (contents.length + 2) := by
  have inside : ∀ c ∈ contents, (c != quote) = true := by
    intro c member
    rw [bne_iff_ne]
    rintro rfl
    exact closed member
  have ends : Text.Ends (· != quote) (quote :: rest) := by
    intro c member
    cases member
    exact bne_self_eq_false quote
  simp only [readString, Text.take_while_of_ends inside ends, List.length_append, List.length_cons]
  rw [if_pos (by omega)]

theorem read_string_unclosed {body : List Char} (unclosed : quote ∉ body) :
    readString body = .failure .unterminatedString (body.length + 1) := by
  have whole : body.takeWhile (· != quote) = body := by
    rw [List.takeWhile_eq_self_iff]
    intro c member
    exact bne_iff_ne.2 (ne_of_mem_of_not_mem member unclosed)
  simp [readString, whole]

theorem read_operator_symbol {op : BinaryOperator} {after : List Char}
    (longest : op = .lt ∨ op = .gt → after.head? ≠ some '=') :
    ∃ first more, op.symbol.toList ++ after = first :: more ∧
      read first more = .token (.operator op) op.symbol.toList.length := by
  cases op with
  | eq | le | ge => exact ⟨_, _, rfl, rfl⟩
  | add | sub | mul | div | mod => exact ⟨_, _, rfl, rfl⟩
  | gt =>
      have plain := longest (.inr rfl)
      have alone : readOperator '>' after = .token (.operator .gt) 1 := by
        unfold readOperator
        split <;> simp_all
      exact ⟨'>', after, rfl, alone⟩
  | lt =>
      have plain := longest (.inl rfl)
      have alone : readOperator '<' after = .token (.operator .lt) 1 := by
        unfold readOperator
        split <;> simp_all
      exact ⟨'<', after, rfl, alone⟩

theorem read_of_written {kind : TokenKind} {lexeme after : List Char}
    (written : kind.Written lexeme after) :
    ∃ first more, lexeme ++ after = first :: more ∧
      read first more = .token kind lexeme.length := by
  cases written with
  | identifier valid free ends noLabel =>
      obtain ⟨first, more, whole, word⟩ := read_of_identifier valid
      exact ⟨first, more, whole, word.trans (read_word_identifier valid free ends noLabel)⟩
  | @globalRef name _ valid ends =>
      exact ⟨'@', name.toList ++ after, rfl, read_global_name valid ends⟩
  | @label name _ valid free alone =>
      obtain ⟨first, more, whole, word⟩ := read_of_identifier valid
      refine ⟨first, more, by rw [List.append_assoc]; exact whole, ?_⟩
      rw [word, List.singleton_append, read_word_label valid free alone, List.length_append]
      rfl
  | number nonempty decimal ends same =>
      cases lexeme with
      | nil => exact absurd rfl nonempty
      | cons first digits =>
          refine ⟨first, digits ++ after, rfl, ?_⟩
          rw [read_of_digit (decimal first List.mem_cons_self)]
          exact read_number_digits decimal ends same
  | @string contents _ closed =>
      refine ⟨quote, contents.toList ++ quote :: after, by simp, ?_⟩
      rw [read, if_pos (by simp), read_string_closed closed, String.ofList_toList]
      simp
  | assign => exact ⟨_, _, rfl, rfl⟩
  | operator op longest => exact read_operator_symbol longest
  | keyword ends =>
      obtain ⟨first, more, whole, word⟩ := read_of_identifier (Keyword.is_identifier_spelling _)
      exact ⟨first, more, whole, word.trans (read_word_keyword ends)⟩

/-! ### What is read is written -/

def Fronts (text : List Char) (kind : TokenKind) (length : Nat) : Prop :=
  ∃ lexeme after, text = lexeme ++ after ∧ lexeme.length = length ∧ kind.Written lexeme after

theorem is_identifier_take_while {first : Char} (start : Text.isIdentifierStart first = true)
    (rest : List Char) :
    Text.isIdentifier ((first :: rest).takeWhile Text.isIdentifierPart) = true := by
  rw [List.takeWhile_cons, if_pos (Text.is_identifier_part_of_start start), Text.isIdentifier, start,
    Bool.true_and, List.all_eq_true]
  intro c member
  exact List.mem_takeWhile_imp member

theorem fronts_of_read_word {first : Char} {rest : List Char} {kind : TokenKind} {length : Nat}
    (start : Text.isIdentifierStart first = true)
    (read : readWord (first :: rest) = .token kind length) :
    Fronts (first :: rest) kind length := by
  have valid := is_identifier_take_while start rest
  have split := List.takeWhile_append_dropWhile (p := Text.isIdentifierPart) (l := first :: rest)
  have ends := Text.ends_drop_while Text.isIdentifierPart (first :: rest)
  generalize (first :: rest).takeWhile Text.isIdentifierPart = letters at valid split
  generalize (first :: rest).dropWhile Text.isIdentifierPart = after at split ends
  rw [← split] at read ⊢
  simp only [readWord, Text.take_identifier valid ends, List.drop_left] at read
  rw [← String.toList_ofList (l := letters)] at valid
  cases word : Keyword.ofSpelling? (String.ofList letters) with
  | some keyword =>
      rw [word] at read
      cases read
      have spelled : keyword.spelling.toList = letters := by
        rw [Keyword.of_spelling_eq_some_iff.1 word, String.toList_ofList]
      exact ⟨letters, after, rfl, rfl, spelled ▸ .keyword ends⟩
  | none =>
      have free := Keyword.of_spelling_eq_none_iff.1 word
      rw [word] at read
      dsimp only at read
      split at read
      · cases read
        refine ⟨letters, _, rfl, rfl, ?_⟩
        have written := TokenKind.Written.identifier valid free ends fun _ => rfl
        rwa [String.toList_ofList] at written
      · rename_i later other
        cases read
        refine ⟨letters ++ [':'], later, by simp, by simp, ?_⟩
        have alone : later.head? ≠ some '=' := by
          intro equals
          obtain ⟨more, rfl⟩ := List.head?_eq_some_iff.1 equals
          exact other more rfl
        have written := TokenKind.Written.label valid free alone
        rwa [String.toList_ofList] at written
      · rename_i other
        cases read
        refine ⟨letters, after, rfl, rfl, ?_⟩
        have noLabel : after.head? = some ':' → after.take 2 = [':', '='] := by
          intro colon
          obtain ⟨more, rfl⟩ := List.head?_eq_some_iff.1 colon
          exact absurd rfl (other more)
        have written := TokenKind.Written.identifier valid free ends noLabel
        rwa [String.toList_ofList] at written

theorem fronts_of_read_global {body : List Char} {kind : TokenKind} {length : Nat}
    (read : readGlobal body = .token kind length) : Fronts ('@' :: body) kind length := by
  unfold readGlobal at read
  split at read
  · rename_i start
    cases read
    cases body with
    | nil => cases start
    | cons first rest =>
        have valid := is_identifier_take_while start rest
        rw [← String.toList_ofList (l := List.takeWhile _ _)] at valid
        refine ⟨_, (first :: rest).dropWhile Text.isIdentifierPart, ?_, ?_,
          .globalRef valid (Text.ends_drop_while _ _)⟩
        · rw [String.toList_ofList, List.cons_append, List.takeWhile_append_dropWhile]
        · rw [String.toList_ofList, List.length_cons]
  · cases read

theorem fronts_of_read_string {body : List Char} {kind : TokenKind} {length : Nat}
    (read : readString body = .token kind length) : Fronts (quote :: body) kind length := by
  by_cases closed : quote ∈ body
  · obtain ⟨contents, after, rfl, before⟩ := List.eq_append_cons_of_mem closed
    rw [read_string_closed before] at read
    cases read
    rw [← String.toList_ofList (l := contents)] at before
    refine ⟨_, after, ?_, ?_, .string before⟩
    · simp
    · simp
  · rw [read_string_unclosed closed] at read
    cases read

theorem fronts_of_read_number {first : Char} {rest : List Char} {kind : TokenKind} {length : Nat}
    (digit : first.isDigit = true) (read : readNumber (first :: rest) = .token kind length) :
    Fronts (first :: rest) kind length := by
  unfold readNumber at read
  dsimp only at read
  split at read
  · rename_i value inRange
    cases read
    refine ⟨_, (first :: rest).dropWhile Char.isDigit, ?_, rfl, .number ?_ ?_ ?_ ?_⟩
    · rw [List.takeWhile_append_dropWhile]
    · simp [digit]
    · intro c member
      exact List.mem_takeWhile_imp member
    · exact Text.ends_drop_while _ _
    · exact Integer.of_int_eq_some_iff.1 inRange
  · cases read

theorem fronts_of_read_operator {first : Char} {rest : List Char} {kind : TokenKind} {length : Nat}
    (read : readOperator first rest = .token kind length) : Fronts (first :: rest) kind length := by
  unfold readOperator at read
  split at read
  · cases read
    exact ⟨[':', '='], _, rfl, rfl, .assign⟩
  · cases read
    exact ⟨_, _, rfl, rfl, .operator .eq (by simp)⟩
  · cases read
    exact ⟨_, _, rfl, rfl, .operator .le (by simp)⟩
  · cases read
    exact ⟨_, _, rfl, rfl, .operator .ge (by simp)⟩
  · rename_i other
    cases read
    refine ⟨_, rest, rfl, rfl, .operator .lt fun _ equals => ?_⟩
    obtain ⟨more, rfl⟩ := List.head?_eq_some_iff.1 equals
    exact other more rfl
  · rename_i other
    cases read
    refine ⟨_, rest, rfl, rfl, .operator .gt fun _ equals => ?_⟩
    obtain ⟨more, rfl⟩ := List.head?_eq_some_iff.1 equals
    exact other more rfl
  · cases read
    exact ⟨_, rest, rfl, rfl, .operator .add (by simp)⟩
  · cases read
    exact ⟨_, rest, rfl, rfl, .operator .sub (by simp)⟩
  · cases read
    exact ⟨_, rest, rfl, rfl, .operator .mul (by simp)⟩
  · cases read
    exact ⟨_, rest, rfl, rfl, .operator .div (by simp)⟩
  · cases read
    exact ⟨_, rest, rfl, rfl, .operator .mod (by simp)⟩
  · cases read

theorem fronts_of_read {first : Char} {rest : List Char} {kind : TokenKind} {length : Nat}
    (token : read first rest = .token kind length) : Fronts (first :: rest) kind length := by
  unfold read at token
  split at token
  · rename_i opened
    rw [eq_of_beq opened]
    exact fronts_of_read_string token
  · split at token
    · rename_i global
      rw [eq_of_beq global]
      exact fronts_of_read_global token
    · split at token
      · rename_i digit
        exact fronts_of_read_number digit token
      · split at token
        · rename_i start
          exact fronts_of_read_word start token
        · exact fronts_of_read_operator token

end Lexeme

end ThreeAddress
