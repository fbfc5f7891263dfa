import Mathlib.Data.List.Forall2
import Mathlib.Data.List.SplitBy
import ThreeAddress.Assembly

/-!
The grammar of token lists, stated apart from the parser that decides it. Tokens fall into lines,
a line is a run of labels and then at most one statement, and a list of lines has a meaning as a
program once its labels are distinct and its targets are known. The assembler accepts exactly the
grammatical token lists and gives them that meaning.
-/

namespace ThreeAddress

theorem except_bind_eq_ok {Error Middle Result : Type} {first : Except Error Middle}
    {next : Middle → Except Error Result} {result : Result} :
    first >>= next = .ok result ↔ ∃ middle, first = .ok middle ∧ next middle = .ok result := by
  cases first with
  | error problem => exact ⟨nofun, nofun⟩
  | ok middle =>
      constructor
      · intro finished
        exact ⟨middle, rfl, finished⟩
      · rintro ⟨same, equal, finished⟩
        cases equal
        exact finished

theorem except_bind_eq_error {Error Middle Result : Type} {first : Except Error Middle}
    {next : Middle → Except Error Result} {problem : Error} :
    first >>= next = .error problem ↔
      first = .error problem ∨ ∃ middle, first = .ok middle ∧ next middle = .error problem := by
  cases first with
  | error other =>
      constructor
      · intro failed
        cases failed
        exact .inl rfl
      · rintro (failed | ⟨middle, finished, -⟩)
        · cases failed
          rfl
        · cases finished
  | ok middle =>
      constructor
      · intro failed
        exact .inr ⟨middle, rfl, failed⟩
      · rintro (failed | ⟨same, finished, failed⟩)
        · cases failed
        · cases finished
          exact failed

inductive Operand.Spelled : TokenKind → Operand → Prop where
  | variable (name : String) : Spelled (.identifier name) (.variable name)
  | global (name : String) : Spelled (.globalRef name) (.global name)
  | number (value : Integer) : Spelled (.number value) (.literal (.integer value))
  | string (contents : String) : Spelled (.string contents) (.literal (.text contents))

inductive Reference.Spelled : TokenKind → Reference → Prop where
  | identifier (name : String) : Spelled (.identifier name) ⟨name, false⟩
  | global (name : String) : Spelled (.globalRef name) ⟨name, true⟩

def Polarity.keyword : Polarity → Keyword
  | .ifZero => .ifz
  | .ifNonZero => .ifnz

inductive Statement.Spelled : List TokenKind → Statement → Prop where
  | assign {token : TokenKind} {value : Operand} (dest : String)
      (spelled : Operand.Spelled token value) :
      Spelled [.identifier dest, .assign, token] (.assign dest value)
  | binary {first second : TokenKind} {left right : Operand} (dest : String)
      (operator : BinaryOperator) (leftSpelled : Operand.Spelled first left)
      (rightSpelled : Operand.Spelled second right) :
      Spelled [.identifier dest, .assign, first, .operator operator, second]
        (.binary dest left operator right)
  | callInto {token : TokenKind} {callee : Reference} (dest : String)
      (spelled : Reference.Spelled token callee) :
      Spelled [.identifier dest, .assign, .keyword .call, token] (.call (some dest) callee)
  | branch {first second : TokenKind} {condition : Operand} {target : Reference}
      (polarity : Polarity) (conditionSpelled : Operand.Spelled first condition)
      (targetSpelled : Reference.Spelled second target) :
      Spelled [.keyword polarity.keyword, first, .keyword .goto, second]
        (.branch polarity condition target)
  | goto {token : TokenKind} {target : Reference} (spelled : Reference.Spelled token target) :
      Spelled [.keyword .goto, token] (.goto target)
  | argument {token : TokenKind} {value : Operand} (spelled : Operand.Spelled token value) :
      Spelled [.keyword .arg, token] (.argument value)
  | call {token : TokenKind} {callee : Reference} (spelled : Reference.Spelled token callee) :
      Spelled [.keyword .call, token] (.call none callee)
  | ret : Spelled [.keyword .ret] (.ret none)
  | retValue {token : TokenKind} {value : Operand} (spelled : Operand.Spelled token value) :
      Spelled [.keyword .ret, token] (.ret (some value))

namespace Statement

theorem parse_operand_eq_ok_iff {tokens rest : List TokenKind} {operand : Operand} :
    parseOperand tokens = .ok (operand, rest) ↔
      ∃ token, tokens = token :: rest ∧ Operand.Spelled token operand := by
  constructor
  · intro parsed
    unfold parseOperand at parsed
    split at parsed <;> cases parsed
    · exact ⟨_, rfl, .variable _⟩
    · exact ⟨_, rfl, .global _⟩
    · exact ⟨_, rfl, .number _⟩
    · exact ⟨_, rfl, .string _⟩
  · rintro ⟨token, rfl, spelled⟩
    cases spelled <;> rfl

theorem parse_target_eq_ok_iff {tokens rest : List TokenKind} {target : Reference} :
    parseTarget tokens = .ok (target, rest) ↔
      ∃ token, tokens = token :: rest ∧ Reference.Spelled token target := by
  constructor
  · intro parsed
    unfold parseTarget at parsed
    split at parsed <;> cases parsed
    · exact ⟨_, rfl, .identifier _⟩
    · exact ⟨_, rfl, .global _⟩
  · rintro ⟨token, rfl, spelled⟩
    cases spelled <;> rfl

theorem parse_assigned_sound {dest : String} {tokens rest : List TokenKind} {statement : Statement}
    (parsed : parseAssigned dest tokens = .ok (statement, rest)) :
    ∃ used, tokens = used ++ rest ∧ Spelled (.identifier dest :: .assign :: used) statement := by
  unfold parseAssigned at parsed
  split at parsed
  · obtain ⟨⟨callee, after⟩, target, finished⟩ := except_bind_eq_ok.1 parsed
    obtain ⟨token, rfl, spelled⟩ := parse_target_eq_ok_iff.1 target
    cases finished
    exact ⟨[.keyword .call, token], rfl, .callInto dest spelled⟩
  · obtain ⟨⟨left, after⟩, operand, finished⟩ := except_bind_eq_ok.1 parsed
    obtain ⟨first, rfl, leftSpelled⟩ := parse_operand_eq_ok_iff.1 operand
    dsimp only at finished
    split at finished
    · obtain ⟨⟨right, last⟩, other, completed⟩ := except_bind_eq_ok.1 finished
      obtain ⟨second, rfl, rightSpelled⟩ := parse_operand_eq_ok_iff.1 other
      cases completed
      exact ⟨[first, .operator _, second], rfl, .binary dest _ leftSpelled rightSpelled⟩
    · cases finished
      exact ⟨[first], rfl, .assign dest leftSpelled⟩

theorem parse_branch_sound {polarity : Polarity} {tokens rest : List TokenKind}
    {statement : Statement} (parsed : parseBranch polarity tokens = .ok (statement, rest)) :
    ∃ used, tokens = used ++ rest ∧ Spelled (.keyword polarity.keyword :: used) statement := by
  obtain ⟨⟨condition, after⟩, operand, finished⟩ := except_bind_eq_ok.1 parsed
  obtain ⟨first, rfl, conditionSpelled⟩ := parse_operand_eq_ok_iff.1 operand
  dsimp only at finished
  split at finished
  · obtain ⟨⟨reference, last⟩, target, completed⟩ := except_bind_eq_ok.1 finished
    obtain ⟨second, rfl, targetSpelled⟩ := parse_target_eq_ok_iff.1 target
    cases completed
    exact ⟨[first, .keyword .goto, second], rfl, .branch polarity conditionSpelled targetSpelled⟩
  · cases finished

theorem parse_first_sound {tokens rest : List TokenKind} {statement : Statement}
    (parsed : parseFirst tokens = .ok (statement, rest)) :
    ∃ used, tokens = used ++ rest ∧ Spelled used statement := by
  unfold parseFirst at parsed
  split at parsed
  · split at parsed
    · obtain ⟨used, rfl, spelled⟩ := parse_assigned_sound parsed
      exact ⟨_, rfl, spelled⟩
    · cases parsed
  · obtain ⟨used, rfl, spelled⟩ := parse_branch_sound parsed
    exact ⟨_, rfl, spelled⟩
  · obtain ⟨used, rfl, spelled⟩ := parse_branch_sound parsed
    exact ⟨_, rfl, spelled⟩
  · obtain ⟨⟨reference, after⟩, target, finished⟩ := except_bind_eq_ok.1 parsed
    obtain ⟨token, rfl, spelled⟩ := parse_target_eq_ok_iff.1 target
    cases finished
    exact ⟨[.keyword .goto, token], rfl, .goto spelled⟩
  · obtain ⟨⟨value, after⟩, operand, finished⟩ := except_bind_eq_ok.1 parsed
    obtain ⟨token, rfl, spelled⟩ := parse_operand_eq_ok_iff.1 operand
    cases finished
    exact ⟨[.keyword .arg, token], rfl, .argument spelled⟩
  · obtain ⟨⟨reference, after⟩, target, finished⟩ := except_bind_eq_ok.1 parsed
    obtain ⟨token, rfl, spelled⟩ := parse_target_eq_ok_iff.1 target
    cases finished
    exact ⟨[.keyword .call, token], rfl, .call spelled⟩
  · cases parsed
    exact ⟨[.keyword .ret], rfl, .ret⟩
  · obtain ⟨⟨value, after⟩, operand, finished⟩ := except_bind_eq_ok.1 parsed
    obtain ⟨token, rfl, spelled⟩ := parse_operand_eq_ok_iff.1 operand
    cases finished
    exact ⟨[.keyword .ret, token], rfl, .retValue spelled⟩
  · cases parsed
  · cases parsed

theorem parse_of_spelled {tokens : List TokenKind} {statement : Statement}
    (spelled : Spelled tokens statement) : parse tokens = .ok statement := by
  cases spelled with
  | assign dest spelled => cases spelled <;> rfl
  | binary dest operator left right => cases left <;> cases right <;> rfl
  | callInto dest spelled => cases spelled <;> rfl
  | branch polarity condition target => cases polarity <;> cases condition <;> cases target <;> rfl
  | goto spelled => cases spelled <;> rfl
  | argument spelled => cases spelled <;> rfl
  | call spelled => cases spelled <;> rfl
  | ret => rfl
  | retValue spelled => cases spelled <;> rfl

theorem parse_eq_ok_iff {tokens : List TokenKind} {statement : Statement} :
    parse tokens = .ok statement ↔ Spelled tokens statement := by
  constructor
  · intro parsed
    obtain ⟨⟨first, rest⟩, begun, finished⟩ := except_bind_eq_ok.1 parsed
    obtain ⟨used, rfl, spelled⟩ := parse_first_sound begun
    dsimp only at finished
    split at finished
    · cases finished
      rw [List.append_nil]
      exact spelled
    · cases finished
  · exact parse_of_spelled

/-- A statement begins with no label, so where the labels of a line end is never in doubt. -/
theorem Spelled.head_not_label {tokens : List TokenKind} {statement : Statement} {name : String}
    (spelled : Spelled tokens statement) : tokens.head? ≠ some (.label name) := by
  cases spelled <;> simp

theorem Spelled.ne_nil {tokens : List TokenKind} {statement : Statement}
    (spelled : Spelled tokens statement) : tokens ≠ [] := by
  cases spelled <;> simp

end Statement

structure SourceLine where
  labels : List String
  statement : Option Statement
  deriving DecidableEq

namespace SourceLine

inductive Spelled : List TokenKind → SourceLine → Prop where
  | labels (names : List String) : Spelled (names.map .label) ⟨names, none⟩
  | statement {tokens : List TokenKind} {body : Statement} (names : List String)
      (spelled : Statement.Spelled tokens body) :
      Spelled (names.map .label ++ tokens) ⟨names, some body⟩

theorem Spelled.cons_label {tokens : List TokenKind} {source : SourceLine} (name : String)
    (spelled : Spelled tokens source) :
    Spelled (.label name :: tokens) { source with labels := name :: source.labels } := by
  cases spelled with
  | labels names => exact .labels (name :: names)
  | statement names spelled => exact .statement (name :: names) spelled

theorem Spelled.of_cons_label {tokens : List TokenKind} {source : SourceLine} {name : String}
    (spelled : Spelled (.label name :: tokens) source) :
    ∃ rest, Spelled tokens rest ∧ source = { rest with labels := name :: rest.labels } := by
  generalize whole : TokenKind.label name :: tokens = kinds at spelled
  cases spelled with
  | labels names =>
      cases names with
      | nil => cases whole
      | cons first names =>
          cases whole
          exact ⟨⟨names, none⟩, .labels names, rfl⟩
  | @statement used body names spelled =>
      cases names with
      | nil =>
          rw [List.map_nil, List.nil_append] at whole
          have label : used.head? = some (.label name) := by rw [← whole]; rfl
          exact absurd label spelled.head_not_label
      | cons first names =>
          cases whole
          exact ⟨⟨names, some body⟩, .statement names spelled, rfl⟩

theorem Spelled.of_cons_other {token : TokenKind} {tokens : List TokenKind} {source : SourceLine}
    (other : ∀ name, token ≠ .label name) (spelled : Spelled (token :: tokens) source) :
    ∃ body, Statement.Spelled (token :: tokens) body ∧ source = ⟨[], some body⟩ := by
  generalize whole : token :: tokens = kinds at spelled ⊢
  cases spelled with
  | labels names =>
      cases names with
      | nil => cases whole
      | cons first names => exact absurd (List.cons.inj whole).1 (other first)
  | @statement used body names spelled =>
      cases names with
      | nil => exact ⟨body, spelled, rfl⟩
      | cons first names => exact absurd (List.cons.inj whole).1 (other first)

theorem Spelled.eq_of_nil {source : SourceLine} (spelled : Spelled [] source) :
    source = ⟨[], none⟩ := by
  generalize whole : [] = kinds at spelled
  cases spelled with
  | labels names =>
      cases names with
      | nil => rfl
      | cons first names => cases whole
  | statement names spelled => exact absurd (List.append_eq_nil_iff.1 whole.symm).2 spelled.ne_nil

theorem Spelled.unique {tokens : List TokenKind} {first second : SourceLine}
    (here : Spelled tokens first) (there : Spelled tokens second) : first = second := by
  induction tokens generalizing first second with
  | nil => rw [here.eq_of_nil, there.eq_of_nil]
  | cons token tokens induction =>
      by_cases labelled : ∃ name, token = .label name
      · obtain ⟨name, rfl⟩ := labelled
        obtain ⟨left, leftSpelled, rfl⟩ := here.of_cons_label
        obtain ⟨right, rightSpelled, rfl⟩ := there.of_cons_label
        rw [induction leftSpelled rightSpelled]
      · have other : ∀ name, token ≠ .label name := fun name same => labelled ⟨name, same⟩
        obtain ⟨left, leftSpelled, rfl⟩ := here.of_cons_other other
        obtain ⟨right, rightSpelled, rfl⟩ := there.of_cons_other other
        have same := Statement.parse_of_spelled leftSpelled
        rw [Statement.parse_of_spelled rightSpelled] at same
        cases same
        rfl

def drafts (line : Nat) (source : SourceLine) : List Draft :=
  source.labels.map .label ++ source.statement.toList.map (.statement · line)

/-- Labels seen before are refused, and the labels of the line join them. -/
theorem of_line_eq_ok_iff {line : Nat} {defined after : NameMap Nat} {tokens : List Token}
    {found : List Draft} :
    Draft.ofLine line defined tokens = .ok (found, after) ↔
      ∃ source, Spelled (tokens.map Token.kind) source ∧ found = source.drafts line ∧
        source.labels.Nodup ∧ (∀ name ∈ source.labels, defined.find? name = none) ∧
        after = source.labels.foldl (fun map name => map.insert name line) defined := by
  induction tokens generalizing defined found after with
  | nil =>
      constructor
      · intro finished
        cases finished
        exact ⟨⟨[], none⟩, .labels [], rfl, .nil, by simp, rfl⟩
      · rintro ⟨source, spelled, rfl, -, -, rfl⟩
        cases spelled.eq_of_nil
        rfl
  | cons token tokens induction =>
      rw [Draft.ofLine]
      split
      · rename_i name labelled
        rw [List.map_cons, labelled]
        constructor
        · intro finished
          split at finished
          · cases finished
          · rename_i fresh
            obtain ⟨⟨drafts, later⟩, parsed, completed⟩ := except_bind_eq_ok.1 finished
            obtain ⟨source, spelled, rfl, distinct, unseen, rfl⟩ := induction.1 parsed
            cases completed
            refine ⟨_, spelled.cons_label name, rfl, ?_, ?_, rfl⟩
            · refine List.nodup_cons.2 ⟨?_, distinct⟩
              intro repeated
              have missing := unseen name repeated
              rw [NameMap.find_insert_self] at missing
              cases missing
            · intro other member
              rcases List.mem_cons.1 member with rfl | member
              · exact fresh
              · have missing := unseen other member
                rw [NameMap.find_insert] at missing
                split at missing
                · cases missing
                · exact missing
        · rintro ⟨source, spelled, rfl, distinct, unseen, rfl⟩
          obtain ⟨rest, restSpelled, rfl⟩ := spelled.of_cons_label
          have fresh := unseen name List.mem_cons_self
          rw [fresh]
          dsimp only
          refine except_bind_eq_ok.2 ⟨_, induction.2 ⟨rest, restSpelled, rfl, ?_, ?_, rfl⟩, rfl⟩
          · exact (List.nodup_cons.1 distinct).2
          · intro other member
            have different : other ≠ name := by
              rintro rfl
              exact (List.nodup_cons.1 distinct).1 member
            rw [NameMap.find_insert_of_ne _ _ different]
            exact unseen other (List.mem_cons_of_mem _ member)
      · rename_i other
        constructor
        · intro finished
          split at finished
          · cases finished
          · rename_i body parsed
            cases finished
            have spelled := Statement.parse_eq_ok_iff.1 parsed
            exact ⟨⟨[], some body⟩, .statement [] spelled, rfl, .nil, by simp, rfl⟩
        · rintro ⟨source, spelled, rfl, -, -, rfl⟩
          obtain ⟨body, bodySpelled, rfl⟩ := spelled.of_cons_other fun name same => other name same
          have parsed := Statement.parse_of_spelled bodySpelled
          rw [← List.map_cons] at parsed
          rw [parsed]
          rfl

theorem find_insert_all (line : Nat) (names : List String) (defined : NameMap Nat) (key : String) :
    (names.foldl (fun map name => map.insert name line) defined).find? key =
      if key ∈ names then some line else defined.find? key := by
  induction names generalizing defined with
  | nil => simp
  | cons name names induction =>
      rw [List.foldl_cons, induction, NameMap.find_insert]
      by_cases same : key = name
      · simp [same]
      · simp [same]

def names (sources : List SourceLine) : List String := sources.flatMap labels

def statements (sources : List SourceLine) : List Statement := sources.filterMap statement

def draftsOf (groups : List (List Token)) (sources : List SourceLine) : List Draft :=
  (groups.zipWith (fun group source => source.drafts (group.head?.elim 0 Token.line)) sources).flatten

def SpelledBy (groups : List (List Token)) (sources : List SourceLine) : Prop :=
  List.Forall₂ (fun group source => Spelled (group.map Token.kind) source) groups sources

theorem of_lines_eq_ok_iff {defined : NameMap Nat} {groups : List (List Token)}
    {found : List Draft} :
    Draft.ofLines defined groups = .ok found ↔
      ∃ sources, SpelledBy groups sources ∧ found = draftsOf groups sources ∧
        (names sources).Nodup ∧ ∀ name ∈ names sources, defined.find? name = none := by
  induction groups generalizing defined found with
  | nil =>
      constructor
      · intro finished
        cases finished
        exact ⟨[], .nil, rfl, .nil, by simp [names]⟩
      · rintro ⟨sources, spelled, rfl, -, -⟩
        cases spelled
        rfl
  | cons group groups induction =>
      rw [Draft.ofLines]
      constructor
      · intro finished
        obtain ⟨⟨drafts, after⟩, parsed, continued⟩ := except_bind_eq_ok.1 finished
        obtain ⟨later, others, completed⟩ := except_bind_eq_ok.1 continued
        obtain ⟨source, spelled, rfl, distinct, fresh, rfl⟩ := of_line_eq_ok_iff.1 parsed
        obtain ⟨sources, allSpelled, rfl, allDistinct, allFresh⟩ := induction.1 others
        cases completed
        have unseen : ∀ name ∈ names sources, name ∉ source.labels ∧ defined.find? name = none := by
          intro name member
          have missing := allFresh name member
          rw [find_insert_all] at missing
          split at missing
          · cases missing
          · exact ⟨‹_›, missing⟩
        refine ⟨source :: sources, .cons spelled allSpelled, rfl, ?_, ?_⟩
        · refine List.nodup_append.2 ⟨distinct, allDistinct, ?_⟩
          rintro name here other there rfl
          exact (unseen name there).1 here
        · intro name member
          rcases List.mem_append.1 member with here | there
          · exact fresh name here
          · exact (unseen name there).2
      · rintro ⟨sources, spelled, rfl, distinct, fresh⟩
        cases spelled with
        | @cons _ source _ sources spelled allSpelled =>
            obtain ⟨here, there, apart⟩ := List.nodup_append.1 distinct
            refine except_bind_eq_ok.2 ⟨_, of_line_eq_ok_iff.2 ⟨source, spelled, rfl, here,
              fun name member => fresh name (List.mem_append_left _ member), rfl⟩, ?_⟩
            refine except_bind_eq_ok.2 ⟨_, induction.2 ⟨sources, allSpelled, rfl, there, ?_⟩, rfl⟩
            intro name member
            rw [find_insert_all, if_neg fun inside => apart name inside name member rfl]
            exact fresh name (List.mem_append_right _ member)

end SourceLine

/-- The maximal runs of tokens of which each starts on the line where the one before it ends. -/
structure Token.Grouped (tokens : List Token) (groups : List (List Token)) : Prop where
  whole : groups.flatten = tokens
  nonempty : [] ∉ groups
  joined : ∀ group ∈ groups, group.IsChain fun left right => left.endLine = right.line
  parted : groups.IsChain fun left right =>
    ∃ last ∈ left.getLast?, ∃ first ∈ right.head?, last.endLine ≠ first.line

theorem Token.grouped_iff {tokens : List Token} {groups : List (List Token)} :
    Grouped tokens groups ↔ Draft.lines tokens = groups := by
  have parts : (fun left right : List Token => ∃ last ∈ left.getLast?, ∃ first ∈ right.head?,
      last.endLine ≠ first.line) = fun left right => ∃ (leftSome : left ≠ [])
        (rightSome : right ≠ []), ((left.getLast leftSome).endLine == (right.head rightSome).line) =
          false := by
    funext left right
    cases left <;> cases right <;> simp [List.getLast?_eq_some_getLast, beq_eq_false_iff_ne]
  unfold Draft.lines
  rw [List.splitBy_eq_iff, ← parts]
  constructor
  · rintro ⟨whole, nonempty, joined, parted⟩
    exact ⟨whole.symm, nonempty, by simpa using joined, parted⟩
  · rintro ⟨whole, nonempty, joined, parted⟩
    exact ⟨whole.symm, nonempty, by simpa using joined, parted⟩

theorem Token.grouped_lines (tokens : List Token) : Grouped tokens (Draft.lines tokens) :=
  grouped_iff.2 rfl

theorem Draft.lines_append {first second : List Token}
    (apart : ∀ last ∈ first.getLast?, ∀ next ∈ second.head?, last.endLine ≠ next.line) :
    lines (first ++ second) = lines first ++ lines second := by
  apply List.splitBy_append
  intro last ends next begins
  exact beq_eq_false_iff_ne.2 (apart last ends next begins)

theorem Draft.lines_of_joined {tokens : List Token} (nonempty : tokens ≠ [])
    (joined : tokens.IsChain fun left right => left.endLine = right.line) :
    lines tokens = [tokens] := by
  apply List.splitBy_of_isChain nonempty
  simpa using joined

def SourceLine.Reads (tokens : List Token) (sources : List SourceLine) : Prop :=
  ∃ groups, Token.Grouped tokens groups ∧ SpelledBy groups sources

theorem SourceLine.Reads.unique {tokens : List Token} {first second : List SourceLine}
    (here : Reads tokens first) (there : Reads tokens second) : first = second := by
  obtain ⟨groups, grouped, firstSpelled⟩ := here
  obtain ⟨others, otherGrouped, secondSpelled⟩ := there
  rw [Token.grouped_iff] at grouped otherGrouped
  cases grouped.symm.trans otherGrouped
  refine List.right_unique_forall₂' ?_ firstSpelled secondSpelled
  intro group source other left right
  exact left.unique right

end ThreeAddress
