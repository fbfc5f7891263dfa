import Mathlib.Order.Bounds.Defs
import ThreeAddress.Proofs.Grammar

/-!
Defects of lines. A line is refused if it defines a label again or is not spelled as a line, and if
both are so the label is reported, with the line of its earliest definition. Drafting the lines of a
program stops at the first line that is refused.
-/

namespace ThreeAddress

namespace Draft

/-- The labels that a line starts with, each with the number of the line it stands on. -/
def leading : List Token → List (String × Nat)
  | [] => []
  | token :: rest =>
      match token.kind with
      | .label name => (name, token.line) :: leading rest
      | _ => []

def body : List Token → List Token
  | [] => []
  | token :: rest =>
      match token.kind with
      | .label _ => body rest
      | _ => token :: rest

def introduced (groups : List (List Token)) : List (String × Nat) := groups.flatMap leading

/-- A label at the start of the line is one of `seen`, or stands there a second time. -/
def Redefines (seen : List (String × Nat)) (group : List Token) : Prop :=
  ∃ before name line after, leading group = before ++ (name, line) :: after ∧
    name ∈ (seen ++ before).map Prod.fst

def Misspelled (group : List Token) : Prop :=
  ¬ ∃ source, SourceLine.Spelled (group.map Token.kind) source

/-- The line at an index has a defect, where the labels of `seen` are defined before all lines. -/
def Offends (seen : List (String × Nat)) (groups : List (List Token)) (index : Nat) : Prop :=
  ∃ group, groups[index]? = some group ∧
    (Redefines (seen ++ introduced (groups.take index)) group ∨ Misspelled group)

/-- The error of a line that begins on line number `line` behind the labels of `seen`: its first label
that is defined already, with the line of the earliest definition, or else what is wrong with its
statement. -/
inductive LineError (seen : List (String × Nat)) (group : List Token) (line : Nat) :
    BuildError → Prop where
  | redefined {before after : List (String × Nat)} {name : String} {own firstLine : Nat}
      (labels : leading group = before ++ (name, own) :: after)
      (fresh : ((seen ++ before).map Prod.fst).Nodup)
      (earliest : (seen ++ before).lookup name = some firstLine) :
      LineError seen group line (.duplicateLabel name line firstLine)
  | misspelled {problem : SyntaxProblem} (fresh : ((seen ++ leading group).map Prod.fst).Nodup)
      (misspelled : Misspelled group)
      (refused : Statement.parse ((body group).map Token.kind) = .error problem) :
      LineError seen group line (.malformed problem line)

def FirstRefused (groups : List (List Token)) (error : BuildError) : Prop :=
  ∃ index first rest, groups[index]? = some (first :: rest) ∧
    IsLeast {index | Offends [] groups index} index ∧
    LineError (introduced (groups.take index)) (first :: rest) first.line error

section Cons

variable {token : Token} {rest : List Token} {name : String}

theorem leading_of_label (labelled : token.kind = .label name) :
    leading (token :: rest) = (name, token.line) :: leading rest := by
  simp only [leading, labelled]

theorem body_of_label (labelled : token.kind = .label name) : body (token :: rest) = body rest := by
  simp only [body, labelled]

theorem leading_of_other (other : ∀ name, token.kind ≠ .label name) :
    leading (token :: rest) = [] := by
  rw [leading]
  split
  · exact absurd ‹_› (other _)
  · rfl

theorem body_of_other (other : ∀ name, token.kind ≠ .label name) :
    body (token :: rest) = token :: rest := by
  rw [body]
  split
  · exact absurd ‹_› (other _)
  · rfl

end Cons

section Index

variable {seen : List (String × Nat)} {group : List Token} {groups : List (List Token)}

theorem offends_zero :
    Offends seen (group :: groups) 0 ↔ Redefines seen group ∨ Misspelled group := by
  simp [Offends, introduced]

theorem offends_succ {index : Nat} :
    Offends seen (group :: groups) (index + 1) ↔ Offends (seen ++ leading group) groups index := by
  simp [Offends, introduced]

end Index

end Draft

namespace SourceLine

open Draft

theorem Spelled.split {group : List Token} {source : SourceLine}
    (spelled : Spelled (group.map Token.kind) source) :
    (leading group).map Prod.fst = source.labels ∧
      Spelled ((body group).map Token.kind) ⟨[], source.statement⟩ := by
  induction group generalizing source with
  | nil =>
      cases spelled.eq_of_nil
      exact ⟨rfl, spelled⟩
  | cons token group induction =>
      by_cases labelled : ∃ name, token.kind = .label name
      · obtain ⟨name, labelled⟩ := labelled
        rw [List.map_cons, labelled] at spelled
        obtain ⟨later, laterSpelled, rfl⟩ := spelled.of_cons_label
        obtain ⟨names, behind⟩ := induction laterSpelled
        rw [leading_of_label labelled, body_of_label labelled, List.map_cons, names]
        exact ⟨rfl, behind⟩
      · have other : ∀ name, token.kind ≠ .label name := fun name same => labelled ⟨name, same⟩
        obtain ⟨statement, -, rfl⟩ := spelled.of_cons_other other
        rw [leading_of_other other, body_of_other other]
        exact ⟨rfl, spelled⟩

theorem Spelled.of_unlabelled {kinds : List TokenKind} {statement : Option Statement}
    (spelled : Spelled kinds ⟨[], statement⟩) :
    kinds = [] ∧ statement = none ∨
      ∃ body, Statement.Spelled kinds body ∧ statement = some body := by
  generalize whole : (⟨[], statement⟩ : SourceLine) = source at spelled
  cases spelled with
  | labels names =>
      cases whole
      exact .inl ⟨rfl, rfl⟩
  | @statement tokens body names spelled =>
      cases whole
      exact .inr ⟨body, spelled, rfl⟩

theorem Spelled.statement_eq_some_iff {group : List Token} {source : SourceLine}
    (spelled : Spelled (group.map Token.kind) source) {statement : Statement} :
    source.statement = some statement ↔
      Statement.Spelled ((body group).map Token.kind) statement := by
  rcases spelled.split.2.of_unlabelled with ⟨empty, none⟩ | ⟨own, ownSpelled, some⟩
  · rw [none, empty]
    exact ⟨nofun, fun spelled => absurd rfl spelled.ne_nil⟩
  · rw [some, Option.some.injEq, ← Statement.parse_eq_ok_iff,
      Statement.parse_of_spelled ownSpelled, Except.ok.injEq]

theorem SpelledBy.introduced_names {groups : List (List Token)} {sources : List SourceLine}
    (spelled : SpelledBy groups sources) : (introduced groups).map Prod.fst = names sources := by
  induction spelled with
  | nil => rfl
  | @cons group source groups sources here there induction =>
      have later : (groups.flatMap leading).map Prod.fst = names sources := induction
      rw [introduced, List.flatMap_cons, List.map_append, here.split.1, later]
      rfl

end SourceLine

namespace Draft

variable {defined after : NameMap Nat} {seen : List (String × Nat)} {name : String} {line : Nat}
  {token : Token} {group rest : List Token} {groups : List (List Token)} {error : BuildError}

def Recorded (defined : NameMap Nat) (seen : List (String × Nat)) : Prop :=
  (seen.map Prod.fst).Nodup ∧ ∀ name, defined.find? name = seen.lookup name

theorem mem_names_of_lookup (found : seen.lookup name = some line) :
    name ∈ seen.map Prod.fst := by
  obtain ⟨before, after, rfl, -⟩ := List.lookup_eq_some_iff.1 found
  simp

theorem not_mem_names_of_lookup (missing : seen.lookup name = none) :
    name ∉ seen.map Prod.fst := by
  intro member
  obtain ⟨label, inside, rfl⟩ := List.mem_map.1 member
  simpa using List.lookup_eq_none_iff.1 missing label inside

theorem Recorded.insert (recorded : Recorded defined seen) (fresh : defined.find? name = none)
    (line : Nat) : Recorded (defined.insert name line) (seen ++ [(name, line)]) := by
  have missing : seen.lookup name = none := (recorded.2 name).symm.trans fresh
  constructor
  · rw [List.map_append, List.nodup_append]
    refine ⟨recorded.1, by simp, ?_⟩
    intro other here added there same
    rw [same, List.mem_singleton.1 there] at here
    exact not_mem_names_of_lookup missing here
  · intro other
    rw [NameMap.find_insert, List.lookup_append, ← recorded.2]
    by_cases same : other = name
    · simp [same, fresh]
    · simp [same, NameMap.lookup_cons_ne line [] same]

/-- The tokens of a line from some label on: each starts where the one before it ends. -/
def Joined (line : Nat) (group : List Token) : Prop :=
  (∀ first ∈ group.head?, first.line = line) ∧
    group.IsChain fun left right => left.endLine = right.line

theorem Joined.of_label (joined : Joined line (token :: rest)) (labelled : token.kind = .label name) :
    token.line = line ∧ Joined line rest := by
  obtain ⟨begins, chained⟩ := joined
  have here : token.line = line := begins token rfl
  have ended : token.endLine = token.line := by rw [Token.endLine, labelled]
  obtain ⟨next, later⟩ := List.isChain_cons.1 chained
  refine ⟨here, ?_, later⟩
  intro first member
  rw [← next first member, ended, here]

/-- What is wrong behind a label is wrong with the line that starts with it. -/
theorem LineError.cons_label (labelled : token.kind = .label name)
    (wrong : LineError (seen ++ [(name, token.line)]) rest line error) :
    LineError seen (token :: rest) line error := by
  have whole : leading (token :: rest) = (name, token.line) :: leading rest :=
    leading_of_label labelled
  cases wrong with
  | @redefined before after again own firstLine labels fresh earliest =>
      rw [List.append_assoc, List.singleton_append] at fresh earliest
      rw [labels, ← List.cons_append] at whole
      exact .redefined whole fresh earliest
  | misspelled fresh misspelled refused =>
      refine .misspelled ?_ ?_ ?_
      · rw [whole, ← List.singleton_append, ← List.append_assoc]
        exact fresh
      · intro whole
        obtain ⟨source, spelled⟩ := whole
        rw [List.map_cons, labelled] at spelled
        obtain ⟨later, laterSpelled, -⟩ := spelled.of_cons_label
        exact misspelled ⟨later, laterSpelled⟩
      · rw [body_of_label labelled]
        exact refused

theorem of_line_eq_error (recorded : Recorded defined seen) (joined : Joined line group)
    (failed : ofLine line defined group = .error error) :
    LineError seen group line error := by
  induction group generalizing defined seen with
  | nil => cases failed
  | cons token rest induction =>
      rw [ofLine] at failed
      split at failed
      · rename_i name labelled
        obtain ⟨here, later⟩ := joined.of_label labelled
        split at failed
        · rename_i firstLine found
          cases failed
          have whole : leading (token :: rest) = [] ++ (name, token.line) :: leading rest :=
            leading_of_label labelled
          refine .redefined whole ?_ ?_
          · rw [List.append_nil]
            exact recorded.1
          · rw [List.append_nil, ← recorded.2]
            exact found
        · rename_i fresh
          rcases except_bind_eq_error.1 failed with behind | ⟨found, -, finished⟩
          · have wrong := induction (recorded.insert fresh line) later behind
            rw [← here] at wrong ⊢
            exact wrong.cons_label labelled
          · cases finished
      · rename_i other
        have unlabelled : ∀ name, token.kind ≠ .label name := fun name same => other name same
        split at failed
        · rename_i problem refused
          cases failed
          refine .misspelled ?_ ?_ ?_
          · rw [leading_of_other unlabelled, List.append_nil]
            exact recorded.1
          · intro whole
            obtain ⟨source, spelled⟩ := whole
            obtain ⟨statement, statementSpelled, -⟩ := spelled.of_cons_other unlabelled
            have parsed := Statement.parse_of_spelled statementSpelled
            rw [← List.map_cons, refused] at parsed
            cases parsed
          · rw [body_of_other unlabelled]
            exact refused
        · cases failed

theorem LineError.offends (wrong : LineError seen group line error) :
    Redefines seen group ∨ Misspelled group := by
  cases wrong with
  | redefined labels fresh earliest =>
      exact .inl ⟨_, _, _, _, labels, mem_names_of_lookup earliest⟩
  | misspelled fresh misspelled refused => exact .inr misspelled

theorem LineError.line_eq (wrong : LineError seen group line error) : error.line = line := by
  cases wrong <;> rfl

theorem recorded_of_line {drafts : List Draft} (recorded : Recorded defined seen)
    (joined : Joined line group) (finished : ofLine line defined group = .ok (drafts, after)) :
    Recorded after (seen ++ leading group) := by
  induction group generalizing defined seen drafts with
  | nil =>
      cases finished
      rw [leading, List.append_nil]
      exact recorded
  | cons token rest induction =>
      rw [ofLine] at finished
      split at finished
      · rename_i name labelled
        obtain ⟨here, later⟩ := joined.of_label labelled
        split at finished
        · cases finished
        · rename_i fresh
          obtain ⟨⟨others, last⟩, behind, completed⟩ := except_bind_eq_ok.1 finished
          cases completed
          have grown := induction (recorded.insert fresh line) later behind
          rw [List.append_assoc, List.singleton_append, ← here] at grown
          rw [leading_of_label labelled]
          exact grown
      · rename_i other
        rw [leading_of_other fun name same => other name same, List.append_nil]
        split at finished
        · cases finished
        · cases finished
          exact recorded

theorem faultless_of_line {drafts : List Draft} (recorded : Recorded after (seen ++ leading group))
    (finished : ofLine line defined group = .ok (drafts, after)) :
    ¬ (Redefines seen group ∨ Misspelled group) := by
  intro defect
  rcases defect with ⟨before, name, own, behind, labels, repeated⟩ | misspelled
  · have distinct := recorded.1
    rw [labels, ← List.append_assoc, List.map_append, List.map_cons] at distinct
    exact (List.nodup_append.1 distinct).2.2 name repeated name List.mem_cons_self rfl
  · obtain ⟨source, spelled, -⟩ := SourceLine.of_line_eq_ok_iff.1 finished
    exact misspelled ⟨source, spelled⟩

def lineOf (group : List Token) : Nat := group.head?.elim 0 Token.line

theorem joined_line_of (chained : group.IsChain fun left right => left.endLine = right.line) :
    Joined (lineOf group) group := by
  refine ⟨?_, chained⟩
  intro first begins
  rw [lineOf, Option.mem_def.1 begins]
  rfl

theorem of_lines_eq_error (recorded : Recorded defined seen)
    (chained : ∀ group ∈ groups, group.IsChain fun left right => left.endLine = right.line)
    (failed : ofLines defined groups = .error error) :
    ∃ index group, groups[index]? = some group ∧ (∀ earlier < index, ¬ Offends seen groups earlier) ∧
      LineError (seen ++ introduced (groups.take index)) group (lineOf group) error := by
  induction groups generalizing defined seen with
  | nil => cases failed
  | cons group groups induction =>
      obtain ⟨here, there⟩ := List.forall_mem_cons.1 chained
      have joined := joined_line_of here
      rw [ofLines] at failed
      rcases except_bind_eq_error.1 failed with wrong | ⟨⟨drafts, after⟩, drafted, continued⟩
      · refine ⟨0, group, rfl, fun earlier below => absurd below (Nat.not_lt_zero earlier), ?_⟩
        have first := of_line_eq_error recorded joined wrong
        rw [List.take_zero, introduced, List.flatMap_nil, List.append_nil]
        exact first
      · have grown := recorded_of_line recorded joined drafted
        rcases except_bind_eq_error.1 continued with wrong | ⟨later, -, finished⟩
        · obtain ⟨index, held, found, before, line⟩ := induction grown there wrong
          refine ⟨index + 1, held, found, ?_, ?_⟩
          · simp only [Nat.forall_lt_succ_left, offends_zero, offends_succ]
            exact ⟨faultless_of_line grown drafted, before⟩
          · rw [List.take_succ_cons, introduced, List.flatMap_cons, ← List.append_assoc]
            exact line
        · cases finished

theorem not_offends_of_lines {drafts : List Draft} (recorded : Recorded defined seen)
    (chained : ∀ group ∈ groups, group.IsChain fun left right => left.endLine = right.line)
    (finished : ofLines defined groups = .ok drafts) (index : Nat) :
    ¬ Offends seen groups index := by
  induction groups generalizing defined seen drafts index with
  | nil =>
      intro offends
      obtain ⟨group, found, -⟩ := offends
      cases found
  | cons group groups induction =>
      obtain ⟨here, there⟩ := List.forall_mem_cons.1 chained
      obtain ⟨⟨first, after⟩, drafted, continued⟩ := except_bind_eq_ok.1 finished
      obtain ⟨later, others, -⟩ := except_bind_eq_ok.1 continued
      have grown := recorded_of_line recorded (joined_line_of here) drafted
      cases index with
      | zero =>
          rw [offends_zero]
          exact faultless_of_line grown drafted
      | succ index =>
          rw [offends_succ]
          exact induction grown there others index

end Draft

end ThreeAddress
