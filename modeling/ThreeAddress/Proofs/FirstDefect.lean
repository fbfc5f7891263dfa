import ThreeAddress.Proofs.LineDefect
import ThreeAddress.Proofs.Meaning
import ThreeAddress.Proofs.Placement

/-!
Which defect of a text is reported. A lexical error comes before everything else. Then the lines
count, in order, and the first one that is refused is reported. Only where no line is refused are the
targets of the statements looked up, in order again. An error names the line of the first token of
the statement it is about.
-/

namespace ThreeAddress

def Statement.reference? : Statement → Option Reference
  | .goto target | .branch _ _ target => some target
  | .call _ callee => some callee
  | .assign .. | .binary .. | .argument _ | .ret _ => none

namespace Draft

/-- A statement of the line at an index has a target that is no label and, if it is called as a
global, no external either. -/
def Unresolved (externals names : List String) (groups : List (List Token)) (index : Nat) : Prop :=
  ∃ group statement, groups[index]? = some group ∧
    Statement.Spelled ((body group).map Token.kind) statement ∧
    ¬ statement.Resolvable externals names

/-- The error of a line that begins on line number `line` and whose statement has such a target,
which is reported as it is written. -/
inductive TargetError (externals names : List String) (group : List Token) (line : Nat) :
    BuildError → Prop where
  | unresolved {statement : Statement} {reference : Reference}
      (spelled : Statement.Spelled ((body group).map Token.kind) statement)
      (unknown : ¬ statement.Resolvable externals names)
      (named : statement.reference? = some reference) :
      TargetError externals names group line
        (.unresolvedReference (if reference.global then "@" ++ reference.name else reference.name)
          line)

def FirstUnresolved (externals : List String) (groups : List (List Token)) (error : BuildError) :
    Prop :=
  ∃ index first rest, groups[index]? = some (first :: rest) ∧
    IsLeast {index | Unresolved externals ((introduced groups).map Prod.fst) groups index} index ∧
    TargetError externals ((introduced groups).map Prod.fst) (first :: rest) first.line error

theorem TargetError.unresolved_at {externals names : List String} {groups : List (List Token)}
    {group : List Token} {index line : Nat} {error : BuildError}
    (wrong : TargetError externals names group line error) (found : groups[index]? = some group) :
    Unresolved externals names groups index := by
  cases wrong with
  | unresolved spelled unknown named => exact ⟨group, _, found, spelled, unknown⟩

theorem TargetError.line_eq {externals names : List String} {group : List Token} {line : Nat}
    {error : BuildError} (wrong : TargetError externals names group line error) :
    error.line = line := by
  cases wrong
  rfl

end Draft

theorem Statement.reference_of_resolve {externals : List String} {labels : NameMap Nat}
    {statement : Statement} {reference : Reference}
    (failed : statement.resolve externals labels = .error reference) :
    statement.reference? = some reference := by
  have jump : ∀ {target}, resolveTarget labels target = .error reference → target = reference := by
    intro target missing
    unfold resolveTarget at missing
    split at missing <;> cases missing
    rfl
  cases statement with
  | assign | binary | argument | ret => cases failed
  | goto target =>
      rcases except_bind_eq_error.1 failed with missing | ⟨found, -, finished⟩
      · exact congrArg some (jump missing)
      · cases finished
  | branch polarity condition target =>
      rcases except_bind_eq_error.1 failed with missing | ⟨found, -, finished⟩
      · exact congrArg some (jump missing)
      · cases finished
  | call dest callee =>
      rcases except_bind_eq_error.1 failed with missing | ⟨found, -, finished⟩
      · unfold resolveCallee at missing
        split at missing
        · cases missing
        · split at missing <;> cases missing
          rfl
      · cases finished

namespace SourceLine

open Draft

variable {externals : List String} {definitions : List (String × Nat)} {groups : List (List Token)}
  {sources : List SourceLine}

theorem resolvable_of_resolve {statement : Statement} {instruction : Instruction}
    (distinct : (definitions.map Prod.fst).Nodup)
    (resolved : statement.resolve externals (.ofList definitions) = .ok instruction) :
    statement.Resolvable externals (definitions.map Prod.fst) :=
  Statement.exists_means_iff_resolvable.1
    ⟨instruction, (Statement.resolve_eq_ok_iff distinct).1 resolved⟩

theorem not_resolvable_of_resolve {statement : Statement} {reference : Reference}
    (distinct : (definitions.map Prod.fst).Nodup)
    (failed : statement.resolve externals (.ofList definitions) = .error reference) :
    ¬ statement.Resolvable externals (definitions.map Prod.fst) := by
  intro resolvable
  obtain ⟨instruction, means⟩ := Statement.exists_means_iff_resolvable.2 resolvable
  rw [(Statement.resolve_eq_ok_iff distinct).2 means] at failed
  cases failed

theorem drafts_of_cons (group : List Token) (source : SourceLine) (groups : List (List Token))
    (sources : List SourceLine) :
    Draft.statements (draftsOf (group :: groups) (source :: sources)) =
      source.statement.toList.map (·, lineOf group) ++
        Draft.statements (draftsOf groups sources) := by
  rw [draftsOf, List.zipWith_cons_cons, List.flatten_cons, Draft.statements_append,
    drafted_statements]
  rfl

theorem unresolved_zero {group : List Token} {source : SourceLine} {names : List String}
    (spelled : Spelled (group.map Token.kind) source) :
    Unresolved externals names (group :: groups) 0 ↔
      ∃ statement, source.statement = some statement ∧ ¬ statement.Resolvable externals names := by
  simp [Unresolved, spelled.statement_eq_some_iff]

theorem unresolved_succ {group : List Token} {names : List String} {index : Nat} :
    Unresolved externals names (group :: groups) (index + 1) ↔
      Unresolved externals names groups index := by
  simp [Unresolved]

theorem resolve_all_eq_error {error : BuildError} (distinct : (definitions.map Prod.fst).Nodup)
    (spelled : SpelledBy groups sources)
    (failed : Statement.resolveAll externals (.ofList definitions)
      (Draft.statements (draftsOf groups sources)) = .error error) :
    ∃ index group, groups[index]? = some group ∧
      (∀ earlier < index, ¬ Unresolved externals (definitions.map Prod.fst) groups earlier) ∧
      TargetError externals (definitions.map Prod.fst) group (lineOf group) error := by
  induction spelled with
  | nil => cases failed
  | @cons group source groups sources here there induction =>
      -- Once the first line is passed, the first unresolved statement is among the others.
      have onward (passed : ¬ Unresolved externals (definitions.map Prod.fst) (group :: groups) 0)
          (behind : Statement.resolveAll externals (.ofList definitions)
            (Draft.statements (draftsOf groups sources)) = .error error) :
          ∃ index held, (group :: groups)[index]? = some held ∧
            (∀ earlier < index,
              ¬ Unresolved externals (definitions.map Prod.fst) (group :: groups) earlier) ∧
            TargetError externals (definitions.map Prod.fst) held (lineOf held) error := by
        obtain ⟨index, held, found, before, wrong⟩ := induction behind
        refine ⟨index + 1, held, found, ?_, wrong⟩
        simp only [Nat.forall_lt_succ_left, unresolved_succ]
        exact ⟨passed, before⟩
      rw [drafts_of_cons] at failed
      cases stated : source.statement with
      | none =>
          rw [stated] at failed
          refine onward ?_ failed
          simp [unresolved_zero here, stated]
      | some statement =>
          rw [stated, Option.toList_some, List.map_singleton, List.singleton_append,
            Statement.resolveAll] at failed
          split at failed
          · rename_i reference missing
            cases failed
            refine ⟨0, group, rfl, fun earlier below => absurd below (Nat.not_lt_zero earlier), ?_⟩
            exact .unresolved (here.statement_eq_some_iff.1 stated)
              (not_resolvable_of_resolve distinct missing) (Statement.reference_of_resolve missing)
          · rename_i instruction resolved
            rcases except_bind_eq_error.1 failed with behind | ⟨later, -, finished⟩
            · refine onward ?_ behind
              simpa [unresolved_zero here, stated] using resolvable_of_resolve distinct resolved
            · cases finished

theorem not_unresolved_of_resolve_all {instructions : List Instruction}
    (distinct : (definitions.map Prod.fst).Nodup) (spelled : SpelledBy groups sources)
    (finished : Statement.resolveAll externals (.ofList definitions)
      (Draft.statements (draftsOf groups sources)) = .ok instructions) (index : Nat) :
    ¬ Unresolved externals (definitions.map Prod.fst) groups index := by
  induction spelled generalizing instructions index with
  | nil => simp [Unresolved]
  | @cons group source groups sources here there induction =>
      rw [drafts_of_cons] at finished
      cases stated : source.statement with
      | none =>
          rw [stated] at finished
          cases index with
          | zero => simp [unresolved_zero here, stated]
          | succ index =>
              rw [unresolved_succ]
              exact induction finished index
      | some statement =>
          rw [stated, Option.toList_some, List.map_singleton, List.singleton_append,
            Statement.resolveAll] at finished
          split at finished
          · cases finished
          · rename_i instruction resolved
            obtain ⟨later, others, -⟩ := except_bind_eq_ok.1 finished
            cases index with
            | zero =>
                simpa [unresolved_zero here, stated] using resolvable_of_resolve distinct resolved
            | succ index =>
                rw [unresolved_succ]
                exact induction others index

end SourceLine

theorem is_least_of_first {holds : Nat → Prop} {index : Nat} (here : holds index)
    (before : ∀ earlier < index, ¬ holds earlier) : IsLeast {index | holds index} index := by
  refine ⟨here, ?_⟩
  intro other member
  exact Nat.not_lt.1 fun below => before other below member

namespace Draft

variable {tokens : List Token} {index : Nat} {error : BuildError}

theorem exists_first_token {group : List Token} (found : (lines tokens)[index]? = some group) :
    ∃ first rest, group = first :: rest := by
  cases group with
  | nil => exact absurd (List.mem_of_getElem? found) (Token.grouped_lines tokens).nonempty
  | cons first rest => exact ⟨first, rest, rfl⟩

theorem mem_of_first {first : Token} {rest : List Token}
    (found : (lines tokens)[index]? = some (first :: rest)) : first ∈ tokens := by
  rw [← (Token.grouped_lines tokens).whole]
  exact List.mem_flatten_of_mem (List.mem_of_getElem? found) List.mem_cons_self

theorem FirstRefused.exists_token (refused : FirstRefused (lines tokens) error) :
    ∃ token ∈ tokens, error.line = token.line := by
  obtain ⟨index, first, rest, found, -, wrong⟩ := refused
  exact ⟨first, mem_of_first found, wrong.line_eq⟩

theorem FirstUnresolved.exists_token {externals : List String}
    (unresolved : FirstUnresolved externals (lines tokens) error) :
    ∃ token ∈ tokens, error.line = token.line := by
  obtain ⟨index, first, rest, found, -, wrong⟩ := unresolved
  exact ⟨first, mem_of_first found, wrong.line_eq⟩

end Draft

/-- The number stands for a line of the text. If the text has more line breaks than can be counted,
it may be zero. -/
structure Text.Numbers (text : List Char) (line : Nat) : Prop where
  positive : text.count '\n' < Token.lastLine → 1 ≤ line
  upper : line ≤ 1 + text.count '\n'

theorem Laid.line_bounds {text : List Char} {tokens : List Token} {failure : Option BuildError}
    (laid : Laid [] text tokens failure) :
    (∀ token ∈ tokens, Text.Numbers text token.line) ∧
      ∀ error ∈ failure, Text.Numbers text error.line := by
  -- A place in a text has the line breaks before it counted, which are some of the text's.
  have counted : ∀ before rest : List Char, text = before ++ rest →
      Text.Numbers text (Place.after before).line.toNat := by
    intro before rest whole
    have upper := Place.line_after_le before
    rw [Text.lineBehind] at upper
    rw [whole]
    constructor
    · intro few
      rw [List.count_append] at few
      rw [Place.line_after (by omega), Text.lineBehind]
      omega
    · rw [List.count_append]
      omega
  constructor
  · intro token member
    obtain ⟨before, lexeme, after, whole, -, span, -⟩ := laid.stands member
    rw [Token.line, span]
    exact counted before _ whole
  · intro error failed
    obtain ⟨before, rest, problem, whole, -, -, rfl⟩ := laid.cut failed
    exact counted before rest whole

namespace Program

open Draft

/-- How the assembly of lines ends: with the first defect of a line, else with the first target that
is not known, else with a program. -/
theorem of_tokens_cases (externals : List String) (tokens : List Token) :
    (∃ error, FirstRefused (lines tokens) error ∧ ofTokens externals tokens = .error error) ∨
    (∀ index, ¬ Offends [] (lines tokens) index) ∧
      ((∃ error, FirstUnresolved (externals.map Text.bareName) (lines tokens) error ∧
        ofTokens externals tokens = .error error) ∨
      (∀ index, ¬ Unresolved (externals.map Text.bareName)
        ((introduced (lines tokens)).map Prod.fst) (lines tokens) index) ∧
        ∃ program, ofTokens externals tokens = .ok program) := by
  have grouped := Token.grouped_lines tokens
  have recorded : Recorded .empty [] := ⟨.nil, fun name => rfl⟩
  cases drafted : Draft.ofTokens tokens with
  | error error =>
      left
      obtain ⟨index, group, found, before, wrong⟩ :=
        of_lines_eq_error recorded grouped.joined drafted
      obtain ⟨first, rest, rfl⟩ := exists_first_token found
      have least := is_least_of_first ⟨_, found, wrong.offends⟩ before
      refine ⟨error, ⟨index, first, rest, found, least, wrong⟩, ?_⟩
      rw [ofTokens, drafted]
      rfl
  | ok drafts =>
      right
      refine ⟨not_offends_of_lines recorded grouped.joined drafted, ?_⟩
      obtain ⟨sources, spelled, rfl, distinct, -⟩ := SourceLine.of_lines_eq_ok_iff.1 drafted
      have names : (SourceLine.definitions sources).map Prod.fst =
          (introduced (lines tokens)).map Prod.fst := by
        rw [SourceLine.definitions_names, spelled.introduced_names]
      have known : ((SourceLine.definitions sources).map Prod.fst).Nodup := by
        rw [SourceLine.definitions_names]
        exact distinct
      have assembled : ofTokens externals tokens =
          ofDrafts (externals.map Text.bareName) (SourceLine.draftsOf (lines tokens) sources) := by
        rw [ofTokens, drafted]
        rfl
      rw [assembled, ofDrafts, SourceLine.labels_from_drafts_of spelled, ← names]
      cases resolved : Statement.resolveAll (externals.map Text.bareName)
          (.ofList (SourceLine.definitions sources))
          (Draft.statements (SourceLine.draftsOf (lines tokens) sources)) with
      | error error =>
          left
          obtain ⟨index, group, found, before, wrong⟩ :=
            SourceLine.resolve_all_eq_error known spelled resolved
          obtain ⟨first, rest, rfl⟩ := exists_first_token found
          rw [names] at before wrong
          have least := is_least_of_first (wrong.unresolved_at found) before
          refine ⟨error, ⟨index, first, rest, found, least, wrong⟩, ?_⟩
          exact except_bind_eq_error.2 (.inl resolved)
      | ok instructions =>
          right
          refine ⟨SourceLine.not_unresolved_of_resolve_all known spelled resolved, ?_⟩
          exact ⟨_, except_bind_eq_ok.2 ⟨_, resolved, rfl⟩⟩

theorem of_source_of_yields {externals : List String} {source : String} {tokens : List Token}
    {failure : Option BuildError} (yields : (Lexer.ofSource source).Yields tokens failure) :
    ofSource externals source = failure.elim (ofTokens externals tokens) .error := by
  obtain ⟨rfl, rfl⟩ := (Lexer.yields_drain source (.ofText source.toList)).unique yields
  rw [ofSource, tokenize]
  cases drained : (Cursor.ofText source.toList).drain with
  | mk tokens failure => cases failure <;> rfl

/-- A failing build reports the first lexical error if there is one; else the first line that is
refused, for a label it defines again or else for its spelling; else the first target that is not
known; and it fails for nothing else. The line of an error is a line of the text, as long as there
are no more line breaks than can be counted. -/
theorem failing_build_reports_first_defect (externals : List String) (source : String) :
    (∀ tokens error, (Lexer.ofSource source).Yields tokens (some error) →
      ofSource externals source = .error error) ∧
    (∀ tokens, (Lexer.ofSource source).Yields tokens none →
      ((∃ index, Offends [] (lines tokens) index) →
        ∃ error, FirstRefused (lines tokens) error ∧ ofSource externals source = .error error) ∧
      ((∀ index, ¬ Offends [] (lines tokens) index) →
        ((∃ index, Unresolved (externals.map Text.bareName)
            ((introduced (lines tokens)).map Prod.fst) (lines tokens) index) →
          ∃ error, FirstUnresolved (externals.map Text.bareName) (lines tokens) error ∧
            ofSource externals source = .error error) ∧
        ((∀ index, ¬ Unresolved (externals.map Text.bareName)
            ((introduced (lines tokens)).map Prod.fst) (lines tokens) index) →
          ∃ program, ofSource externals source = .ok program))) ∧
    ∀ error, ofSource externals source = .error error →
      (source.toList.count '\n' < Token.lastLine → 1 ≤ error.line) ∧
        error.line ≤ 1 + source.toList.count '\n' := by
  refine ⟨?_, ?_, ?_⟩
  · intro tokens error yields
    exact of_source_of_yields yields
  · intro tokens yields
    have built : ofSource externals source = ofTokens externals tokens := of_source_of_yields yields
    rw [built]
    rcases of_tokens_cases externals tokens with refused | ⟨sound, unresolved | ⟨resolved, finished⟩⟩
    · refine ⟨fun offends => refused, fun sound => ?_⟩
      obtain ⟨error, ⟨index, first, rest, -, least, -⟩, -⟩ := refused
      exact absurd least.1 (sound index)
    · refine ⟨fun ⟨index, offends⟩ => absurd offends (sound index), fun sound => ?_⟩
      refine ⟨fun unknown => unresolved, fun resolved => ?_⟩
      obtain ⟨error, ⟨index, first, rest, -, least, -⟩, -⟩ := unresolved
      exact absurd least.1 (resolved index)
    · refine ⟨fun ⟨index, offends⟩ => absurd offends (sound index), fun sound => ?_⟩
      exact ⟨fun ⟨index, unknown⟩ => absurd unknown (resolved index), fun resolved => finished⟩
  · intro error failed
    have yields := Lexer.yields_drain source (.ofText source.toList)
    have bounds := (Lexer.Yields.laid yields).line_bounds
    rw [of_source_of_yields yields] at failed
    cases failure : (Cursor.ofText source.toList).drain.2 with
    | some problem =>
        rw [failure] at failed bounds
        cases failed
        exact ⟨(bounds.2 error rfl).positive, (bounds.2 error rfl).upper⟩
    | none =>
        rw [failure] at failed
        have ended : ofTokens externals (Cursor.ofText source.toList).drain.1 = .error error := failed
        have token : ∃ token ∈ (Cursor.ofText source.toList).drain.1, error.line = token.line := by
          rcases of_tokens_cases externals (Cursor.ofText source.toList).drain.1 with
            ⟨other, refused, same⟩ | ⟨-, ⟨other, unresolved, same⟩ | ⟨-, program, same⟩⟩
          · cases ended.symm.trans same
            exact refused.exists_token
          · cases ended.symm.trans same
            exact unresolved.exists_token
          · cases ended.symm.trans same
        obtain ⟨token, member, same⟩ := token
        rw [same]
        exact ⟨(bounds.1 token member).positive, (bounds.1 token member).upper⟩

def nameBelow (count : Nat) : String := String.ofList (List.replicate count '\n' ++ ['x'])

theorem count_breaks_name_below (count : Nat) :
    (nameBelow count).toList.count '\n' = count := by
  simp [nameBelow]

theorem of_source_name_below (count : Nat) :
    ofSource [] (nameBelow count) =
      .error (.malformed (.unexpected .assign none) ((1 + count) % (Token.lastLine + 1))) := by
  have blank : ∀ c ∈ List.replicate count '\n', Text.isBlank c = true := by
    intro c member
    rw [List.eq_of_mem_replicate member]
    rfl
  have readable : (TokenKind.identifier "x").Readable := ⟨by decide, by decide⟩
  have line : (Place.start.past (List.replicate count '\n')).line.toNat =
      (1 + count) % (Token.lastLine + 1) := by
    rw [Place.past_line, List.count_replicate_self, UInt32.toNat_add, UInt32.toNat_ofNat',
      Nat.add_mod_mod]
    rfl
  have drained : (Cursor.ofText (nameBelow count).toList).drain =
      ([Cursor.tokenAt (Place.start.past (List.replicate count '\n')) (.identifier "x")], none) := by
    have scanned : Cursor.scan ⟨Place.start.past (List.replicate count '\n'), ['x']⟩ = _ :=
      Cursor.scan_render readable Lexeme.separated_nil
        (Place.start.past (List.replicate count '\n'))
    rw [nameBelow, String.toList_ofList, Cursor.ofText, Cursor.drain_blanks blank,
      Cursor.drain_of_token scanned, Cursor.drain_of_finished rfl]
  have scanned : tokenize (nameBelow count) = .ok _ := tokenize_eq_ok_iff.2 drained
  rw [ofSource, scanned, ← line]
  rfl

/-- With so many line breaks the number of the line behind them is used up. -/
theorem name_reported_on_line_zero :
    (nameBelow 0xffffffff).toList.count '\n' = 0xffffffff ∧
      ∃ error, ofSource [] (nameBelow 0xffffffff) = .error error ∧ ¬ 1 ≤ error.line :=
  ⟨count_breaks_name_below 0xffffffff, _, of_source_name_below 0xffffffff, by decide⟩

/-- The second statement defines a label again, and its jump has no target either. -/
def twiceDefectiveSource : String := "main: ret 'p\nq'\nx: main: goto\ngoto @nowhere"

def twiceDefectiveTokens : List Token :=
  [⟨.label "main", ⟨0, 5, 1, 1⟩⟩, ⟨.keyword .ret, ⟨6, 9, 1, 7⟩⟩, ⟨.string "p\nq", ⟨10, 15, 1, 11⟩⟩,
    ⟨.label "x", ⟨16, 18, 3, 1⟩⟩, ⟨.label "main", ⟨19, 24, 3, 4⟩⟩, ⟨.keyword .goto, ⟨25, 29, 3, 10⟩⟩,
    ⟨.keyword .goto, ⟨30, 34, 4, 1⟩⟩, ⟨.globalRef "nowhere", ⟨35, 43, 4, 6⟩⟩]

theorem twice_defective_reports_label :
    (Lexer.ofSource twiceDefectiveSource).Yields twiceDefectiveTokens none ∧
      (∃ index, Offends [] (lines twiceDefectiveTokens) index) ∧
      (∃ error, FirstRefused (lines twiceDefectiveTokens) error ∧
        ofSource [] twiceDefectiveSource = .error error) ∧
      ofSource [] twiceDefectiveSource = .error (.duplicateLabel "main" 3 1) ∧
      3 ≤ 1 + twiceDefectiveSource.toList.count '\n' := by
  have drained : (Cursor.ofText twiceDefectiveSource.toList).drain = (twiceDefectiveTokens, none) := by
    decide +kernel
  have yields := Lexer.yields_drain twiceDefectiveSource (.ofText twiceDefectiveSource.toList)
  rw [drained] at yields
  have offends : Offends [] (lines twiceDefectiveTokens) 1 := by
    refine ⟨(twiceDefectiveTokens.drop 3).take 3, by decide +kernel, .inl ?_⟩
    exact ⟨[("x", 3)], "main", 3, [], by decide +kernel, by decide +kernel⟩
  have failed : ofSource [] twiceDefectiveSource = .error (.duplicateLabel "main" 3 1) := by
    decide +kernel
  have reported := failing_build_reports_first_defect [] twiceDefectiveSource
  exact ⟨yields, ⟨1, offends⟩, (reported.2.1 _ yields).1 ⟨1, offends⟩, failed,
    (reported.2.2 _ failed).2⟩

end Program

end ThreeAddress
