import ThreeAddress.Proofs.LineBreak

/-!
Assembly and line numbers. The lines of tokens tell which tokens stand together, and they are
reported in errors; nothing else depends on them. So when the lines are numbered anew, the same
program is assembled, or the same error is reported with the new numbers.
-/

namespace ThreeAddress

namespace NameMap

variable {α β : Type}

def map (change : α → β) (defined : NameMap α) : NameMap β :=
  ⟨defined.entries.map fun entry => (entry.1, change entry.2), List.pairwise_map.2 defined.ordered⟩

@[simp] theorem find_map (change : α → β) (defined : NameMap α) (name : String) :
    (defined.map change).find? name = (defined.find? name).map change := by
  obtain ⟨entries, ordered⟩ := defined
  rw [find?, find?, map]
  dsimp only
  clear ordered
  induction entries with
  | nil => rfl
  | cons entry entries induction =>
      rw [List.map_cons, List.lookup_cons, List.lookup_cons, induction]
      cases name == entry.1 <;> rfl

theorem insert_map (change : α → β) (defined : NameMap α) (name : String) (value : α) :
    (defined.map change).insert name (change value) = (defined.insert name value).map change := by
  apply ext_find
  intro key
  rw [find_map, find_insert, find_insert, find_map]
  split <;> rfl

end NameMap

/-- A computation commutes with changes of results and errors if each of its steps does. -/
theorem except_bind_map_error {Error First Second Middle Result : Type} {report : Error → Error}
    {change : First → Middle} {finish : Second → Result} {first : Except Error First}
    {next : First → Except Error Second} {onward : Middle → Except Error Result}
    (step : ∀ value, onward (change value) = ((next value).map finish).mapError report) :
    (first.map change).mapError report >>= onward =
      ((first >>= next).map finish).mapError report := by
  cases first with
  | error problem => rfl
  | ok value => exact step value

def Draft.renumber (number : Nat → Nat) : Draft → Draft
  | .label name => .label name
  | .statement body line => .statement body (number line)

namespace Draft

variable (bytes : Nat) {number : Nat → Nat} {moved : Token → Token}

theorem labels_from_renumber (pc : Nat) (drafts : List Draft) :
    labelsFrom pc (drafts.map (renumber number)) = labelsFrom pc drafts := by
  induction drafts generalizing pc with
  | nil => rfl
  | cons draft drafts induction => cases draft <;> simp [renumber, labelsFrom, induction]

theorem statements_renumber (drafts : List Draft) :
    statements (drafts.map (renumber number)) = (statements drafts).map (Prod.map id number) := by
  induction drafts with
  | nil => rfl
  | cons draft drafts induction => cases draft <;> simp [renumber, statements, induction]

theorem of_line_renumber {tokens : List Token} (renumbers : Token.Renumbers number moved tokens)
    (line : Nat) (defined : NameMap Nat) :
    ofLine (number line) (defined.map number) (tokens.map moved) =
      ((ofLine line defined tokens).map
        (Prod.map (List.map (renumber number)) (NameMap.map number))).mapError
          (BuildError.renumber bytes number) := by
  have kinds : (tokens.map moved).map Token.kind = tokens.map Token.kind := by
    rw [List.map_map]
    exact List.map_congr_left renumbers.kind
  -- Both sides take the same way through the line, since they look at kinds and known names only.
  fun_induction ofLine line defined tokens with
  | case1 defined => rfl
  | case2 defined token rest name labelled firstLine found =>
      have same := (List.cons.inj kinds).1.trans labelled
      rw [List.map_cons, ofLine]
      simp only [same, NameMap.find_map, found]
      rfl
  | case3 defined token rest name labelled fresh induction =>
      have same := (List.cons.inj kinds).1.trans labelled
      have later := induction (renumbers.subset (List.subset_cons_self token rest))
        (List.cons.inj kinds).2
      rw [List.map_cons, ofLine]
      simp only [same, NameMap.find_map, fresh, NameMap.insert_map, later]
      apply except_bind_map_error
      intro result
      rfl
  | case4 defined token rest problem refused unlabelled =>
      have same := (List.cons.inj kinds).1
      rw [List.map_cons] at kinds ⊢
      rw [ofLine, kinds, refused]
      split
      · rename_i name labelled
        exact (unlabelled name (same.symm.trans labelled)).elim
      · rfl
  | case5 defined token rest body parsed unlabelled =>
      have same := (List.cons.inj kinds).1
      rw [List.map_cons] at kinds ⊢
      rw [ofLine, kinds, parsed]
      split
      · rename_i name labelled
        exact (unlabelled name (same.symm.trans labelled)).elim
      · rfl

theorem of_lines_renumber {groups : List (List Token)} (nonempty : [] ∉ groups)
    (renumbers : ∀ group ∈ groups, Token.Renumbers number moved group) (defined : NameMap Nat) :
    ofLines (defined.map number) (groups.map (·.map moved)) =
      ((ofLines defined groups).map (List.map (renumber number))).mapError
        (BuildError.renumber bytes number) := by
  induction groups generalizing defined with
  | nil => rfl
  | cons group groups induction =>
      rw [List.forall_mem_cons] at renumbers
      rw [List.mem_cons, not_or] at nonempty
      obtain ⟨first, rest, rfl⟩ := List.exists_cons_of_ne_nil (Ne.symm nonempty.1)
      have here := of_line_renumber bytes renumbers.1 first.line defined
      rw [← renumbers.1.line first List.mem_cons_self] at here
      have there := induction nonempty.2 renumbers.2
      change (ofLine (moved first).line _ _ >>= _) = _
      rw [here]
      apply except_bind_map_error
      intro result
      obtain ⟨drafts, after⟩ := result
      change (ofLines (after.map number) _ >>= _) = _
      rw [there]
      apply except_bind_map_error
      intro later
      simp [Except.map, Except.mapError, pure, Except.pure]

theorem of_tokens_renumber {tokens : List Token} (renumbers : Token.Renumbers number moved tokens) :
    ofTokens (tokens.map moved) =
      ((ofTokens tokens).map (List.map (renumber number))).mapError
        (BuildError.renumber bytes number) := by
  have grouped := Token.grouped_lines tokens
  have lines := Token.grouped_iff.1 (grouped.renumber renumbers)
  rw [ofTokens, lines]
  refine of_lines_renumber bytes grouped.nonempty ?_ .empty
  intro group member
  refine renumbers.subset fun token inside => ?_
  rw [← grouped.whole]
  exact List.mem_flatten_of_mem member inside

end Draft

theorem Statement.resolve_all_renumber (bytes : Nat) (number : Nat → Nat) (externals : List String)
    (labels : NameMap Nat) (statements : List (Statement × Nat)) :
    resolveAll externals labels (statements.map (Prod.map id number)) =
      (resolveAll externals labels statements).mapError (BuildError.renumber bytes number) := by
  fun_induction resolveAll externals labels statements with
  | case1 => rfl
  | case2 statement line rest reference unresolved =>
      simp only [List.map_cons, Prod.map, id, resolveAll, unresolved]
      rfl
  | case3 statement line rest instruction resolved induction =>
      simp only [List.map_cons, Prod.map, id, resolveAll, resolved] at induction ⊢
      rw [induction]
      cases resolveAll externals labels rest <;> rfl

namespace Program

theorem of_drafts_renumber (bytes : Nat) (number : Nat → Nat) (externals : List String)
    (drafts : List Draft) :
    ofDrafts externals (drafts.map (Draft.renumber number)) =
      (ofDrafts externals drafts).mapError (BuildError.renumber bytes number) := by
  rw [ofDrafts, ofDrafts, Draft.labels_from_renumber, Draft.statements_renumber,
    Statement.resolve_all_renumber bytes]
  cases Statement.resolveAll externals (.ofList (Draft.labelsFrom 0 drafts))
    (Draft.statements drafts) <;> rfl

theorem of_tokens_renumber (bytes : Nat) {number : Nat → Nat} {moved : Token → Token}
    {tokens : List Token} (renumbers : Token.Renumbers number moved tokens)
    (externals : List String) :
    ofTokens externals (tokens.map moved) =
      (ofTokens externals tokens).mapError (BuildError.renumber bytes number) := by
  rw [ofTokens, ofTokens, Draft.of_tokens_renumber bytes renumbers]
  cases Draft.ofTokens tokens with
  | error problem => rfl
  | ok drafts => exact of_drafts_renumber bytes number _ drafts

end Program

end ThreeAddress
