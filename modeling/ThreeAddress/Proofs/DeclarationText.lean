import Mathlib.Data.List.TakeDrop
import ThreeAddress.Declaration
import ThreeAddress.Proofs.Lexemes

/-!
Declarations as text. `Declaration.Written` says which names a text gives to a function and its
parameters, without reference to how it is read and whether or not these names are identifiers.
Reading accepts a text exactly where all of its names are identifiers; of the others it reports the
first one, or the missing `=`.
-/

namespace ThreeAddress

namespace Text

/-- A text, and what is left of it without the blanks around it. -/
inductive Trims : List Char → List Char → Prop where
  | around {before core after : List Char} (opening : ∀ c ∈ before, isBlank c = true)
      (closing : ∀ c ∈ after, isBlank c = true) (starts : Ends isBlank core)
      (stops : Ends isBlank core.reverse) : Trims (before ++ (core ++ after)) core

theorem trim_end_of_stops {core after : List Char} (closing : ∀ c ∈ after, isBlank c = true)
    (stops : Ends isBlank core.reverse) : trimEnd (core ++ after) = core := by
  have backwards : ∀ c ∈ after.reverse, isBlank c = true := by simpa using closing
  rw [trimEnd, List.reverse_append, drop_while_of_ends backwards stops, List.reverse_reverse]

theorem Trims.trim_eq {text core : List Char} (trims : Trims text core) : trim text = core := by
  cases trims with
  | @around before _ after opening closing starts stops =>
      cases core with
      | nil =>
          have blanks : ∀ c ∈ before ++ after, isBlank c = true := by
            intro c member
            rcases List.mem_append.1 member with early | late
            · exact opening c early
            · exact closing c late
          have none : trimStart (before ++ after) = [] := by simpa [trimStart] using blanks
          rw [List.nil_append, trim, none]
          rfl
      | cons first core =>
          have begins : Ends isBlank (first :: core ++ after) := by
            intro c member
            exact starts c member
          rw [trim, trimStart, drop_while_of_ends opening begins, trim_end_of_stops closing stops]

theorem trims_trim (text : List Char) : Trims text (trim text) := by
  have opened := List.takeWhile_append_dropWhile (p := isBlank) (l := text)
  have closed : trim text ++ ((trimStart text).reverse.takeWhile isBlank).reverse =
      trimStart text := by
    rw [trim, trimEnd, ← List.reverse_append, List.takeWhile_append_dropWhile,
      List.reverse_reverse]
  have starts : Ends isBlank (trim text) := by
    intro c member
    apply ends_drop_while isBlank text
    change c ∈ (trimStart text).head?
    rw [← closed, List.head?_append, Option.mem_def.1 member]
    rfl
  have stops : Ends isBlank (trim text).reverse := by
    rw [trim, trimEnd, List.reverse_reverse]
    exact ends_drop_while isBlank _
  have opening : ∀ c ∈ text.takeWhile isBlank, isBlank c = true :=
    fun c member => List.mem_takeWhile_imp member
  have closing : ∀ c ∈ ((trimStart text).reverse.takeWhile isBlank).reverse, isBlank c = true :=
    fun c member => List.mem_takeWhile_imp (List.mem_reverse.1 member)
  have trims := Trims.around opening closing starts stops
  rwa [closed, trimStart, opened] at trims

theorem trims_of_solid {text : List Char} (solid : ∀ c ∈ text, isBlank c = false) :
    Trims text text := by
  have starts : Ends isBlank text := fun c member => solid c (List.mem_of_mem_head? member)
  have stops : Ends isBlank text.reverse := by
    intro c member
    exact solid c (List.mem_reverse.1 (List.mem_of_mem_head? member))
  have none : ∀ c ∈ ([] : List Char), isBlank c = true := by simp
  simpa using Trims.around none none starts stops

theorem identifier_solid {name : List Char} (valid : isIdentifier name = true) :
    ∀ c ∈ name, isBlank c = false := by
  obtain ⟨first, rest, -, -, parts⟩ := is_identifier_cons valid
  intro c member
  rw [← Bool.not_eq_true]
  intro blank
  have other := parts c member
  rw [blank_not_part blank] at other
  cases other

end Text

namespace Declaration

open Text

/-- The text in front of the `=`, and the function's name in it: what is left without the blanks
around it and without an `@` at its front. -/
inductive Names : List Char → List Char → Prop where
  | bare {text name : List Char} (trims : Trims text name) (unmarked : name.head? ≠ some '@') :
      Names text name
  | marked {text name : List Char} (trims : Trims text ('@' :: name)) : Names text name

/-- Elements with commas between them, and the names in the elements, each of which is left without
the blanks around it. -/
inductive Separates : List Char → List (List Char) → Prop where
  | last {element name : List Char} (plain : ',' ∉ element) (trims : Trims element name) :
      Separates element [name]
  | more {element name rest : List Char} {names : List (List Char)} (plain : ',' ∉ element)
      (trims : Trims element name) (later : Separates rest names) :
      Separates (element ++ ',' :: rest) (name :: names)

/-- The text behind the `=`, and the parameters in it. A blank text has none. -/
inductive Lists : List Char → List (List Char) → Prop where
  | blank {text : List Char} (trims : Trims text []) : Lists text []
  | separated {text list : List Char} {names : List (List Char)} (trims : Trims text list)
      (nonempty : list ≠ []) (separates : Separates list names) : Lists text names

/-- The names that a declaration gives, up to its first `=` that of the function and behind it those
of the parameters. They need not be identifiers. -/
inductive Written : List Char → List Char → List (List Char) → Prop where
  | parts {left right function : List Char} {params : List (List Char)} (first : '=' ∉ left)
      (names : Names left function) (lists : Lists right params) :
      Written (left ++ '=' :: right) function params

theorem Names.drop_at_eq {text name : List Char} (names : Names text name) :
    dropAt (trim text) = name := by
  cases names with
  | bare trims unmarked =>
      rw [trims.trim_eq]
      unfold dropAt
      split
      · exact absurd rfl unmarked
      · rfl
  | marked trims =>
      rw [trims.trim_eq]
      rfl

theorem names_drop_at (text : List Char) : Names text (dropAt (trim text)) := by
  have trims := trims_trim text
  unfold dropAt
  split
  · rename_i rest marked
    rw [marked] at trims
    exact .marked trims
  · rename_i other
    refine .bare trims ?_
    intro marked
    obtain ⟨rest, same⟩ := List.head?_eq_some_iff.1 marked
    exact other rest same

theorem Separates.split_eq {list : List Char} {names : List (List Char)}
    (separates : Separates list names) : (list.splitOnP (· == ',')).map trim = names := by
  induction separates with
  | @last element name plain trims =>
      have others : ∀ c ∈ element, (c == ',') = false := by
        intro c member
        exact beq_eq_false_iff_ne.2 (ne_of_mem_of_not_mem member plain)
      rw [List.splitOnP_eq_singleton others, List.map_singleton, trims.trim_eq]
  | @more element name rest names plain trims later induction =>
      have others : ∀ c ∈ element, (c == ',') = false := by
        intro c member
        exact beq_eq_false_iff_ne.2 (ne_of_mem_of_not_mem member plain)
      rw [List.splitOnP_append_cons_of_forall_mem others ',' rfl, List.map_cons, trims.trim_eq,
        induction]

theorem exists_separates (list : List Char) : ∃ names, Separates list names := by
  induction size : list.length using Nat.strong_induction_on generalizing list with
  | _ size induction =>
      subst size
      by_cases comma : ',' ∈ list
      · obtain ⟨element, rest, rfl, plain⟩ := List.eq_append_cons_of_mem comma
        obtain ⟨names, later⟩ := induction rest.length (by simp; omega) rest rfl
        exact ⟨_, .more plain (trims_trim element) later⟩
      · exact ⟨_, .last comma (trims_trim list)⟩

theorem Lists.elements_eq {text : List Char} {names : List (List Char)} (lists : Lists text names) :
    elements text = names := by
  cases lists with
  | blank trims =>
      rw [elements, trims.trim_eq]
      rfl
  | separated trims nonempty separates =>
      rw [elements, trims.trim_eq]
      simp [nonempty, separates.split_eq]

theorem lists_elements (text : List Char) : Lists text (elements text) := by
  have trims := trims_trim text
  by_cases blank : trim text = []
  · rw [blank] at trims
    rw [(Lists.blank trims).elements_eq]
    exact .blank trims
  · obtain ⟨names, separates⟩ := exists_separates (trim text)
    have lists := Lists.separated trims blank separates
    rwa [lists.elements_eq]

/-! ### Reading what is written -/

theorem exists_written_iff {text : List Char} :
    (∃ function params, Written text function params) ↔ '=' ∈ text := by
  constructor
  · intro given
    obtain ⟨function, params, written⟩ := given
    cases written with
    | parts first names lists => simp
  · intro equals
    obtain ⟨left, right, rfl, first⟩ := List.eq_append_cons_of_mem equals
    exact ⟨_, _, .parts first (names_drop_at left) (lists_elements right)⟩

def FirstInvalid (names : List (List Char)) (name : List Char) : Prop :=
  ∃ passed later, names = passed ++ name :: later ∧
    (∀ other ∈ passed, isIdentifier other = true) ∧ isIdentifier name = false

theorem find_eq_some_iff {names : List (List Char)} {name : List Char} :
    (names.find? fun name => !isIdentifier name) = some name ↔ FirstInvalid names name := by
  rw [List.find?_eq_some_iff_append, FirstInvalid]
  constructor
  · intro found
    obtain ⟨invalid, passed, later, whole, valid⟩ := found
    exact ⟨passed, later, whole, by simpa using valid, by simpa using invalid⟩
  · intro first
    obtain ⟨passed, later, whole, valid, invalid⟩ := first
    exact ⟨by simpa using invalid, passed, later, whole, by simpa using valid⟩

theorem valid_or_first_invalid (names : List (List Char)) :
    (∀ name ∈ names, isIdentifier name = true) ∨ ∃ name, FirstInvalid names name := by
  cases found : names.find? fun name => !isIdentifier name with
  | none => exact .inl (by simpa using found)
  | some name => exact .inr ⟨name, find_eq_some_iff.1 found⟩

theorem read_of_no_equals {spec : String} (missing : '=' ∉ spec.toList) :
    read spec = .error (.missingEquals spec) := by
  have none : spec.toList.dropWhile (· != '=') = [] := by
    rw [List.dropWhile_eq_nil_iff]
    intro c member
    exact bne_iff_ne.2 (ne_of_mem_of_not_mem member missing)
  rw [read, List.span_eq_takeWhile_dropWhile, none]

theorem Written.span_eq {text function : List Char} {params : List (List Char)}
    (written : Written text function params) :
    ∃ left right, text.span (· != '=') = (left, '=' :: right) ∧
      dropAt (trim left) = function ∧ elements right = params := by
  cases written with
  | @parts left right _ _ first names lists =>
      have others : ∀ c ∈ left, (c != '=') = true := by
        intro c member
        exact bne_iff_ne.2 (ne_of_mem_of_not_mem member first)
      have ends : Ends (· != '=') ('=' :: right) := by
        intro c member
        cases member
        rfl
      refine ⟨left, right, ?_, names.drop_at_eq, lists.elements_eq⟩
      rw [List.span_eq_takeWhile_dropWhile, drop_while_of_ends others ends,
        take_while_of_ends others ends]

theorem read_of_valid {spec : String} {function : List Char} {params : List (List Char)}
    (written : Written spec.toList function params)
    (valid : ∀ name ∈ function :: params, isIdentifier name = true) :
    read spec = .ok ⟨String.ofList function, params.map String.ofList⟩ := by
  obtain ⟨left, right, split, rfl, rfl⟩ := written.span_eq
  have none : (dropAt (trim left) :: elements right).find? (fun name => !isIdentifier name) =
      none := by simpa using valid
  rw [read, split]
  dsimp only
  rw [none]

theorem read_of_first_invalid {spec : String} {function name : List Char}
    {params : List (List Char)} (written : Written spec.toList function params)
    (first : FirstInvalid (function :: params) name) :
    read spec = .error (.invalidName (String.ofList name) spec) := by
  obtain ⟨left, right, split, rfl, rfl⟩ := written.span_eq
  rw [read, split]
  dsimp only
  rw [find_eq_some_iff.2 first]

theorem read_eq_ok_iff {spec : String} {declaration : Declaration} :
    read spec = .ok declaration ↔
      Written spec.toList declaration.function.toList (declaration.params.map String.toList) ∧
        isIdentifier declaration.function.toList = true ∧
        ∀ param ∈ declaration.params, isIdentifier param.toList = true := by
  constructor
  · intro accepted
    by_cases equals : '=' ∈ spec.toList
    · obtain ⟨function, params, written⟩ := exists_written_iff.2 equals
      rcases valid_or_first_invalid (function :: params) with valid | ⟨name, first⟩
      · rw [read_of_valid written valid] at accepted
        cases accepted
        rw [List.forall_mem_cons] at valid
        simpa [Function.comp_def, String.toList_ofList] using ⟨written, valid⟩
      · rw [read_of_first_invalid written first] at accepted
        cases accepted
    · rw [read_of_no_equals equals] at accepted
      cases accepted
  · intro declared
    obtain ⟨written, named, valid⟩ := declared
    rw [read_of_valid written (by simpa [named] using valid)]
    simp [Function.comp_def, String.ofList_toList]

theorem read_eq_error_iff {spec : String} {error : ArgumentError} :
    read spec = .error error ↔
      '=' ∉ spec.toList ∧ error = .missingEquals spec ∨
      ∃ function params name, Written spec.toList function params ∧
        FirstInvalid (function :: params) name ∧
        error = .invalidName (String.ofList name) spec := by
  constructor
  · intro refused
    by_cases equals : '=' ∈ spec.toList
    · obtain ⟨function, params, written⟩ := exists_written_iff.2 equals
      rcases valid_or_first_invalid (function :: params) with valid | ⟨name, first⟩
      · rw [read_of_valid written valid] at refused
        cases refused
      · rw [read_of_first_invalid written first] at refused
        cases refused
        exact .inr ⟨function, params, name, written, first, rfl⟩
    · rw [read_of_no_equals equals] at refused
      cases refused
      exact .inl ⟨equals, rfl⟩
  · intro reported
    rcases reported with ⟨missing, rfl⟩ | ⟨function, params, name, written, first, rfl⟩
    · exact read_of_no_equals missing
    · exact read_of_first_invalid written first

/-! ### The plain form -/

theorem separates_intercalate {param : String} {params : List String}
    (valid : ∀ name ∈ param :: params, isIdentifier name.toList = true) :
    Separates (",".intercalate (param :: params)).toList ((param :: params).map String.toList) := by
  induction params generalizing param with
  | nil =>
      have named := valid param List.mem_cons_self
      have plain : ',' ∉ param.toList := not_mem_of_identifier named (by decide)
      simpa using Separates.last plain (trims_of_solid (identifier_solid named))
  | cons next params induction =>
      have named := valid param List.mem_cons_self
      have plain : ',' ∉ param.toList := not_mem_of_identifier named (by decide)
      have later := induction fun name member => valid name (List.mem_cons_of_mem _ member)
      simpa using Separates.more plain (trims_of_solid (identifier_solid named)) later

theorem solid_intercalate {params : List String}
    (valid : ∀ name ∈ params, isIdentifier name.toList = true) :
    ∀ c ∈ (",".intercalate params).toList, isBlank c = false := by
  induction params with
  | nil => simp
  | cons param params induction =>
      have named := identifier_solid (valid param List.mem_cons_self)
      have later := induction fun name member => valid name (List.mem_cons_of_mem _ member)
      cases params with
      | nil => simpa using named
      | cons next params =>
          intro c member
          rw [String.intercalate_cons_cons, String.toList_append, String.toList_append,
            List.mem_append, List.mem_append] at member
          rcases member with (own | comma) | other
          · exact named c own
          · rw [List.mem_singleton.1 comma]
            decide
          · exact later c other

theorem lists_intercalate {params : List String}
    (valid : ∀ name ∈ params, isIdentifier name.toList = true) :
    Lists (",".intercalate params).toList (params.map String.toList) := by
  have trims := trims_of_solid (solid_intercalate valid)
  cases params with
  | nil => exact .blank trims
  | cons param params =>
      have separates := separates_intercalate valid
      refine .separated trims ?_ separates
      cases params with
      | nil =>
          obtain ⟨first, rest, whole, -, -⟩ := is_identifier_cons (valid param List.mem_cons_self)
          simp [whole]
      | cons next params => simp

/-- Reading accepts a text exactly where the names that it gives are identifiers, and then gives
these names. A text without an `=` is refused as such. Any other text is refused with the first of
its names that is no identifier. In particular, the plain form of a declaration is read back. -/
theorem reads_exactly_the_declarations :
    (∀ spec function params, read spec = .ok ⟨function, params⟩ ↔
      Written spec.toList function.toList (params.map String.toList) ∧
        isIdentifier function.toList = true ∧
        ∀ param ∈ params, isIdentifier param.toList = true) ∧
    (∀ spec error, read spec = .error error ↔
      '=' ∉ spec.toList ∧ error = .missingEquals spec ∨
      ∃ function params name, Written spec.toList function params ∧
        FirstInvalid (function :: params) name ∧
        error = .invalidName (String.ofList name) spec) ∧
    ∀ function params, isIdentifier function.toList = true →
      (∀ param ∈ params, isIdentifier param.toList = true) →
        read (function ++ "=" ++ ",".intercalate params) = .ok ⟨function, params⟩ := by
  refine ⟨fun spec function params => read_eq_ok_iff, fun spec error => read_eq_error_iff, ?_⟩
  intro function params named valid
  have first : '=' ∉ function.toList := not_mem_of_identifier named (by decide)
  have unmarked : function.toList.head? ≠ some '@' := by
    intro marked
    exact not_mem_of_identifier named (by decide) (List.mem_of_mem_head? marked)
  have names := Names.bare (trims_of_solid (identifier_solid named)) unmarked
  have written := Written.parts first names (lists_intercalate valid)
  refine read_eq_ok_iff.2 ⟨?_, named, valid⟩
  simpa using written

/-- Blanks of every kind and an `@`; the plain form; and an `@` too many, which comes before a
parameter that is no identifier either. -/
theorem sum_declarations_are_read :
    Written "\u3000@sum\t= p0 ,_p1\n".toList "sum".toList ["p0".toList, "_p1".toList] ∧
      read ("sum" ++ "=" ++ ",".intercalate ["p0", "_p1"]) = .ok ⟨"sum", ["p0", "_p1"]⟩ ∧
      ∃ function params name, Written "@@sum=p=0".toList function params ∧
        FirstInvalid (function :: params) name ∧ String.ofList name = "@sum" := by
  obtain ⟨accepts, refuses, plain⟩ := reads_exactly_the_declarations
  have spaced : read "\u3000@sum\t= p0 ,_p1\n" = .ok ⟨"sum", ["p0", "_p1"]⟩ := by decide +kernel
  have marked : read "@@sum=p=0" = .error (.invalidName "@sum" "@@sum=p=0") := by decide +kernel
  refine ⟨((accepts _ _ _).1 spaced).1, plain "sum" ["p0", "_p1"] (by decide) (by decide), ?_⟩
  rcases (refuses _ _).1 marked with ⟨missing, other⟩ | ⟨function, params, name, reported⟩
  · cases other
  · obtain ⟨written, first, same⟩ := reported
    injection same with named
    exact ⟨function, params, name, written, first, named.symm⟩

end Declaration

end ThreeAddress
