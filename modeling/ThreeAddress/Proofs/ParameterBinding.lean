import ThreeAddress.Proofs.ProgramCounter
import ThreeAddress.Proofs.SessionTable
import ThreeAddress.Proofs.StepBudget

/-!
What a function finds in its environment when it is entered. Its parameters are those of the last
declaration that names it, and there are as many arguments. A parameter holds the argument in the
last of its places, and nothing else is bound. So every place keeps its own argument exactly if a
name that is declared twice is given the same argument twice; and declarations with such names are
read.
-/

namespace ThreeAddress

theorem exists_last_place {names : List String} {key : String} (member : key ∈ names) :
    ∃ index, names[index]? = some key ∧ key ∉ names.drop (index + 1) := by
  obtain ⟨after, before, whole, absent⟩ := List.eq_append_cons_of_mem (List.mem_reverse.2 member)
  have split : names = before.reverse ++ key :: after.reverse := by
    simpa using congrArg List.reverse whole
  refine ⟨before.reverse.length, ?_, ?_⟩
  · rw [split, List.getElem?_append_right (Nat.le_refl _), Nat.sub_self, List.getElem?_cons_zero]
  · rw [split, List.drop_append, List.drop_of_length_le (Nat.le_succ _), Nat.add_sub_cancel_left]
    simpa using absent

namespace NameMap

variable {α : Type}

theorem find_of_list_of_last {pairs : List (String × α)} {key : String} {value : α} {index : Nat}
    (found : pairs[index]? = some (key, value))
    (last : key ∉ (pairs.map Prod.fst).drop (index + 1)) :
    (ofList pairs).find? key = some value := by
  obtain ⟨inside, here⟩ := List.getElem?_eq_some_iff.1 found
  rw [← List.map_drop] at last
  rw [ofList, ← List.take_append_drop index pairs, List.foldl_append,
    List.drop_eq_getElem_cons inside, List.foldl_cons, find_insert_pairs_of_not_mem _ _ last, here,
    find_insert_self]

theorem find_of_list_iff_last (pairs : List (String × α)) {key : String} {value : α} :
    (ofList pairs).find? key = some value ↔
      ∃ index, pairs[index]? = some (key, value) ∧ key ∉ (pairs.map Prod.fst).drop (index + 1) := by
  constructor
  · intro found
    have listed : key ∈ pairs.map Prod.fst := by
      by_contra absent
      rw [ofList, find_insert_pairs_of_not_mem pairs empty absent] at found
      cases found
    obtain ⟨index, named, last⟩ := exists_last_place listed
    rw [List.getElem?_map, Option.map_eq_some_iff] at named
    obtain ⟨⟨name, held⟩, here, rfl⟩ := named
    rw [find_of_list_of_last here last] at found
    cases found
    exact ⟨index, here, last⟩
  · intro paired
    obtain ⟨index, here, last⟩ := paired
    exact find_of_list_of_last here last

end NameMap

namespace Frame

structure Receives (params : List String) (arguments : List Value) (environment : Environment) :
    Prop where
  matched : arguments.length = params.length
  bound : ∀ name value, environment.find? name = some value ↔ ∃ index : Nat,
    params[index]? = some name ∧ arguments[index]? = some value ∧ name ∉ params.drop (index + 1)

/-- Every parameter is bound to the argument in its own place, and nothing else is bound. -/
def BindsEach (params : List String) (arguments : List Value) (environment : Environment) : Prop :=
  ∀ name value, environment.find? name = some value ↔
    ∃ index : Nat, params[index]? = some name ∧ arguments[index]? = some value

def Agree (params : List String) (arguments : List Value) : Prop :=
  ∀ (first second : Nat) (name : String), params[first]? = some name → params[second]? = some name →
    arguments[first]? = arguments[second]?

variable {params : List String} {arguments : List Value} {environment : Environment}

theorem receives_bind (matched : arguments.length = params.length) :
    Receives params arguments (bind params arguments) := by
  have names : (params.zip arguments).map Prod.fst = params :=
    List.map_fst_zip (Nat.le_of_eq matched.symm)
  refine ⟨matched, ?_⟩
  intro name value
  simp only [bind, NameMap.find_of_list_iff_last, names, List.getElem?_zip_eq_some, and_assoc]

theorem agree_of_nodup (distinct : params.Nodup) : Agree params arguments := by
  intro first second name here there
  have inside := (List.getElem?_eq_some_iff.1 here).1
  rw [(List.getElem?_inj inside distinct).1 (here.trans there.symm)]

/-- No argument is lost exactly if repeated parameters have repeated arguments. -/
theorem Receives.binds_each_iff (receives : Receives params arguments environment) :
    BindsEach params arguments environment ↔ Agree params arguments := by
  have bounded : ∀ (index : Nat) (name : String), params[index]? = some name →
      ∃ value, arguments[index]? = some value := by
    intro index name here
    have inside := (List.getElem?_eq_some_iff.1 here).1
    exact ⟨_, List.getElem?_eq_getElem (receives.matched.symm ▸ inside)⟩
  constructor
  · intro each first second name here there
    obtain ⟨held, holds⟩ := bounded first name here
    obtain ⟨other, follows⟩ := bounded second name there
    have earlier := (each name held).2 ⟨first, here, holds⟩
    have later := (each name other).2 ⟨second, there, follows⟩
    rw [holds, follows, ← earlier, later]
  · intro agree name value
    rw [receives.bound]
    constructor
    · intro bound
      obtain ⟨index, here, holds, -⟩ := bound
      exact ⟨index, here, holds⟩
    · intro placed
      obtain ⟨index, here, holds⟩ := placed
      obtain ⟨last, there, final⟩ := exists_last_place (List.mem_of_getElem? here)
      exact ⟨last, there, (agree last index name there here).trans holds, final⟩

end Frame

theorem Declaration.function_of_read {spec : String} {declaration : Declaration}
    (accepted : read spec = .ok declaration) :
    Text.isIdentifier declaration.function.toList = true := by
  rw [read] at accepted
  split at accepted
  · cases accepted
  · dsimp only at accepted
    split at accepted
    · cases accepted
    · rename_i valid
      cases accepted
      rw [String.toList_ofList]
      simpa using List.find?_eq_none.1 valid _ List.mem_cons_self

namespace GlobalTable

def Undeclared (table : GlobalTable) : Prop :=
  ∀ name entry, table.entries.find? name = some (.function entry) → entry.params = []

theorem undeclared_of_program (program : Program) : (ofProgram program).Undeclared := by
  refine List.foldlRecOn program.labels _ nofun ?_
  intro table undeclared label member name entry found
  rw [defineFunction, define, NameMap.find_insert] at found
  split at found
  · cases found
    rfl
  · exact undeclared name entry found

theorem Undeclared.add_prelude {table : GlobalTable} (undeclared : table.Undeclared) :
    (Session.addPrelude table).Undeclared := by
  intro name entry found
  rw [Session.find_add_prelude, Option.or_eq_some_iff] at found
  rcases found with held | ⟨-, native⟩
  · exact undeclared name entry held
  · obtain ⟨native, -, same⟩ := Option.map_eq_some_iff.1 native
    cases same

end GlobalTable

namespace Session

variable {program : Program} {session : Session}

/-- Declarations without an `@` give functions their parameters and leave everything else. -/
theorem find_declare_of_bare {table globals : GlobalTable} {declarations : List Declaration}
    (bare : ∀ declaration ∈ declarations,
      Text.bareName declaration.function = declaration.function)
    (declared : declare program table declarations = .ok globals) (key : String) :
    (declaredParams? declarations key = none ∧
        globals.entries.find? key = table.entries.find? key) ∨
      ∃ params pc, declaredParams? declarations key = some params ∧
        globals.entries.find? key = some (.function ⟨pc, params⟩) := by
  induction declarations generalizing table with
  | nil =>
      cases declared
      exact .inl ⟨rfl, rfl⟩
  | cons declaration declarations induction =>
      obtain ⟨here, there⟩ := List.forall_mem_cons.1 bare
      rw [declare, GlobalTable.bindFunction, here] at declared
      rw [declared_params_cons, here]
      cases found : program.label? declaration.function with
      | none => simp [found] at declared
      | some pc =>
          simp only [found, GlobalTable.defineFunction, GlobalTable.define, here] at declared
          rcases induction there declared with ⟨unnamed, kept⟩ | ⟨params, start, named, defined⟩
          · by_cases same : declaration.function = key
            · refine .inr ⟨declaration.params, pc, by simp [unnamed, same], ?_⟩
              rw [kept, same, NameMap.find_insert_self]
            · refine .inl ⟨by simp [unnamed, same], ?_⟩
              rw [kept, NameMap.find_insert_of_ne _ _ (Ne.symm same)]
          · exact .inr ⟨params, start, by simp [named], defined⟩

/-- A frame that has just been entered with `arguments`: its variables are the parameters that were
declared last for its function. All of them keep the argument in their own place exactly if repeated
parameters have repeated arguments, and so they do if they are distinct. -/
structure EntersWith (session : Session) (function : String) (arguments : List Value)
    (frame : Frame) (params : List String) : Prop where
  named : frame.function = function
  declared : LastDeclared (Text.bareName function) session.params params
  receives : Frame.Receives params arguments frame.environment
  each : Frame.BindsEach params arguments frame.environment ↔ Frame.Agree params arguments
  distinct : params.Nodup → Frame.BindsEach params arguments frame.environment

theorem EntersWith.of_bind {function : String} {arguments : List Value} {params : List String}
    (declared : LastDeclared (Text.bareName function) session.params params)
    (matched : arguments.length = params.length) (returnPc : Option Nat) (dest : Option String) :
    session.EntersWith function arguments
      ⟨function, returnPc, Frame.bind params arguments, dest⟩ params := by
  have receives := Frame.receives_bind matched
  have each := receives.binds_each_iff
  exact ⟨rfl, declared, receives, each, fun distinct => each.2 (Frame.agree_of_nodup distinct)⟩

section Declared

variable (created : session.Created)
  (valid : ∀ declaration ∈ session.params,
    Text.isIdentifier declaration.function.toList = true)

include created valid

/-- The parameters of a function are those of the last declaration for it, and a name that is no
function is not declared. -/
theorem find_of_created (key : String) :
    (∀ entry, session.globals.entries.find? key = some (.function entry) →
      LastDeclared key session.params entry.params) ∧
    ((∀ entry, session.globals.entries.find? key ≠ some (.function entry)) →
      LastDeclared key session.params []) := by
  obtain ⟨name, program, options, -, linked⟩ := created.exists_link
  obtain ⟨declared, parts⟩ := link_eq_ok_iff.1 linked
  have same : session.params = options.params := by rw [parts]
  rw [same] at valid ⊢
  have bare := fun declaration member => Text.bare_name_of_identifier (valid declaration member)
  have last := last_declared options.params key
  rcases find_declare_of_bare bare declared key with ⟨unnamed, kept⟩ | ⟨params, pc, named, defined⟩
  · rw [unnamed] at last
    refine ⟨?_, fun _ => last⟩
    intro entry found
    have undeclared : (if options.withPrelude then addPrelude (.ofProgram program)
        else .ofProgram program).Undeclared := by
      split
      · exact (GlobalTable.undeclared_of_program program).add_prelude
      · exact GlobalTable.undeclared_of_program program
    rw [undeclared key entry (kept.symm.trans found)]
    exact last
  · rw [named] at last
    refine ⟨?_, fun missing => absurd defined (missing _)⟩
    intro entry found
    rw [defined] at found
    cases found
    exact last

theorem last_declared_of_entry {name : String} {entry : FunctionEntry}
    (found : Machine.entryOf? session.program session.globals name = some entry) :
    LastDeclared (Text.bareName name) session.params entry.params := by
  rw [Machine.entryOf?] at found
  split at found
  · rename_i known
    cases found
    exact (find_of_created created valid _).1 _ (GlobalTable.get_of_function known)
  · rename_i unknown
    obtain ⟨pc, -, rfl⟩ := Option.map_eq_some_iff.1 found
    refine (find_of_created created valid _).2 ?_
    intro entry known
    rw [GlobalTable.function?, GlobalTable.get?, known] at unknown
    cases unknown

theorem last_declared_of_find_entry {requested : Option String} {name : String}
    {entry : FunctionEntry}
    (found : Machine.findEntry session.program session.globals requested = .ok (name, entry)) :
    (∀ label ∈ requested, name = label) ∧
      LastDeclared (Text.bareName name) session.params entry.params := by
  cases requested with
  | some label =>
      rw [Machine.findEntry] at found
      split at found
      · rename_i known
        cases found
        refine ⟨?_, last_declared_of_entry created valid known⟩
        intro other requested
        exact Option.some.inj requested
      · cases found
  | none =>
      constructor
      · intro label requested
        cases requested
      · rw [Machine.findEntry] at found
        split at found
        · rename_i known
          cases found
          exact last_declared_of_entry created valid known
        · -- The name of code outside any function is no identifier, so no declaration has it.
          cases found
          refine .never ?_
          intro declaration member named
          have identifier := valid declaration member
          rw [Names, Text.bare_name_of_identifier identifier] at named
          rw [named] at identifier
          revert identifier
          decide

theorem enters_entry (config : Config) (running : (session.machine config).isRunning = true) :
    ∃ name params, (∀ label ∈ config.entry, name = label) ∧
      session.EntersWith name config.arguments (session.machine config).frame params := by
  rw [machine, Machine.start] at running ⊢
  split at running
  · cases running
  · rename_i name entry found
    obtain ⟨requested, declared⟩ := last_declared_of_find_entry created valid found
    dsimp only at running ⊢
    split at running
    · rename_i matched
      rw [if_pos matched]
      exact ⟨name, entry.params, requested, .of_bind declared matched none none⟩
    · cases running

theorem enters_call (config : Config) {machine : Machine} {dest : Option String} {callee : Callee}
    (fetched : machine.fetched? (session.setting config) = some (.call dest callee))
    (deeper : (machine.step (session.setting config)).depth = machine.depth + 1) :
    ∃ params, session.EntersWith callee.name machine.pending
      (machine.step (session.setting config)).frame params := by
  rw [Machine.step_of_executed fetched] at deeper ⊢
  rcases Machine.call_cases (session.setting config) machine.counted dest callee with
    stays | ⟨entry, found, matched, -, entered⟩
  · have kept : (machine.counted.execute (session.setting config) (.call dest callee)).callers =
      machine.callers := stays.keeps.of_counted.callers
    rw [Machine.depth, Machine.depth, kept] at deeper
    omega
  · have declared := (find_of_created created valid _).1 entry found
    refine ⟨entry.params, ?_⟩
    rw [Machine.execute, entered]
    exact .of_bind declared matched _ dest

end Declared

/-- Where every declaration of a session has been read from text, a machine that starts in a
function and a call that enters one find there the parameters that were declared last for it, bound
to their arguments. A parameter that is repeated holds the last of its arguments only. -/
theorem entered_function_receives_arguments (created : session.Created)
    (accepted : ∀ declaration ∈ session.params, ∃ spec, Declaration.read spec = .ok declaration)
    (config : Config) :
    ((session.machine config).isRunning = true →
      ∃ name params, (∀ label ∈ config.entry, name = label) ∧
        session.EntersWith name config.arguments (session.machine config).frame params) ∧
    ∀ (machine : Machine) (dest : Option String) (callee : Callee),
      machine.fetched? (session.setting config) = some (.call dest callee) →
      (machine.step (session.setting config)).depth = machine.depth + 1 →
      ∃ params, session.EntersWith callee.name machine.pending
        (machine.step (session.setting config)).frame params := by
  have valid : ∀ declaration ∈ session.params,
      Text.isIdentifier declaration.function.toList = true := by
    intro declaration member
    obtain ⟨spec, accepts⟩ := accepted declaration member
    exact Declaration.function_of_read accepts
  refine ⟨enters_entry created valid config, ?_⟩
  intro machine dest callee fetched deeper
  exact enters_call created valid config fetched deeper

def differenceSource : String :=
  "main: arg m\narg 5\nr := call @less\nret r\nless: s := p - q\nret s"

def differenceOptions : SessionOptions :=
  ⟨[⟨"main", ["m"]⟩, ⟨"less", ["p"]⟩, ⟨"less", ["p", "q"]⟩], false⟩

def differenceProgram : Program :=
  .ofParts
    [.argument (.variable "m"), .argument (.literal (.integer 5)),
      .call (some "r") ⟨"less", true, some 4⟩, .ret (some (.variable "r")),
      .binary "s" (.variable "p") .sub (.variable "q"), .ret (some (.variable "s"))]
    [("main", 0), ("less", 4)]

def differenceSession : Session :=
  ⟨"text", differenceProgram,
    ((GlobalTable.ofProgram differenceProgram).defineFunction "main" 0 ["m"]).defineFunction
      "less" 4 ["p", "q"],
    differenceOptions.params⟩

def differenceConfig : Config := { entry := some "main", arguments := [.integer 9] }

theorem difference_session_built :
    ofSource "text" differenceSource differenceOptions = .ok differenceSession := by
  have built : Program.ofSource (externals differenceOptions) differenceSource =
      .ok differenceProgram := by decide +kernel
  have starts : differenceProgram.label? "main" = some 0 ∧
      differenceProgram.label? "less" = some 4 := by decide +kernel
  have bare : Text.bareName "main" = "main" ∧ Text.bareName "less" = "less" := by decide
  rw [of_source_eq_ok_iff]
  refine ⟨differenceProgram, built, link_eq_ok_iff.2 ⟨?_, rfl⟩⟩
  simp [differenceOptions, differenceSession, declare, GlobalTable.bindFunction, starts, bare,
    GlobalTable.defineFunction, GlobalTable.define, NameMap.insert_insert]

theorem difference_session_receives_arguments :
    ofSource "text" differenceSource differenceOptions = .ok differenceSession ∧
      (∃ params, differenceSession.EntersWith "main" [.integer 9]
        (differenceSession.machine differenceConfig).frame params) ∧
      ∃ params, differenceSession.EntersWith "less" [.integer 9, .integer 5]
        ((differenceSession.machine differenceConfig).run
          (differenceSession.setting differenceConfig) 3).frame params := by
  have accepted : ∀ declaration ∈ differenceSession.params,
      ∃ spec, Declaration.read spec = .ok declaration := by
    intro declaration member
    rcases List.mem_cons.1 member with rfl | member
    · exact ⟨"main=m", by decide +kernel⟩
    · rcases List.mem_cons.1 member with rfl | member
      · exact ⟨"less=p", by decide +kernel⟩
      · rw [List.mem_singleton.1 member]
        exact ⟨" @less = p , q", by decide +kernel⟩
  have received := entered_function_receives_arguments (.source difference_session_built) accepted
    differenceConfig
  obtain ⟨name, params, requested, enters⟩ := received.1 (by decide +kernel)
  rw [requested "main" rfl] at enters
  have called := received.2
    ((differenceSession.machine differenceConfig).run
      (differenceSession.setting differenceConfig) 2)
    (some "r") ⟨"less", true, some 4⟩ (by decide +kernel) (by decide +kernel)
  have pending : ((differenceSession.machine differenceConfig).run
      (differenceSession.setting differenceConfig) 2).pending = [.integer 9, .integer 5] := by
    decide +kernel
  rw [pending, ← Machine.run_succ_eq_step] at called
  exact ⟨difference_session_built, ⟨params, enters⟩, called⟩

def repeatingSession : Session :=
  ⟨"text", .ofParts [.ret (some (.variable "a"))] [("f", 0)],
    GlobalTable.empty.defineFunction "f" 0 ["a", "a"], [⟨"f", ["a", "a"]⟩]⟩

theorem repeating_session_built :
    ofSource "text" "f: ret a" ⟨[⟨"f", ["a", "a"]⟩], false⟩ = .ok repeatingSession := by
  have built : Program.ofSource [] "f: ret a" = .ok repeatingSession.program := by decide +kernel
  have start : repeatingSession.program.label? "f" = some 0 := by decide +kernel
  have labels : GlobalTable.ofProgram repeatingSession.program =
      GlobalTable.empty.defineFunction "f" 0 [] := rfl
  have globals : repeatingSession.globals =
      GlobalTable.empty.defineFunction "f" 0 ["a", "a"] := rfl
  have bare : Text.bareName "f" = "f" := by decide
  rw [of_source_eq_ok_iff]
  refine ⟨repeatingSession.program, built, link_eq_ok_iff.2 ⟨?_, rfl⟩⟩
  simp [declare, GlobalTable.bindFunction, start, labels, globals, bare, GlobalTable.defineFunction,
    GlobalTable.define, NameMap.insert_insert]

/-- A declaration that repeats a name is read, and then the first argument is lost. -/
theorem repeated_parameter_loses_argument :
    Declaration.read "f=a,a" = .ok ⟨"f", ["a", "a"]⟩ ∧
      ofSource "text" "f: ret a" ⟨[⟨"f", ["a", "a"]⟩], false⟩ = .ok repeatingSession ∧
      LastDeclared "f" repeatingSession.params ["a", "a"] ∧
      let config : Config := { entry := some "f", arguments := [.integer 1, .integer 2] }
      (repeatingSession.machine config).isRunning = true ∧
      (repeatingSession.machine config).frame.function = "f" ∧
      ¬ Frame.BindsEach ["a", "a"] config.arguments
        (repeatingSession.machine config).frame.environment := by
  refine ⟨by decide +kernel, repeating_session_built, last_declared repeatingSession.params "f",
    by decide +kernel, by decide +kernel, ?_⟩
  intro each
  have first := (each "a" (.integer 1)).2 ⟨0, rfl, rfl⟩
  revert first
  decide +kernel

end Session

end ThreeAddress
