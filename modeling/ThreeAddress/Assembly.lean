import ThreeAddress.Program
import ThreeAddress.Statement
import ThreeAddress.Token.Scan

/-!
Assembly of programs. Tokens are grouped into lines, each line is split into the labels it starts
with and at most one statement, and once all labels are known every target is resolved. A label
stands for the program counter of the next statement. The first error ends the assembly.
-/

namespace ThreeAddress

/-- A piece of a program before its targets are resolved. -/
inductive Draft where
  | label (name : String)
  | statement (body : Statement) (line : Nat)
  deriving DecidableEq

namespace Draft

/-- Two neighbouring tokens belong to one line if the second starts on the line the first ends on.
So a string with line breaks in it does not end a line. -/
def lines (tokens : List Token) : List (List Token) :=
  tokens.splitBy fun left right => left.endLine == right.line

/-- The drafts of one line that is reported as `line`, and all labels defined so far with the lines
of their definitions. -/
def ofLine (line : Nat) (defined : NameMap Nat) :
    List Token → Except BuildError (List Draft × NameMap Nat)
  | [] => .ok ([], defined)
  | token :: rest =>
      match token.kind with
      | .label name =>
          match defined.find? name with
          | some firstLine => .error (.duplicateLabel name line firstLine)
          | none => do
              let (drafts, defined) ← ofLine line (defined.insert name line) rest
              return (.label name :: drafts, defined)
      | _ =>
          match Statement.parse ((token :: rest).map Token.kind) with
          | .error problem => .error (.malformed problem line)
          | .ok body => .ok ([.statement body line], defined)

def ofLines (defined : NameMap Nat) : List (List Token) → Except BuildError (List Draft)
  | [] => .ok []
  | tokens :: rest => do
      let line := tokens.head?.elim 0 Token.line
      let (drafts, defined) ← ofLine line defined tokens
      let later ← ofLines defined rest
      return drafts ++ later

def ofTokens (tokens : List Token) : Except BuildError (List Draft) := ofLines .empty (lines tokens)

/-- The labels of the drafts, where `pc` statements have come before. -/
def labelsFrom (pc : Nat) : List Draft → List (String × Nat)
  | [] => []
  | .label name :: rest => (name, pc) :: labelsFrom pc rest
  | .statement _ _ :: rest => labelsFrom (pc + 1) rest

def statements : List Draft → List (Statement × Nat)
  | [] => []
  | .label _ :: rest => statements rest
  | .statement body line :: rest => (body, line) :: statements rest

end Draft

namespace Statement

def resolveTarget (labels : NameMap Nat) (reference : Reference) : Except Reference Target :=
  match labels.find? reference.name with
  | some pc => .ok ⟨reference.name, reference.global, pc⟩
  | none => .error reference

/-- A callee that names no label must be written as a global and be known as an external. -/
def resolveCallee (externals : List String) (labels : NameMap Nat) (reference : Reference) :
    Except Reference Callee :=
  match labels.find? reference.name with
  | some pc => .ok ⟨reference.name, reference.global, some pc⟩
  | none =>
      if reference.global && externals.contains reference.name then
        .ok ⟨reference.name, reference.global, none⟩
      else .error reference

def resolve (externals : List String) (labels : NameMap Nat) :
    Statement → Except Reference Instruction
  | .assign dest value => .ok (.assign dest value)
  | .binary dest left operator right => .ok (.binary dest left operator right)
  | .goto target => return .goto (← resolveTarget labels target)
  | .branch polarity condition target =>
      return .branch polarity condition (← resolveTarget labels target)
  | .argument value => .ok (.argument value)
  | .call dest callee => return .call dest (← resolveCallee externals labels callee)
  | .ret value => .ok (.ret value)

def resolveAll (externals : List String) (labels : NameMap Nat) :
    List (Statement × Nat) → Except BuildError (List Instruction)
  | [] => .ok []
  | (statement, line) :: rest =>
      match statement.resolve externals labels with
      | .error reference => .error (.unresolvedReference reference.render line)
      | .ok instruction => do
          let later ← resolveAll externals labels rest
          return instruction :: later

end Statement

namespace Program

def ofDrafts (externals : List String) (drafts : List Draft) : Except BuildError Program := do
  let labels := Draft.labelsFrom 0 drafts
  let instructions ← Statement.resolveAll externals (.ofList labels) (Draft.statements drafts)
  return ofParts instructions labels

/-- Assembles tokens into a program that may call the given externals, which may be given with
their `@`. -/
def ofTokens (externals : List String) (tokens : List Token) : Except BuildError Program := do
  let drafts ← Draft.ofTokens tokens
  ofDrafts (externals.map Text.bareName) drafts

def ofSource (externals : List String) (source : String) : Except BuildError Program := do
  let tokens ← tokenize source
  ofTokens externals tokens

end Program

end ThreeAddress
