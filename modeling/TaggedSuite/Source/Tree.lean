/-!
# Trees of test modules

What a test module says, as far as tags can depend on it. Calls, names, attributes, displays and
string constants are told apart; every other expression keeps only its parts. Compound statements
keep their bodies, so that every definition inside them can be found.
-/
namespace TaggedSuite.Source

inductive DisplayKind where
  | list
  | tuple
  | set
  deriving DecidableEq, Repr

/-- An expression, or a part of one that stands between an expression and its parts, such as a
keyword argument. The line is where it begins. -/
inductive Expr where
  | name (line : Nat) (id : String)
  | text (line : Nat) (value : String)
  | attribute (line : Nat) (value : Expr) (attr : String)
  | call (line : Nat) (func : Expr) (args keywords : List Expr)
  | display (line : Nat) (kind : DisplayKind) (items : List Expr)
  | keyword (line : Nat) (arg : Option String) (value : Expr)
  | starred (line : Nat) (value : Expr)
  | subscript (line : Nat) (value index : Expr)
  | other (line : Nat) (parts : List Expr)
  deriving Repr, Inhabited

/-- A name brought in by an import, with the name that it is given if that is another. -/
structure ImportedName where
  name : String
  alias? : Option String
  deriving DecidableEq, Repr

mutual

/-- A statement. The line is where it begins; decorators do not belong to it. -/
inductive Stmt where
  | classDef (line : Nat) (name : String) (bases keywords : List Expr) (body : List Stmt)
      (decorators : List Expr)
  | functionDef (line : Nat) (name : String) (parameters : Expr) (body : List Stmt)
      (decorators : List Expr) (returns : List Expr)
  | assign (line : Nat) (targets : List Expr) (value : Expr)
  | annotated (line : Nat) (target annotation : Expr) (value? : Option Expr)
  | augmented (line : Nat) (target value : Expr)
  | expression (line : Nat) (value : Expr)
  | imports (line : Nat) (names : List ImportedName)
  | importFrom (line : Nat) (module? : Option String) (names : List ImportedName)
  /-- A statement with bodies: a condition, a loop, a `with`, a `try` or a `match`. -/
  | compound (line : Nat) (head : List Expr) (blocks : List Block)
  /-- Any other statement. -/
  | simple (line : Nat) (parts : List Expr)

/-- A body of a compound statement. -/
inductive Block where
  /-- A body whose statements belong to the compound statement itself. -/
  | body (statements : List Stmt)
  /-- A handler or a case: a part of its own, with what it tests and its body. -/
  | clause (head : List Expr) (statements : List Stmt)

end

abbrev Module := List Stmt

def Expr.line : Expr → Nat
  | .name line _ | .text line _ | .attribute line _ _ | .call line _ _ _ | .display line _ _
  | .keyword line _ _ | .starred line _ | .subscript line _ _ | .other line _ => line

def Block.statements : Block → List Stmt
  | .body statements | .clause _ statements => statements

end TaggedSuite.Source
