import TripleRules.Term

/-!
# Expressions

Conditions and assignments of rules are trees over terms and variables. A
constant may itself be a variable; it is read like any other variable.
-/

namespace TripleRules

inductive CompareOp where
  | eq | ne | lt | le | gt | ge
  deriving DecidableEq, Repr

inductive ArithOp where
  | add | sub | mul | div
  deriving DecidableEq, Repr

def CompareOp.symbol : CompareOp → String
  | .eq => "="
  | .ne => "!="
  | .lt => "<"
  | .le => "<="
  | .gt => ">"
  | .ge => ">="

def CompareOp.holds : CompareOp → Ordering → Bool
  | .eq, o => o = .eq
  | .ne, o => o ≠ .eq
  | .lt, o => o = .lt
  | .le, o => o ≠ .gt
  | .gt, o => o = .gt
  | .ge, o => o ≠ .lt

def ArithOp.symbol : ArithOp → String
  | .add => "+"
  | .sub => "-"
  | .mul => "*"
  | .div => "/"

inductive Expr where
  | constant (t : Term)
  | var (v : Variable)
  | not (e : Expr)
  | and (left right : Expr)
  | or (left right : Expr)
  | compare (op : CompareOp) (left right : Expr)
  | arith (op : ArithOp) (left right : Expr)
  | call (function : String) (args : List Expr)
  deriving Repr

namespace Expr

/-- A term as an operand: a variable is read as such. -/
def ofTerm : Term → Expr
  | .variable v => .var v
  | t => .constant t

mutual

/-- The variables that an expression reads, from left to right and as often as it reads them. -/
def vars : Expr → List Variable
  | .constant (.variable v) => [v]
  | .constant _ => []
  | .var v => [v]
  | .not e => e.vars
  | .and l r | .or l r | .compare _ l r | .arith _ l r => l.vars ++ r.vars
  | .call _ args => varsOfList args

def varsOfList : List Expr → List Variable
  | [] => []
  | e :: rest => e.vars ++ varsOfList rest

end

mutual

def display : Expr → String
  | .constant t => t.display
  | .var v => v.display
  | .not e => "!(" ++ e.display ++ ")"
  | .and l r => "(" ++ l.display ++ " && " ++ r.display ++ ")"
  | .or l r => "(" ++ l.display ++ " || " ++ r.display ++ ")"
  | .compare op l r => "(" ++ l.display ++ " " ++ op.symbol ++ " " ++ r.display ++ ")"
  | .arith op l r => "(" ++ l.display ++ " " ++ op.symbol ++ " " ++ r.display ++ ")"
  | .call function args => function ++ "(" ++ ", ".intercalate (displayList args) ++ ")"

def displayList : List Expr → List String
  | [] => []
  | e :: rest => e.display :: displayList rest

end

-- ---------------------------------------------------------------------------
-- Equality
-- ---------------------------------------------------------------------------

mutual

def beq : Expr → Expr → Bool
  | .constant s, .constant t => s = t
  | .var v, .var w => v = w
  | .not d, .not e => d.beq e
  | .and k l, .and m n => k.beq m && l.beq n
  | .or k l, .or m n => k.beq m && l.beq n
  | .compare p k l, .compare q m n => p = q && k.beq m && l.beq n
  | .arith p k l, .arith q m n => p = q && k.beq m && l.beq n
  | .call f args, .call g others => f = g && beqList args others
  | _, _ => false

def beqList : List Expr → List Expr → Bool
  | [], [] => true
  | d :: rest, e :: others => d.beq e && beqList rest others
  | _, _ => false

end

mutual

theorem beq_iff : ∀ d e : Expr, d.beq e = true ↔ d = e
  | .constant _, e => by cases e <;> simp [beq]
  | .var _, e => by cases e <;> simp [beq]
  | .not d, e => by cases e <;> simp [beq, beq_iff d]
  | .and k l, e => by cases e <;> simp [beq, beq_iff k, beq_iff l]
  | .or k l, e => by cases e <;> simp [beq, beq_iff k, beq_iff l]
  | .compare _ k l, e => by cases e <;> simp [beq, beq_iff k, beq_iff l, and_assoc]
  | .arith _ k l, e => by cases e <;> simp [beq, beq_iff k, beq_iff l, and_assoc]
  | .call _ args, e => by cases e <;> simp [beq, beqList_iff args]

theorem beqList_iff : ∀ ds es : List Expr, beqList ds es = true ↔ ds = es
  | [], es => by cases es <;> simp [beqList]
  | d :: rest, es => by cases es <;> simp [beqList, beq_iff d, beqList_iff rest]

end

instance : DecidableEq Expr := fun d e => decidable_of_iff _ (beq_iff d e)

end Expr

end TripleRules
