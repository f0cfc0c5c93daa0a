import Mend.Text.Quoted

/-!
# Terms of the patch language

A term is a sketch of source text with holes for what the program around it provides.

* `Expr` : expressions; `variable` stands for a variable of the enclosing function, `bufferSize` for
  the size of one of its arrays;
* `Stmt` : statements; `anchor` stands for the program's own statement at the location;
* `Expr.sketch` : an expression with its holes named;
* `Expr.outline`, `Stmt.outline`, `outlineList` : the structure of a term, as listings show it.
-/

namespace Mend.Patch

/-- An expression with holes. -/
inductive Expr where
  | literal (text : String)
  | variable
  | bufferSize
  | math (lhs rhs : Expr)
  | compare (lhs rhs : Expr)
  | lessThan (lhs rhs : Expr)
deriving DecidableEq, Inhabited

/-- A statement with holes. -/
inductive Stmt where
  | ifThen (condition : Expr) (body : List Stmt)
  | otherwise (body : List Stmt)
  | ret (value : Expr)
  | anchor
  | expr (e : Expr)
deriving Inhabited

namespace Expr

def sketch : Expr → String
  | .literal text => text
  | .variable => "Variable()"
  | .bufferSize => "StaticBufferSize()"
  | .math lhs rhs => "BinaryMathOperator(" ++ lhs.sketch ++ "," ++ rhs.sketch ++ ")"
  | .compare lhs rhs => "BinaryBoolOperator(" ++ lhs.sketch ++ "," ++ rhs.sketch ++ ")"
  | .lessThan lhs rhs => lhs.sketch ++ " < " ++ rhs.sketch

def outline : Expr → String
  | .literal text => "Literal(" ++ Text.quote text ++ ")"
  | .variable => "Variable"
  | .bufferSize => "StaticBufferSize"
  | .math lhs rhs => "BinaryMathOperator(" ++ lhs.outline ++ ", " ++ rhs.outline ++ ")"
  | .compare lhs rhs => "BinaryBoolOperator(" ++ lhs.outline ++ ", " ++ rhs.outline ++ ")"
  | .lessThan lhs rhs => "LessThanExpr(" ++ lhs.outline ++ ", " ++ rhs.outline ++ ")"

end Expr

mutual

def Stmt.outline : Stmt → String
  | .ifThen condition body =>
    "If \x7b cond: " ++ condition.outline ++ ", body: " ++ outlineList body ++ " \x7d"
  | .otherwise body => "Else \x7b body: " ++ outlineList body ++ " \x7d"
  | .ret value => "Return(" ++ value.outline ++ ")"
  | .anchor => "Node"
  | .expr e => "Expr(" ++ e.outline ++ ")"

def outlineList (body : List Stmt) : String :=
  "StatementList([" ++ ", ".intercalate (outlines body) ++ "])"

def outlines : List Stmt → List String
  | [] => []
  | s :: ss => s.outline :: outlines ss

end

end Mend.Patch
