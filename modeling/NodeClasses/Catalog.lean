import NodeClasses.Job

/-!
# Built-in tables

The syntax trees of two interpreters for the language Lox. The tree walker scans and parses by
hand and owns its tokens. The other one stands behind an ANTLR parser, points at the tokens of
that parser's stream, and also knows classes, functions and returns. A child is held by the node
above it, except that the methods of a class are shared with the values that the interpreter makes
of them.
-/

namespace NodeClasses.Catalog
set_option autoImplicit false

/-- The kinds of expressions of the tree walker. -/
def treeWalkExpressionKinds : List Variant :=
  [⟨"Assign", ["Token name", "std::unique_ptr<Expr> value"]⟩,
    ⟨"Binary", ["std::unique_ptr<Expr> left", "Token op", "std::unique_ptr<Expr> right"]⟩,
    ⟨"Call",
      ["std::unique_ptr<Expr> callee", "Token paren", "std::vector<std::unique_ptr<Expr>> args"]⟩,
    ⟨"Grouping", ["std::unique_ptr<Expr> expr"]⟩,
    ⟨"Literal", ["std::any value"]⟩,
    ⟨"Logical", ["std::unique_ptr<Expr> left", "Token op", "std::unique_ptr<Expr> right"]⟩,
    ⟨"Unary", ["Token op", "std::unique_ptr<Expr> expr"]⟩,
    ⟨"Variable", ["Token name"]⟩]

/-- The kinds of statements of the tree walker. -/
def treeWalkStatementKinds : List Variant :=
  [⟨"Block", ["std::vector<std::unique_ptr<Stmt>> statements"]⟩,
    ⟨"Expression", ["std::unique_ptr<Expr> expr"]⟩,
    ⟨"If",
      ["std::unique_ptr<Expr> condition", "std::unique_ptr<Stmt> then_branch",
        "std::unique_ptr<Stmt> else_branch"]⟩,
    ⟨"Print", ["std::unique_ptr<Expr> expr"]⟩,
    ⟨"Var", ["Token token", "std::unique_ptr<Expr> initializer"]⟩,
    ⟨"While", ["std::unique_ptr<Expr> condition", "std::unique_ptr<Stmt> body"]⟩]

/-- The kinds of expressions behind the ANTLR parser. -/
def antlrExpressionKinds : List Variant :=
  [⟨"Assign", ["antlr4::Token *name", "std::unique_ptr<Expr> value"]⟩,
    ⟨"Binary",
      ["std::unique_ptr<Expr> left", "antlr4::Token *op", "std::unique_ptr<Expr> right"]⟩,
    ⟨"Call",
      ["std::unique_ptr<Expr> callee", "antlr4::Token *paren",
        "std::vector<std::unique_ptr<Expr>> args"]⟩,
    ⟨"Grouping", ["std::unique_ptr<Expr> expr"]⟩,
    ⟨"Literal", ["std::any value"]⟩,
    ⟨"Logical",
      ["std::unique_ptr<Expr> left", "antlr4::Token *op", "std::unique_ptr<Expr> right"]⟩,
    ⟨"Unary", ["antlr4::Token *op", "std::unique_ptr<Expr> expr"]⟩,
    ⟨"Variable", ["antlr4::Token *name"]⟩,
    ⟨"Get", ["std::unique_ptr<Expr> object", "antlr4::Token *name"]⟩,
    ⟨"Set",
      ["std::unique_ptr<Expr> object", "antlr4::Token *name", "std::unique_ptr<Expr> value"]⟩]

/-- The kinds of statements behind the ANTLR parser. -/
def antlrStatementKinds : List Variant :=
  [⟨"Block", ["std::vector<std::unique_ptr<Stmt>> statements"]⟩,
    ⟨"Expression", ["std::unique_ptr<Expr> expr"]⟩,
    ⟨"Class", ["antlr4::Token *name", "std::vector<std::shared_ptr<Function>> methods"]⟩,
    ⟨"If",
      ["std::unique_ptr<Expr> condition", "std::unique_ptr<Stmt> then_branch",
        "std::unique_ptr<Stmt> else_branch"]⟩,
    ⟨"Print", ["std::unique_ptr<Expr> expr"]⟩,
    ⟨"Var", ["antlr4::Token *token", "std::unique_ptr<Expr> initializer"]⟩,
    ⟨"While", ["std::unique_ptr<Expr> condition", "std::unique_ptr<Stmt> body"]⟩,
    ⟨"Function",
      ["antlr4::Token *name", "std::vector<antlr4::Token*> params",
        "std::unique_ptr<Stmt> body"]⟩,
    ⟨"Return", ["antlr4::Token *keyword", "std::unique_ptr<Expr> value"]⟩]

/-- All kinds have the names that their families need. One check serves them all, since each has to
spell out the reserved words. -/
theorem wellFormed :
    Family.WellFormed "Expr" treeWalkExpressionKinds ∧
      Family.WellFormed "Stmt" treeWalkStatementKinds ∧
        Family.WellFormed "Expr" antlrExpressionKinds ∧
          Family.WellFormed "Stmt" antlrStatementKinds := by
  decide +kernel

/-- The expressions of the tree walker. -/
def treeWalkExpressions : Family := ⟨"Expr", treeWalkExpressionKinds, wellFormed.1⟩

/-- The statements of the tree walker. -/
def treeWalkStatements : Family := ⟨"Stmt", treeWalkStatementKinds, wellFormed.2.1⟩

/-- The expressions behind the ANTLR parser. -/
def antlrExpressions : Family := ⟨"Expr", antlrExpressionKinds, wellFormed.2.2.1⟩

/-- The statements behind the ANTLR parser. -/
def antlrStatements : Family := ⟨"Stmt", antlrStatementKinds, wellFormed.2.2.2⟩

/-- The table of the tree walker. -/
def treeWalk : Table where
  includes := ["<any>", "<memory>", "<vector>", "\"token.h\""]
  families := [treeWalkExpressions, treeWalkStatements]

/-- The table behind the ANTLR parser. -/
def antlr : Table where
  includes := ["<any>", "<memory>", "<vector>", "\"antlr4-common.h\""]
  families := [antlrExpressions, antlrStatements]

end NodeClasses.Catalog
