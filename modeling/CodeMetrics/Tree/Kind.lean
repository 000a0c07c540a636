import CodeMetrics.Tree.Cursor

/-!
# Kinds of nodes

Grammars name many node types; the measures tell only a dozen kinds apart.
Every node has exactly one kind, and whatever no measure looks at is `other`.

* `Kind` — the closed list of kinds, with `Kind.tag` and `Kind.ofTag?` for their written names;
* `Cursor.kind` — the kind of a node, which can depend on its parent: a function without a name is
  a declaration exactly when it is what a module exports by default.
-/

namespace CodeMetrics

/-- What a node is to the measures. -/
inductive Kind where
  | functionDeclaration
  | conditional
  | forLoop
  | forIn
  | whileLoop
  | doWhile
  | returnStatement
  | logical
  | memberAccess
  | stringLiteral
  | call
  | other
deriving Repr, DecidableEq, Inhabited

namespace Kind

/-- Every kind once. -/
def all : List Kind :=
  [functionDeclaration, conditional, forLoop, forIn, whileLoop, doWhile, returnStatement, logical,
    memberAccess, stringLiteral, call, other]

/-- The written name of a kind. -/
def tag : Kind → String
  | functionDeclaration => "function_declaration"
  | conditional => "if"
  | forLoop => "for"
  | forIn => "for_in"
  | whileLoop => "while"
  | doWhile => "do_while"
  | returnStatement => "return"
  | logical => "logical"
  | memberAccess => "member_access"
  | stringLiteral => "string_literal"
  | call => "call"
  | other => "other"

/-- The kind with a given written name. -/
def ofTag? (name : String) : Option Kind := all.find? (fun k => k.tag == name)

theorem ofTag?_tag (k : Kind) : ofTag? k.tag = some k := by
  cases k <;> decide

/-- Branches and loops are decisions. -/
def isDecision : Kind → Bool
  | conditional | forLoop | forIn | whileLoop | doWhile => true
  | _ => false

/-- The kind that a grammar's name for a node settles by itself. -/
def ofType : String → Kind
  | "function_declaration" => functionDeclaration
  | "generator_function_declaration" => functionDeclaration
  | "if_statement" => conditional
  | "for_statement" => forLoop
  | "for_in_statement" => forIn
  | "while_statement" => whileLoop
  | "do_statement" => doWhile
  | "return_statement" => returnStatement
  | "member_expression" => memberAccess
  | "subscript_expression" => memberAccess
  | "string" => stringLiteral
  | "call_expression" => call
  | _ => other

end Kind

namespace Node

/-- The operators that join conditions. -/
def logicalOperators : List String := ["&&", "||", "??"]

/-- Whether the node's operator, the first child held as such, joins conditions. -/
def joinsConditions (n : Node) : Bool :=
  match n.childUnder? "operator" with
  | some op => logicalOperators.contains op.type
  | none => false

/-- Whether the node exports something by default. -/
def exportsDefault (n : Node) : Bool :=
  n.type == "export_statement" && n.children.any (·.type == "default")

end Node

namespace Cursor

/-- Whether the node is what its parent exports by default. -/
def isDefaultExport (c : Cursor) : Bool :=
  match c.above with
  | p :: _ => p.exportsDefault
  | [] => false

/-- The kind of the node under the cursor.  Bare tokens are never more than `other`, whatever they
are called. -/
def kind (c : Cursor) : Kind :=
  if c.node.label.named then
    match c.node.type with
    | "binary_expression" => if c.node.joinsConditions then .logical else .other
    | "function_expression" | "function" =>
        if c.isDefaultExport then .functionDeclaration else .other
    | t => Kind.ofType t
  else
    .other

/-- Whether the node is a branch or a loop. -/
def isDecision (c : Cursor) : Bool := c.kind.isDecision

/-- Whether the node joins two conditions. -/
def isLogical (c : Cursor) : Bool := c.kind == .logical

/-- Whether the node reaches into an object. -/
def isMemberAccess (c : Cursor) : Bool := c.kind == .memberAccess

end Cursor

end CodeMetrics
