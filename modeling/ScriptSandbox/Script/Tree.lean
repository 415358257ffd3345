import ScriptSandbox.Script.Value

/-!
The tree of a parsed script. Patterns stand wherever values are taken apart: in declarations, in
parameters and on the left of assignments. Every function keeps its own text, and the names that
functions inside it mention: those are the variables that outlive their call.
-/

namespace ScriptSandbox.Script

inductive UnaryOperator where
  | minus | plus | not | complement | void | typeOf
  deriving Repr, DecidableEq

inductive BinaryOperator where
  | add | subtract | multiply | divide | modulo | power
  | shiftLeft | shiftRight | shiftRightUnsigned | bitAnd | bitOr | bitXor
  | equal | notEqual | same | notSame | less | lessEqual | greater | greaterEqual
  | instanceOf | contains
  deriving Repr, DecidableEq

inductive LogicalOperator where
  | and | or | coalesce
  deriving Repr, DecidableEq

inductive DeclarationKind where
  | var | lexical | constant
  deriving Repr, DecidableEq

inductive FunctionKind where
  | ordinary
  | arrow
  | method
  | getter
  | setter
  /-- The constructor of a class; a derived one gets `this` from its parent. -/
  | constructor (derived : Bool)
  /-- Code that a class runs on a new instance, or on itself. -/
  | initializer
  deriving Repr, DecidableEq, Inhabited

structure FunctionInfo where
  name : String
  kind : FunctionKind
  generator : Bool
  async : Bool
  strict : Bool
  /-- The text between its first and its last character. -/
  source : Units
  /-- Names that it mentions, functions inside it included. -/
  mentions : List String
  /-- Names that functions inside it mention. -/
  inner : List String
  /-- Whether it, or a function inside it, evaluates text in its own scope. -/
  evaluates : Bool
  /-- The number of arguments it expects. -/
  arity : Nat
  deriving Inhabited

/-- The fixed parts of a tagged template, as meant and as written. A part whose escapes are wrong has
no meaning. -/
structure TemplateSite where
  cooked : List (Option Units)
  raw : List Units

abbrev FunctionId := Nat

mutual

inductive Expression where
  | literal (value : Value)
  | name (name : String)
  | this
  | newTarget
  | template (texts : List Units) (parts : List Expression)
  | tagged (tag : Expression) (site : TemplateSite) (parts : List Expression)
  | regexp (body flags : Units)
  /-- Items of an array, which may be holes or spread. -/
  | array (items : List Expression)
  | object (members : List Member)
  | function (id : FunctionId)
  /-- A class with its text; the constructor may be left out. -/
  | classOf (name : Option String) (parent : Option Expression) (maker : Option FunctionId)
    (members : List Member) (source : Units)
  | unary (operator : UnaryOperator) (operand : Expression)
  | delete (operand : Expression)
  /-- Counting up or down, with the new value or the old one as the result. -/
  | update (up : Bool) (before : Bool) (target : Expression)
  | binary (operator : BinaryOperator) (left right : Expression)
  | logical (operator : LogicalOperator) (left right : Expression)
  | conditional (test yes no : Expression)
  | assign (target : Pattern) (value : Expression)
  | compound (operator : BinaryOperator) (target value : Expression)
  | logicalAssign (operator : LogicalOperator) (target value : Expression)
  | member (object : Expression) (name : Units)
  | index (object key : Expression)
  | secretMember (object : Expression) (name : String)
  | superMember (key : Expression)
  /-- A chain of accesses that ends early at a guard. -/
  | chain (links : Expression)
  /-- A link after which the chain goes on only if there is a value. -/
  | guarded (link : Expression)
  /-- A call; arguments may be spread. -/
  | call (callee : Expression) (arguments : List Expression)
  | construct (callee : Expression) (arguments : List Expression)
  | superCall (arguments : List Expression)
  | importCall (module : Expression)
  | secretIn (name : String) (object : Expression)
  | sequence (first second : Expression)
  | yield (value : Expression)
  | yieldAll (values : Expression)
  | await (value : Expression)
  /-- An expression in parentheses. -/
  | grouped (inner : Expression)
  /-- A place in a list where there is nothing. -/
  | hole
  /-- A place in a list where many values stand. -/
  | spread (values : Expression)

inductive Member where
  | property (key : MemberName) (value : Expression)
  | method (onClass : Bool) (key : MemberName) (function : FunctionId)
  | spread (source : Expression)
  /-- The parent that an object expression gives. -/
  | parent (value : Expression)
  /-- A name with a default value, which only patterns may hold. -/
  | defaulted (name : String) (value : Expression)
  /-- A field of a class, whose value is the result of a function without parameters. -/
  | field (onClass : Bool) (key : MemberName) (value : Option FunctionId)
  /-- Code that a class runs on itself. -/
  | block (body : FunctionId)
  /-- Part of an object pattern. -/
  | matched (key : MemberName) (pattern : Pattern)

inductive MemberName where
  | fixed (name : Units)
  | computed (key : Expression)
  | secret (name : String)

inductive Pattern where
  /-- A place in a list pattern that takes nothing. -/
  | hole
  | name (name : String)
  /-- A property to be assigned. -/
  | place (target : Expression)
  | array (items : List Pattern) (rest : Option Pattern)
  | object (members : List Member) (rest : Option Pattern)
  | defaulted (pattern : Pattern) (value : Expression)

end

structure Scope where
  names : List (String × Bool)
  functions : List (String × FunctionId)
  deriving Inhabited

inductive LoopTarget where
  | declaration (kind : DeclarationKind) (pattern : Pattern)
  | pattern (pattern : Pattern)

mutual

inductive Statement where
  | empty
  | expression (value : Expression)
  | declaration (kind : DeclarationKind) (bindings : List (Pattern × Option Expression))
  | function (id : FunctionId)
  | classOf (name : String) (definition : Expression)
  | block (scope : Scope) (body : List Statement)
  | conditional (test : Expression) (yes no : Statement)
  | loop (scope : Scope) (start : Statement) (test update : Option Expression) (body : Statement)
  | whileLoop (test : Expression) (body : Statement)
  | doLoop (body : Statement) (test : Expression)
  | forIn (scope : Scope) (target : LoopTarget) (source : Expression) (body : Statement)
  | forOf (waits : Bool) (scope : Scope) (target : LoopTarget) (source : Expression) (body : Statement)
  | breakTo (label : Option String)
  | continueTo (label : Option String)
  | result (value : Option Expression)
  | raise (value : Expression)
  /-- A body with a handler for what it throws; the scope holds the names of the handler. -/
  | handled (body : Statement) (scope : Scope) (parameter : Option Pattern)
    (handler : List Statement)
  | finished (body finish : Statement)
  | switch (value : Expression) (scope : Scope) (cases : List SwitchCase)
  | labelled (label : String) (body : Statement)

inductive SwitchCase where
  | mk (test : Option Expression) (body : List Statement)

end

instance : Inhabited Expression := ⟨.this⟩
instance : Inhabited Statement := ⟨.empty⟩
instance : Inhabited Pattern := ⟨.hole⟩

structure Function where
  info : FunctionInfo
  parameters : List Pattern
  rest : Option Pattern
  parameterNames : List String
  varNames : List String
  scope : Scope
  body : List Statement
  deriving Inhabited

structure Program where
  varNames : List String
  scope : Scope
  body : List Statement
  functions : Array Function
  strict : Bool
  /-- Names that functions inside it mention. -/
  inner : List String
  /-- Whether it evaluates text in its own scope. -/
  evaluates : Bool
  deriving Inhabited

end ScriptSandbox.Script
