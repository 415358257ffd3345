import ScriptSandbox.Script.Tree

/-!
Code: what the functions of a script become before they run. Instructions work on a stack of values;
the comment at each one gives the top of the stack before and after it. Variables live in places: in a
slot of the call, in a cell that functions share, or in a cell of the surrounding function.
-/

namespace ScriptSandbox.Script

inductive Place where
  | slot (index : Nat)
  | cell (index : Nat)
  | captured (index : Nat)
  deriving Inhabited, DecidableEq, Repr

inductive MethodKind where
  | plain | getter | setter
  deriving DecidableEq

inductive Complaint where
  /-- A constant is assigned. -/
  | readOnly (name : String)
  | noSuperBase
  deriving DecidableEq

inductive Instruction where
  -- Stack.
  | push (value : Value)
  | pop
  | dup
  | dupTwo
  | swap
  /-- A copy of the top goes below that many values: `a t` becomes `t a t`. -/
  | insert (depth : Nat)
  -- Variables.
  | read (place : Place)
  /-- Reads a variable that may not be declared yet. -/
  | readChecked (place : Place) (name : String)
  | write (place : Place)
  | writeChecked (place : Place) (name : String)
  /-- A new cell without a value. -/
  | fresh (cell : Nat)
  /-- A new cell with the value of the old one. -/
  | renew (cell : Nat)
  | readGlobal (name : String) (key : Key)
  | typeOfGlobal (name : String) (key : Key)
  | writeGlobal (name : String) (key : Key)
  | startGlobal (name : String)
  | defineGlobalFunction (name : String)
  | deleteGlobal (name : String)
  | complain (complaint : Complaint)
  -- Properties: `object key` and the like.
  | getField (key : Key)
  | setField (key : Key)
  | getIndex
  | setIndex
  | delete
  | getSuper
  | setSuper
  | getSecret
  | setSecret
  | hasSecret
  | toKey
  | requireObject
  -- Objects and arrays under construction.
  | newObject
  | newArray
  | append
  | appendHole
  | appendAll
  /-- `object key value` becomes `object`. -/
  | define
  | defineField (key : Key)
  | defineMethod (kind : MethodKind) (enumerable : Bool)
  | defineSecret (kind : MethodKind) (constant : Bool)
  | setParent
  | copyAll
  /-- `source excluded` becomes a copy without those keys. -/
  | copyRest
  | regexp (body flags : Units)
  | templateSite (index : Nat)
  -- Functions and classes.
  | closure (child : Nat)
  /-- Names the function on top by the key below it. -/
  | nameBy (lead : String)
  /-- `parent` becomes `constructor prototype`. -/
  | classStart (child : Nat) (derived : Bool)
  /-- `constructor function` becomes `constructor`. -/
  | setFields
  /-- `object function` stays, and the function belongs to the object. -/
  | setHome
  | newSecret (name : String)
  | this
  | newTarget
  /-- The function that is running. -/
  | self
  | argument (index : Nat)
  | argumentList
  | argumentsFrom (index : Nat)
  /-- `this function a b c` becomes the result. -/
  | call (count : Nat)
  | callAll
  | construct (count : Nat)
  | constructAll
  | superCall (count : Nat)
  | superCallAll
  | superForward
  /-- `result` becomes `this`, once. -/
  | bindThis (place : Place)
  /-- Runs the fields of the class on `this`. -/
  | startFields
  | evaluate (count : Nat) (scope : Nat)
  | importModule
  -- Operators.
  | unary (operator : UnaryOperator)
  | binary (operator : BinaryOperator)
  /-- Adds the top to a value that was read from a variable, which is about to get the sum. -/
  | addTo (place : Place)
  | addToGlobal (name : String)
  | toNumeric
  | count (up : Bool)
  | toText
  -- Jumps.
  | jump (target : Nat)
  | jumpIf (target : Nat)
  | jumpUnless (target : Nat)
  | jumpPresent (target : Nat)
  | jumpDefined (target : Nat)
  /-- If the top is absent, it and so many values below it become `undefined`. -/
  | jumpAbsent (extra : Nat) (target : Nat)
  /-- Back to the start of a loop. -/
  | again (target : Nat)
  -- Iteration, in three slots: iterator, its method, whether it is done.
  | iterate (slot : Nat) (waits : Bool)
  | step (slot : Nat) (target : Nat)
  | takeOne (slot : Nat)
  | takeRest (slot : Nat)
  | close (slot : Nat)
  | closeQuietly (slot : Nat)
  | keys (slot : Nat)
  | nextKey (slot : Nat) (target : Nat)
  -- Control.
  /-- Where a thrown value goes; `always` also for a forced end of a generator. -/
  | guard (target : Nat) (always : Bool)
  | unguard
  | throw
  | rethrow
  | result
  /-- The result of a derived constructor, whose `this` lives in a place. -/
  | derivedResult (place : Place)
  | suspend
  | yield
  | yieldAll (slot : Nat)
  | await
  deriving Inhabited

structure Visible where
  name : String
  place : Place
  constant : Bool
  checked : Bool
  deriving Inhabited

structure EvaluationScope where
  visible : List Visible
  superMember : Bool
  newTarget : Bool
  field : Bool
  deriving Inhabited

structure Code where
  name : String
  kind : FunctionKind
  generator : Bool
  async : Bool
  strict : Bool
  arity : Nat
  source : Units
  slots : Nat
  cells : Nat
  instructions : Array Instruction
  children : Array Code
  /-- Where the surrounding function has the cells that this one shares. -/
  captures : Array Place
  sites : Array TemplateSite
  scopes : Array EvaluationScope
  /-- Whether fields are started by the first instructions, as in a class without a parent. -/
  isClass : Bool
  deriving Inhabited

structure GlobalNames where
  lexicals : List (String × Bool)
  varNames : List String
  functions : List String
  deriving Inhabited

end ScriptSandbox.Script
