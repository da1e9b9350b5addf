import GraphPath.Json.Printer
import GraphPath.Path.Shown

/-!
# Faults of path expressions

Why an expression cannot be built, declared or compiled. Each fault keeps its cause; the
wording is in one function per type.

An error of the path language shows the value that is wrong. If that value cannot be shown,
since an integer in it has too many digits, the error cannot be worded, and the failure to
word it is what the caller gets.

* `StepFault` — why a step or expression has the wrong shape;
* `PathError` — the faults of the path language itself;
* `UsageError` — an operation applied to a value of a kind that does not have it;
* `Fault` — either of them, or the failure to word one;
* `Fault.ofError`, `Fault.malformed` — an error of the path language as a fault.
-/

namespace GraphPath

/-- **What should have been passed.** -/
inductive Expectation where
  | string
  | name
  | predicate
  | predicateOrRoute
  | predicateSet
  | nodes
  | tag
  | tags
  | route
  | morphismName
  | step
  | start
  | vertex
  | finalizer
  | fragment
  | namedMorphism
deriving DecidableEq, Repr

/-- The wording of an expectation. -/
def Expectation.message : Expectation → Text
  | .string => "a non-empty string"
  | .name => "a non-empty name"
  | .predicate => "Predicate"
  | .predicateOrRoute => "Predicate or sub-expression"
  | .predicateSet => "PredicateSet"
  | .nodes => "Node or NodeSet"
  | .tag => "Tag"
  | .tags => "Tag or TagSet"
  | .route => "a Vertex sub-expression"
  | .morphismName => "a morphism name"
  | .step => "Step"
  | .start => "AnyNode, Node or NodeSet as start"
  | .vertex => "Vertex"
  | .finalizer => "All or GetLimit"
  | .fragment => "Morphism or Path steps"
  | .namedMorphism => "a named Morphism"

/-- A piece of advice behind an unmet expectation: a set of predicates has operations of
its own. -/
def Expectation.hint : Expectation → Value → Text
  | .predicateOrRoute, .selector (.predicates _) => " (use the *_predicates variant)"
  | _, _ => []

/-- **Why a step or an expression has the wrong shape.** -/
inductive StepFault where
  | expected (what : Expectation) (got : Value)
  | namesFromText (got : Text)
  | noNames
  | notEncodable (got : Value)

/-- The wording of a wrong shape. -/
def StepFault.message : StepFault → Text
  | .expected what got => "expected " ++ what.message ++ ", got " ++ got.shown ++ what.hint got
  | .namesFromText got => "expected a sequence of names, got string " ++ got.quoted
  | .noNames => "expected at least one name"
  | .notEncodable got => got.shown ++ " has no operand encoding"

/-- Whether a wrong shape cannot be worded. -/
def StepFault.isOversized : StepFault → Bool
  | .expected _ got | .notEncodable got => got.isOversized
  | .namesFromText _ | .noNames => false

/-- **A fault of the path language.** `owner` is the name of what was being made. -/
inductive PathError where
  | malformedStep (owner : Text) (fault : StepFault)
  | duplicateMorphism (name : Name)
  | nestedFinalizer (owner : Text)
  | unknownMorphism (name : Value)
  | invalidLimit (limit : Value)
  | missingFinalizer (kind : Text)
  | notAVertex (kind : Text)
  | morphismCycle (chain : List Text)
  | morphismMismatch (name : Text)

/-- **The wording of a fault of the path language.** -/
def PathError.message : PathError → Text
  | .malformedStep owner fault => owner ++ ": " ++ fault.message
  | .duplicateMorphism name => "Morphism '" ++ name.text ++ "' is already declared"
  | .nestedFinalizer owner =>
    owner ++ ": sub-expression must not be finalized with All() or GetLimit()"
  | .unknownMorphism name => "Morphism '" ++ name.plainText ++ "' is not declared"
  | .invalidLimit limit => "GetLimit requires a positive integer, got " ++ limit.shown
  | .missingFinalizer kind =>
    kind ++ " has no finalizer; call all() or get_limit(n) on a Vertex before compiling"
  | .notAVertex kind => kind ++ " is not a Vertex expression"
  | .morphismCycle chain => "Morphism reference cycle: " ++ Text.join " -> " chain
  | .morphismMismatch name =>
    "Morphism '" ++ name ++ "' was followed with steps that differ from its declaration"

/-- Whether a fault of the path language cannot be worded. -/
def PathError.isOversized : PathError → Bool
  | .malformedStep _ fault => fault.isOversized
  | .unknownMorphism name => name.isOversized
  | .invalidLimit limit => limit.isOversized
  | .duplicateMorphism _ | .nestedFinalizer _ | .missingFinalizer _ | .notAVertex _
  | .morphismCycle _ | .morphismMismatch _ => false

/-- **An operation on a value whose kind does not have it.** -/
inductive UsageError where
  | notIterable (kind : Text)
  | noAttribute (kind name : Text)
  | cannotAdd (left right : Text)
  | unhashable (kind : Text)
  | missingOperand
  | notARoute

/-- The wording of a usage error. -/
def UsageError.message : UsageError → Text
  | .notIterable kind => "'" ++ kind ++ "' object is not iterable"
  | .noAttribute kind name => "'" ++ kind ++ "' object has no attribute '" ++ name ++ "'"
  | .cannotAdd left right =>
    "unsupported operand type(s) for +: '" ++ left ++ "' and '" ++ right ++ "'"
  | .unhashable kind => "unhashable type: '" ++ kind ++ "'"
  | .missingOperand => "tuple index out of range"
  | .notARoute => []

/-- **A fault**: of the path language, in the use of a value, or in the wording of the
former. -/
inductive Fault where
  | path (error : PathError)
  | usage (error : UsageError)
  | unwritable (fault : Json.Unwritable)

/-- The wording of a fault. -/
def Fault.message : Fault → Text
  | .path error => error.message
  | .usage error => error.message
  | .unwritable fault => fault.message

/-- **An error of the path language as a fault**, if it can be worded. -/
def Fault.ofError (error : PathError) : Fault :=
  if error.isOversized then .unwritable .tooManyDigits else .path error

/-- An error that can be worded is the fault itself. -/
theorem Fault.ofError_eq_path_iff {error other : PathError} :
    ofError error = .path other ↔ error = other ∧ error.isOversized = false := by
  cases h : error.isOversized <;> simp [ofError, h]

/-- A step or expression of the wrong shape. -/
def Fault.malformed (owner : Text) (fault : StepFault) : Fault :=
  .ofError (.malformedStep owner fault)

end GraphPath
