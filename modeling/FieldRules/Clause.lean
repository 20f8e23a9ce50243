import FieldRules.Check
import FieldRules.Keyword

/-!
# Clauses (`crates/validator/src/builders/common.rs:182-241`)

What a directive asks for, once it has been read for a field and a rule type: a setting of the rule, or a
check. Every directive is read on its own, and always against the same default code.
-/

namespace FieldRules

/-- What a directive asks for. -/
inductive Clause
  | marker
  | required (code : String)
  | stopAll
  | trim
  | check (step : Check)

namespace Clause

/-- The code that a clause can add to a verdict. -/
def code? : Clause → Option String
  | required code => some code
  | check step => step.code?
  | _ => none

def check? : Clause → Option Check
  | check step => some step
  | _ => none

/-- The code that a clause requires the field with. -/
def required? : Clause → Option String
  | required code => some code
  | _ => none

def isStopAll : Clause → Bool
  | stopAll => true
  | _ => false

def isTrim : Clause → Bool
  | trim => true
  | _ => false

end Clause

/-- What directives are read for: a field, its type, the code they fall back to, and the components in reach. -/
structure RuleContext where
  field : String
  type : RuleType
  defaultCode : String
  components : Option ComponentLookup

namespace RuleContext

/-- The directive has a number of parts within limits. -/
def expectParts (field : String) (min max : Nat) (directive : Directive) : Except RuleError Unit :=
  if min ≤ directive.size ∧ directive.size ≤ max then .ok ()
  else .error (.arity field directive.name min max directive.size)

/-- The code that a directive carries at an index, else the default of the rule (op.rs:131-145). -/
def codeAt (field : String) (defaultCode : String) (index : Nat) (directive : Directive) :
    Except RuleError String :=
  match directive.code? index defaultCode with
  | some code => .ok code
  | none => .error (.missingCode field directive.name)

def orBadParameter {α : Type} (field : String) (directive : Directive) :
    Except ParameterFault α → Except RuleError α
  | .ok value => .ok value
  | .error fault => .error (.badParameter field directive.name fault)

/-- The members of a list that have to be numbers of a type. -/
def readMembers {α : Type} (type : RuleType) (read : List Char → Option α) (members : List String) :
    Except ParameterFault (List α) :=
  members.mapM fun member =>
    match read member.toList with
    | some value => .ok value
    | none => .error (.notOfType member type)

def nonempty {α : Type} (values : List α) : Except ParameterFault (List α) :=
  if values.isEmpty then .error .nothingAllowed else .ok values

def readFinite? (cs : List Char) : Option Float :=
  (Numeral.readDouble? cs).bind fun x => if x.isFinite then some x else none

def oneOfTest (type : RuleType) (members : List String) : Except ParameterFault Test :=
  match type with
  | .int => do
    let values ← readMembers type Numeral.readInteger? members
    .oneOfIntegers <$> nonempty values
  | .float => do
    let values ← readMembers type readFinite? members
    .oneOfNumbers <$> nonempty values
  | _ => .oneOfTexts <$> nonempty members

def rangeTest (type : RuleType) (directive : Directive) : Except ParameterFault Test :=
  match type with
  | .float => do
    let bounds ← Bounds.read Numeral.readDouble? directive
    if bounds.all Float.isFinite then .ok (.numberRange bounds) else .error .boundsNotFinite
  | _ => .integerRange <$> Bounds.read Numeral.readInteger? directive

def readTruth (part : String) : Except ParameterFault Bool :=
  let text := Text.trim part
  if text = "true" then .ok true
  else if text = "false" then .ok false
  else .error (.notATruthValue text)

/-- The fields that exclude the field of the rule. -/
def readExcluded (field : String) (members : List String) : Except ParameterFault (List String) :=
  if members.isEmpty then .error .nothingExcluded
  else if members.contains field then .error .excludesItself
  else .ok members

def readPattern (part : String) : Except ParameterFault Regex :=
  match Regex.ofWhole? part with
  | some regex => .ok regex
  | none => .error .badPattern

def findComponent (field name : String) : Option ComponentLookup → Except RuleError Component
  | none => .error (.missingLookup field)
  | some lookup =>
    match lookup name with
    | none => .error (.unknownComponent field name)
    | some component => .ok component

/-- A test with the code that the directive carries at an index. -/
def testClause (context : RuleContext) (directive : Directive) (codeIndex : Nat)
    (test : Except ParameterFault Test) : Except RuleError Clause := do
  let test ← orBadParameter context.field directive test
  let code ← codeAt context.field context.defaultCode codeIndex directive
  .ok (.check (.test test code))

/-- Reads a directive whose keyword the rule type knows (common.rs:182-241, string.rs:111-145, numeric.rs:145-187). -/
def readKeyword (context : RuleContext) (directive : Directive) (keyword : Keyword) :
    Except RuleError Clause :=
  let part := (directive.part? 1).getD ""
  match keyword with
  | .required => .required <$> codeAt context.field context.defaultCode 1 directive
  | .stopAll => .ok .stopAll
  | .stopIfFailed => .ok (.check .stopIfFailed)
  | .trim => .ok .trim
  | .exclusive => do
    let fields ← orBadParameter context.field directive
      (readExcluded context.field (directive.members 1))
    let code ← codeAt context.field context.defaultCode 2 directive
    .ok (.check (.exclusive fields code))
  | .external => do
    let component ← findComponent context.field part context.components
    let code ← codeAt context.field context.defaultCode 2 directive
    .ok (.check (.external part component code))
  | .oneOf => context.testClause directive 2 (oneOfTest context.type (directive.members 1))
  | .length => context.testClause directive 3 (.length <$> Bounds.read Numeral.readCount? directive)
  | .range => context.testClause directive 3 (rangeTest context.type directive)
  | .pattern => context.testClause directive 2 (.fullMatch <$> readPattern part)
  | .is => context.testClause directive 2 (.equals <$> readTruth part)

def readDirective (context : RuleContext) (directive : Directive) : Except RuleError Clause :=
  if directive.name = context.type.marker then do
    expectParts context.field 1 2 directive
    .ok .marker
  else
    match Keyword.ofName? directive.name with
    | none => .error (.unknownOperation context.field context.type directive.name)
    | some keyword =>
      if keyword.appliesTo context.type then do
        expectParts context.field keyword.minParts keyword.maxParts directive
        context.readKeyword directive keyword
      else .error (.unknownOperation context.field context.type directive.name)

end RuleContext

end FieldRules
