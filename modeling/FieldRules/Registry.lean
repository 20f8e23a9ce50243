import FieldRules.Dict
import FieldRules.Error

/-!
# Shared rules (`crates/validator/src/rule.rs:100-126`)

A rule is a field followed by directives. Instead of directives of its own it may name a shared rule,
`RULE:name`, as its first directive; the directives are then those of the shared rule, and whatever follows
the reference is not read. A reference is followed once: a shared rule is never searched for references.
-/

namespace FieldRules

/-- Lists of directives under their names. -/
abbrev RuleRegistry := Dict (List String)

/-- The directives of a rule, taken from the registry when the rule is a reference. -/
def resolveDirectives (registry : Option RuleRegistry) (rule : List String) :
    Except RuleError (List String) :=
  match rule with
  | field :: first :: rest =>
    match Directive.reference? first with
    | none => .ok (first :: rest)
    | some reference =>
      match registry with
      | none => .error (.missingRegistry field reference)
      | some registry =>
        match registry.find? reference with
        | none => .error (.unknownReference field reference)
        | some directives => .ok directives
  | rule => .error (.ruleTooShort rule)

end FieldRules
