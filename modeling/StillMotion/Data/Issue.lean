/-!
# Issues with data

Data that does not fit a type is answered with a list of issues, each a place and a kind.
Issues of independent fields are collected, in the order of the fields.
-/

namespace StillMotion

inductive Step where
  | key (name : String)
  | index (position : Nat)
  | number (n : Int)
deriving DecidableEq, Repr

inductive IssueKind where
  | missing
  | modelType
  | listType
  | mappingType
  | stringType
  | stringUnicode
  | invalidKey
  | pathType
  | boolType
  | boolParsing
  | intType
  | intParsing
  | intParsingSize
  | intFromFloat
  | finiteNumber
  | floatType
  | floatParsing
  | literalError
  | extraForbidden
  | frozenInstance
  | greaterThan
  | greaterThanEqual
  | lessThanEqual
  | rejected (reason : String)
deriving DecidableEq, Repr

def IssueKind.name : IssueKind → String
  | .missing => "missing"
  | .modelType => "model_type"
  | .listType => "list_type"
  | .mappingType => "dict_type"
  | .stringType => "string_type"
  | .stringUnicode => "string_unicode"
  | .invalidKey => "invalid_key"
  | .pathType => "path_type"
  | .boolType => "bool_type"
  | .boolParsing => "bool_parsing"
  | .intType => "int_type"
  | .intParsing => "int_parsing"
  | .intParsingSize => "int_parsing_size"
  | .intFromFloat => "int_from_float"
  | .finiteNumber => "finite_number"
  | .floatType => "float_type"
  | .floatParsing => "float_parsing"
  | .literalError => "literal_error"
  | .extraForbidden => "extra_forbidden"
  | .frozenInstance => "frozen_instance"
  | .greaterThan => "greater_than"
  | .greaterThanEqual => "greater_than_equal"
  | .lessThanEqual => "less_than_equal"
  | .rejected _ => "value_error"

structure Issue where
  place : List Step
  kind : IssueKind
deriving DecidableEq, Repr

def Issue.under (step : Step) (issue : Issue) : Issue := ⟨step :: issue.place, issue.kind⟩

abbrev Checked (α : Type) := Except (List Issue) α

namespace Checked

def fail {α : Type} (kind : IssueKind) : Checked α := .error [⟨[], kind⟩]

def under {α : Type} (step : Step) : Checked α → Checked α
  | .ok a => .ok a
  | .error issues => .error (issues.map (Issue.under step))

/-- Combine independent results, collecting the issues of both. -/
def both {α β : Type} : Checked (α → β) → Checked α → Checked β
  | .ok f, .ok a => .ok (f a)
  | .ok _, .error later => .error later
  | .error earlier, .ok _ => .error earlier
  | .error earlier, .error later => .error (earlier ++ later)

@[simp] theorem both_ok {α β : Type} (f : α → β) (a : α) :
    both (.ok f) (.ok a) = .ok (f a) := rfl

@[simp] theorem under_ok {α : Type} (step : Step) (a : α) : under step (.ok a) = .ok a := rfl

end Checked

end StillMotion
