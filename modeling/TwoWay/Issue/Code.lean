/-!
# Issue codes

The machine-readable reason that every issue carries.
-/

namespace TwoWay

inductive IssueCode where
  | invalidType
  | invalidLiteral
  | invalidEnumValue
  | invalidString
  | unrecognizedKeys
  | invalidUnion
  | invalidUnionDiscriminator
  | invalidIntersectionTypes
  | invalidArguments
  | invalidReturnType
  | tooSmall
  | tooBig
  | notInteger
  | custom
  deriving DecidableEq, Repr, Inhabited

namespace IssueCode

def text : IssueCode → String
  | .invalidType => "invalid_type"
  | .invalidLiteral => "invalid_literal"
  | .invalidEnumValue => "invalid_enum_value"
  | .invalidString => "invalid_string"
  | .unrecognizedKeys => "unrecognized_keys"
  | .invalidUnion => "invalid_union"
  | .invalidUnionDiscriminator => "invalid_union_discriminator"
  | .invalidIntersectionTypes => "invalid_intersection_types"
  | .invalidArguments => "invalid_arguments"
  | .invalidReturnType => "invalid_return_type"
  | .tooSmall => "too_small"
  | .tooBig => "too_big"
  | .notInteger => "not_integer"
  | .custom => "custom"

def all : List IssueCode := [
  .invalidType, .invalidLiteral, .invalidEnumValue, .invalidString, .unrecognizedKeys,
  .invalidUnion, .invalidUnionDiscriminator, .invalidIntersectionTypes, .invalidArguments,
  .invalidReturnType, .tooSmall, .tooBig, .notInteger, .custom]

theorem mem_all (code : IssueCode) : code ∈ all := by cases code <;> decide

def ofText? (text : String) : Option IssueCode := all.find? (·.text = text)

theorem ofText?_text (code : IssueCode) : ofText? code.text = some code := by
  cases code <;> decide

end IssueCode
end TwoWay
