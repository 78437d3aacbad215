import TwoWay.Pattern.Fault

/-!
# Malformed schemas

Why a schema cannot be built.
-/

namespace TwoWay

inductive Malformed where
  | emptyEnum
  | fewOptions
  | optionNotObject (type : String)
  | optionWithoutTag (quotedTag : String)
  | tagWithoutValues (quotedTag : String)
  | repeatedTagValue (quotedTag quotedValue : String)
  | defaultSupply
  | catchSupply
  | sidesNotSchemas
  | sidesNotFunctions
  | notEffect (type : String)
  | notPattern
  | badPattern (pattern : WrittenPattern) (error : PatternError)
  | notUnknownKeys (quoted : String)
  | notSchemaKind (quoted : String)
  | notEffectKind (quoted : String)
  | notIssueCode (quoted : String)
  /-- A field of a finished node was assigned. -/
  | frozen (field : String)
  deriving DecidableEq, Repr

def Malformed.message : Malformed → String
  | .emptyEnum => "enum() requires at least one value"
  | .fewOptions => "union() requires at least two options"
  | .optionNotObject t => "discriminated_union() options must be object schemas, got " ++ t
  | .optionWithoutTag tag => "Option is missing discriminator key " ++ tag
  | .tagWithoutValues tag =>
    "A discriminator value for key " ++ tag ++ " could not be extracted from all options"
  | .repeatedTagValue tag value =>
    "Discriminator property " ++ tag ++ " has duplicate value " ++ value
  | .defaultSupply => "default() takes exactly one of a value or a factory"
  | .catchSupply => "catch() takes exactly one of a value or a factory"
  | .sidesNotSchemas => "invertible() requires Schema instances for input and output"
  | .sidesNotFunctions => "invertible() requires callable parse and format functions"
  | .notEffect t => "ignore_effect() expects an effects schema, got " ++ t
  | .notPattern => "first argument must be string or compiled pattern"
  | .badPattern pattern e => e.message pattern
  | .notUnknownKeys q => q ++ " is not a valid UnknownKeys"
  | .notSchemaKind q => q ++ " is not a valid SchemaKind"
  | .notEffectKind q => q ++ " is not a valid EffectType"
  | .notIssueCode q => q ++ " is not a valid IssueCode"
  | .frozen a => "cannot assign to field '" ++ a ++ "'"

end TwoWay
