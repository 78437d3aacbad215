import TwoWay.Issue.Code
import TwoWay.Schema.Malformed
import TwoWay.Schema.Kind
import TwoWay.Value.Quoted

/-!
# Vocabularies

The words of the library come in vocabularies: kinds of nodes, kinds of effects, codes of
issues and policies for unknown keys. The constant for a word is the word in capitals.
-/

namespace TwoWay

inductive Vocabulary where
  | schemaKind
  | effectKind
  | issueCode
  | unknownKeys
  deriving DecidableEq, Repr

/-- A word of a vocabulary. Of a kind of nodes it tells whether they are leaves. -/
structure Term where
  word : String
  isLeaf : Option Bool := none
  deriving DecidableEq, Repr

def Term.constant (t : Term) : String := t.word.map Char.toUpper

namespace Vocabulary

def terms : Vocabulary → List Term
  | .schemaKind => SchemaKind.all.map fun k => ⟨k.text, some k.isLeaf⟩
  | .effectKind => EffectKind.all.map fun k => ⟨k.text, none⟩
  | .issueCode => IssueCode.all.map fun c => ⟨c.text, none⟩
  | .unknownKeys => UnknownKeys.all.map fun p => ⟨p.text, none⟩

/-- What is said of a word that is not in a vocabulary. -/
def refusal : Vocabulary → String → Malformed
  | .schemaKind => .notSchemaKind
  | .effectKind => .notEffectKind
  | .issueCode => .notIssueCode
  | .unknownKeys => .notUnknownKeys

/-- The word that a value is. -/
def find {κ : Type} [Handle κ] (vocabulary : Vocabulary) (v : Value κ) : Except Malformed Term :=
  let found := match v with
    | .str word => vocabulary.terms.find? (·.word = word)
    | _ => none
  match found with
  | some t => .ok t
  | none => .error (vocabulary.refusal v.quoted)

end Vocabulary
end TwoWay
