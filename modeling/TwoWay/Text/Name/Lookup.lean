import TwoWay.Text.Name.Addition
import TwoWay.Text.Name.Alias
import TwoWay.Text.Name.Alphabet
import TwoWay.Text.Name.Ancient
import TwoWay.Text.Name.Numbered
import TwoWay.Text.Name.Picture
import TwoWay.Text.Name.Syllable
import TwoWay.Text.Name.Symbol

/-!
# Characters by name

The case of a name does not matter but for unified ideographs and Hangul syllables.
-/

namespace TwoWay.Text

def nameTables : List (List NameRun) :=
  [alphabetNames, syllableNames, symbolNames, additionNames, ancientNames, pictureNames]

/-- The code point of the character with a name. -/
def codeOfName? (name : String) : Option Nat :=
  let capitals := name.map Char.toUpper
  (ideographCode? name).orElse fun _ =>
    (syllableCode? name).orElse fun _ =>
      (furtherCode? capitals).orElse fun _ =>
        (selectorCode? capitals).orElse fun _ =>
          (namedCode? capitals).orElse fun _ =>
            nameTables.findSome? fun runs => runs.findSome? (·.code? capitals)

end TwoWay.Text
