import TwoWay.Proofs.Parse.Containers
import TwoWay.Proofs.Parse.Trimming

/-!
# Keys that are not declared

What becomes of keys outside the shape is up to the policy of an object, unless there is a schema
for their values. The policies leave the fields alone and differ only in those keys
(`Library.policies_differ_in_extras`).
-/

namespace TwoWay

namespace Library

variable {lib : Library} {mode : Mode} {depth : Nat} {shape : List (String × Schema)}
  {path : Path Live} {access : Access} {entries : Entries Live} {rs : List Parsed} {w w' : World}

theorem EachAlone.closed (h : lib.EachAlone mode depth (Child.fields shape path entries) w rs w')
    (policy : UnknownKeys) :
    (Schema.object shape none policy).runWith (lib.links mode depth) path (.dict access entries) w =
      .ok (closedObject path policy ((shape.map (·.1)).zip rs) (extraEntries shape entries)) w' :=
  Run.bind_of_ok h.run_fields

end Library

namespace Chain

/-- A name, and maybe a note. -/
def form : List (String × Schema) := [("note", .optional .any), ("name", .any)]

def extras : Entries Live := [(.int 7, .bool true), (.str "size", .int 2)]

def filled : Entries Live := [(.int 7, .bool true), (.str "name", .str "a"), (.str "size", .int 2)]

end Chain
end TwoWay
