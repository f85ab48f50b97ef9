import SentinelRounds.Wire.Schema

/-! Who is on the other end of a round. -/

namespace SentinelRounds

/-- A peer: the id it is known by and the name it shows. -/
structure Identity where
  id : String := ""
  name : String := ""
  deriving DecidableEq, Repr, Inhabited

namespace Identity

/-- How identities are encoded. -/
def schema : Schema Identity :=
  .record "Identity"
    (.field "id" .text none <| .field "name" .text none .done)
    (fun (id, name, ()) => ⟨id, name⟩)
    (fun identity => (identity.id, identity.name, ()))

end Identity

end SentinelRounds
