import NameSlots.Json.Value
import NameSlots.Names.Mapping

/-! Named sets of name mappings. -/

namespace NameSlots

/-- A set of mappings with the name and the note it was stored with, which may be any data. -/
structure NameSet where
  name : Json
  mappings : List Mapping := []
  note : Json := .null
deriving BEq

/-- Sets by name. -/
structure Store where
  version : Int := 1
  sets : List (Text × NameSet) := []
deriving BEq

/-- The entries with a mapping in place of the first one of its key, or at the end. -/
def putMapping (mapping : Mapping) : List Mapping → List Mapping
  | [] => [mapping]
  | first :: rest =>
    if first.key = mapping.key then mapping :: rest else first :: putMapping mapping rest

namespace Store

/-- The set of a name. -/
def get? (store : Store) (name : Text) : Option NameSet := store.sets.lookup name

/-- The sets in code-point order of their names. -/
def list (store : Store) : List NameSet :=
  (store.sets.mergeSort fun a b => Text.le a.1 b.1).map (·.2)

/-- The store with a set under a name. -/
def put (store : Store) (name : Text) (set : NameSet) : Store :=
  { store with sets := Table.put name set store.sets }

/-- The set of a name with a mapping put into it; a set that is missing is new. -/
def withMapping (store : Store) (name : Text) (mapping : Mapping) : NameSet :=
  let set := (store.get? name).getD { name := .string name }
  { set with mappings := putMapping mapping set.mappings }

/-- The store with a mapping put into a set. -/
def putMapping (store : Store) (name : Text) (mapping : Mapping) : Store :=
  store.put name (store.withMapping name mapping)

/-- The store without the mappings of a key in a set; none if there are none. -/
def dropMappings? (store : Store) (name key : Text) : Option Store := do
  let set ← store.get? name
  let left := set.mappings.filter (·.key ≠ key)
  if left.length = set.mappings.length then none
  else some (store.put name { set with mappings := left })

/-- The store without a set; none if there is no such set. -/
def drop? (store : Store) (name : Text) : Option Store :=
  if (store.get? name).isNone then none
  else some { store with sets := Table.drop name store.sets }

end Store

end NameSlots
