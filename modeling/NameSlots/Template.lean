import NameSlots.Text.Basic

/-! Templates: texts with places for names. -/

namespace NameSlots.Template

/-- The pieces of a template between its places, from left to right; never empty. -/
def pieces : Text → List Text
  | [] => [[]]
  | '<' :: 'p' :: '>' :: rest => [] :: pieces rest
  | c :: rest =>
    match pieces rest with
    | [] => [[c]]
    | piece :: more => (c :: piece) :: more

/-- Names in one place. -/
def list (names : List Text) : Text := Text.join ", ".toList names

/-- Fills the places of a template with names: the only place takes all names; of several the first
takes the first name and every other the remaining names. -/
def expand (template : Text) (names : List Text) : Text :=
  match pieces template, names with
  | [], _ => []
  | [piece], _ => piece
  | [first, last], _ => first ++ list names ++ last
  | pieces, [] => pieces.flatten
  | first :: rest, name :: names => first ++ name ++ Text.join (list names) rest

end NameSlots.Template
