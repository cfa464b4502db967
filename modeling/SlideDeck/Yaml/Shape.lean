/-! How much of a value is wanted. -/

namespace SlideDeck.Yaml

/-- A value without its parts, a list with what is wanted of each item, or a mapping with what is wanted
under some keys. -/
inductive Shape where
  | plain
  | list (item : Shape)
  | record (fields : List (String × Shape))
  deriving Repr

end SlideDeck.Yaml
