namespace SlideDeck.Yaml

inductive Fault where
  | encoding
  /-- The text is no single document, or a node cannot have the type of its tag. -/
  | malformed
  /-- A scalar with the tag of a number or a date writes none. -/
  | number
  | emptyNumber
  /-- A number or the number of a character is beyond all bounds. -/
  | tooLarge
  | truth
  | moment
  | momentOfMapping
  /-- A mapping stands for the text of itself. -/
  | unending
  deriving Repr, DecidableEq

end SlideDeck.Yaml
