namespace SlideDeck.Text

def splitChars (separator : Char) : List Char → List (List Char)
  | [] => [[]]
  | c :: rest =>
    if c = separator then [] :: splitChars separator rest
    else
      match splitChars separator rest with
      | part :: parts => (c :: part) :: parts
      | [] => [[c]]

/-- A path without empty parts and parts that stay in place. Two slashes at the start are kept as they
are, any other number counts as one. -/
def normalizePath (path : String) : String :=
  let chars := path.toList
  let slashes := (chars.takeWhile (· = '/')).length
  let root := if slashes = 2 then "//" else if slashes = 0 then "" else "/"
  let parts := (splitChars '/' chars).filter fun part => part ≠ [] ∧ part ≠ ['.']
  let name := root ++ "/".intercalate (parts.map String.ofList)
  if name.isEmpty then "." else name

end SlideDeck.Text
