/-! Overlay specifications: on which slides of a frame a piece of content is shown. A number that is
not negative means from that slide on, a negative one means that slide only. -/

namespace SlideDeck.Overlay

def range (n : Int) : String :=
  if n < 0 then "<only@" ++ toString n.natAbs ++ ">" else "<" ++ toString n ++ "->"

def command (n : Int) : String :=
  if n < 0 then "\\only<" ++ toString n.natAbs ++ ">" else "\\onslide<" ++ toString n ++ "->"

end SlideDeck.Overlay
