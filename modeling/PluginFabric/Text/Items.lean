import PluginFabric.Text.Blank

/-! Lists written as one text.

    A list-valued text separates its items by commas. Blanks around an item do not belong to it, and
    an item of blanks only is no item. -/

namespace PluginFabric.Text

/-- Cuts a text at every `d`; the pieces hold no `d` and there is one more of them than cuts. -/
def cutAt (d : Char) : List Char → List (List Char)
  | [] => [[]]
  | c :: cs =>
    if c = d then [] :: cutAt d cs
    else match cutAt d cs with
      | [] => [[c]]
      | piece :: pieces => (c :: piece) :: pieces

/-- The sign between two items of a list-valued text. -/
def itemSeparator : Char := ','

/-- The items of a list-valued text, over characters. -/
def splitItems (cs : List Char) : List (List Char) :=
  ((cutAt itemSeparator cs).map trim).filter fun item => !item.isEmpty

/-- The items of a list-valued text: trimmed, in order, blank ones left out. -/
def items (s : String) : List String := (splitItems s.toList).map String.ofList

/-- The texts one after the other with `separator` between them. -/
def joinWith (separator : String) : List String → String
  | [] => ""
  | [s] => s
  | s :: rest => s ++ separator ++ joinWith separator rest

/-- A list as one text. -/
def joinItems (l : List String) : String := joinWith "," l

end PluginFabric.Text
