/-! Properties of characters.

    A property is given by the code points at which it begins and ends to hold, in turn: a character
    has it if an odd number of them are not past it. -/

namespace PluginFabric.Text

/-- Whether a character has the property that changes at these code points. -/
def hasProperty (changes : Array Nat) (c : Char) : Bool := changes.countP (· ≤ c.toNat) % 2 == 1

end PluginFabric.Text
