import PluginFabric.SortedMap

/-! Tags of events.

    Each of the two domains of the fabric, preparation and execution, has a closed set of tags. A
    handler is registered for a tag, and an event carries exactly one tag of its domain, so a handler
    of one domain can never be looked up in the other. -/

namespace PluginFabric

/-- The tags of one domain: ordered, and each with a name. -/
class EventTag (κ : Type) extends Ord κ, Std.TransOrd κ, Std.LawfulEqOrd κ where
  tagName : κ → String

/-- Events that carry one tag each. -/
class Tagged (ε : Type) (κ : outParam Type) where
  tag : ε → κ

export EventTag (tagName)
export Tagged (tag)

end PluginFabric
