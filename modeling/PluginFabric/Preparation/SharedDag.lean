import PluginFabric.Text.Quoted

/-! The graph under preparation, shared.

    All holders of a handle see one graph. It can be taken out again only by the last holder. -/

namespace PluginFabric

/-- A graph and the number of handles on it. -/
structure SharedDag (δ : Type) where
  dag : δ
  holders : Nat := 1

namespace SharedDag

variable {δ : Type}

/-- One more handle on the same graph. -/
def share (s : SharedDag δ) : SharedDag δ := { s with holders := s.holders + 1 }

/-- One handle less. -/
def release (s : SharedDag δ) : SharedDag δ := { s with holders := s.holders - 1 }

/-- The graph as `change` leaves it. -/
def modify (s : SharedDag δ) (change : δ → δ) : SharedDag δ := { s with dag := change s.dag }

/-- The graph itself, for the last holder. -/
def intoInner? (s : SharedDag δ) : Option δ := if s.holders = 1 then some s.dag else none

/-- The text that shows a handle for diagnosis, around the one that shows the graph. -/
def diagnosis (dagText : δ → String) (s : SharedDag δ) : String := "DagHandle(" ++ dagText s.dag ++ ")"

end SharedDag

end PluginFabric
