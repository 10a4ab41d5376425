import PluginFabric.Window

/-! Commits move forward only. -/

namespace PluginFabric

/-- The last window that was committed. -/
structure CommitTracker where
  last : Option WindowId := none
  deriving DecidableEq, Inhabited

/-- The tracker after a commit, unless a window at least as late was committed before. -/
def CommitTracker.advance? (t : CommitTracker) (w : WindowId) : Option CommitTracker :=
  match t.last with
  | none => some ⟨some w⟩
  | some previous => if w.value ≤ previous.value then none else some ⟨some w⟩

end PluginFabric
