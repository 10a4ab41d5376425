import PluginFabric.Event.Tag

/-! The stages of a preparation.

    A graph of operators is prepared in three phases, and each is announced twice: before the engine's
    step and after it. The six stages come in one fixed order. -/

namespace PluginFabric

/-- The stages of a preparation, in the order they are announced. -/
inductive Stage where
  | prePopulate | postPopulate | preConfigure | postConfigure | preValidate | postValidate
  deriving DecidableEq, Inhabited

namespace Stage

def all : List Stage :=
  [prePopulate, postPopulate, preConfigure, postConfigure, preValidate, postValidate]

/-- The place of a stage in the order. -/
def index : Stage → Nat
  | prePopulate => 0
  | postPopulate => 1
  | preConfigure => 2
  | postConfigure => 3
  | preValidate => 4
  | postValidate => 5

def name : Stage → String
  | prePopulate => "PRE_POPULATE_DAG"
  | postPopulate => "POST_POPULATE_DAG"
  | preConfigure => "PRE_CONFIGURE_DAG"
  | postConfigure => "POST_CONFIGURE_DAG"
  | preValidate => "PRE_VALIDATE_DAG"
  | postValidate => "POST_VALIDATE_DAG"

/-- The text that shows a stage for diagnosis. -/
def diagnosis : Stage → String
  | prePopulate => "PrePopulateDag"
  | postPopulate => "PostPopulateDag"
  | preConfigure => "PreConfigureDag"
  | postConfigure => "PostConfigureDag"
  | preValidate => "PreValidateDag"
  | postValidate => "PostValidateDag"

/-- The text that shows the event of a stage for diagnosis. -/
def eventDiagnosis (s : Stage) : String := "SetupEvent \x7b event_type: " ++ s.diagnosis ++ " \x7d"

/-- The stage of a name. -/
def ofName? (s : String) : Option Stage := all.find? fun stage => stage.name == s

/-- The stage after this one, if it is not the last. -/
def next (s : Stage) : Option Stage := all[s.index + 1]?

/-- The stages that announce a step to come. -/
def isPre : Stage → Bool
  | prePopulate | preConfigure | preValidate => true
  | _ => false

theorem index_injective {s t : Stage} (h : s.index = t.index) : s = t := by
  cases s <;> cases t <;> simp_all [index]

instance : Ord Stage := ⟨compareOn index⟩

instance : Std.TransOrd Stage := inferInstanceAs (Std.TransCmp (compareOn index))

instance : Std.LawfulEqOrd Stage where
  compare_self := Std.ReflCmp.compare_self
  eq_of_compare h := index_injective (Std.LawfulEqOrd.eq_of_compare h)

instance : EventTag Stage where
  tagName := name

/-- The event of a stage carries its stage and nothing else. -/
instance : Tagged Stage Stage := ⟨id⟩

end Stage

/-- A step of the engine that is bracketed by two stages. -/
inductive Phase where | populate | configure | validate
  deriving DecidableEq, Inhabited

namespace Phase

def all : List Phase := [populate, configure, validate]

/-- The stage announced before the step. -/
def pre : Phase → Stage
  | populate => .prePopulate
  | configure => .preConfigure
  | validate => .preValidate

/-- The stage announced after the step. -/
def post : Phase → Stage
  | populate => .postPopulate
  | configure => .postConfigure
  | validate => .postValidate

def name : Phase → String
  | populate => "populate"
  | configure => "configure"
  | validate => "validate"

end Phase

end PluginFabric
