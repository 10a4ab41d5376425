import PluginFabric.Proofs.Config.References
import PluginFabric.Proofs.Config.Substitution
import Mathlib.Data.List.Flatten
import Mathlib.Data.List.Basic
import Mathlib.Data.List.Lex

/-! Substitution leaf by leaf.

    The texts of a tree are its leaves, each reached by turns: to an element of a list, or to a member
    of an object. Substitution succeeds if it succeeds on every leaf; otherwise it fails at the first
    leaf that misses a variable, elements by index and members by key, and the path that it tells is
    written from the turns to this leaf. -/

namespace PluginFabric

open Reference (elementPath memberPath)

namespace Json

/-- One step down a tree: to an element of a list, or to a member of an object. -/
inductive Turn where
  | element (index : Nat)
  | member (key : String)
  deriving DecidableEq

/-- The path that is one turn longer. -/
def Turn.extend (path : String) : Turn → String
  | element index => elementPath path index
  | member key => memberPath path key

/-- The path that turns from the root are written as. -/
def pathOf (turns : List Turn) : String := turns.foldl Turn.extend ""

/-- These turns lead from a tree to what stands there. -/
inductive At : Json → List Turn → Json → Prop
  | here (v : Json) : At v [] v
  | element {xs : List Json} {i : Nat} {x w : Json} {turns : List Turn} (hx : xs[i]? = some x)
    (h : At x turns w) : At (.arr xs) (.element i :: turns) w
  | member {ms : List (String × Json)} {key : String} {x w : Json} {turns : List Turn}
    (hx : (key, x) ∈ ms) (h : At x turns w) : At (.obj ms) (.member key :: turns) w

/-- The members of every object stand in the order of their keys. -/
def Ordered (v : Json) : Prop :=
  ∀ turns ms, v.At turns (.obj ms) → ms.Pairwise fun a b => a.1 < b.1

/-- Of two turns at one place, the element with the lower index or the member with the lower key is
    first. -/
inductive Turn.Before : Turn → Turn → Prop
  | element {i j : Nat} (h : i < j) : Before (.element i) (.element j)
  | member {k l : String} (h : k < l) : Before (.member k) (.member l)

/-- What the first turns lead to comes earlier than what the second lead to, depth first. -/
def Earlier : List Turn → List Turn → Prop := List.Lex Turn.Before

instance : Std.Asymm Turn.Before where
  asymm := by
    rintro _ _ (h | h) (h' | h')
    · exact Nat.lt_asymm h h'
    · exact String.lt_asymm h h'

instance : Std.Asymm Earlier := inferInstanceAs (Std.Asymm (List.Lex Turn.Before))

/-- What holds of a list if it holds of its elements, of an object if it holds of its members, and of
    everything else, holds of every tree. -/
@[induction_eliminator]
theorem induction {P : Json → Prop} (null : P .null) (bool : ∀ b, P (.bool b))
    (int : ∀ n, P (.int n)) (float : ∀ x, P (.float x)) (str : ∀ s, P (.str s))
    (arr : ∀ xs : List Json, (∀ x ∈ xs, P x) → P (.arr xs))
    (obj : ∀ ms : List (String × Json), (∀ m ∈ ms, P m.2) → P (.obj ms)) (v : Json) : P v :=
  @rec P (fun xs => ∀ x ∈ xs, P x) (fun ms => ∀ m ∈ ms, P m.2) (fun m => P m.2) null bool int float
    str arr obj (by simp) (fun _ _ hx hxs => List.forall_mem_cons.2 ⟨hx, hxs⟩) (by simp)
    (fun _ _ hm hms => List.forall_mem_cons.2 ⟨hm, hms⟩) (fun _ _ hx => hx) v

/-! ### The leaves in order -/

/-- A leaf as it is seen from one turn above. -/
def fromAbove (turn : Turn) (leaf : List Turn × String) : List Turn × String :=
  (turn :: leaf.1, leaf.2)

mutual

/-- The texts of a tree with the turns that lead to them, depth first. -/
def leaves : Json → List (List Turn × String)
  | .str s => [([], s)]
  | .arr xs => leavesOfElements 0 xs
  | .obj ms => leavesOfMembers ms
  | .null | .bool _ | .int _ | .float _ => []

def leavesOfElements : Nat → List Json → List (List Turn × String)
  | _, [] => []
  | i, x :: xs => (leaves x).map (fromAbove (.element i)) ++ leavesOfElements (i + 1) xs

def leavesOfMembers : List (String × Json) → List (List Turn × String)
  | [] => []
  | (key, x) :: ms => (leaves x).map (fromAbove (.member key)) ++ leavesOfMembers ms

end

theorem leaves_arr (xs : List Json) : leaves (.arr xs)
    = xs.zipIdx.flatMap fun p => p.1.leaves.map (fromAbove (.element p.2)) := by
  suffices h : ∀ i, leavesOfElements i xs
      = (xs.zipIdx i).flatMap fun p => p.1.leaves.map (fromAbove (.element p.2)) by
    rw [leaves, h]
  induction xs with
  | nil => exact fun _ => rfl
  | cons x xs ih =>
    intro i
    rw [leavesOfElements, ih, List.zipIdx_cons, List.flatMap_cons]

theorem leaves_obj (ms : List (String × Json)) : leaves (.obj ms)
    = ms.flatMap fun m => m.2.leaves.map (fromAbove (.member m.1)) := by
  rw [leaves]
  induction ms with
  | nil => rfl
  | cons m ms ih => rw [leavesOfMembers, ih, List.flatMap_cons]

/-- The path of a leaf, from a path to the tree. -/
def pathed (path : String) (leaf : List Turn × String) : String × String :=
  (leaf.1.foldl Turn.extend path, leaf.2)

/-- The texts of a tree are its leaves, with their turns written as paths. -/
theorem texts_eq (v : Json) (path : String) : v.texts path = v.leaves.map (pathed path) := by
  induction v generalizing path with
  | arr xs ih =>
    rw [texts, textsOfElements_eq, leaves_arr, List.map_flatMap]
    refine List.flatMap_congr fun p hp => ?_
    have hx := List.mem_of_getElem? (List.mem_zipIdx_iff_getElem?.1 hp)
    rw [ih p.1 hx, List.map_map]
    rfl
  | obj ms ih =>
    rw [texts, textsOfMembers_eq, leaves_obj, List.map_flatMap]
    refine List.flatMap_congr fun m hm => ?_
    rw [ih m hm, List.map_map]
    rfl
  | _ => rfl

theorem mem_map_fromAbove {turn : Turn} {turns : List Turn} {s : String}
    {l : List (List Turn × String)} :
    (turns, s) ∈ l.map (fromAbove turn) ↔ ∃ turns', turns = turn :: turns' ∧ (turns', s) ∈ l := by
  rw [List.mem_map]
  constructor
  · rintro ⟨⟨turns', s'⟩, hmem, heq⟩
    obtain ⟨rfl, rfl⟩ := Prod.mk.inj heq
    exact ⟨turns', rfl, hmem⟩
  · rintro ⟨turns', rfl, hmem⟩
    exact ⟨(turns', s), hmem, rfl⟩

theorem mem_leaves {v : Json} {turns : List Turn} {s : String} :
    (turns, s) ∈ v.leaves ↔ v.At turns (.str s) := by
  induction v generalizing turns with
  | str t =>
    rw [leaves, List.mem_singleton]
    constructor
    · intro h
      obtain ⟨rfl, rfl⟩ := Prod.mk.inj h
      exact .here _
    · rintro ⟨⟩
      rfl
  | arr xs ih =>
    rw [leaves_arr, List.mem_flatMap]
    constructor
    · rintro ⟨⟨x, i⟩, hx, hmem⟩
      obtain ⟨turns', rfl, hbelow⟩ := mem_map_fromAbove.1 hmem
      have hget := List.mem_zipIdx_iff_getElem?.1 hx
      exact .element hget ((ih x (List.mem_of_getElem? hget)).1 hbelow)
    · rintro (_ | ⟨hget, hat⟩ | _)
      have hbelow := (ih _ (List.mem_of_getElem? hget)).2 hat
      exact ⟨(_, _), List.mem_zipIdx_iff_getElem?.2 hget, mem_map_fromAbove.2 ⟨_, rfl, hbelow⟩⟩
  | obj ms ih =>
    rw [leaves_obj, List.mem_flatMap]
    constructor
    · rintro ⟨⟨key, x⟩, hx, hmem⟩
      obtain ⟨turns', rfl, hbelow⟩ := mem_map_fromAbove.1 hmem
      exact .member hx ((ih (key, x) hx).1 hbelow)
    · rintro (_ | _ | ⟨hx, hat⟩)
      have hbelow := (ih (_, _) hx).2 hat
      exact ⟨(_, _), hx, mem_map_fromAbove.2 ⟨_, rfl, hbelow⟩⟩
  | _ => exact ⟨fun h => (by cases h), fun h => (by cases h)⟩

theorem ordered_str (s : String) : (Json.str s).Ordered := by
  rintro _ _ ⟨⟩

theorem ordered_arr {xs : List Json} : (Json.arr xs).Ordered ↔ ∀ x ∈ xs, x.Ordered := by
  constructor
  · intro h x hx
    obtain ⟨i, hi⟩ := List.mem_iff_getElem?.1 hx
    exact fun turns ms hat => h _ _ (.element hi hat)
  · rintro h _ ms (_ | ⟨hget, hat⟩ | _)
    exact h _ (List.mem_of_getElem? hget) _ _ hat

theorem ordered_obj {ms : List (String × Json)} : (Json.obj ms).Ordered ↔
    (ms.Pairwise fun a b => a.1 < b.1) ∧ ∀ m ∈ ms, m.2.Ordered := by
  constructor
  · intro h
    exact ⟨h [] ms (.here _), fun m hm turns ms' hat => h _ _ (.member hm hat)⟩
  · rintro ⟨hms, h⟩ _ ms' (_ | _ | ⟨hm, hat⟩)
    · exact hms
    · exact h _ hm _ _ hat

/-- Leaves that are seen from the same turn above stand in the order that they had. -/
theorem pairwise_fromAbove {turn : Turn} {l : List (List Turn × String)}
    (h : l.Pairwise fun a b => Earlier a.1 b.1) :
    (l.map (fromAbove turn)).Pairwise fun a b => Earlier a.1 b.1 :=
  List.pairwise_map.2 (h.imp fun hab => .cons hab)

/-- The leaves stand in their order: each comes earlier than those behind it. -/
theorem pairwise_leaves {v : Json} (ordered : v.Ordered) :
    v.leaves.Pairwise fun a b => Earlier a.1 b.1 := by
  have apart : ∀ {t t' : Turn} {l l' : List (List Turn × String)}, t.Before t' →
      ∀ a ∈ l.map (fromAbove t), ∀ b ∈ l'.map (fromAbove t'), Earlier a.1 b.1 := by
    intro t t' l l' hbefore a ha b hb
    obtain ⟨_, -, rfl⟩ := List.mem_map.1 ha
    obtain ⟨_, -, rfl⟩ := List.mem_map.1 hb
    exact .rel hbefore
  induction v with
  | str s => exact List.pairwise_singleton ..
  | arr xs ih =>
    rw [leaves_arr, List.pairwise_flatMap]
    refine ⟨fun p hp => ?_, ?_⟩
    · have hx := List.mem_of_getElem? (List.mem_zipIdx_iff_getElem?.1 hp)
      exact pairwise_fromAbove (ih p.1 hx (ordered_arr.1 ordered p.1 hx))
    · have hidx : (xs.zipIdx.map (·.2)).Pairwise (· < ·) := by
        rw [List.zipIdx_map_snd]
        exact List.pairwise_lt_range'
      exact (List.pairwise_map.1 hidx).imp fun hlt => apart (.element hlt)
  | obj ms ih =>
    rw [leaves_obj, List.pairwise_flatMap]
    obtain ⟨hms, hmembers⟩ := ordered_obj.1 ordered
    refine ⟨fun m hm => pairwise_fromAbove (ih m hm (hmembers m hm)), ?_⟩
    exact hms.imp fun hlt => apart (.member hlt)
  | _ => exact .nil

/-- A leaf that comes earlier than another stands in front of it. -/
theorem mem_front_of_earlier {v : Json} (ordered : v.Ordered) {leaf l : List Turn × String}
    {front back : List (List Turn × String)} (hsplit : v.leaves = front ++ leaf :: back)
    (hl : l ∈ v.leaves) (hearlier : Earlier l.1 leaf.1) : l ∈ front := by
  have hpairwise := pairwise_leaves ordered
  rw [hsplit] at hpairwise hl
  have hback := (List.pairwise_cons.1 (List.pairwise_append.1 hpairwise).2.1).1
  rcases List.mem_append.1 hl with hl | hl
  · exact hl
  · rcases List.mem_cons.1 hl with rfl | hl
    · exact absurd hearlier (asymm hearlier)
    · exact absurd hearlier (asymm (hback l hl))

/-- Two changes of texts are one if they agree on the leaves. -/
theorem mapTexts_congr {f g : String → String} {v : Json}
    (agree : ∀ leaf ∈ v.leaves, f leaf.2 = g leaf.2) : v.mapTexts f = v.mapTexts g := by
  induction v with
  | str s => rw [mapTexts, mapTexts, agree ([], s) (List.mem_singleton.2 rfl)]
  | arr xs ih =>
    rw [mapTexts, mapTexts, mapTextsOfElements_eq, mapTextsOfElements_eq]
    refine congrArg arr (List.map_congr_left fun x hx => ih x hx fun leaf hleaf => ?_)
    obtain ⟨i, hi⟩ := List.mem_iff_getElem?.1 hx
    exact agree (.element i :: leaf.1, leaf.2) (mem_leaves.2 (.element hi (mem_leaves.1 hleaf)))
  | obj ms ih =>
    rw [mapTexts, mapTexts, mapTextsOfMembers_eq, mapTextsOfMembers_eq]
    refine congrArg obj (List.map_congr_left fun m hm => ?_)
    have hx := ih m hm fun leaf hleaf =>
      agree (.member m.1 :: leaf.1, leaf.2) (mem_leaves.2 (.member hm (mem_leaves.1 hleaf)))
    rw [hx]
  | _ => rfl

end Json

namespace Reference

open Json

section Leaves

variable {env env' : Variables} {v w : Json}

/-- The first variable that a leaf misses, with the path of the leaf. -/
def missingIn? (env : Variables) (leaf : List Turn × String) : Option MissingVariable :=
  (missing? env leaf.2).map fun name => ⟨name, pathOf leaf.1⟩

theorem missingAt?_pathed (env : Variables) (leaf : List Turn × String) :
    missingAt? env (pathed "" leaf) = missingIn? env leaf := by
  rw [missingAt?, missingIn?, pathed]
  cases h : substituteText env leaf.2 with
  | ok t =>
    have hnone : missing? env leaf.2 = none := by
      refine Option.eq_none_iff_forall_ne_some.2 fun name hname => ?_
      rw [substituteText_error_iff.2 hname] at h
      cases h
    rw [hnone]
    rfl
  | error name =>
    rw [substituteText_error_iff.1 h]
    rfl

theorem missingIn?_eq_none_iff {leaf : List Turn × String} :
    missingIn? env leaf = none ↔ ∃ t, substituteText env leaf.2 = .ok t := by
  rw [← missingAt?_pathed, missingAt?]
  cases h : substituteText env leaf.2 <;> simp [pathed, h]

/-- A tree is substituted unless one of its leaves misses a variable. -/
theorem resolve_eq (env : Variables) (v : Json) : resolve env v
    = (v.leaves.findSome? (missingIn? env)).elim (.ok (v.mapTexts (replaced env))) .error := by
  have hfirst : firstMissing? env (v.texts "") = v.leaves.findSome? (missingIn? env) := by
    rw [firstMissing?, texts_eq, List.findSome?_map]
    exact congrArg (List.findSome? · _) (funext fun leaf => missingAt?_pathed env leaf)
  rw [resolve, substitute_eq, unlessMissing, hfirst]
  cases v.leaves.findSome? (missingIn? env) <;> rfl

theorem resolve_ok_iff : resolve env v = .ok w ↔
    (∀ leaf ∈ v.leaves, missingIn? env leaf = none) ∧ w = v.mapTexts (replaced env) := by
  rw [resolve_eq, ← List.findSome?_eq_none_iff]
  cases v.leaves.findSome? (missingIn? env) <;> simp [eq_comm]

theorem resolve_error_iff {m : MissingVariable} :
    resolve env v = .error m ↔ v.leaves.findSome? (missingIn? env) = some m := by
  rw [resolve_eq]
  cases v.leaves.findSome? (missingIn? env) <;> simp

/-- The leaf that a failure is about, with the leaves in front of it. -/
theorem resolve_error_split {m : MissingVariable} (h : resolve env v = .error m) :
    ∃ front leaf back, v.leaves = front ++ leaf :: back ∧ missingIn? env leaf = some m ∧
      ∀ l ∈ front, missingIn? env l = none :=
  List.findSome?_eq_some_iff.1 (resolve_error_iff.1 h)

/-- A tree depends on the environment through the variables that its leaves refer to. -/
theorem resolve_congr
    (agree : ∀ leaf ∈ v.leaves, ∀ name ∈ references leaf.2, env.value? name = env'.value? name) :
    resolve env v = resolve env' v := by
  have htext : ∀ leaf ∈ v.leaves, substituteText env leaf.2 = substituteText env' leaf.2 :=
    fun leaf hleaf => substituteText_congr (agree leaf hleaf)
  have hmissing : v.leaves.findSome? (missingIn? env) = v.leaves.findSome? (missingIn? env') := by
    rw [← List.head?_filterMap, ← List.head?_filterMap]
    refine congrArg List.head? (List.filterMap_congr fun leaf hleaf => ?_)
    rw [← missingAt?_pathed, ← missingAt?_pathed, missingAt?, missingAt?, pathed, htext leaf hleaf]
  have htree : v.mapTexts (replaced env) = v.mapTexts (replaced env') :=
    mapTexts_congr fun leaf hleaf => by rw [replaced, replaced, htext leaf hleaf]
  rw [resolve_eq, resolve_eq, hmissing, htree]

end Leaves

/-- A tree is substituted leaf by leaf. It succeeds if and only if every leaf does; then each leaf
    is replaced and the rest stays. If it fails, then at the first leaf that does, with the first
    variable that this leaf misses and the path that leads to it. Environments that agree on the
    variables the leaves refer to give one result. -/
theorem resolve_leafwise (v : Json) :
    (∀ env, (∃ w, resolve env v = .ok w) ↔
      ∀ turns s, v.At turns (.str s) → ∃ t, substituteText env s = .ok t) ∧
    (∀ env w, resolve env v = .ok w → w = v.mapTexts (replaced env) ∧
      ∀ turns s, v.At turns (.str s) → substituteText env s = .ok (replaced env s)) ∧
    (∀ env m, resolve env v = .error m → ∃ turns s, v.At turns (.str s) ∧
      substituteText env s = .error m.name ∧ missing? env s = some m.name ∧ m.path = pathOf turns ∧
      (v.Ordered → ∀ turns' s', v.At turns' (.str s') → Earlier turns' turns →
        ∃ t, substituteText env s' = .ok t)) ∧
    ∀ env env', (∀ turns s, v.At turns (.str s) → ∀ name ∈ references s,
      env.value? name = env'.value? name) → resolve env v = resolve env' v := by
  refine ⟨fun env => ?_, fun env w h => ?_, fun env m h => ?_, fun env env' agree => ?_⟩
  · constructor
    · rintro ⟨w, h⟩ turns s hat
      exact missingIn?_eq_none_iff.1 ((resolve_ok_iff.1 h).1 (turns, s) (mem_leaves.2 hat))
    · intro h
      refine ⟨_, resolve_ok_iff.2 ⟨fun leaf hleaf => ?_, rfl⟩⟩
      exact missingIn?_eq_none_iff.2 (h leaf.1 leaf.2 (mem_leaves.1 hleaf))
  · obtain ⟨hnone, rfl⟩ := resolve_ok_iff.1 h
    refine ⟨rfl, fun turns s hat => ?_⟩
    obtain ⟨t, ht⟩ := missingIn?_eq_none_iff.1 (hnone (turns, s) (mem_leaves.2 hat))
    rw [replaced, ht]
  · obtain ⟨front, ⟨turns, s⟩, back, hsplit, hmissing, hfront⟩ := resolve_error_split h
    obtain ⟨name, hname, rfl⟩ := Option.map_eq_some_iff.1 hmissing
    have hat : v.At turns (.str s) := mem_leaves.1 (by rw [hsplit]; simp)
    refine ⟨turns, s, hat, substituteText_error_iff.2 hname, hname, rfl, ?_⟩
    intro ordered turns' s' hat' hearlier
    have hmem := mem_front_of_earlier ordered hsplit (mem_leaves.2 hat') hearlier
    exact missingIn?_eq_none_iff.1 (hfront (turns', s') hmem)
  · exact resolve_congr fun leaf hleaf => agree leaf.1 leaf.2 (mem_leaves.1 hleaf)

/-- Where the second element of a list and a text under a later key both miss a variable, the failure
    is about the element, and it is the same if the variable is set to nothing. -/
theorem resolve_leafwise_first :
    let v : Json :=
      .obj [("list", .arr [.str "$\x7bA\x7d", .str "$\x7bB\x7d"]), ("text", .str "$\x7bC\x7d")]
    let env : Variables := fun name => if name = "A" then some "a" else none
    resolve env v = .error ⟨"B", "list[1]"⟩ ∧
      (∃ turns s, v.At turns (.str s) ∧ missing? env s = some "B" ∧ "list[1]" = pathOf turns ∧
        ∀ turns' s', v.At turns' (.str s') → Earlier turns' turns →
          ∃ t, substituteText env s' = .ok t) ∧
      resolve (fun name => if name = "B" then some "" else env name) v = resolve env v := by
  intro v env
  have ordered : v.Ordered := by
    refine ordered_obj.2 ⟨by decide, ?_⟩
    simp [ordered_arr, ordered_str]
  have hresolve : resolve env v = .error ⟨"B", "list[1]"⟩ :=
    resolve_error_iff.2 (by decide +kernel)
  obtain ⟨-, -, hfirst, hcongr⟩ := resolve_leafwise v
  obtain ⟨turns, s, hat, -, hmissing, hpath, hearlier⟩ := hfirst env _ hresolve
  refine ⟨hresolve, ⟨turns, s, hat, hmissing, hpath, hearlier ordered⟩, hcongr _ _ ?_⟩
  intro _ _ _ name _
  by_cases hname : name = "B"
  · subst hname
    rfl
  · rw [Variables.value?, Variables.value?, if_neg hname]

end Reference

end PluginFabric
