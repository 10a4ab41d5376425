import Mathlib.Data.List.DropRight
import PluginFabric.Text.Items

/-! Splitting what was joined.

    A text is cut where its separators are, so cutting undoes joining as long as no item has a
    separator in it (`items_joinItems`). What is cut out has no separator in it, and trimming takes
    nothing more the second time, so items that are joined and split again are the same items. -/

namespace PluginFabric.Text

/-- Neither the first nor the last character of a text is a blank. -/
structure Tight (cs : List Char) : Prop where
  start : ∀ c ∈ cs.head?, isBlank c = false
  stop : ∀ c ∈ cs.getLast?, isBlank c = false

/-- `core` is what is left of a text without the blanks at both its ends. -/
structure Trims (cs core : List Char) : Prop where
  around : ∃ front back, cs = front ++ core ++ back ∧ ∀ c ∈ front ++ back, isBlank c = true
  tight : Tight core

/-- What may be an item of a list-valued text. -/
structure IsItem (item : String) : Prop where
  nonempty : item ≠ ""
  tight : Tight item.toList
  apart : itemSeparator ∉ item.toList

/-! ### Trimming -/

theorem trimEnd_eq (cs : List Char) : trimEnd cs = cs.rdropWhile isBlank := rfl

theorem trimStart_idem (cs : List Char) : trimStart (trimStart cs) = trimStart cs :=
  List.dropWhile_idempotent isBlank cs

/-- Trimming the back leaves the front trimmed. -/
theorem trimStart_trim (cs : List Char) : trimStart (trim cs) = trim cs := by
  obtain ⟨back, hback⟩ : trim cs <+: trimStart cs := List.rdropWhile_prefix isBlank _
  cases hfront : trim cs with
  | nil => rfl
  | cons c rest =>
    have hstart := trimStart_idem cs
    rw [← hback, hfront, List.cons_append, trimStart, List.dropWhile_cons] at hstart
    split at hstart
    · -- a blank in front would have been dropped
      have hlength := congrArg List.length hstart
      have hle := List.length_dropWhile_le isBlank (rest ++ back)
      rw [List.length_cons] at hlength
      omega
    · rename_i hblank
      rw [trimStart, List.dropWhile_cons, if_neg hblank]

theorem trim_trim (cs : List Char) : trim (trim cs) = trim cs := by
  rw [trim, trimStart_trim, trim, trimEnd_eq, trimEnd_eq, List.rdropWhile_idempotent]

/-- A text is left alone exactly if there is no blank at either of its ends. -/
theorem trim_eq_self_iff {cs : List Char} : trim cs = cs ↔ Tight cs := by
  have hstart : trimStart cs = cs ↔ ∀ c ∈ cs.head?, isBlank c = false := by
    rw [trimStart, List.dropWhile_eq_self_iff]
    cases cs <;> simp
  have hstop : trimEnd cs = cs ↔ ∀ c ∈ cs.getLast?, isBlank c = false := by
    rw [trimEnd_eq, List.rdropWhile_eq_self_iff]
    cases cs with
    | nil => simp
    | cons c cs =>
      have hne := List.cons_ne_nil c cs
      rw [List.getLast?_eq_some_getLast hne, forall_prop_of_true hne]
      simp
  constructor
  · intro h
    have hfront : trimStart cs = cs := h ▸ trimStart_trim cs
    rw [trim, hfront] at h
    exact ⟨hstart.1 hfront, hstop.1 h⟩
  · rintro ⟨hfirst, hlast⟩
    rw [trim, hstart.2 hfirst, hstop.2 hlast]

/-- Trimming drops blanks, and only at the ends. -/
theorem trims_trim (cs : List Char) : Trims cs (trim cs) := by
  refine ⟨⟨cs.takeWhile isBlank, ((trimStart cs).reverse.takeWhile isBlank).reverse, ?_, ?_⟩,
    trim_eq_self_iff.1 (trim_trim cs)⟩
  · have hback := congrArg List.reverse
      (List.takeWhile_append_dropWhile (p := isBlank) (l := (trimStart cs).reverse))
    rw [List.reverse_append, List.reverse_reverse] at hback
    rw [List.append_assoc, trim, trimEnd, hback, trimStart, List.takeWhile_append_dropWhile]
  · intro c hc
    rcases List.mem_append.1 hc with hc | hc
    · exact List.mem_takeWhile_imp hc
    · exact List.mem_takeWhile_imp (List.mem_reverse.1 hc)

theorem trim_subset (cs : List Char) : trim cs ⊆ cs := by
  intro c hc
  have hfront : c ∈ trimStart cs := (List.rdropWhile_prefix isBlank _).subset hc
  exact (List.dropWhile_suffix isBlank).subset hfront

/-- A text without blanks is left alone. -/
theorem trim_of_not_isBlank {cs : List Char} (h : ∀ c ∈ cs, isBlank c = false) : trim cs = cs := by
  have hstart : trimStart cs = cs := List.dropWhile_eq_self_iff.2 fun hpos => by
    simp [h _ (List.getElem_mem hpos)]
  rw [trim, hstart, trimEnd_eq, List.rdropWhile_eq_self_iff]
  intro hne
  simp [h _ (List.getLast_mem hne)]

/-- Nothing is left if all is blank. -/
theorem trim_eq_nil_iff {cs : List Char} : trim cs = [] ↔ ∀ c ∈ cs, isBlank c = true := by
  rw [trim, trimEnd_eq, List.rdropWhile_eq_nil_iff, trimStart]
  refine ⟨fun h c hc => ?_, fun h c hc => h c ((List.dropWhile_suffix isBlank).subset hc)⟩
  rw [← List.takeWhile_append_dropWhile (p := isBlank) (l := cs)] at hc
  exact (List.mem_append.1 hc).elim List.mem_takeWhile_imp (h c)

/-- Only one text is left without the blanks at both ends, and trimming leaves it. -/
theorem trims_iff {cs core : List Char} : Trims cs core ↔ trim cs = core := by
  refine ⟨fun h => ?_, fun h => h ▸ trims_trim cs⟩
  obtain ⟨⟨front, back, rfl, hblank⟩, htight⟩ := h
  obtain ⟨hfront, hback⟩ := List.forall_mem_append.1 hblank
  cases core with
  | nil =>
    rw [List.append_nil]
    exact trim_eq_nil_iff.2 hblank
  | cons c rest =>
    have hself := trim_eq_self_iff.2 htight
    have hc : ¬ isBlank c = true := by simp [htight.start c rfl]
    -- the front goes with `trimStart`, which stops at the first character of the core
    have hstart (tail : List Char) : trimStart (c :: tail) = c :: tail :=
      List.dropWhile_cons_of_neg hc
    have hstop : trimEnd (c :: rest ++ back) = trimEnd (c :: rest) := by
      rw [trimEnd, List.reverse_append,
        List.dropWhile_append_of_pos fun b hb => hback b (List.mem_reverse.1 hb), ← trimEnd]
    rw [trim, hstart] at hself
    rw [trim, List.append_assoc, trimStart, List.dropWhile_append_of_pos hfront, ← trimStart,
      List.cons_append, hstart, ← List.cons_append, hstop, hself]

theorem trimmed_eq_empty_iff {s : String} : trimmed s = "" ↔ allBlank s = true := by
  rw [trimmed, String.ofList_eq_empty_iff, trim_eq_nil_iff, allBlank, List.all_eq_true]

theorem trimmed_trimmed (s : String) : trimmed (trimmed s) = trimmed s := by
  rw [trimmed, trimmed, String.toList_ofList, trim_trim]

theorem trimmed_eq_self_iff {s : String} : trimmed s = s ↔ Tight s.toList := by
  rw [← trim_eq_self_iff, trimmed, ← String.toList_inj, String.toList_ofList]

/-- Where nothing is to trim and nothing is blank, nothing is dropped. -/
theorem filter_map_trimmed_eq_self {l : List String} (h : ∀ s ∈ l, trimmed s = s ∧ s ≠ "") :
    (l.map trimmed).filter (· ≠ "") = l := by
  have htrimmed : l.map trimmed = l :=
    (List.map_congr_left fun s hs => (h s hs).1).trans (List.map_id l)
  rw [htrimmed]
  exact List.filter_eq_self.2 fun s hs => decide_eq_true (h s hs).2

/-! ### Cutting -/

section Cut

variable {d : Char}

theorem cutAt_ne_nil (cs : List Char) : cutAt d cs ≠ [] := by
  cases cs with
  | nil => exact List.cons_ne_nil _ _
  | cons c cs =>
    rw [cutAt]
    split
    · exact List.cons_ne_nil _ _
    · split <;> exact List.cons_ne_nil _ _

/-- A separator is where a text is cut. -/
theorem cutAt_append_cons (a b : List Char) : cutAt d (a ++ d :: b) = cutAt d a ++ cutAt d b := by
  induction a with
  | nil => simp [cutAt]
  | cons c a ih =>
    rw [List.cons_append, cutAt, cutAt, ih]
    split
    · rfl
    · cases ha : cutAt d a with
      | nil => exact absurd ha (cutAt_ne_nil a)
      | cons piece pieces => rfl

/-- A text without a separator is one piece. -/
theorem cutAt_of_notMem {cs : List Char} (h : d ∉ cs) : cutAt d cs = [cs] := by
  induction cs with
  | nil => rfl
  | cons c cs ih =>
    have hc : c ≠ d := fun hcd => h (hcd ▸ List.mem_cons_self)
    rw [cutAt, if_neg hc, ih fun hd => h (List.mem_cons_of_mem _ hd)]

/-- There is no separator in what is cut out. -/
theorem notMem_of_mem_cutAt {cs piece : List Char} (h : piece ∈ cutAt d cs) : d ∉ piece := by
  induction cs generalizing piece with
  | nil =>
    rw [cutAt, List.mem_singleton] at h
    rw [h]
    exact List.not_mem_nil
  | cons c cs ih =>
    rw [cutAt] at h
    split at h
    · rcases List.mem_cons.1 h with rfl | h
      · exact List.not_mem_nil
      · exact ih h
    · rename_i hc
      cases hcut : cutAt d cs with
      | nil => exact absurd hcut (cutAt_ne_nil cs)
      | cons first pieces =>
        rw [hcut] at h ih
        rcases List.mem_cons.1 h with rfl | h
        · exact List.not_mem_cons_of_ne_of_not_mem (Ne.symm hc) (ih List.mem_cons_self)
        · exact ih (List.mem_cons_of_mem _ h)

end Cut

/-! ### Items -/

/-- The items of two texts with a separator between them are the items of both. -/
theorem items_append (a b : String) : items (a ++ "," ++ b) = items a ++ items b := by
  have hchars : (a ++ "," ++ b).toList = a.toList ++ itemSeparator :: b.toList := by
    rw [String.toList_append, String.toList_append, List.append_assoc]
    rfl
  rw [items, splitItems, hchars, cutAt_append_cons, List.map_append, List.filter_append,
    List.map_append]
  rfl

/-- A text without a separator is one item, or none if it is blank. -/
theorem items_of_notMem {s : String} (h : itemSeparator ∉ s.toList) :
    items s = ([s].map trimmed).filter (· ≠ "") := by
  rw [items, splitItems, cutAt_of_notMem h, List.map_singleton, List.map_singleton]
  by_cases hs : trim s.toList = [] <;> simp [trimmed, hs]

/-- The items of a list written as one text are its items, trimmed and without the blank ones. -/
theorem items_joinItems {l : List String} (h : ∀ s ∈ l, itemSeparator ∉ s.toList) :
    items (joinItems l) = (l.map trimmed).filter (· ≠ "") := by
  rw [joinItems]
  induction l with
  | nil => rfl
  | cons s l ih =>
    have hs := items_of_notMem (h s List.mem_cons_self)
    cases l with
    | nil => exact hs
    | cons t l =>
      have hlater := ih fun t ht => h t (List.mem_cons_of_mem _ ht)
      rw [joinWith, items_append, hs, hlater, ← List.filter_append, ← List.map_append,
        List.singleton_append]
      exact List.cons_ne_nil _ _

theorem isItem_of_mem_items {s item : String} (h : item ∈ items s) : IsItem item := by
  obtain ⟨core, hcore, rfl⟩ := List.mem_map.1 h
  obtain ⟨hmem, hblank⟩ := List.mem_filter.1 hcore
  obtain ⟨piece, hpiece, rfl⟩ := List.mem_map.1 hmem
  refine ⟨fun hempty => ?_, ?_, ?_⟩
  · rw [String.ofList_eq_empty_iff.1 hempty] at hblank
    cases hblank
  · rw [String.toList_ofList]
    exact trim_eq_self_iff.1 (trim_trim piece)
  · rw [String.toList_ofList]
    exact fun hseparator => notMem_of_mem_cutAt hpiece (trim_subset piece hseparator)

/-- Items that are joined are split into the same items. -/
theorem items_joinItems_eq_self {l : List String} (h : ∀ s ∈ l, IsItem s) : items (joinItems l) = l := by
  rw [items_joinItems fun s hs => (h s hs).apart]
  exact filter_map_trimmed_eq_self fun s hs => ⟨trimmed_eq_self_iff.2 (h s hs).tight, (h s hs).nonempty⟩

/-- Two texts with a separator between them have the items of both. No item is empty, has a blank at an
    end or a separator in it. Texts without separators, however many and blank or not, come out of
    their list trimmed and without the blank ones; so the items of a text, joined, are the items of
    that text again. To trim a text is to drop the blanks at its ends, and nothing else. -/
theorem lists_split_apart :
    (∀ a b, items (a ++ "," ++ b) = items a ++ items b) ∧
    (∀ s, ∀ item ∈ items s, IsItem item) ∧
    (∀ l : List String, (∀ s ∈ l, itemSeparator ∉ s.toList) →
      items (joinItems l) = (l.map trimmed).filter (· ≠ "")) ∧
    (∀ s, items (joinItems (items s)) = items s) ∧
    ∀ s, Trims s.toList (trimmed s).toList := by
  refine ⟨items_append, fun s item => isItem_of_mem_items, fun l => items_joinItems, fun s => ?_,
    fun s => ?_⟩
  · exact items_joinItems_eq_self fun item => isItem_of_mem_items
  · rw [trimmed, String.toList_ofList]
    exact trims_trim s.toList

/-- Blanks of several kinds around an item, in it, and in place of one. -/
theorem lists_split_apart_blank :
    let l := ["\u3000a\u00a0", "", "b \u2003c", "\u2028 \u0085", " d"]
    (∀ s ∈ l, itemSeparator ∉ s.toList) ∧ items (joinItems l) = ["a", "b \u2003c", "d"] := by
  intro l
  have apart : ∀ s ∈ l, itemSeparator ∉ s.toList := by decide +kernel
  obtain ⟨-, -, hjoined, -⟩ := lists_split_apart
  exact ⟨apart, (hjoined l apart).trans (by decide +kernel)⟩

end PluginFabric.Text
