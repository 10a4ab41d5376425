import Mathlib.Data.List.Induction
import PluginFabric.Handoff

/-! One reader of values that are kept for a while.

    Of all values published since a reader began the last `B` are kept. The reader takes them in turn;
    when its turn is no longer kept, it skips to the oldest that is. So it takes values in ascending
    order (`Sound`), and a value is lost to it exactly if `B` more were published before it was taken
    (`lost_iff`). -/

namespace PluginFabric

/-- What concerns one reader. -/
inductive Act (α : Type) where
  | published (a : α)
  /-- It skips to the oldest value kept if it has to, and otherwise takes a value if there is one. -/
  | attempting
  /-- It skips if it has to, and takes a value if there is one. -/
  | receiving

/-- The value that is published, if one is. -/
def Act.value? {α : Type} : Act α → Option α
  | published a => some a
  | _ => none

/-- A reader: all values since it began, how many of them are behind it, and which of them it took. -/
structure Reader (α : Type) where
  published : List α := []
  position : Nat := 0
  taken : List Nat := []

namespace Reader

variable {α : Type}

section Acts

variable (B : Nat) (s : Reader α)

/-- The position of the oldest value kept. -/
def oldest : Nat := s.published.length - B

def skip : Reader α := { s with position := max s.position (s.oldest B) }

def take : Reader α :=
  if s.position < s.published.length then
    { s with position := s.position + 1, taken := s.taken ++ [s.position] }
  else s

def act : Act α → Reader α
  | .published a => { s with published := s.published ++ [a] }
  | .attempting => if s.position < s.oldest B then s.skip B else s.take
  | .receiving => (s.skip B).take

/-- The reader after these acts. -/
def ofActs (acts : List (Act α)) : Reader α := acts.foldl (act B) {}

/-- The value after the last one taken. -/
def due : Nat := (s.taken.getLast?.map (· + 1)).getD 0

/-- The values taken. -/
def values : List (Option α) := s.taken.map (s.published[·]?)

/-- What holds of a reader after any acts: it takes values in order and none twice, and it stands where
    the next value is due, or was made to skip. -/
structure Sound : Prop where
  ascending : s.taken.Pairwise (· < ·)
  behind : ∀ j ∈ s.taken, j < s.position
  bounded : s.position ≤ s.published.length
  stands : s.position = s.due ∨ s.position + B ≤ s.published.length

end Acts

variable {B : Nat} {s : Reader α} {j : Nat}

theorem ofActs_concat (acts : List (Act α)) (x : Act α) :
    ofActs B (acts ++ [x]) = (ofActs B acts).act B x := by
  rw [ofActs, List.foldl_append]
  rfl

/-! ### One act -/

@[simp] theorem published_skip : (s.skip B).published = s.published := rfl

@[simp] theorem taken_skip : (s.skip B).taken = s.taken := rfl

@[simp] theorem published_take : s.take.published = s.published := by
  rw [take]
  split <;> rfl

theorem skip_of_le (h : s.oldest B ≤ s.position) : s.skip B = s := by
  rw [skip, Nat.max_eq_left h]

theorem take_of_lt (h : s.position < s.published.length) :
    s.take = { s with position := s.position + 1, taken := s.taken ++ [s.position] } := if_pos h

theorem take_of_le (h : s.published.length ≤ s.position) : s.take = s := if_neg (by omega)

/-- An act publishes a value, makes the reader skip, or makes it skip if it has to and take a value. -/
theorem act_cases (x : Act α) :
    (∃ a, x = .published a) ∨ s.act B x = s.skip B ∨ s.act B x = (s.skip B).take := by
  cases x with
  | published a => exact .inl ⟨a, rfl⟩
  | attempting =>
    right
    by_cases h : s.position < s.oldest B
    · exact .inl (if_pos h)
    · right
      rw [act, if_neg h, skip_of_le (by omega)]
  | receiving => exact .inr (.inr rfl)

theorem published_act (x : Act α) : (s.act B x).published = s.published ++ x.value?.toList := by
  cases x with
  | published a => rfl
  | attempting =>
    rw [act]
    split <;> simp [Act.value?]
  | receiving => simp [act, Act.value?]

theorem published_ofActs (acts : List (Act α)) :
    (ofActs B acts).published = acts.filterMap Act.value? := by
  induction acts using List.reverseRecOn with
  | nil => rfl
  | append_singleton acts x ih =>
    rw [ofActs_concat, published_act, ih, List.filterMap_append]
    cases hx : x.value? <;> simp [hx]

theorem due_concat (t : Reader α) (h : t.taken = s.taken ++ [j]) : t.due = j + 1 := by
  simp [due, h]

theorem Sound.due_le (h : s.Sound B) : s.due ≤ s.position := by
  rw [due]
  cases hlast : s.taken.getLast? with
  | none => exact Nat.zero_le _
  | some j => exact h.behind j (List.mem_of_getLast? hlast)

theorem Sound.publish (h : s.Sound B) (a : α) : (s.act B (.published a)).Sound B := by
  refine ⟨h.ascending, h.behind, ?_, ?_⟩
  · simpa [act] using Nat.le_succ_of_le h.bounded
  · refine h.stands.imp id fun hle => ?_
    simpa [act] using Nat.le_succ_of_le hle

theorem Sound.skip (h : s.Sound B) : (s.skip B).Sound B := by
  have hle := h.bounded
  rcases Nat.lt_or_ge s.position (s.oldest B) with hlt | hge
  · have hmax : (s.skip B).position = s.oldest B := Nat.max_eq_right (Nat.le_of_lt hlt)
    rw [oldest] at hlt hmax
    refine ⟨h.ascending, fun j hj => ?_, ?_, .inr ?_⟩
    · have := h.behind j hj
      omega
    · rw [hmax]
      exact Nat.sub_le ..
    · rw [hmax, published_skip]
      omega
  · rwa [skip_of_le hge]

theorem Sound.take (h : s.Sound B) : s.take.Sound B := by
  rcases Nat.lt_or_ge s.position s.published.length with hlt | hge
  · rw [take_of_lt hlt]
    refine ⟨?_, fun j hj => ?_, hlt, .inl (due_concat _ rfl).symm⟩
    · refine List.pairwise_append.2 ⟨h.ascending, List.pairwise_singleton _ _, fun i hi j hj => ?_⟩
      rw [List.mem_singleton.1 hj]
      exact h.behind i hi
    · rcases List.mem_append.1 hj with hj | hj
      · exact Nat.lt_succ_of_lt (h.behind j hj)
      · rw [List.mem_singleton.1 hj]
        exact Nat.lt_succ_self _
  · rwa [take_of_le hge]

theorem Sound.act (h : s.Sound B) (x : Act α) : (s.act B x).Sound B := by
  rcases act_cases (s := s) (B := B) x with ⟨a, rfl⟩ | hx | hx
  · exact h.publish a
  · rw [hx]
    exact h.skip
  · rw [hx]
    exact h.skip.take

theorem sound_ofActs (acts : List (Act α)) : (ofActs B acts).Sound B := by
  induction acts using List.reverseRecOn with
  | nil => exact ⟨.nil, fun j hj => (by cases hj), Nat.le_refl _, .inl rfl⟩
  | append_singleton acts x ih =>
    rw [ofActs_concat]
    exact ih.act x

/-! ### What is taken -/

/-- Where a reader that is made to receive takes its value: at the oldest value kept if the one due is
    no longer kept, and else at the one due. -/
theorem Sound.position_skip (h : s.Sound B) : (s.skip B).position = max s.due (s.oldest B) := by
  have hdue := h.due_le
  have hstands := h.stands
  rw [Reader.skip, oldest]
  dsimp only
  omega

theorem mem_taken_take (h : s.position < s.published.length) :
    j ∈ s.take.taken ↔ j ∈ s.taken ∨ j = s.position := by
  rw [take_of_lt h, List.mem_append, List.mem_singleton]

/-- What was published before stays where it is. -/
theorem values_act (h : s.Sound B) (a : α) : (s.act B (.published a)).values = s.values := by
  refine List.map_congr_left fun j hj => ?_
  exact List.getElem?_append_left (Nat.lt_of_lt_of_le (h.behind j hj) h.bounded)

theorem values_take (h : s.position < s.published.length) :
    s.take.values = s.values ++ [s.published[s.position]?] := by
  simp [values, take_of_lt h]

/-! ### What is lost -/

/-- That a value is neither taken nor kept stays so. -/
theorem passed_act (h : j ∉ s.taken) (hB : j + B < s.published.length) (x : Act α) :
    j ∉ (s.act B x).taken ∧ j + B < (s.act B x).published.length := by
  have hskip : j < (s.skip B).position := by
    rw [skip, oldest]
    dsimp only
    omega
  rcases act_cases (s := s) (B := B) x with ⟨a, rfl⟩ | hx | hx
  · refine ⟨h, ?_⟩
    rw [act, List.length_append]
    omega
  · rw [hx]
    exact ⟨h, hB⟩
  · rw [hx, published_take]
    refine ⟨fun hj => ?_, hB⟩
    rcases Nat.lt_or_ge (s.skip B).position (s.skip B).published.length with hlt | hge
    · rcases (mem_taken_take hlt).1 hj with hj | hj
      · exact h hj
      · omega
    · rw [take_of_le hge] at hj
      exact h hj

theorem passed_acts (h : j ∉ s.taken) (hB : j + B < s.published.length) (acts : List (Act α)) :
    j ∉ (acts.foldl (act B) s).taken := by
  induction acts generalizing s with
  | nil => exact h
  | cons x acts ih =>
    obtain ⟨h', hB'⟩ := passed_act h hB x
    exact ih h' hB'

/-- A value that is put behind a reader and not taken was not kept. -/
theorem behind_act (x : Act α) (hbehind : j < (s.act B x).position) (h : j ∉ (s.act B x).taken) :
    j < s.position ∧ j ∉ s.taken ∨ s.position ≤ j ∧ j + B < s.published.length := by
  have hskip : j < (s.skip B).position → j < s.position ∨ j + B < s.published.length := by
    rw [skip, oldest]
    dsimp only
    omega
  rcases act_cases (s := s) (B := B) x with ⟨a, rfl⟩ | hx | hx
  · exact .inl ⟨hbehind, h⟩
  · rw [hx] at hbehind h
    have := hskip hbehind
    rw [taken_skip] at h
    by_cases hj : j < s.position
    · exact .inl ⟨hj, h⟩
    · exact .inr (by omega)
  · rw [hx] at hbehind h
    have hskipped : j < (s.skip B).position ∧ j ∉ s.taken := by
      rcases Nat.lt_or_ge (s.skip B).position (s.skip B).published.length with hlt | hge
      · rw [mem_taken_take hlt, taken_skip, not_or] at h
        rw [take_of_lt hlt] at hbehind
        have hsucc : j < (s.skip B).position + 1 := hbehind
        exact ⟨by omega, h.1⟩
      · rw [take_of_le hge] at hbehind h
        exact ⟨hbehind, h⟩
    have := hskip hskipped.1
    by_cases hj : j < s.position
    · exact .inl ⟨hj, hskipped.2⟩
    · exact .inr (by omega)

/-- At some point before `acts` were over, the value was not taken yet and `B` more were published. -/
def Overtaken (B : Nat) (acts : List (Act α)) (j : Nat) : Prop :=
  ∃ earlier, earlier <+: acts ∧ j ∉ (ofActs B earlier).taken ∧
    j + B < (ofActs B earlier).published.length

theorem Overtaken.append {acts : List (Act α)} (h : Overtaken B acts j) (more : List (Act α)) :
    Overtaken B (acts ++ more) j := by
  obtain ⟨earlier, hbegins, hj⟩ := h
  exact ⟨earlier, hbegins.trans (List.prefix_append ..), hj⟩

theorem overtaken_of_behind (acts : List (Act α)) (hbehind : j < (ofActs B acts).position)
    (h : j ∉ (ofActs B acts).taken) : Overtaken B acts j := by
  induction acts using List.reverseRecOn with
  | nil => exact absurd hbehind (Nat.not_lt_zero j)
  | append_singleton acts x ih =>
    rw [ofActs_concat] at hbehind h
    rcases behind_act x hbehind h with ⟨hbehind', h'⟩ | ⟨hle, hB⟩
    · exact (ih hbehind' h').append [x]
    · refine Overtaken.append ⟨acts, List.prefix_rfl, fun hj => ?_, hB⟩ [x]
      exact absurd ((sound_ofActs acts).behind j hj) (by omega)

/-- A value that is still kept and not behind a reader is taken if the reader goes on. -/
theorem exists_taken (hle : s.position ≤ j) (hlt : j < s.published.length)
    (hkept : s.published.length ≤ j + B) :
    ∃ more : List (Act α), j ∈ (more.foldl (act B) s).taken := by
  obtain ⟨n, hn⟩ : ∃ n, n = j - s.position := ⟨_, rfl⟩
  induction n using Nat.strongRecOn generalizing s with
  | ind n ih =>
    have hskip : (s.skip B).position ≤ j := by
      rw [skip, oldest]
      dsimp only
      omega
    have hpos : s.position ≤ (s.skip B).position := Nat.le_max_left ..
    have hnow : (s.skip B).position < (s.skip B).published.length := by
      rw [published_skip]
      omega
    rcases Nat.eq_or_lt_of_le hskip with heq | hlater
    · exact ⟨[.receiving], (mem_taken_take hnow).2 (.inr heq.symm)⟩
    · have hafter : (s.act B .receiving).position = (s.skip B).position + 1 := by
        rw [act, take_of_lt hnow]
      have hsame : (s.act B .receiving).published = s.published := by
        rw [act, published_take, published_skip]
      obtain ⟨more, hmore⟩ := ih (j - (s.act B .receiving).position) (by omega) (by omega)
        (by rwa [hsame]) (by rwa [hsame]) rfl
      exact ⟨.receiving :: more, hmore⟩

/-- A value is never taken, whatever comes, exactly if it was overtaken. -/
theorem lost_iff (acts : List (Act α)) (hj : j < (ofActs B acts).published.length) :
    (∀ more, j ∉ (ofActs B (acts ++ more)).taken) ↔ Overtaken B acts j := by
  have hsplit : ∀ l m : List (Act α), ofActs B (l ++ m) = m.foldl (act B) (ofActs B l) :=
    fun l m => List.foldl_append
  constructor
  · intro lost
    have hnow : j ∉ (ofActs B acts).taken := by simpa using lost []
    by_cases hbehind : j < (ofActs B acts).position
    · exact overtaken_of_behind acts hbehind hnow
    · by_cases hkept : (ofActs B acts).published.length ≤ j + B
      · obtain ⟨more, hmore⟩ := exists_taken (by omega) hj hkept
        rw [← hsplit] at hmore
        exact absurd hmore (lost more)
      · exact ⟨acts, List.prefix_rfl, hnow, by omega⟩
  · rintro ⟨earlier, ⟨rest, rfl⟩, hnot, hB⟩ more
    rw [List.append_assoc, hsplit]
    exact passed_acts hnot hB _

end Reader

end PluginFabric
