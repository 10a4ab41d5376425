import PluginFabric.Uuid

/-! Identifiers read back.

    Every digit is denoted by the character that it is written as, and the hyphens are skipped where
    they were put, so an identifier is read back from its text. -/

namespace PluginFabric.Uuid

theorem digit?_digitChar (d : Fin 16) : digit? (digitChar d) = some d := by
  decide +revert

theorem ofPlain?_digits (u : Uuid) : ofPlain? (u.digits.map digitChar) = some u := by
  have hdigit : digit? ∘ digitChar = fun d => pure (id d) := funext digit?_digitChar
  have hdigits : (u.digits.map digitChar).mapM digit? = some u.digits := by
    rw [List.mapM_map, hdigit, List.mapM_pure, List.map_id, Option.pure_def]
  rw [ofPlain?, hdigits, Option.bind_eq_bind, Option.bind_some, ofDigits?, dif_pos u.length_eq]

/-- Five groups of digits with hyphens between them are read as the digits without the hyphens. -/
theorem ofHyphenated?_groups {a b c d e : List Char} (ha : a.length = 8) (hb : b.length = 4)
    (hc : c.length = 4) (hd : d.length = 4) (he : e.length = 12) :
    ofHyphenated? (a ++ '-' :: b ++ '-' :: c ++ '-' :: d ++ '-' :: e)
      = ofPlain? (a ++ b ++ c ++ d ++ e) := by
  simp [ofHyphenated?, ha, hb, hc, hd, he, List.drop_append, List.drop_of_length_le]

/-- The groups of digits, put together again. -/
theorem append_groups (cs : List Char) : cs.take 8 ++ (cs.drop 8).take 4 ++ (cs.drop 12).take 4 ++
    (cs.drop 16).take 4 ++ cs.drop 20 = cs := by
  have hnext : ∀ n, cs.take n ++ (cs.drop n).take 4 = cs.take (n + 4) := fun n => List.take_add.symm
  rw [hnext, hnext, hnext, List.take_append_drop]

/-- An identifier that was written is read back. -/
theorem ofText?_toText (u : Uuid) : ofText? u.toText = some u := by
  have hlength : (u.digits.map digitChar).length = 32 := by rw [List.length_map, u.length_eq]
  have htext : u.toText.toList.length = 36 := by simp [toText, u.length_eq]
  have hread : ofHyphenated? u.toText.toList = some u := by
    rw [toText, String.toList_ofList, ofHyphenated?_groups, append_groups, ofPlain?_digits]
    all_goals simp [hlength]
  rw [ofText?, htext, if_neg (by decide), if_neg (by simp), if_neg (by simp), hread]

end PluginFabric.Uuid
