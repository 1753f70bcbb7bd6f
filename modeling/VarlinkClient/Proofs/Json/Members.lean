/-
The members that keys and values amount to.

A key that comes again keeps its place and takes the new value.  So the members have the keys in
the order in which these come first, each with the value that comes last (`Merges`), and there is
one list of members only of which that is true (`merges_iff`).
-/
import Mathlib.Data.List.Induction
import Mathlib.Data.List.Nodup
import VarlinkClient.Json.Basic

namespace VarlinkClient.Json.Members

/-- The members that a row of keys and values amounts to: every key stands where it comes first,
and has the value that comes last. -/
structure Merges (pairs : List (Text × Value)) (members : Members) : Prop where
  keys : members.map Prod.fst = (pairs.map Prod.fst).eraseDups
  last : ∀ member ∈ members, pairs.reverse.find? (fun pair => pair.1 = member.1) = some member

/-! ### One more pair -/

variable {key : Text} {value : Value} {members : Members}

theorem put_of_notMem (value : Value) (h : key ∉ members.map Prod.fst) :
    put key value members = members ++ [(key, value)] := by
  induction members with
  | nil => rfl
  | cons member members ih =>
      obtain ⟨k, v⟩ := member
      simp only [List.map_cons, List.mem_cons, not_or] at h
      rw [put, if_neg (Ne.symm h.1), ih h.2, List.cons_append]

theorem keys_put_of_mem (value : Value) (h : key ∈ members.map Prod.fst) :
    (put key value members).map Prod.fst = members.map Prod.fst := by
  induction members with
  | nil => exact absurd h List.not_mem_nil
  | cons member members ih =>
      obtain ⟨k, v⟩ := member
      rw [put]
      by_cases hk : k = key
      · rw [if_pos hk, List.map_cons, List.map_cons, hk]
      · rw [if_neg hk, List.map_cons, List.map_cons, ih (by simpa [Ne.symm hk] using h)]

/-- When no key comes twice, the others keep their values. -/
theorem mem_put (hnodup : (members.map Prod.fst).Nodup) {member : Text × Value}
    (h : member ∈ put key value members) :
    member = (key, value) ∨ member ∈ members ∧ member.1 ≠ key := by
  induction members with
  | nil => exact Or.inl (List.mem_singleton.mp h)
  | cons first members ih =>
      obtain ⟨k, v⟩ := first
      obtain ⟨hnew, hrest⟩ := List.nodup_cons.mp hnodup
      rw [put] at h
      by_cases hk : k = key
      · subst hk
        rw [if_pos rfl] at h
        rcases List.mem_cons.mp h with h | h
        · exact Or.inl h
        · have hkey : member.1 ∈ members.map Prod.fst := List.mem_map_of_mem h
          exact Or.inr ⟨List.mem_cons_of_mem _ h, fun heq => hnew (heq ▸ hkey)⟩
      · rw [if_neg hk] at h
        rcases List.mem_cons.mp h with rfl | h
        · exact Or.inr ⟨List.mem_cons_self, hk⟩
        · rcases ih hrest h with h | ⟨h, hne⟩
          · exact Or.inl h
          · exact Or.inr ⟨List.mem_cons_of_mem _ h, hne⟩

/-! ### All pairs -/

theorem ofPairs_concat (pairs : List (Text × Value)) (pair : Text × Value) :
    ofPairs (pairs ++ [pair]) = put pair.1 pair.2 (ofPairs pairs) := by
  rw [ofPairs, List.foldl_append]
  rfl

/-- Another key stands last, unless it has come before. -/
theorem eraseDups_concat (keys : List Text) (key : Text) :
    (keys ++ [key]).eraseDups =
      if key ∈ keys then keys.eraseDups else keys.eraseDups ++ [key] := by
  rw [List.eraseDups_append]
  by_cases h : key ∈ keys
  · rw [if_pos h]
    simp [List.removeAll, h]
  · rw [if_neg h]
    simp [List.removeAll, h, List.eraseDups_cons]

theorem nodup_eraseDups (keys : List Text) : keys.eraseDups.Nodup := by
  induction keys using List.reverseRecOn with
  | nil => exact List.nodup_nil
  | append_singleton keys key ih =>
      rw [eraseDups_concat]
      split
      · exact ih
      · rename_i h
        exact List.nodup_append.mpr ⟨ih, List.nodup_singleton key, by
          rintro k hk _ hkey rfl
          rw [List.mem_singleton.mp hkey] at hk
          exact h (List.mem_eraseDups.mp hk)⟩

theorem keys_put (key : Text) (value : Value) (members : Members) :
    (put key value members).map Prod.fst =
      if key ∈ members.map Prod.fst then members.map Prod.fst
      else members.map Prod.fst ++ [key] := by
  by_cases h : key ∈ members.map Prod.fst
  · rw [if_pos h, keys_put_of_mem value h]
  · rw [if_neg h, put_of_notMem value h, List.map_append]
    rfl

theorem Merges.nodup_keys {pairs : List (Text × Value)} (h : Merges pairs members) :
    (members.map Prod.fst).Nodup :=
  h.keys ▸ nodup_eraseDups _

theorem Merges.mem_pairs {pairs : List (Text × Value)} (h : Merges pairs members)
    {member : Text × Value} (hmember : member ∈ members) : member ∈ pairs :=
  List.mem_reverse.mp (List.mem_of_find?_eq_some (h.last member hmember))

/-- One more pair gives its value to its key. -/
theorem Merges.concat {pairs : List (Text × Value)} (h : Merges pairs members)
    (pair : Text × Value) : Merges (pairs ++ [pair]) (put pair.1 pair.2 members) where
  keys := by
    rw [keys_put, h.keys, List.map_append, List.map_singleton, eraseDups_concat]
    simp only [List.mem_eraseDups]
  last := by
    intro member hmember
    rw [List.reverse_append, List.reverse_singleton, List.singleton_append]
    rcases mem_put h.nodup_keys hmember with rfl | ⟨hmember, hne⟩
    · exact List.find?_cons_of_pos (by simp)
    · rw [List.find?_cons_of_neg (by simpa using Ne.symm hne)]
      exact h.last member hmember

theorem merges_ofPairs (pairs : List (Text × Value)) : Merges pairs (ofPairs pairs) := by
  induction pairs using List.reverseRecOn with
  | nil => exact ⟨rfl, nofun⟩
  | append_singleton pairs pair ih =>
      rw [ofPairs_concat]
      exact ih.concat pair

/-- The keys tell the members, for each has the value that comes last. -/
theorem Merges.eq_map {pairs : List (Text × Value)} (h : Merges pairs members) :
    members.map some = ((pairs.map Prod.fst).eraseDups).map fun key =>
      pairs.reverse.find? fun pair => pair.1 = key := by
  rw [← h.keys, List.map_map]
  exact List.map_congr_left fun member hmember => (h.last member hmember).symm

/-- **Pairs are merged in one way.** -/
theorem merges_iff {pairs : List (Text × Value)} :
    Merges pairs members ↔ members = ofPairs pairs := by
  constructor
  · intro h
    have hsame := h.eq_map.trans (merges_ofPairs pairs).eq_map.symm
    exact List.map_injective_iff.mpr (fun _ _ => Option.some.inj) hsame
  · rintro rfl
    exact merges_ofPairs pairs

/-- Keys that differ keep their order. -/
theorem ofPairs_of_nodup {pairs : List (Text × Value)} (h : (pairs.map Prod.fst).Nodup) :
    ofPairs pairs = pairs := by
  induction pairs using List.reverseRecOn with
  | nil => rfl
  | append_singleton pairs pair ih =>
      rw [List.map_append, List.nodup_append] at h
      have hnew : pair.1 ∉ pairs.map Prod.fst := fun hmem => h.2.2 _ hmem pair.1 (by simp) rfl
      rw [ofPairs_concat, ih h.1, put_of_notMem pair.2 hnew]

end VarlinkClient.Json.Members
