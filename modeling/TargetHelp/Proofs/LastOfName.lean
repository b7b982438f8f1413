import TargetHelp.Program
import TargetHelp.Proofs.LastWith

/-!
# The last entry of every name

A target may be documented more than once: in one makefile, in several, or in
one that is listed twice. Only the last of its entries is kept.

The program keeps them in a map from names to entries and puts one entry after
the other into it. The invariant is that the map holds, for every name, the last
entry of that name so far (`getElem?_byName`). So its values are exactly the
last entries of all names, each name once (`isMergeOf_latest`).
-/

namespace TargetHelp

/-! ## Which entry is the last -/

/-- An entry is among these, and none of its name stands below it. -/
def LastOfName (entries : List Entry) (e : Entry) : Prop :=
  ∃ above below, entries = above ++ e :: below ∧ ∀ e' ∈ below, e'.name ≠ e.name

theorem lastOfName_iff {entries : List Entry} {e : Entry} :
    LastOfName entries e ↔ IsLastWith (fun e' => e'.name = e.name) entries e :=
  (and_iff_right rfl).symm

theorem not_lastOfName_nil (e : Entry) : ¬ LastOfName [] e :=
  fun h => not_isLastWith_nil (lastOfName_iff.mp h)

/-- With one more entry at the end, that one is the last of its name, and for
the other names nothing changes. -/
theorem lastOfName_concat {entries : List Entry} {last e : Entry} :
    LastOfName (entries ++ [last]) e ↔ e = last ∨ last.name ≠ e.name ∧ LastOfName entries e := by
  rw [lastOfName_iff, lastOfName_iff, isLastWith_concat]
  refine or_congr_left (and_iff_left_of_imp ?_)
  rintro rfl
  rfl

/-- What is the last of its name is there. -/
theorem LastOfName.mem {entries : List Entry} {e : Entry} (h : LastOfName entries e) :
    e ∈ entries :=
  (lastOfName_iff.mp h).mem

/-- Every name that occurs has a last entry. -/
theorem exists_lastOfName {entries : List Entry} {name : Text}
    (h : name ∈ entries.map Entry.name) : ∃ e, e.name = name ∧ LastOfName entries e := by
  obtain ⟨e, he, hname⟩ := List.mem_map.mp h
  obtain ⟨last, hlast⟩ := exists_isLastWith (p := fun e => e.name = name) ⟨e, he, hname⟩
  obtain rfl := hlast.1
  exact ⟨last, rfl, lastOfName_iff.mpr hlast⟩

/-- A merge of entries by name: the last entry of every name that occurs, the
names in ascending order and so each only once. -/
structure IsMergeOf (merged entries : List Entry) : Prop where
  /-- the names ascend -/
  ascending : merged.Pairwise fun a b => compare a.name b.name = .lt
  /-- exactly the last entries are kept -/
  mem_iff : ∀ e, e ∈ merged ↔ LastOfName entries e

/-! ## How the program finds it -/

namespace Entry

/-- The map from names to entries that the program fills. -/
def byName (entries : List Entry) : Std.TreeMap Text Entry :=
  entries.foldl (fun byName e => byName.insert e.name e) ∅

theorem byName_concat (entries : List Entry) (last : Entry) :
    byName (entries ++ [last]) = (byName entries).insert last.name last := by
  rw [byName, List.foldl_append]
  rfl

/-- The map holds the last entry of every name so far. -/
theorem getElem?_byName {entries : List Entry} {name : Text} {e : Entry} :
    (byName entries)[name]? = some e ↔ e.name = name ∧ LastOfName entries e := by
  induction entries using List.reverseRecOn with
  | nil => simp [byName, not_lastOfName_nil]
  | append_singleton entries last ih =>
    rw [byName_concat, Std.TreeMap.getElem?_insert, lastOfName_concat]
    -- the new entry takes the place of what the map held for its name, and of nothing else
    by_cases hname : last.name = name
    · subst hname
      rw [if_pos Std.ReflCmp.compare_self, Option.some.injEq]
      constructor
      · rintro rfl
        exact ⟨rfl, .inl rfl⟩
      · rintro ⟨he, rfl | ⟨hne, -⟩⟩
        · rfl
        · exact absurd he.symm hne
    · rw [if_neg (fun h => hname (Std.LawfulEqCmp.eq_of_compare h)), ih]
      constructor
      · rintro ⟨rfl, he⟩
        exact ⟨rfl, .inr ⟨hname, he⟩⟩
      · rintro ⟨rfl, rfl | ⟨-, he⟩⟩
        · exact absurd rfl hname
        · exact ⟨rfl, he⟩

/-- The last entries are what the map holds. -/
theorem latest_eq (entries : List Entry) : latest entries = (byName entries).toList.map (·.2) := by
  have hvalues : latest entries = (byName entries).foldr (fun _ e es => e :: es) [] := rfl
  rw [hvalues, Std.TreeMap.foldr_eq_foldr_toList]
  exact List.map_eq_foldr.symm

/-- **The last entry of every name is kept, and nothing else.** -/
theorem isMergeOf_latest (entries : List Entry) : IsMergeOf (latest entries) entries := by
  have hkey : ∀ p ∈ (byName entries).toList, p.2.name = p.1 := fun p hp =>
    (getElem?_byName.mp (Std.TreeMap.mem_toList_iff_getElem?_eq_some.mp hp)).1
  constructor
  · rw [latest_eq, List.pairwise_map]
    refine Std.TreeMap.ordered_keys_toList.imp_of_mem ?_
    intro p q hp hq hlt
    rwa [hkey p hp, hkey q hq]
  · intro e
    rw [latest_eq, List.mem_map]
    constructor
    · rintro ⟨p, hp, rfl⟩
      exact (getElem?_byName.mp (Std.TreeMap.mem_toList_iff_getElem?_eq_some.mp hp)).2
    · intro he
      have hget : (byName entries)[e.name]? = some e := getElem?_byName.mpr ⟨rfl, he⟩
      exact ⟨(e.name, e), Std.TreeMap.mem_toList_iff_getElem?_eq_some.mpr hget, rfl⟩

end Entry

end TargetHelp
