import Mathlib.Data.List.Dedup
import Mathlib.Data.List.Perm.Basic
import Std.Data.TreeSet
import TargetHelp.Listing

/-!
# Entries under their categories

Entries are put under their categories as they come. This is the same as picking
the entries of one category after the other (`sections_eq`), since at every
moment each category that occurred has its entries in the order in which they
came (`Collected`). So grouping only moves entries around: every entry stands in
exactly one section, as often as it was there before (`sections_perm`). A
section has one row for each of its entries, so in the whole listing a name has
as many rows as there are entries of that name (`countP_rows_sections`).

Where the entries are moved to is said by `Arranged`, which leaves no choice:
there is a section for every category, in ascending order, and the entries of
each are ordered by name, those of one name as they came.
-/

namespace TargetHelp

/-! ## Lists that ascend -/

/-- Lists that ascend strictly are the same as soon as they have the same
elements. -/
theorem eq_of_ascending {α : Type*} (key : α → Text) {l l' : List α}
    (h : l.Pairwise fun a b => compare (key a) (key b) = .lt)
    (h' : l'.Pairwise fun a b => compare (key a) (key b) = .lt)
    (hmem : ∀ a, a ∈ l ↔ a ∈ l') : l = l' := by
  have hnodup : ∀ {m : List α}, m.Pairwise (fun a b => compare (key a) (key b) = .lt) →
      m.Nodup := by
    refine fun hm => hm.imp ?_
    rintro a _ hlt rfl
    rw [Std.ReflOrd.compare_self] at hlt
    cases hlt
  refine List.Perm.eq_of_pairwise (fun a b _ _ hlt hgt => ?_) h h'
    ((List.perm_ext_iff_of_nodup (hnodup h) (hnodup h')).mpr hmem)
  rw [Std.OrientedOrd.eq_swap, hlt] at hgt
  cases hgt

/-! ## Sections -/

namespace Entry

/-- The categories of these entries, each once, in ascending order. -/
def categories (entries : List Entry) : List Text :=
  (Std.TreeSet.ofList (entries.map (·.category))).toList

/-- The entries of one category, ordered by name. -/
def sectionOf (entries : List Entry) (category : Text) : Section :=
  ⟨category, (entries.filter (·.category = category)).mergeSort nameLE⟩

theorem mem_categories {entries : List Entry} {category : Text} :
    category ∈ categories entries ↔ ∃ e ∈ entries, e.category = category := by
  rw [categories, Std.TreeSet.mem_toList, Std.TreeSet.mem_ofList, List.contains_iff_mem,
    List.mem_map]

/-- No category stands twice. -/
theorem nodup_categories (entries : List Entry) : (categories entries).Nodup := by
  refine Std.TreeSet.distinct_toList.imp ?_
  rintro a _ hne rfl
  exact hne Std.ReflCmp.compare_self

theorem categories_ascending (entries : List Entry) :
    (categories entries).Pairwise fun c c' => compare c c' = .lt := Std.TreeSet.ordered_toList

/-- Every category that occurs among these entries has them, as they came. -/
def Collected (m : Std.TreeMap Text (List Entry)) (entries : List Entry) : Prop :=
  ∀ c, m[c]? = if entries.filter (·.category = c) = [] then none
    else some (entries.filter (·.category = c))

/-- An entry more is put behind the entries of its category. -/
theorem Collected.collect {m : Std.TreeMap Text (List Entry)} {entries : List Entry}
    (h : Collected m entries) (e : Entry) : Collected (collect m e) (entries ++ [e]) := by
  intro c
  rw [Entry.collect, Std.TreeMap.getElem?_alter, List.filter_append]
  by_cases hc : e.category = c
  · have hlast : [e].filter (·.category = c) = [e] :=
      List.filter_cons_of_pos (by rw [decide_eq_true_eq, hc])
    rw [hlast, if_pos (by rw [hc, Std.ReflOrd.compare_self]), hc, h c,
      if_neg (List.append_ne_nil_of_right_ne_nil _ (List.cons_ne_nil e []))]
    split
    · next hnil => rw [hnil]; rfl
    · rfl
  · have hlast : [e].filter (·.category = c) = [] :=
      List.filter_cons_of_neg (by rwa [decide_eq_true_eq])
    rw [hlast, if_neg fun heq => hc (Std.LawfulEqOrd.eq_of_compare heq), h c, List.append_nil]

/-- So is every entry that is still to come. -/
theorem collected_foldl {m : Std.TreeMap Text (List Entry)} {entries : List Entry}
    (h : Collected m entries) (more : List Entry) :
    Collected (more.foldl Entry.collect m) (entries ++ more) := by
  induction more generalizing m entries with
  | nil => rwa [List.append_nil]
  | cons e more ih =>
    have hrest := ih (h.collect e)
    rw [List.append_assoc] at hrest
    exact hrest

theorem collected_empty : Collected ∅ [] := fun _ => Std.TreeMap.getElem?_emptyc

/-- In the order of the categories, these are the entries of each. -/
theorem Collected.toList_eq {m : Std.TreeMap Text (List Entry)} {entries : List Entry}
    (h : Collected m entries) :
    m.toList = (categories entries).map fun c => (c, entries.filter (·.category = c)) := by
  have hmem : ∀ c es, (c, es) ∈ m.toList ↔
      c ∈ categories entries ∧ entries.filter (·.category = c) = es := by
    intro c es
    rw [Std.TreeMap.mem_toList_iff_getElem?_eq_some, h c, mem_categories]
    split
    · next hnil =>
      refine iff_of_false (Option.some_ne_none es).symm ?_
      rintro ⟨⟨e, he, rfl⟩, -⟩
      exact List.filter_eq_nil_iff.mp hnil e he (decide_eq_true rfl)
    · next hne =>
      obtain ⟨e, he⟩ := List.exists_mem_of_ne_nil _ hne
      obtain ⟨hmem, hcategory⟩ := List.mem_filter.mp he
      rw [Option.some.injEq]
      exact (and_iff_right ⟨e, hmem, of_decide_eq_true hcategory⟩).symm
  refine eq_of_ascending Prod.fst Std.TreeMap.ordered_keys_toList
    (List.pairwise_map.mpr (categories_ascending entries)) ?_
  rintro ⟨c, es⟩
  rw [hmem, List.mem_map]
  constructor
  · rintro ⟨hc, rfl⟩
    exact ⟨c, hc, rfl⟩
  · rintro ⟨c, hc, heq⟩
    obtain ⟨rfl, rfl⟩ := Prod.mk.inj heq
    exact ⟨hc, rfl⟩

/-- Putting every entry under its category as it comes is picking the entries of
one category after the other. -/
theorem sections_eq (entries : List Entry) :
    sections entries = (categories entries).map (sectionOf entries) := by
  rw [sections, (collected_foldl collected_empty entries).toList_eq, List.map_map]
  rfl

/-- Picking the entries of one category after the other picks all entries of
these categories. -/
theorem flatMap_filter_perm (entries : List Entry) {categories : List Text}
    (hnodup : categories.Nodup) :
    (categories.flatMap fun c => entries.filter (·.category = c)).Perm
      (entries.filter (·.category ∈ categories)) := by
  induction categories with
  | nil => simp
  | cons c cs ih =>
    obtain ⟨hc, hcs⟩ := List.nodup_cons.mp hnodup
    have hhead : (entries.filter (·.category ∈ c :: cs)).filter (·.category = c) =
        entries.filter (·.category = c) := by
      rw [List.filter_filter]
      refine List.filter_congr fun e _ => ?_
      by_cases he : e.category = c <;> simp [he]
    have htail : (entries.filter (·.category ∈ c :: cs)).filter
        (fun e => !decide (e.category = c)) = entries.filter (·.category ∈ cs) := by
      rw [List.filter_filter]
      refine List.filter_congr fun e _ => ?_
      by_cases he : e.category = c <;> simp [he, hc]
    -- these two are what the wanted entries are cut into by the question for `c`
    rw [List.flatMap_cons]
    refine ((ih hcs).append_left _).trans ?_
    rw [← hhead, ← htail]
    exact List.filter_append_perm _ _

/-- Grouping loses no entry and makes up none. -/
theorem sections_perm (entries : List Entry) :
    ((sections entries).flatMap (·.entries)).Perm entries := by
  have hall : entries.filter (·.category ∈ categories entries) = entries :=
    List.filter_eq_self.mpr fun e he => decide_eq_true (mem_categories.mpr ⟨e, he, rfl⟩)
  have hpick := flatMap_filter_perm entries (nodup_categories entries)
  rw [hall] at hpick
  rw [sections_eq, List.flatMap_map]
  refine List.Perm.trans ?_ hpick
  exact List.Perm.flatMap_left _ fun c _ => List.mergeSort_perm _ nameLE

theorem mem_of_mem_sections {entries : List Entry} {s : Section} (hs : s ∈ sections entries)
    {e : Entry} (he : e ∈ s.entries) : e ∈ entries :=
  (sections_perm entries).subset (List.mem_flatMap.mpr ⟨s, hs, he⟩)

/-- The category of a section is that of some entry. -/
theorem exists_category_eq {entries : List Entry} {s : Section} (hs : s ∈ sections entries) :
    ∃ e ∈ entries, e.category = s.category := by
  rw [sections_eq] at hs
  obtain ⟨c, hc, rfl⟩ := List.mem_map.mp hs
  exact mem_categories.mp hc

/-- There are as many sections as different categories. -/
theorem length_sections (entries : List Entry) :
    (sections entries).length = (entries.map (·.category)).dedup.length := by
  have hperm : (categories entries).Perm (entries.map (·.category)).dedup := by
    rw [List.perm_ext_iff_of_nodup (nodup_categories entries) (List.nodup_dedup _)]
    intro c
    rw [mem_categories, List.mem_dedup, List.mem_map]
  rw [sections_eq, List.length_map, hperm.length_eq]

/-- A single entry makes a section of its own. -/
theorem sections_singleton (e : Entry) : sections [e] = [⟨e.category, [e]⟩] := by
  have hcategories : categories [e] = [e.category] := by
    rw [← List.perm_singleton,
      List.perm_ext_iff_of_nodup (nodup_categories [e]) (List.nodup_singleton _)]
    intro c
    rw [mem_categories, List.mem_singleton]
    simp [eq_comm]
  have hfilter : [e].filter (·.category = e.category) = [e] :=
    List.filter_cons_of_pos (decide_eq_true rfl)
  rw [sections_eq, hcategories, List.map_singleton, sectionOf, hfilter, List.mergeSort_singleton]

theorem nameLE_trans (a b c : Entry) (hab : nameLE a b = true) (hbc : nameLE b c = true) :
    nameLE a c = true := Std.TransCmp.isLE_trans hab hbc

theorem nameLE_total (a b : Entry) : (nameLE a b || nameLE b a) = true := by
  have hswap : compare b.name a.name = (compare a.name b.name).swap := Std.OrientedCmp.eq_swap
  rw [nameLE, nameLE, hswap]
  cases compare a.name b.name <;> rfl

/-- Sorting by name leaves entries of one name in their order. -/
theorem filter_mergeSort (entries : List Entry) (name : Text) :
    (entries.mergeSort nameLE).filter (·.name = name) = entries.filter (·.name = name) := by
  have hequal : (entries.filter (·.name = name)).Pairwise fun a b => nameLE a b = true := by
    refine List.pairwise_of_forall_mem_list fun a ha b hb => ?_
    have hname : a.name = b.name := (of_decide_eq_true (List.mem_filter.mp ha).2).trans
      (of_decide_eq_true (List.mem_filter.mp hb).2).symm
    have hself : compare b.name b.name = .eq := Std.ReflCmp.compare_self
    rw [nameLE, hname, hself]
    rfl
  have hsublist := (List.sublist_mergeSort nameLE_trans nameLE_total hequal
    List.filter_sublist).filter (·.name = name)
  rw [List.filter_filter] at hsublist
  simp only [Bool.and_self] at hsublist
  exact (hsublist.eq_of_length
    ((List.mergeSort_perm entries nameLE).filter _).length_eq.symm).symm

/-- These sections hold these entries, in order. -/
structure Arranged (entries : List Entry) (ss : List Section) : Prop where
  /-- there is a section for every category, and for no other -/
  category : ∀ c, (∃ s ∈ ss, s.category = c) ↔ ∃ e ∈ entries, e.category = c
  /-- the categories ascend -/
  ascending : ss.Pairwise fun s s' => compare s.category s'.category = .lt
  /-- in a section, the names ascend -/
  sorted : ∀ s ∈ ss, s.entries.Pairwise fun e e' => (compare e.name e'.name).isLE
  /-- the entries of a category and a name are in its section, as they came -/
  stable : ∀ s ∈ ss, ∀ name, s.entries.filter (·.name = name) =
    entries.filter fun e => e.category = s.category ∧ e.name = name

theorem arranged_sections (entries : List Entry) : Arranged entries (sections entries) where
  category := by
    intro c
    rw [← mem_categories]
    simp [sections_eq, sectionOf]
  ascending := by
    rw [sections_eq, List.pairwise_map]
    have hordered : (categories entries).Pairwise fun c c' => compare c c' = .lt :=
      Std.TreeSet.ordered_toList
    exact hordered
  sorted := by
    intro s hs
    rw [sections_eq] at hs
    obtain ⟨c, -, rfl⟩ := List.mem_map.mp hs
    exact List.pairwise_mergeSort nameLE_trans nameLE_total _
  stable := by
    intro s hs name
    rw [sections_eq] at hs
    obtain ⟨c, -, rfl⟩ := List.mem_map.mp hs
    rw [sectionOf, filter_mergeSort, List.filter_filter]
    refine List.filter_congr fun e _ => ?_
    rw [Bool.and_comm, Bool.decide_and]

/-- No section is empty. -/
theorem Arranged.entries_ne_nil {entries : List Entry} {ss : List Section}
    (h : Arranged entries ss) {s : Section} (hs : s ∈ ss) : s.entries ≠ [] := by
  obtain ⟨e, he, hcategory⟩ := (h.category s.category).mp ⟨s, hs, rfl⟩
  have hmem : e ∈ s.entries.filter (·.name = e.name) := by
    rw [h.stable s hs]
    exact List.mem_filter.mpr ⟨he, decide_eq_true ⟨hcategory, rfl⟩⟩
  exact List.ne_nil_of_mem (List.mem_of_mem_filter hmem)

end Entry

/-! ## Rows -/

/-- A row of the listing is a row of this name. -/
def Row.IsOf (name : Text) (row : Row) : Prop := ⟨.green, name⟩ ∈ row

instance (name : Text) (row : Row) : Decidable (row.IsOf name) :=
  inferInstanceAs (Decidable (_ ∈ _))

namespace Section

theorem isOf_cells {vars : Variables} {e : Entry} {name : Text} :
    Row.IsOf name (e.cells vars) ↔ e.name = name := by
  simp [Row.IsOf, Entry.cells, eq_comm]

/-- A category in front of a row changes nothing about its name. -/
theorem isOf_blue_cons {category name : Text} {row : Row} :
    Row.IsOf name (⟨.blue, category⟩ :: row) ↔ row.IsOf name := by
  simp [Row.IsOf]

/-- In a section, a name has as many rows as entries. -/
theorem countP_rows (vars : Variables) (s : Section) (name : Text) :
    (s.rows vars).countP (·.IsOf name) = s.entries.countP (·.name = name) := by
  obtain ⟨category, entries⟩ := s
  cases entries with
  | nil => simp [rows, Row.IsOf]
  | cons first rest =>
    have hempty : ¬ Row.IsOf name [] := List.not_mem_nil
    simp [rows, List.countP_cons, List.countP_append, List.countP_map, Function.comp_def,
      isOf_blue_cons, isOf_cells, hempty]

end Section

/-- In the whole listing, a name has as many rows as entries. -/
theorem Listing.countP_rows_sections (vars : Variables) (entries : List Entry) (name : Text) :
    (Listing.rows vars (Entry.sections entries)).countP (·.IsOf name) =
      entries.countP (·.name = name) := by
  have hsections : ∀ ss : List Section, (Listing.rows vars ss).countP (·.IsOf name) =
      (ss.flatMap (·.entries)).countP (·.name = name) := by
    intro ss
    induction ss with
    | nil => rfl
    | cons s ss ih =>
      rw [Listing.rows, List.flatMap_cons, List.countP_append, Section.countP_rows,
        List.flatMap_cons, List.countP_append, ← ih, Listing.rows]
  rw [hsections, (Entry.sections_perm entries).countP_eq]

end TargetHelp
