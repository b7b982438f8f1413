import TargetHelp.Proofs.ByteOrder
import TargetHelp.Proofs.Grouping

/-!
# Grouping is a stable sort

Read one after the other, the sections are the stable sort of the entries
(`Entry.isStableSort_listed`): the entries are ordered by the bytes of their
category and, in a category, by those of their name, and entries of one category
and one name stay as they came. There is only one such order
(`Entry.IsStableSort.unique`), since lists that are ordered by a key are the same
as soon as they have the same elements of each key (`eq_of_filter_key_eq`).

The sections hold nothing else: they are the same for lists that have the same
entries of each category and name (`Entry.sections_congr`), and so grouping what
was grouped changes nothing.
-/

namespace TargetHelp

/-! ## Lists ordered by a key -/

section Keys

variable {α κ : Type*} [DecidableEq κ] (key : α → κ)

theorem mem_iff_of_filter_key_eq {l l' : List α}
    (h : ∀ k, l.filter (key · = k) = l'.filter (key · = k)) (a : α) : a ∈ l ↔ a ∈ l' := by
  have hmem : ∀ m : List α, a ∈ m ↔ a ∈ m.filter (key · = key a) := fun m => by
    rw [List.mem_filter, and_iff_left (decide_eq_true rfl)]
  rw [hmem l, h, ← hmem l']

/-- Of lists ordered by a key, the elements of each key are all that matters. -/
theorem eq_of_filter_key_eq {le : κ → κ → Prop} (antisymm : ∀ k k', le k k' → le k' k → k = k')
    {l l' : List α} (hl : l.Pairwise fun a b => le (key a) (key b))
    (hl' : l'.Pairwise fun a b => le (key a) (key b))
    (h : ∀ k, l.filter (key · = k) = l'.filter (key · = k)) : l = l' := by
  induction l generalizing l' with
  | nil =>
    rw [eq_comm, List.eq_nil_iff_forall_not_mem]
    exact fun a ha => List.not_mem_nil ((mem_iff_of_filter_key_eq key h a).mpr ha)
  | cons a l ih =>
    cases l' with
    | nil =>
      have hmem := (mem_iff_of_filter_key_eq key h a).mp List.mem_cons_self
      cases hmem
    | cons b l' =>
      obtain ⟨hfirst, hrest⟩ := List.pairwise_cons.mp hl
      obtain ⟨hfirst', hrest'⟩ := List.pairwise_cons.mp hl'
      -- each head is somewhere in the other list, so that none of them comes first
      have hkey : key a = key b := by
        rcases List.mem_cons.mp ((mem_iff_of_filter_key_eq key h a).mp List.mem_cons_self)
          with rfl | ha
        · rfl
        · rcases List.mem_cons.mp ((mem_iff_of_filter_key_eq key h b).mpr List.mem_cons_self)
            with rfl | hb
          · rfl
          · exact antisymm _ _ (hfirst b hb) (hfirst' a ha)
      have hheads := h (key a)
      rw [List.filter_cons_of_pos (by rw [decide_eq_true_eq]),
        List.filter_cons_of_pos (by rw [decide_eq_true_eq, hkey])] at hheads
      obtain ⟨rfl, htails⟩ := List.cons.inj hheads
      rw [ih hrest hrest' fun k => ?_]
      by_cases hk : key a = k
      · rw [← hk, htails]
      · have hother := h k
        rw [List.filter_cons_of_neg (by rwa [decide_eq_true_eq]),
          List.filter_cons_of_neg (by rwa [decide_eq_true_eq])] at hother
        exact hother

end Keys

namespace Entry

/-! ## Entries of a kind -/

/-- What entries are ordered by: the category, then the name. -/
def kind (e : Entry) : Text × Text := (e.category, e.name)

theorem kind_eq_iff {e : Entry} {category name : Text} :
    e.kind = (category, name) ↔ e.category = category ∧ e.name = name := by
  rw [kind, Prod.mk.injEq]

/-- The order of kinds, by bytes. -/
def kindOrder (k k' : Text × Text) : Ordering :=
  (compare (Utf8.encode k.1) (Utf8.encode k'.1)).then
    (compare (Utf8.encode k.2) (Utf8.encode k'.2))

theorem kindOrder_eq (k k' : Text × Text) :
    kindOrder k k' = (compare k.1 k'.1).then (compare k.2 k'.2) := by
  rw [kindOrder, Utf8.compare_encode, Utf8.compare_encode]

theorem compare_swap (s t : Text) : compare t s = (compare s t).swap := Std.OrientedCmp.eq_swap

theorem name_antisymm (n n' : Text) (h : (compare n n').isLE) (h' : (compare n' n).isLE) :
    n = n' :=
  Std.LawfulEqOrd.eq_of_compare (Std.OrientedCmp.isLE_antisymm h h')

/-- Of two kinds, one alone may stand before the other. -/
theorem kind_antisymm (k k' : Text × Text) (h : (kindOrder k k').isLE)
    (h' : (kindOrder k' k).isLE) : k = k' := by
  rw [kindOrder_eq, Ordering.isLE_then_iff_or] at h h'
  rcases h with hlt | ⟨heq, hle⟩
  · rw [compare_swap, hlt] at h'
    rcases h' with hgt | ⟨hgt, -⟩ <;> cases hgt
  · rcases h' with hlt | ⟨-, hge⟩
    · rw [compare_swap, heq] at hlt
      cases hlt
    · exact Prod.ext (Std.LawfulEqOrd.eq_of_compare heq) (name_antisymm _ _ hle hge)

/-! ## What sections depend on -/

theorem categories_congr {l l' : List Entry} (h : ∀ e, e ∈ l ↔ e ∈ l') :
    categories l = categories l' := by
  refine eq_of_ascending id (categories_ascending l) (categories_ascending l') fun c => ?_
  rw [mem_categories, mem_categories]
  exact exists_congr fun e => and_congr_left' (h e)

/-- Of this category and this name, a section has what there is. -/
theorem filter_name_sectionOf (entries : List Entry) (category name : Text) :
    (sectionOf entries category).entries.filter (·.name = name) =
      entries.filter (·.kind = (category, name)) := by
  rw [sectionOf, filter_mergeSort, List.filter_filter]
  refine List.filter_congr fun e _ => ?_
  rw [decide_eq_decide.mpr kind_eq_iff, Bool.and_comm, Bool.decide_and]

theorem sectionOf_congr {l l' : List Entry}
    (h : ∀ k, l.filter (·.kind = k) = l'.filter (·.kind = k)) (category : Text) :
    sectionOf l category = sectionOf l' category := by
  refine congrArg (Section.mk category) ?_
  refine eq_of_filter_key_eq Entry.name name_antisymm ?_ ?_ fun name => ?_
  · exact List.pairwise_mergeSort nameLE_trans nameLE_total _
  · exact List.pairwise_mergeSort nameLE_trans nameLE_total _
  · have hname := filter_name_sectionOf l category name
    rw [h, ← filter_name_sectionOf] at hname
    exact hname

/-- Sections are the same for lists that have the same entries of each kind. -/
theorem sections_congr {l l' : List Entry}
    (h : ∀ k, l.filter (·.kind = k) = l'.filter (·.kind = k)) : sections l = sections l' := by
  rw [sections_eq, sections_eq, categories_congr (mem_iff_of_filter_key_eq kind h)]
  exact List.map_congr_left fun c _ => sectionOf_congr h c

/-! ## Stable sorts -/

/-- These are the entries, sorted by bytes, and those of a kind are as they
came. -/
structure IsStableSort (entries sorted : List Entry) : Prop where
  /-- none is lost and none is made up -/
  perm : sorted.Perm entries
  /-- they are in order -/
  ordered : sorted.Pairwise fun e e' => (kindOrder e.kind e'.kind).isLE
  /-- entries of one category and one name keep their order -/
  stable : ∀ k, sorted.filter (·.kind = k) = entries.filter (·.kind = k)

/-- There is one way only to sort entries. -/
theorem IsStableSort.unique {entries l l' : List Entry} (h : IsStableSort entries l)
    (h' : IsStableSort entries l') : l = l' :=
  eq_of_filter_key_eq kind kind_antisymm h.ordered h'.ordered fun k =>
    (h.stable k).trans (h'.stable k).symm

/-- The entries in the order of their sections. -/
def listed (entries : List Entry) : List Entry := (sections entries).flatMap (·.entries)

variable {entries : List Entry}

theorem Arranged.category_eq {ss : List Section} (h : Arranged entries ss) {s : Section}
    (hs : s ∈ ss) {e : Entry} (he : e ∈ s.entries) : e.category = s.category := by
  have hmem : e ∈ s.entries.filter (·.name = e.name) :=
    List.mem_filter.mpr ⟨he, decide_eq_true rfl⟩
  rw [h.stable s hs] at hmem
  exact (of_decide_eq_true (List.mem_filter.mp hmem).2).1

/-- In the order of the sections, entries are in order. -/
theorem Arranged.ordered {ss : List Section} (h : Arranged entries ss) :
    (ss.flatMap (·.entries)).Pairwise fun e e' => (kindOrder e.kind e'.kind).isLE := by
  simp only [kindOrder_eq, Ordering.isLE_then_iff_or]
  rw [List.pairwise_flatMap]
  constructor
  · -- in a section, the names decide
    intro s hs
    refine (h.sorted s hs).imp_of_mem fun he he' hle => Or.inr ⟨?_, hle⟩
    rw [kind, kind, h.category_eq hs he, h.category_eq hs he']
    exact Std.ReflCmp.compare_self
  · -- from a section to a later one, the categories do
    refine h.ascending.imp_of_mem fun hs hs' hlt e he e' he' => Or.inl ?_
    rw [kind, kind, h.category_eq hs he, h.category_eq hs' he']
    exact hlt

/-- Of the kinds of its category, a section has every entry, and of the others
none. -/
theorem Arranged.filter_kind {ss : List Section} (h : Arranged entries ss) {s : Section}
    (hs : s ∈ ss) (k : Text × Text) : s.entries.filter (·.kind = k) =
      if s.category = k.1 then entries.filter (·.kind = k) else [] := by
  obtain ⟨c, n⟩ := k
  simp only [kind_eq_iff]
  split
  · next hcategory =>
    rw [← hcategory, ← h.stable s hs n]
    refine List.filter_congr fun e he => ?_
    rw [decide_eq_decide, and_iff_right (h.category_eq hs he)]
  · next hcategory =>
    refine List.filter_eq_nil_iff.mpr fun e he hkind => hcategory ?_
    rw [← h.category_eq hs he]
    exact (of_decide_eq_true hkind).1

/-- Only one section is that of a category. -/
theorem flatMap_ite_category {ss : List Section}
    (h : ss.Pairwise fun s s' => compare s.category s'.category = .lt) {c : Text}
    (hc : ∃ s ∈ ss, s.category = c) (l : List Entry) :
    (ss.flatMap fun s => if s.category = c then l else []) = l := by
  induction ss with
  | nil =>
    obtain ⟨s, hs, -⟩ := hc
    cases hs
  | cons s ss ih =>
    obtain ⟨hfirst, hrest⟩ := List.pairwise_cons.mp h
    rw [List.flatMap_cons]
    split
    · next hcategory =>
      have hothers : (ss.flatMap fun s => if s.category = c then l else []) = [] := by
        refine List.flatMap_eq_nil_iff.mpr fun s' hs' => if_neg fun hcategory' => ?_
        have hlt := hfirst s' hs'
        rw [hcategory, hcategory', Std.ReflOrd.compare_self] at hlt
        cases hlt
      rw [hothers, List.append_nil]
    · next hcategory =>
      obtain ⟨s', hs', rfl⟩ := hc
      rcases List.mem_cons.mp hs' with rfl | hs'
      · exact absurd rfl hcategory
      · exact ih hrest ⟨s', hs', rfl⟩

/-- The sections leave the entries of a kind as they came. -/
theorem Arranged.stable_flatMap {ss : List Section} (h : Arranged entries ss)
    (k : Text × Text) :
    (ss.flatMap (·.entries)).filter (·.kind = k) = entries.filter (·.kind = k) := by
  rw [List.filter_flatMap, List.flatMap_congr fun s hs => h.filter_kind hs k]
  by_cases hc : ∃ s ∈ ss, s.category = k.1
  · exact flatMap_ite_category h.ascending hc _
  · have hnone : entries.filter (·.kind = k) = [] := by
      refine List.filter_eq_nil_iff.mpr fun e he hkind => hc ?_
      rw [h.category, ← of_decide_eq_true hkind]
      exact ⟨e, he, rfl⟩
    simp [hnone]

/-- Read one after the other, the sections are the entries sorted. -/
theorem isStableSort_listed (entries : List Entry) : IsStableSort entries (listed entries) where
  perm := sections_perm entries
  ordered := (arranged_sections entries).ordered
  stable := (arranged_sections entries).stable_flatMap

/-- The empty category, if there is one, is the first. -/
theorem Arranged.head_of_nil {ss : List Section} (h : Arranged entries ss)
    (hnil : ∃ e ∈ entries, e.category = []) : ∃ s ∈ ss.head?, s.category = [] := by
  obtain ⟨s, hs, hcategory⟩ := (h.category []).mpr hnil
  cases ss with
  | nil => cases hs
  | cons first ss =>
    refine ⟨first, rfl, ?_⟩
    rcases List.mem_cons.mp hs with rfl | hs
    · exact hcategory
    · have hlt := (List.pairwise_cons.mp h.ascending).1 s hs
      rw [hcategory] at hlt
      cases hfirst : first.category with
      | nil => rfl
      | cons x t =>
        rw [hfirst] at hlt
        cases hlt

/-- **Grouping is a stable sort.** There is a section for every category that
occurs and for no other, in strictly ascending order of bytes, the empty category
first; no section is empty, and every entry stands in the section of its category.
One after the other the sections are the stable sort of the entries, and grouped
again they are the same. -/
theorem sections_stable_sort (entries : List Entry) :
    (∀ c, (∃ s ∈ sections entries, s.category = c) ↔ ∃ e ∈ entries, e.category = c) ∧
      ((sections entries).Pairwise fun s s' =>
        compare (Utf8.encode s.category) (Utf8.encode s'.category) = .lt) ∧
      ((∃ e ∈ entries, e.category = []) →
        ∃ s ∈ (sections entries).head?, s.category = []) ∧
      (∀ s ∈ sections entries, s.entries ≠ [] ∧ ∀ e ∈ s.entries, e.category = s.category) ∧
      (∀ e ∈ entries, ∃ s ∈ sections entries, s.category = e.category ∧ e ∈ s.entries) ∧
      (∀ l, IsStableSort entries l ↔ l = listed entries) ∧
      sections (listed entries) = sections entries := by
  have h := arranged_sections entries
  have hsort := isStableSort_listed entries
  refine ⟨h.category, ?_, h.head_of_nil, fun s hs => ⟨h.entries_ne_nil hs, fun e he =>
    h.category_eq hs he⟩, fun e he => ?_, fun l => ⟨fun hl => hl.unique hsort, ?_⟩,
    sections_congr hsort.stable⟩
  · simp only [Utf8.compare_encode]
    exact h.ascending
  · obtain ⟨s, hs, hmem⟩ := List.mem_flatMap.mp (hsort.perm.mem_iff.mpr he)
    exact ⟨s, hs, (h.category_eq hs hmem).symm, hmem⟩
  · rintro rfl
    exact hsort

end Entry

end TargetHelp
