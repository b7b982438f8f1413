import TargetHelp.Proofs.CrossProduct

/-!
# Substituting twice

When the references of a text are replaced, some stay: those whose variable is
undefined or has no values. Reading the text that comes out, one finds just
these, provided that dollar signs stand nowhere else: not in the text around
the references (`ProperCut`), and not in the values (`Variables.Avoids`).
Both are needed, since otherwise a value may complete a reference or bring one
along.

The invariant is that of a template which is found again in what is written: its
literals are no dollar signs, and its references can be written
(`Template.Legible`, `Template.parse_written`). Names may well have dollar signs
and other brackets in them, as a reference is read whole. Substituting leaves a
legible template of a legible one (`Template.Legible.settle`), and finds nothing
to do in it (`Template.substitute_settle`).
-/

namespace TargetHelp

/-! ## Templates that are found again -/

/-- A part that is found again where it is written: a character that begins no
reference, or a reference that can be written. -/
def Part.Legible : Part → Prop
  | .literal c => c ≠ '$'
  | .reference r => r.Proper

namespace Template

/-- All parts of a template are found again. -/
def Legible (t : Template) : Prop := ∀ part ∈ t, part.Legible

/-- The references of a template, in order. -/
def references : Template → List Reference
  | [] => []
  | .literal _ :: t => references t
  | .reference r :: t => r :: references t

theorem references_append (s t : Template) :
    references (s ++ t) = references s ++ references t := by
  induction s with
  | nil => rfl
  | cons part s ih => cases part <;> simp [references, ih]

theorem references_map_literal (l : Text) : references (l.map .literal) = [] := by
  induction l with
  | nil => rfl
  | cons c l ih => exact ih

/-- A legible template is what is read of it. -/
theorem parse_written {t : Template} (h : t.Legible) : parse (written t) = t := by
  induction t with
  | nil => exact parse_nil
  | cons part t ih =>
    have hrest : parse (written t) = t := ih fun part hpart => h part (List.mem_cons_of_mem _ hpart)
    have hpart := h part (List.mem_cons_self ..)
    cases part with
    | literal c =>
      have hnone : Reference.read? (c :: written t) = none :=
        Reference.read?_eq_none_iff.mpr fun hbegins => hpart hbegins.head
      exact (parse_cons_of_read?_eq_none hnone).trans (congrArg _ hrest)
    | reference r =>
      have hread : Reference.read? (r.written ++ written t) = some (r, written t) :=
        Reference.read?_eq_some_iff.mpr ⟨hpart, rfl⟩
      exact (parse_of_read? hread).trans (congrArg _ hrest)

theorem legible_map_literal {l : Text} : Legible (l.map .literal) ↔ '$' ∉ l := by
  simp only [Legible, List.forall_mem_map, Part.Legible]
  exact ⟨fun h hmem => h '$' hmem rfl, fun h c hc heq => h (heq ▸ hc)⟩

theorem legible_append {s t : Template} : Legible (s ++ t) ↔ s.Legible ∧ t.Legible :=
  List.forall_mem_append

/-- The template of a cut text is legible if dollar signs stand in its references
alone. -/
theorem legible_ofSplit {l : Text} {ps : List (Reference × Text)} :
    (ofSplit l ps).Legible ↔ '$' ∉ l ∧ ∀ p ∈ ps, p.1.Proper ∧ '$' ∉ p.2 := by
  rw [ofSplit, legible_append, legible_map_literal]
  refine and_congr_right fun _ => ?_
  induction ps with
  | nil => simp [Legible]
  | cons p ps ih =>
    rw [List.flatMap_cons, legible_append, ih, List.forall_mem_cons]
    refine and_congr_left fun _ => ?_
    rw [Legible, List.forall_mem_cons, ← legible_map_literal]
    rfl

/-- The references of a cut text, in order. -/
theorem references_ofSplit (l : Text) (ps : List (Reference × Text)) :
    (ofSplit l ps).references = ps.map (·.1) := by
  rw [ofSplit, references_append, references_map_literal, List.nil_append]
  induction ps with
  | nil => rfl
  | cons p ps ih =>
    rw [List.flatMap_cons, references_append, references, references_map_literal, ih]
    rfl

end Template

/-! ## What substituting leaves -/

/-- A reference that substituting leaves as it is: its variable is undefined or
has no values. -/
def Reference.Stays (vars : Variables) (r : Reference) : Prop :=
  vars.get? r.name = none ∨ vars.get? r.name = some []

instance (vars : Variables) (r : Reference) : Decidable (r.Stays vars) :=
  inferInstanceAs (Decidable (_ ∨ _))

theorem Reference.stays_iff {vars : Variables} {r : Reference} :
    r.Stays vars ↔ vars.values r.name = [] := by
  rw [Stays, Variables.values]
  cases vars.get? r.name <;> simp

/-- What substituting leaves of a part: the characters of a value, or the part
itself. -/
def Part.settle (vars : Variables) : Part → Template
  | .literal c => [.literal c]
  | .reference r =>
    match vars.values r.name with
    | [] => [.reference r]
    | v :: _ => v.map .literal

namespace Template

/-- What substituting leaves of a template. -/
def settle (vars : Variables) (t : Template) : Template := t.flatMap (Part.settle vars)

variable {vars : Variables}

/-- Characters stand for themselves. -/
theorem flatMap_map_literal {f : Part → Text} (hliteral : ∀ c, f (.literal c) = [c]) (l : Text) :
    (l.map .literal).flatMap f = l := by
  simp [List.flatMap_map, hliteral]

/-- The substituted text comes out of what substituting leaves, whatever is put
for the references that have values. -/
theorem flatMap_settle {f : Part → Text} (hliteral : ∀ c, f (.literal c) = [c])
    (hstays : ∀ r, vars.values r.name = [] → f (.reference r) = r.written) (t : Template) :
    (settle vars t).flatMap f = substitute vars t := by
  rw [settle, List.flatMap_assoc, substitute]
  refine List.flatMap_congr fun part _ => ?_
  cases part with
  | literal c => simp [Part.settle, Part.value, hliteral]
  | reference r =>
    rw [Part.settle, Part.value]
    cases hvalues : vars.values r.name with
    | nil => simp [hstays r hvalues]
    | cons v vs => exact flatMap_map_literal hliteral v

/-- What substituting leaves is written as the substituted text. -/
theorem written_settle (t : Template) : written (settle vars t) = substitute vars t :=
  flatMap_settle (fun _ => rfl) (fun _ _ => rfl) t

/-- In what substituting leaves, it finds nothing to do. -/
theorem substitute_settle (t : Template) :
    substitute vars (settle vars t) = substitute vars t :=
  flatMap_settle (fun _ => rfl) (fun r hvalues => by rw [Part.value, hvalues]; rfl) t

/-- Substituting values without dollar signs leaves a legible template of a
legible one. -/
theorem Legible.settle {t : Template} (h : t.Legible) (hvars : vars.Avoids '$') :
    (settle vars t).Legible := by
  intro part hpart
  obtain ⟨source, hsource, hmem⟩ := List.mem_flatMap.mp hpart
  cases source with
  | literal c =>
    obtain rfl := List.mem_singleton.mp hmem
    exact h _ hsource
  | reference r =>
    rw [Part.settle] at hmem
    cases hvalues : vars.values r.name with
    | nil =>
      rw [hvalues] at hmem
      obtain rfl := List.mem_singleton.mp hmem
      exact h _ hsource
    | cons v vs =>
      rw [hvalues] at hmem
      have hv : v ∈ vars.values r.name := hvalues ▸ List.mem_cons_self ..
      exact legible_map_literal.mpr (hvars.not_mem hv) part hmem

/-- The references that substituting leaves are those without values. -/
theorem references_settle (t : Template) :
    (settle vars t).references = t.references.filter (·.Stays vars) := by
  induction t with
  | nil => rfl
  | cons part t ih =>
    have hcons : (settle vars (part :: t)).references =
        (part.settle vars).references ++ (references t).filter (·.Stays vars) := by
      rw [← ih, ← references_append]
      rfl
    rw [hcons]
    cases part with
    | literal c => rfl
    | reference r =>
      rw [Part.settle, references, List.filter_cons]
      cases hvalues : vars.values r.name with
      | nil =>
        have hstays : r.Stays vars := Reference.stays_iff.mpr hvalues
        rw [if_pos (decide_eq_true hstays)]
        rfl
      | cons v vs =>
        have hstays : ¬ r.Stays vars := fun h => by
          rw [Reference.stays_iff.mp h] at hvalues
          cases hvalues
        rw [if_neg (by simpa using hstays), references_map_literal, List.nil_append]

end Template

/-! ## The substituted text -/

/-- A cut text whose dollar signs all stand in its references. -/
structure ProperCut (t l : Text) (ps : List (Reference × Text)) : Prop where
  /-- the text is cut at its leftmost references -/
  split : LeftmostSplit t l ps
  /-- none stands in front of the first reference -/
  front : '$' ∉ l
  /-- none stands behind a reference, up to the next -/
  behind : ∀ p ∈ ps, '$' ∉ p.2

/-- A cut text has no other dollar signs exactly if its template is legible. -/
theorem properCut_iff {t l : Text} {ps : List (Reference × Text)} :
    ProperCut t l ps ↔ LeftmostSplit t l ps ∧ (Template.parse t).Legible := by
  constructor
  · intro h
    refine ⟨h.split, ?_⟩
    rw [Template.parse_of_leftmostSplit h.split, Template.legible_ofSplit]
    exact ⟨h.front, fun p hp => ⟨h.split.proper p hp, h.behind p hp⟩⟩
  · rintro ⟨hsplit, hlegible⟩
    rw [Template.parse_of_leftmostSplit hsplit, Template.legible_ofSplit] at hlegible
    exact ⟨hsplit, hlegible.1, fun p hp => (hlegible.2 p hp).2⟩

/-- The template of a substituted text is what substituting leaves. -/
theorem Template.parse_replace {vars : Variables} (hvars : vars.Avoids '$') {t : Text}
    (h : (Template.parse t).Legible) :
    Template.parse (vars.replace t) = (Template.parse t).settle vars := by
  rw [Variables.replace, ← Template.written_settle, Template.parse_written (h.settle hvars)]

/-- **Substituting twice is substituting once.** Where no value has a dollar sign
in it, and those of a text all stand in its references, the substituted text is
not changed by substituting again. Its references are those of the text whose
variable is undefined or has no values, in the same order, and dollar signs
still stand nowhere else. Whatever the values are, a text without a dollar sign
stays as it is. -/
theorem replace_replace (vars : Variables) :
    (vars.Avoids '$' → ∀ t l ps, ProperCut t l ps →
      vars.replace (vars.replace t) = vars.replace t ∧
        ∃ l' ps', ProperCut (vars.replace t) l' ps' ∧
          ps'.map (·.1) = (ps.map (·.1)).filter (·.Stays vars)) ∧
      ∀ t, '$' ∉ t → vars.replace t = t := by
  refine ⟨fun hvars t l ps h => ?_, fun t ht => ?_⟩
  · obtain ⟨hsplit, hlegible⟩ := properCut_iff.mp h
    have hparse := Template.parse_replace hvars hlegible
    refine ⟨?_, ?_⟩
    · calc vars.replace (vars.replace t)
          = Template.substitute vars (Template.parse (vars.replace t)) := rfl
        _ = Template.substitute vars ((Template.parse t).settle vars) := by rw [hparse]
        _ = vars.replace t := Template.substitute_settle _
    · obtain ⟨l', ps', hsplit'⟩ : ∃ l' ps', LeftmostSplit (vars.replace t) l' ps' :=
        ⟨_, _, Template.leftmostSplit_parse _⟩
      refine ⟨l', ps', properCut_iff.mpr ⟨hsplit', hparse ▸ hlegible.settle hvars⟩, ?_⟩
      rw [← Template.references_ofSplit l', ← Template.parse_of_leftmostSplit hsplit', hparse,
        Template.references_settle, Template.parse_of_leftmostSplit hsplit,
        Template.references_ofSplit]
  · rw [Variables.replace, Template.parse_of_leftmostSplit (.of_not_mem ht), Template.ofSplit,
      List.flatMap_nil, List.append_nil]
    exact Template.flatMap_map_literal (fun _ => rfl) t

/-- Variables with a bracket in a value, and without values. -/
def unpairedVariables : Variables := .ofList [(['a'], ["b)".toList, ['c']]), (['e'], [])]

/-- A name may have a dollar sign and the other bracket in it: a reference to it
is read whole, before and after. -/
theorem replace_replace_unpaired :
    unpairedVariables.Avoids '$' ∧
      ProperCut "<$(a)$\x7ba$(m\x7d>$(e)".toList ['<']
        [(⟨.round, ['a']⟩, []), (⟨.curly, "a$(m".toList⟩, ['>']), (⟨.round, ['e']⟩, [])] ∧
      unpairedVariables.replace "<$(a)$\x7ba$(m\x7d>$(e)".toList =
        "<b)$\x7ba$(m\x7d>$(e)".toList ∧
      unpairedVariables.replace "<b)$\x7ba$(m\x7d>$(e)".toList =
        "<b)$\x7ba$(m\x7d>$(e)".toList ∧
      ∃ l ps, ProperCut "<b)$\x7ba$(m\x7d>$(e)".toList l ps ∧
        ps.map (·.1) = [⟨.curly, "a$(m".toList⟩, ⟨.round, ['e']⟩] := by
  have hvars : unpairedVariables.Avoids '$' :=
    ((Variables.avoids_empty '$').insert (by decide)).insert (by decide)
  have hcut : ProperCut "<$(a)$\x7ba$(m\x7d>$(e)".toList ['<']
      [(⟨.round, ['a']⟩, []), (⟨.curly, "a$(m".toList⟩, ['>']), (⟨.round, ['e']⟩, [])] :=
    ⟨Template.leftmostSplit_iff.mpr (by decide +kernel), by decide, by decide⟩
  have hreplace : unpairedVariables.replace "<$(a)$\x7ba$(m\x7d>$(e)".toList =
      "<b)$\x7ba$(m\x7d>$(e)".toList := by decide +kernel
  obtain ⟨hagain, l, ps, hleft, hreferences⟩ :=
    (replace_replace unpairedVariables).1 hvars _ _ _ hcut
  rw [hreplace] at hagain hleft
  refine ⟨hvars, hcut, hreplace, hagain, l, ps, hleft, ?_⟩
  rw [hreferences]
  decide +kernel

/-- A dollar sign that stands for itself may begin a reference afterwards. -/
example :
    let vars : Variables := .ofList [(['a'], [['b']]), (['b'], [['c']])]
    vars.replace "$($(a))".toList = "$(b)".toList ∧ vars.replace "$(b)".toList = ['c'] := by
  decide +kernel

end TargetHelp
