import Mathlib.Data.List.Basic
import TargetHelp.Template

/-!
# Substitution is the first expansion

A text with references is expanded where every text that it may stand for is
wanted, and substituted where one is enough. The two agree: there always is an
expansion, and the first is the substituted text (`replace_eq_first_expansion`).

The texts of an expansion can be built from the left, by putting every choice of
the next part behind every text so far (`Template.expand_eq_foldl`). Whatever
the part is, a literal, a reference with values or one without, the first text
then has grown by what stands for the part when only one text is wanted
(`Template.head?_extend`). That is the invariant.
-/

namespace TargetHelp

/-- A part has choices, and the first of them is its value. -/
theorem Part.head?_choices (vars : Variables) (part : Part) :
    (part.choices vars).head? = some (part.value vars) := by
  cases part with
  | literal c => rfl
  | reference r =>
    rw [Part.choices, Part.value]
    cases vars.values r.name <;> rfl

namespace Template

/-- Some texts with one more part behind them. Each occurs once for every choice
of the part. -/
def extend (vars : Variables) (texts : List Text) (part : Part) : List Text :=
  texts.flatMap fun t => (part.choices vars).map (t ++ ·)

/-- Going on from some texts puts every expansion of what is left behind each of
them. -/
theorem foldl_extend (vars : Variables) (t : Template) (texts : List Text) :
    t.foldl (extend vars) texts = texts.flatMap fun u => (expand vars t).map (u ++ ·) := by
  induction t generalizing texts with
  | nil => simp [expand]
  | cons part t ih =>
    rw [List.foldl_cons, ih, extend, List.flatMap_assoc, expand]
    refine List.flatMap_congr fun u _ => ?_
    rw [List.flatMap_map, List.map_flatMap]
    refine List.flatMap_congr fun v _ => ?_
    rw [List.map_map]
    exact List.map_congr_left fun rest _ => List.append_assoc u v rest

/-- The texts of an expansion can be built from the left. -/
theorem expand_eq_foldl (vars : Variables) (t : Template) :
    expand vars t = t.foldl (extend vars) [[]] := by
  rw [foldl_extend]
  simp

/-- One more part puts its value behind the first text. -/
theorem head?_extend {vars : Variables} {texts : List Text} {t : Text} (h : texts.head? = some t)
    (part : Part) : (extend vars texts part).head? = some (t ++ part.value vars) := by
  obtain ⟨rest, rfl⟩ := List.head?_eq_some_iff.mp h
  rw [extend, List.flatMap_cons, List.head?_append, List.head?_map, Part.head?_choices]
  rfl

/-- Going on from some texts puts the substituted rest behind the first of
them. -/
theorem head?_foldl_extend {vars : Variables} (rest : Template) {texts : List Text} {t : Text}
    (h : texts.head? = some t) :
    (rest.foldl (extend vars) texts).head? = some (t ++ substitute vars rest) := by
  induction rest generalizing texts t with
  | nil =>
    rw [List.foldl_nil, h]
    simp [substitute]
  | cons part rest ih =>
    rw [List.foldl_cons, ih (head?_extend h part)]
    simp [substitute]

end Template

/-- **Substitution is the first expansion.** A text always has expansions, and
the first of them is the text with every reference replaced by the first value
of its variable. -/
theorem replace_eq_first_expansion (vars : Variables) (t : Text) :
    vars.expand t ≠ [] ∧ (vars.expand t).head? = some (vars.replace t) := by
  have hhead : (vars.expand t).head? = some (vars.replace t) := by
    rw [Variables.expand, Template.expand_eq_foldl, Template.head?_foldl_extend _ rfl,
      List.nil_append, Variables.replace]
  refine ⟨fun hnil => ?_, hhead⟩
  rw [hnil] at hhead
  cases hhead

end TargetHelp
