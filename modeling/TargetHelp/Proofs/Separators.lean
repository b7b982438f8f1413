import TargetHelp.Proofs.CrossProduct
import TargetHelp.Proofs.FirstExpansion

/-!
# Separators cut references apart

A blank, a colon, a hash sign and an equals sign never stand in a reference. So
whatever begins in front of one of them is over by then, or is no reference at
all, and what stands behind it is read as if nothing stood in front.

Reading a reference is where this is decided: with a separator and more text
behind it, a text begins with the same references as without
(`Reference.read?_append_separator`). The template of the whole then is the two
templates with the separator between them (`Template.parse_append_separator`),
and both uses of a template go through it part by part
(`expand_append_separator`). Without a separator the law is false, since a
bracket that is still open may be closed by the text behind it.
-/

namespace TargetHelp

/-! ## Reading up to a separator -/

namespace Reference

/-- No separator stands in a reference as it is written. -/
theorem Proper.not_mem_written {r : Reference} (h : r.Proper) {c : Char}
    (hc : isNameBreak c = true) : c ∉ r.written := by
  intro hmem
  simp only [written, List.cons_append, List.mem_cons, List.mem_append, List.not_mem_nil,
    or_false] at hmem
  rcases hmem with rfl | rfl | hname | rfl
  · exact absurd hc (by decide)
  · exact absurd hc (by cases r.bracket <;> decide)
  · have hchar : isNameChar r.bracket c = true := isNameChar_iff.mpr (h.name_chars c hname)
    rw [isNameChar, hc] at hchar
    cases hchar
  · exact absurd hc (by cases r.bracket <;> decide)

/-- A separator, and what stands behind it, are not read with the reference in
front of them, and make none of what was none. -/
theorem read?_append_separator {c : Char} (hc : isNameBreak c = true) (a b : Text) :
    read? (a ++ c :: b) = (read? a).map fun found => (found.1, found.2 ++ c :: b) := by
  refine Option.ext fun found => ?_
  obtain ⟨r, rest⟩ := found
  rw [Option.map_eq_some_iff, read?_eq_some_iff]
  constructor
  · rintro ⟨hr, heq⟩
    -- the separator is not in the reference, so the reference ends in front of it
    obtain ⟨more, hwritten, hrest⟩ | ⟨more, ha, hrest⟩ := List.append_eq_append_iff.mp heq
    · cases more with
      | nil =>
        have hread : read? a = some (r, []) :=
          read?_eq_some_iff.mpr ⟨hr, by rw [hwritten, List.append_nil, List.append_nil]⟩
        exact ⟨(r, []), hread, congrArg (Prod.mk r) hrest⟩
      | cons d more =>
        obtain ⟨rfl, -⟩ := List.cons.inj hrest
        refine absurd ?_ (hr.not_mem_written hc)
        rw [hwritten]
        simp
    · exact ⟨(r, more), read?_eq_some_iff.mpr ⟨hr, ha⟩, by rw [hrest]⟩
  · rintro ⟨⟨r', front⟩, hread, heq⟩
    obtain ⟨rfl, rfl⟩ := Prod.mk.inj heq
    obtain ⟨hr, ha⟩ := read?_eq_some_iff.mp hread
    exact ⟨hr, by rw [ha, List.append_assoc]⟩

end Reference

/-! ## The template of the whole -/

namespace Template

/-- A separator stands for itself, and the references in front of it and behind
it are found without regard to the other side. -/
theorem parse_append_separator {c : Char} (hc : isNameBreak c = true) (a b : Text) :
    parse (a ++ c :: b) = parse a ++ .literal c :: parse b := by
  -- what stands in front is read from the left, and every step of that is the same in the whole
  induction a using parse_induction with
  | nil =>
    have hwhole := Reference.read?_append_separator hc [] b
    rw [List.nil_append, parse_nil, List.nil_append]
    exact parse_cons_of_read?_eq_none hwhole
  | reference a r rest hread ih =>
    have hwhole := Reference.read?_append_separator hc a b
    rw [hread] at hwhole
    rw [parse_of_read? hread, parse_of_read? hwhole, ih, List.cons_append]
  | literal d a hread ih =>
    have hwhole := Reference.read?_append_separator hc (d :: a) b
    rw [hread, List.cons_append] at hwhole
    rw [parse_cons_of_read?_eq_none hread, List.cons_append, List.cons_append,
      parse_cons_of_read?_eq_none hwhole, ih]

/-- Expanding one template behind another chooses for both, the latter changing
faster. -/
theorem expand_append (vars : Variables) (s t : Template) :
    expand vars (s ++ t) = (expand vars s).flatMap fun x => (expand vars t).map (x ++ ·) := by
  rw [expand_eq_foldl, List.foldl_append, foldl_extend, ← expand_eq_foldl]

end Template

/-! ## Substituting line by line -/

namespace Variables

variable (vars : Variables)

theorem replace_append_separator {c : Char} (hc : isNameBreak c = true) (a b : Text) :
    vars.replace (a ++ c :: b) = vars.replace a ++ c :: vars.replace b := by
  simp [replace, Template.parse_append_separator hc, Template.substitute, Part.value]

/-- Lines that are put together are substituted one by one. -/
theorem replace_unlines (ls : List Text) :
    vars.replace (Text.unlines ls) = Text.unlines (ls.map vars.replace) := by
  induction ls with
  | nil => simp [replace, Template.substitute]
  | cons l ls ih =>
    cases ls with
    | nil => simp
    | cons l' ls =>
      rw [Text.unlines_cons_cons, replace_append_separator vars (by decide), ih]
      simp only [List.map_cons, Text.unlines_cons_cons]

end Variables

/-- **References never cross a separator.** With a blank, a colon, a hash sign or
an equals sign between two texts, the whole expands to what both expand to, the
text behind the separator changing faster, and is substituted on each side
alone. So a text of several lines is substituted line by line, even where a line
ends in a bracket that the next line closes. -/
theorem expand_append_separator (vars : Variables) {c : Char}
    (hc : isBlank c = true ∨ c = ':' ∨ c = '#' ∨ c = '=') (a b : Text) :
    vars.expand (a ++ c :: b) =
        ((vars.expand a).flatMap fun x => (vars.expand b).map fun y => x ++ c :: y) ∧
      vars.replace (a ++ c :: b) = vars.replace a ++ c :: vars.replace b ∧
      ∀ t, vars.replace t = Text.unlines ((Text.lines t).map vars.replace) := by
  have hbreak : isNameBreak c = true := by
    simpa [isNameBreak, or_assoc] using hc
  refine ⟨?_, vars.replace_append_separator hbreak a b, fun t => ?_⟩
  · have hback : Template.expand vars (.literal c :: Template.parse b) =
        (vars.expand b).map (c :: ·) := Template.expand_literals vars [c] _
    rw [Variables.expand, Template.parse_append_separator hbreak, Template.expand_append, hback]
    simp only [List.map_map, Function.comp_def]
    rfl
  · rw [← vars.replace_unlines, Text.unlines_lines]

/-- Variables of which one has a name with brackets in it. -/
def bracketedVariables : Variables :=
  .ofList [(['y'], [['1'], ['2']]), ("x$(y)".toList, [['3']])]

/-- A line that ends in an open bracket, and a next line that begins with the
closing one: the bracket stays open, and the reference behind it is replaced. -/
theorem expand_append_separator_openBracket :
    (isBlank '\n' = true ∨ '\n' = ':' ∨ '\n' = '#' ∨ '\n' = '=') ∧
      bracketedVariables.expand ("$\x7bx$(y)".toList ++ '\n' :: ['\x7d']) =
        ["$\x7bx1\n\x7d".toList, "$\x7bx2\n\x7d".toList] ∧
      bracketedVariables.replace "$\x7bx$(y)\n\x7d".toList = "$\x7bx1\n\x7d".toList := by
  have hblank : isBlank '\n' = true ∨ '\n' = ':' ∨ '\n' = '#' ∨ '\n' = '=' := by decide
  obtain ⟨hexpand, -, hlines⟩ :=
    expand_append_separator bracketedVariables hblank "$\x7bx$(y)".toList ['\x7d']
  refine ⟨hblank, ?_, ?_⟩
  · rw [hexpand]
    decide +kernel
  · rw [hlines]
    decide +kernel

/-- Without the newline it is a reference across the place where it stood. -/
example : bracketedVariables.expand ("$\x7bx$(y)".toList ++ ['\x7d']) = [['3']] := by
  decide +kernel

end TargetHelp
