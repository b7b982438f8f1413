import Std.Data.TreeMap
import TargetHelp.Text.Basic

/-!
# Variables

A variable has a name and a list of values, in order. Defining a name again
replaces its values; a variable may be defined and have no values at all.
-/

namespace TargetHelp

/-- The variables that are defined, with the list of values of each. -/
structure Variables where
  /-- the values by name, the names in order -/
  byName : Std.TreeMap Text (List Text)

namespace Variables

/-- No variable is defined. -/
def empty : Variables := ⟨∅⟩

/-- The variables with one of them defined anew. -/
def insert (vars : Variables) (name : Text) (values : List Text) : Variables :=
  ⟨vars.byName.insert name values⟩

/-- The values of a variable, if it is defined. -/
def get? (vars : Variables) (name : Text) : Option (List Text) := vars.byName[name]?

/-- The values of a variable; an undefined one has none. -/
def values (vars : Variables) (name : Text) : List Text := (vars.get? name).getD []

/-- No value of a variable has this character in it. -/
def Avoids (vars : Variables) (c : Char) : Prop :=
  ∀ name values, vars.get? name = some values → ∀ v ∈ values, c ∉ v

/-- The variables defined one after the other by a list. -/
def ofList (defs : List (Text × List Text)) : Variables :=
  defs.foldl (fun vars d => vars.insert d.1 d.2) empty

/-- The names and values of all variables, in the order of the names. -/
def toList (vars : Variables) : List (Text × List Text) := vars.byName.toList

@[simp] theorem get?_empty (name : Text) : empty.get? name = none := by
  simp [empty, get?]

@[simp] theorem get?_insert_self (vars : Variables) (name : Text) (values : List Text) :
    (vars.insert name values).get? name = some values := by
  simp [insert, get?]

theorem get?_insert (vars : Variables) (n name : Text) (values : List Text) :
    (vars.insert n values).get? name = if n = name then some values else vars.get? name := by
  simp [insert, get?, Std.TreeMap.getElem?_insert]

theorem avoids_empty (c : Char) : empty.Avoids c := by
  intro name values hget
  rw [get?_empty] at hget
  cases hget

theorem Avoids.insert {vars : Variables} {c : Char} (h : vars.Avoids c) {name : Text}
    {values : List Text} (hvalues : ∀ v ∈ values, c ∉ v) : (vars.insert name values).Avoids c := by
  intro n vs hget
  rw [get?_insert] at hget
  split at hget
  · exact Option.some.inj hget ▸ hvalues
  · exact h n vs hget

theorem Avoids.not_mem {vars : Variables} {c : Char} (h : vars.Avoids c) {name v : Text}
    (hv : v ∈ vars.values name) : c ∉ v := by
  rw [values] at hv
  cases hget : vars.get? name with
  | none =>
    rw [hget] at hv
    cases hv
  | some vs =>
    rw [hget] at hv
    exact h name vs hget v hv

end Variables

end TargetHelp
