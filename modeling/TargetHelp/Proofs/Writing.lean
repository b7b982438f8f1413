import TargetHelp.Listing

/-!
# What is written

A text is written in pieces, and nothing more is written behind a piece that is
refused. Still it does not matter what the pieces are: a sink refuses the first
byte of the text or none (`HandsOver`). That is so of a single piece, and stays so
of pieces that follow each other (`HandsOver.append`), hence of lines
(`Writes.lines`). A call that then asks for the text to be passed on is told of a
sink that is stuck as well (`Delivers`). Tables and listings are delivered this
way (`Table.delivers_write`, `Listing.delivers_write`).
-/

namespace TargetHelp

/-- A call hands over a text, in whatever pieces. -/
structure HandsOver (call : Sink → Except Fault Text) (t : Text) : Prop where
  /-- a sink that works takes the text -/
  working : call .working = .ok t
  /-- a sink that refuses bytes refuses the text, if there is anything in it -/
  refusing : ∀ fault, call (.refusing fault) = if t = [] then .ok [] else .error fault

/-- A call writes a text: it hands over the text and asks for nothing else. -/
structure Writes (call : Sink → Except Fault Text) (t : Text) : Prop extends
    HandsOver call t where
  /-- a sink that will not pass on the text takes it all the same -/
  stuck : ∀ fault, call (.stuck fault) = .ok t

/-- A call delivers a text: it hands over the text and asks for it to be passed
on. -/
structure Delivers (call : Sink → Except Fault Text) (t : Text) : Prop extends
    HandsOver call t where
  /-- a sink that does not pass on what it took says so, even of no text -/
  stuck : ∀ fault, call (.stuck fault) = .error fault

variable {call call' : Sink → Except Fault Text} {s t : Text}

/-- Two texts are handed over one after the other. What is refused of both is
refused of the first that is not empty. -/
theorem HandsOver.append (h : HandsOver call s) (h' : HandsOver call' t) :
    HandsOver (fun sink => do return (← call sink) ++ (← call' sink)) (s ++ t) := by
  refine ⟨?_, fun fault => ?_⟩
  · rw [h.working, h'.working]
    rfl
  · rw [h.refusing, h'.refusing]
    cases s <;> cases t <;> rfl

namespace Writes

theorem nil : Writes (fun _ => pure []) [] := ⟨⟨rfl, fun _ => rfl⟩, fun _ => rfl⟩

theorem write (t : Text) : Writes (·.write t) t := by
  refine ⟨⟨rfl, fun fault => ?_⟩, fun _ => rfl⟩
  cases t <;> rfl

/-- Two texts are written one after the other. -/
theorem append (h : Writes call s) (h' : Writes call' t) :
    Writes (fun sink => do return (← call sink) ++ (← call' sink)) (s ++ t) := by
  refine ⟨h.toHandsOver.append h'.toHandsOver, fun fault => ?_⟩
  rw [h.stuck, h'.stuck]
  rfl

/-- A text is written, and then one is delivered. -/
theorem append_delivers (h : Writes call s) (h' : Delivers call' t) :
    Delivers (fun sink => do return (← call sink) ++ (← call' sink)) (s ++ t) := by
  refine ⟨h.toHandsOver.append h'.toHandsOver, fun fault => ?_⟩
  rw [h.stuck, h'.stuck]
  rfl

/-- What was written is delivered when it is asked to be passed on. -/
theorem delivers (h : Writes call t) :
    Delivers (fun sink => do
      let taken ← call sink
      sink.flush
      return taken) t := by
  refine ⟨⟨?_, fun fault => ?_⟩, fun fault => ?_⟩
  · rw [h.working]
    rfl
  · rw [h.refusing]
    cases t <;> rfl
  · rw [h.stuck]
    rfl

/-- Lines are written one after the other, each with its line break. -/
theorem lines (ls : List Text) : Writes (·.writeLines ls) (ls.flatMap (· ++ ['\n'])) := by
  induction ls with
  | nil => exact nil
  | cons line ls ih =>
    have hcall : (fun sink : Sink => sink.writeLines (line :: ls)) = fun sink => do
        return (← (do return (← sink.write line) ++ (← sink.write ['\n']))) ++
          (← sink.writeLines ls) := by
      funext sink
      simp only [Sink.writeLines, bind_assoc, pure_bind]
    rw [hcall, List.flatMap_cons]
    exact ((write line).append (write ['\n'])).append ih

end Writes

namespace Table

theorem writes_writeBody (palette : Palette) (lines : List (List Cell)) :
    Writes (fun sink => writeBody palette sink lines)
      ((layOut palette lines).flatMap (· ++ ['\n'])) := by
  cases lines with
  | nil => exact .nil
  | cons line lines =>
    have hlaid : ∀ sink, writeBody palette sink (line :: lines) =
        sink.writeLines (layOut palette (line :: lines)) := fun _ => if_pos (Nat.succ_pos _)
    simp only [hlaid]
    exact .lines _

/-- A table is delivered as it is rendered. -/
theorem delivers_write (palette : Palette) (columns : Nat) (rows : List Row) :
    Delivers (fun sink => write palette sink columns rows) (render palette columns rows) :=
  (writes_writeBody palette (lines columns rows)).delivers

end Table

theorem Listing.delivers_write (palette : Palette) (vars : Variables) (ss : List Section) :
    Delivers (fun sink => write palette sink vars ss) (render palette vars ss) :=
  Table.delivers_write palette columns (rows vars ss)

end TargetHelp
