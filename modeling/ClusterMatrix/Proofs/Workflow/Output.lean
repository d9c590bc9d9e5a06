import ClusterMatrix.Workflow.Output

/-!
# Appending to the disk

Appending fails where the path leads nowhere. Where it leads to the watched file, the text goes behind the content of
that file, and nothing else changes on the disk.
-/

namespace ClusterMatrix.Workflow

namespace Record

/-- The three lines of a record. -/
def lines (r : Record) (delimiter : String) : List (List Char) :=
  [r.name.toList ++ '<' :: '<' :: delimiter.toList, r.value.toList, delimiter.toList]

/-- A record is written line by line. -/
theorem text_eq_flatMap_lines (r : Record) (delimiter : String) :
    r.text delimiter = (r.lines delimiter).flatMap fun line ↦ line ++ ['\n'] := by
  simp only [text, lines, List.flatMap_cons, List.flatMap_nil, List.append_nil, List.append_assoc, List.cons_append,
    List.nil_append]

theorem text_ne_nil (r : Record) (delimiter : String) : r.text delimiter ≠ [] := by
  rw [text]
  exact List.append_ne_nil_of_right_ne_nil _ nofun

end Record

namespace Disk

/-- The disk after a text is written behind the content of the file at a place. -/
def extended (d : Disk) (place : String) (text : List Char) : Disk :=
  if place = d.path then { d with content := some (d.content.getD "" ++ String.ofList text) } else d

theorem extended_path (d : Disk) (text : List Char) :
    d.extended d.path text = { d with content := some (d.content.getD "" ++ String.ofList text) } := by
  rw [extended, if_pos rfl]

theorem extended_of_ne {d : Disk} {place : String} (h : place ≠ d.path) (text : List Char) :
    d.extended place text = d := by
  rw [extended, if_neg h]

theorem append_eq_ok_iff {d d' : Disk} {path : String} {text : List Char} :
    d.append path text = .ok d' ↔ ∃ place, d.place path = .ok place ∧ d' = d.extended place text := by
  rw [append]
  cases d.place path with
  | error f => exact ⟨nofun, fun ⟨_, h, _⟩ ↦ nomatch h⟩
  | ok place =>
    simp only [Except.ok.injEq, exists_eq_left', extended]
    split
    · rw [Except.ok.injEq, eq_comm]
    · rw [Except.ok.injEq, eq_comm]

theorem append_eq_error_iff {d : Disk} {path : String} {text : List Char} {f : FileFault} :
    d.append path text = .error f ↔ d.place path = .error f := by
  rw [append]
  cases d.place path with
  | error g => rw [Except.error.injEq, Except.error.injEq]
  | ok place =>
    dsimp only
    split
    · exact ⟨nofun, nofun⟩
    · exact ⟨nofun, nofun⟩

/-- A text that is not empty changes the disk exactly if it is written to the watched file. -/
theorem extended_eq_self_iff {d : Disk} {place : String} {text : List Char} (h : text ≠ []) :
    d.extended place text = d ↔ place ≠ d.path := by
  constructor
  · rintro he rfl
    rw [extended_path] at he
    have hc : some (d.content.getD "" ++ String.ofList text) = d.content := congrArg content he
    cases hd : d.content with
    | none =>
      rw [hd] at hc
      cases hc
    | some s =>
      rw [hd, Option.some.injEq, Option.getD_some, ← String.toList_inj, String.toList_append, String.toList_ofList,
        List.append_right_eq_self] at hc
      exact h hc
  · exact fun hp ↦ extended_of_ne hp text

end Disk

/-- Setting an output writes a record to the file that takes the outputs, or else a command. -/
theorem setOutput_eq_ok_iff {r : Record} {id : String} {env : Environment} {d d' : Disk} {written : List Char} :
    setOutput r id env d = .ok (d', written) ↔
      (∃ path place, outputPath? env = some path ∧ d.place path = .ok place ∧
        d' = d.extended place (r.text (delimiter id)) ∧ written = []) ∨
      (outputPath? env = none ∧ d' = d ∧ written = (Command.setOutput r.name r.value).line) := by
  rw [setOutput]
  cases outputPath? env with
  | none =>
    constructor
    · intro h
      cases h
      exact .inr ⟨rfl, rfl, rfl⟩
    · rintro (⟨_, _, h, _⟩ | ⟨-, rfl, rfl⟩)
      · cases h
      · rfl
  | some path =>
    dsimp only
    constructor
    · intro h
      split at h
      · rename_i ha
        cases h
        obtain ⟨place, hp, rfl⟩ := Disk.append_eq_ok_iff.1 ha
        exact .inl ⟨path, place, rfl, hp, rfl, rfl⟩
      · cases h
    · rintro (⟨_, place, h, hp, rfl, rfl⟩ | ⟨h, _⟩)
      · cases h
        rw [Disk.append_eq_ok_iff.2 ⟨place, hp, rfl⟩]
      · cases h

/-- Setting an output fails only if the file that takes the outputs cannot be opened. -/
theorem setOutput_eq_error_iff {r : Record} {id : String} {env : Environment} {d : Disk} {f : FileFault} :
    setOutput r id env d = .error f ↔ ∃ path, outputPath? env = some path ∧ d.place path = .error f := by
  rw [setOutput]
  cases outputPath? env with
  | none => exact ⟨nofun, fun ⟨_, h, _⟩ ↦ nomatch h⟩
  | some path =>
    simp only [Option.some.injEq, exists_eq_left']
    rw [← Disk.append_eq_error_iff]
    split
    · rename_i h
      rw [h]
      exact ⟨nofun, nofun⟩
    · rename_i h
      rw [h, Except.error.injEq, Except.error.injEq]

end ClusterMatrix.Workflow
