import ClusterMatrix.Text.Split
import ClusterMatrix.Workflow.Command
import ClusterMatrix.Proofs.Workflow.Escape

/-!
# The lines of standard output

A workflow runner reads standard output line by line, and takes a line that begins with `::set-output` for a command
that sets an output. Each command is one line, whatever data it carries, and a text of which no line begins with a
colon holds no command.
-/

namespace ClusterMatrix

namespace Text

/-- A text up to its first separator is the first piece. -/
theorem splitOn_append_cons {sep : Char} {s : List Char} (h : sep ∉ s) (t : List Char) :
    splitOn sep (s ++ sep :: t) = s :: splitOn sep t := by
  induction s with
  | nil => rw [List.nil_append, splitOn, if_pos rfl]
  | cons c s ih =>
    rw [List.mem_cons, not_or] at h
    rw [List.cons_append, splitOn, if_neg (Ne.symm h.1), ih h.2]

/-- The pieces on both sides of a separator are those of the text. -/
theorem splitOn_append_sep (sep : Char) (s t : List Char) :
    splitOn sep (s ++ sep :: t) = splitOn sep s ++ splitOn sep t := by
  induction s with
  | nil => exact splitOn_append_cons List.not_mem_nil t
  | cons c s ih =>
    rw [List.cons_append, splitOn, splitOn, ih]
    split
    · rw [List.cons_append]
    · cases hs : splitOn sep s with
      | nil => exact absurd hs (splitOn_ne_nil sep s)
      | cons p ps => rfl

/-- Behind a text whose last piece is empty, a new piece begins. -/
theorem splitOn_append_of_eq_concat {sep : Char} {s : List Char} {ps : List (List Char)}
    (h : splitOn sep s = ps ++ [[]]) (t : List Char) : splitOn sep (s ++ t) = ps ++ splitOn sep t := by
  induction s generalizing ps with
  | nil =>
    rw [splitOn_nil, eq_comm, List.append_left_eq_self] at h
    rw [h, List.nil_append, List.nil_append]
  | cons c s ih =>
    rw [splitOn] at h
    rw [List.cons_append, splitOn]
    split at h
    · rename_i hc
      rw [if_pos hc]
      cases ps with
      | nil => exact absurd (List.cons.inj h).2 (splitOn_ne_nil sep s)
      | cons p ps =>
        obtain ⟨rfl, hs⟩ := List.cons.inj h
        rw [ih hs, List.cons_append]
    · rename_i hc
      rw [if_neg hc]
      cases hs : splitOn sep s with
      | nil => exact absurd hs (splitOn_ne_nil sep s)
      | cons q qs =>
        rw [hs] at h
        cases ps with
        | nil => cases (List.cons.inj h).1
        | cons p ps =>
          obtain ⟨rfl, hqs⟩ := List.cons.inj h
          have hsplit : splitOn sep (s ++ t) = (q :: ps) ++ splitOn sep t := by
            apply ih
            rw [hs, hqs]
            rfl
          rw [hsplit]
          rfl

/-- No piece holds the separator. -/
theorem not_mem_of_mem_splitOn {sep : Char} {s p : List Char} (h : p ∈ splitOn sep s) : sep ∉ p := by
  induction s generalizing p with
  | nil =>
    obtain rfl := List.mem_singleton.1 h
    exact List.not_mem_nil
  | cons c s ih =>
    rw [splitOn] at h
    split at h
    · rcases List.mem_cons.1 h with rfl | h
      · exact List.not_mem_nil
      · exact ih h
    · rename_i hc
      cases hs : splitOn sep s with
      | nil => exact absurd hs (splitOn_ne_nil sep s)
      | cons q qs =>
        rw [hs] at h ih
        rcases List.mem_cons.1 h with rfl | h
        · intro hm
          rcases List.mem_cons.1 hm with rfl | hm
          · exact hc rfl
          · exact ih List.mem_cons_self hm
        · exact ih (List.mem_cons_of_mem q h)

end Text

namespace Workflow

/-- How a line begins that sets an output. -/
def outputCommandMark : List Char := "::set-output".toList

def isOutputCommand (line : List Char) : Bool := outputCommandMark.isPrefixOf line

/-- The lines that set outputs. -/
def outputCommands (stdout : List Char) : List (List Char) :=
  (Text.splitOn '\n' stdout).filter isOutputCommand

theorem outputCommandMark_eq :
    outputCommandMark = [':', ':', 's', 'e', 't', '-', 'o', 'u', 't', 'p', 'u', 't'] := rfl

theorem isOutputCommand_of_head? {line : List Char} (h : line.head? ≠ some ':') :
    isOutputCommand line = false := by
  cases line with
  | nil => rfl
  | cons c line =>
    rw [List.head?_cons, ne_eq, Option.some.injEq] at h
    rw [isOutputCommand, outputCommandMark_eq, List.isPrefixOf, beq_false_of_ne (Ne.symm h), Bool.false_and]

@[simp] theorem outputCommands_nil : outputCommands [] = [] := rfl

theorem outputCommands_append_cons {line : List Char} (h : '\n' ∉ line) (s : List Char) :
    outputCommands (line ++ '\n' :: s) =
      if isOutputCommand line then line :: outputCommands s else outputCommands s := by
  rw [outputCommands, Text.splitOn_append_cons h, List.filter_cons]
  rfl

namespace Command

/-- An error is reported on one line, whatever its message. -/
theorem newline_not_mem_error (message : String) : '\n' ∉ (error message).text := by
  rw [text, List.mem_append, not_or]
  exact ⟨by decide, fun h ↦ (not_lineEnd_of_mem_escape h).1 rfl⟩

/-- An output is set on one line, whatever its value. -/
theorem newline_not_mem_setOutput {name : String} (hn : '\n' ∉ name.toList) (value : String) :
    '\n' ∉ (setOutput name value).text := by
  simp only [text, List.mem_append, List.mem_cons, not_or]
  exact ⟨⟨by decide, hn⟩, by decide, by decide, fun h ↦ (not_lineEnd_of_mem_escape h).1 rfl⟩

theorem errorMark_eq : errorMark = [':', ':', 'e', 'r', 'r', 'o', 'r', ':', ':'] := rfl

theorem isOutputCommand_error (message : String) : isOutputCommand (error message).text = false := by
  rw [isOutputCommand, outputCommandMark_eq, text, errorMark_eq]
  rfl

theorem outputMark_eq : outputMark = outputCommandMark ++ [' ', 'n', 'a', 'm', 'e', '='] := rfl

theorem isOutputCommand_setOutput (name value : String) :
    isOutputCommand (setOutput name value).text = true := by
  rw [isOutputCommand, List.isPrefixOf_iff_prefix, text, outputMark_eq, List.append_assoc, List.append_assoc]
  exact List.prefix_append outputCommandMark _

/-- Reporting an error sets no output. -/
theorem outputCommands_error (message : String) : outputCommands (error message).line = [] := by
  rw [line, outputCommands_append_cons (newline_not_mem_error message), isOutputCommand_error, if_neg,
    outputCommands_nil]
  exact Bool.false_ne_true

/-- The command that sets an output is one of the lines that do. -/
theorem outputCommands_setOutput {name : String} (hn : '\n' ∉ name.toList) (value : String) (s : List Char) :
    outputCommands ((setOutput name value).line ++ s) = (setOutput name value).text :: outputCommands s := by
  rw [line, List.append_assoc, List.singleton_append,
    outputCommands_append_cons (newline_not_mem_setOutput hn value), isOutputCommand_setOutput, if_pos rfl]

end Command

end Workflow

end ClusterMatrix
