import ClusterMatrix.Proofs.Workflow.Decode

/-!
# Reading the commands of a session back

A session that issues commands writes one line for each of them, and each line reads as the command that wrote it. So
no value and no message can begin a command of its own, hide one, or change what another one says.
-/

namespace ClusterMatrix.Workflow

namespace Command

/-- The call that issues a command. -/
def call : Command → Call
  | .setOutput name value => .setOutput ⟨name, value⟩
  | .error message => .setFailed message

/-- The name in a command, if it has one, holds neither a colon nor a line end. -/
def HasPlainName : Command → Prop
  | .setOutput name _ => ':' ∉ name.toList ∧ '\r' ∉ name.toList ∧ '\n' ∉ name.toList
  | .error _ => True

variable {c : Command}

/-- A name without a colon ends at the first two colons. -/
theorem cutColons?_append {name : List Char} (h : ':' ∉ name) (s : List Char) :
    cutColons? (name ++ ':' :: ':' :: s) = some (name, s) := by
  induction name with
  | nil => rfl
  | cons c name ih =>
    rw [List.mem_cons, not_or] at h
    rw [List.cons_append, cutColons?, ih h.2, Option.map_some]
    rintro r rfl
    exact absurd rfl h.1

/-- Reading the text of a command gives the command back. -/
theorem read?_text (h : c.HasPlainName) : read? c.text = some c := by
  cases c with
  | setOutput name value =>
    have herror : errorMark.isPrefixOf (setOutput name value).text = false := by
      rw [text, errorMark_eq, outputMark_eq, outputCommandMark_eq]
      rfl
    have houtput : outputMark.isPrefixOf (setOutput name value).text = true := by
      rw [List.isPrefixOf_iff_prefix, text, List.append_assoc]
      exact List.prefix_append outputMark _
    rw [read?, if_neg (by rw [herror]; exact Bool.false_ne_true), if_pos houtput, text, List.append_assoc,
      List.drop_left, cutColons?_append h.1, Option.map_some, unescape_escape, String.ofList_toList,
      String.ofList_toList]
  | error message =>
    have herror : errorMark.isPrefixOf (error message).text = true := by
      rw [List.isPrefixOf_iff_prefix, text]
      exact List.prefix_append errorMark _
    rw [read?, if_pos herror, text, List.drop_left, unescape_escape, String.ofList_toList]

/-- The text of a command is one line. -/
theorem newline_not_mem_text (h : c.HasPlainName) : '\n' ∉ c.text := by
  cases c with
  | setOutput name value => exact newline_not_mem_setOutput h.2.2 value
  | error message => exact newline_not_mem_error message

theorem return_not_mem_text (h : c.HasPlainName) : '\r' ∉ c.text := by
  cases c with
  | setOutput name value =>
    simp only [text, List.mem_append, List.mem_cons, not_or]
    exact ⟨⟨by decide, h.2.1⟩, by decide, by decide, fun hm ↦ (not_lineEnd_of_mem_escape hm).2 rfl⟩
  | error message =>
    rw [text, List.mem_append, not_or]
    exact ⟨by decide, fun hm ↦ (not_lineEnd_of_mem_escape hm).2 rfl⟩

/-- The lines of some commands are their texts. -/
theorem splitOn_flatMap_line {cs : List Command} (h : ∀ c ∈ cs, c.HasPlainName) :
    Text.splitOn '\n' (cs.flatMap line) = cs.map text ++ [[]] := by
  induction cs with
  | nil => rfl
  | cons c cs ih =>
    rw [List.forall_mem_cons] at h
    rw [List.flatMap_cons, line, List.append_assoc, List.singleton_append,
      Text.splitOn_append_cons (newline_not_mem_text h.1), ih h.2, List.map_cons, List.cons_append]

end Command

namespace Session

variable {s : Session}

/-- Where no file takes the outputs, a command is written to standard output. -/
theorem written_call (hu : outputPath? s.environment = none) (id : String) (c : Command) :
    (s.call id c.call).2.2 = c.line := by
  cases c with
  | setOutput name value =>
    have hset : setOutput ⟨name, value⟩ id s.environment s.disk =
        .ok (s.disk, (Command.setOutput name value).line) :=
      setOutput_eq_ok_iff.2 (.inr ⟨hu, rfl, rfl⟩)
    rw [Command.call, call, hset]
  | error message => rfl

/-- A session that issues commands writes their lines one behind the other. -/
theorem written_run (hu : outputPath? s.environment = none) (cs : List (String × Command)) :
    (s.run (cs.map fun c ↦ (c.1, c.2.call))).2 = (cs.map Prod.snd).flatMap Command.line := by
  induction cs generalizing s with
  | nil => rfl
  | cons c cs ih =>
    obtain ⟨id, c⟩ := c
    have hu' : outputPath? (s.call id c.call).1.environment = none := by rw [environment_call, hu]
    rw [List.map_cons, List.map_cons, List.flatMap_cons, run_cons, written_call hu, ih hu']

/-- Where no file takes the outputs, a session writes one line for each command that it issues, in order and without a
carriage return, and each line reads as its command. -/
theorem read?_lines_run (s : Session) (hu : outputPath? s.environment = none) (cs : List (String × Command))
    (hn : ∀ c ∈ cs, c.2.HasPlainName) :
    ∃ lines, Text.splitOn '\n' (s.run (cs.map fun c ↦ (c.1, c.2.call))).2 = lines ++ [[]] ∧
      lines.length = cs.length ∧ lines.map Command.read? = cs.map (fun c ↦ some c.2) ∧
      '\r' ∉ (s.run (cs.map fun c ↦ (c.1, c.2.call))).2 := by
  have hplain : ∀ c ∈ cs.map Prod.snd, c.HasPlainName := by
    intro c hc
    obtain ⟨p, hp, rfl⟩ := List.mem_map.1 hc
    exact hn p hp
  refine ⟨(cs.map Prod.snd).map Command.text, ?_, ?_, ?_, ?_⟩
  · rw [written_run hu, Command.splitOn_flatMap_line hplain]
  · rw [List.length_map, List.length_map]
  · rw [List.map_map, List.map_map]
    apply List.map_congr_left
    intro c hc
    exact Command.read?_text (hn c hc)
  · rw [written_run hu]
    intro hm
    obtain ⟨c, hc, hm⟩ := List.mem_flatMap.1 hm
    rw [Command.line, List.mem_append] at hm
    rcases hm with hm | hm
    · exact Command.return_not_mem_text (hplain c hc) hm
    · exact absurd hm (by decide)

/-- The first value holds commands and text that looks escaped. -/
def forgedCommands : List (String × Command) :=
  [("1", .setOutput "a" "50%0A\r\n::error::b\n::set-output name=c::d"), ("2", .error "::x%25\n"),
    ("3", .setOutput "" ":")]

/-- An empty path names no file. -/
def unfiledSession : Session := ⟨⟨[("GITHUB_OUTPUT", "")]⟩, ⟨"/output", none, [], []⟩⟩

theorem read?_lines_run_forgedCommands :
    outputPath? unfiledSession.environment = none ∧ (∀ c ∈ forgedCommands, c.2.HasPlainName) ∧
      ∃ lines,
        Text.splitOn '\n' (unfiledSession.run (forgedCommands.map fun c ↦ (c.1, c.2.call))).2 = lines ++ [[]] ∧
        lines.length = 3 ∧
        lines.map Command.read? =
          [some (.setOutput "a" "50%0A\r\n::error::b\n::set-output name=c::d"), some (.error "::x%25\n"),
            some (.setOutput "" ":")] ∧
        '\r' ∉ (unfiledSession.run (forgedCommands.map fun c ↦ (c.1, c.2.call))).2 := by
  have hu : outputPath? unfiledSession.environment = none := rfl
  have hn : ∀ c ∈ forgedCommands, c.2.HasPlainName := by
    simp only [forgedCommands, List.forall_mem_cons, Command.HasPlainName]
    refine ⟨by decide, trivial, by decide, ?_⟩
    exact fun _ hc ↦ absurd hc List.not_mem_nil
  exact ⟨hu, hn, read?_lines_run unfiledSession hu forgedCommands hn⟩

end Session

end ClusterMatrix.Workflow
