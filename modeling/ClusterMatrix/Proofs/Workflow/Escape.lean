import ClusterMatrix.Workflow.Escape

/-!
# Escaped data is one line and reads back

The three passes of `escape` write the same code for each character, whatever stands beside it. So no line end is
left over, and `unescape` gives the data back.
-/

namespace ClusterMatrix.Text

/-- A property that each character of a text passes by computation. -/
theorem forall_mem_of_all {P : Char → Prop} [DecidablePred P] {s : List Char}
    (h : (s.all fun c ↦ decide (P c)) = true) : ∀ c ∈ s, P c :=
  fun c hc ↦ of_decide_eq_true (List.all_eq_true.1 h c hc)

end ClusterMatrix.Text

namespace ClusterMatrix.Workflow

theorem replaceChar_append (c : Char) (code s t : List Char) :
    replaceChar c code (s ++ t) = replaceChar c code s ++ replaceChar c code t := by
  rw [replaceChar, List.flatMap_append]
  rfl

@[simp] theorem escape_nil : escape [] = [] := rfl

theorem escape_append (s t : List Char) : escape (s ++ t) = escape s ++ escape t := by
  simp only [escape, replaceChar_append]

/-- Three characters have a code, and all others stand for themselves. -/
theorem escapeChar_cases (c : Char) :
    c = '%' ∨ c = '\r' ∨ c = '\n' ∨ (c ≠ '%' ∧ c ≠ '\r' ∧ c ≠ '\n' ∧ escapeChar c = [c]) := by
  by_cases hp : c = '%'
  · exact .inl hp
  by_cases hr : c = '\r'
  · exact .inr (.inl hr)
  by_cases hn : c = '\n'
  · exact .inr (.inr (.inl hn))
  exact .inr (.inr (.inr ⟨hp, hr, hn, by rw [escapeChar, if_neg hp, if_neg hr, if_neg hn]⟩))

theorem escape_singleton (c : Char) : escape [c] = escapeChar c := by
  rcases escapeChar_cases c with rfl | rfl | rfl | ⟨hp, hr, hn, he⟩
  · rfl
  · rfl
  · rfl
  · simp [escape, replaceChar, he, hp, hr, hn]

theorem escape_cons (c : Char) (s : List Char) : escape (c :: s) = escapeChar c ++ escape s := by
  rw [← escape_singleton, ← escape_append, List.singleton_append]

/-- No code holds a line end. -/
theorem not_lineEnd_of_mem_escapeChar {c d : Char} (h : d ∈ escapeChar c) : d ≠ '\n' ∧ d ≠ '\r' := by
  rcases escapeChar_cases c with rfl | rfl | rfl | ⟨hp, hr, hn, he⟩
  · exact Text.forall_mem_of_all (P := fun d ↦ d ≠ '\n' ∧ d ≠ '\r') rfl d h
  · exact Text.forall_mem_of_all (P := fun d ↦ d ≠ '\n' ∧ d ≠ '\r') rfl d h
  · exact Text.forall_mem_of_all (P := fun d ↦ d ≠ '\n' ∧ d ≠ '\r') rfl d h
  · rw [he, List.mem_singleton] at h
    exact h ▸ ⟨hn, hr⟩

/-- Escaped data holds no line end. -/
theorem not_lineEnd_of_mem_escape {s : List Char} {d : Char} (h : d ∈ escape s) : d ≠ '\n' ∧ d ≠ '\r' := by
  induction s with
  | nil => exact absurd h List.not_mem_nil
  | cons c s ih =>
    rw [escape_cons, List.mem_append] at h
    rcases h with h | h
    · exact not_lineEnd_of_mem_escapeChar h
    · exact ih h

/-- A character that begins no code stands for itself. -/
theorem unescape_cons {c : Char} (h : c ≠ '%') (r : List Char) : unescape (c :: r) = c :: unescape r := by
  rw [unescape]
  · exact fun _ hc _ ↦ h hc
  · exact fun _ hc _ ↦ h hc
  · exact fun _ hc _ ↦ h hc

theorem unescape_escapeChar_append (c : Char) (r : List Char) :
    unescape (escapeChar c ++ r) = c :: unescape r := by
  rcases escapeChar_cases c with rfl | rfl | rfl | ⟨hp, -, -, he⟩
  · rfl
  · rfl
  · rfl
  · rw [he]
    exact unescape_cons hp r

/-- Reading escaped data gives the data back. -/
theorem unescape_escape (s : List Char) : unescape (escape s) = s := by
  induction s with
  | nil => rfl
  | cons c s ih => rw [escape_cons, unescape_escapeChar_append, ih]

end ClusterMatrix.Workflow
