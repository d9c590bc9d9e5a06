import Mathlib.Data.List.TakeWhile
import ClusterMatrix.Text.Blank

/-!
# Texts between blanks

Trimming takes a text out of the blanks around it. What it takes out begins and ends with a character that is not blank,
and this alone says what it is. Whatever holds of the front of a text holds of its end in the reversed text.
-/

namespace ClusterMatrix.Text

variable {s r pre post : List Char}

def AllBlank (s : List Char) : Prop := ∀ c ∈ s, isBlank c = true

theorem AllBlank.append (hpre : AllBlank pre) (hpost : AllBlank post) : AllBlank (pre ++ post) :=
  List.forall_mem_append.2 ⟨hpre, hpost⟩

theorem AllBlank.reverse (h : AllBlank s) : AllBlank s.reverse := fun c hc ↦ h c (List.mem_reverse.1 hc)

instance : Decidable (AllBlank s) := decidable_of_iff (s.all isBlank = true) List.all_eq_true

/-- No blank stands at either end. -/
structure HasBareEnds (s : List Char) : Prop where
  head : ∀ c ∈ s.head?, isBlank c = false
  last : ∀ c ∈ s.getLast?, isBlank c = false

theorem hasBareEnds_iff :
    HasBareEnds s ↔ s.head?.all (!isBlank ·) = true ∧ s.getLast?.all (!isBlank ·) = true := by
  simp only [Option.all_eq_true, Bool.not_eq_true']
  exact ⟨fun h ↦ ⟨h.head, h.last⟩, fun h ↦ ⟨h.1, h.2⟩⟩

instance : Decidable (HasBareEnds s) := decidable_of_iff' _ hasBareEnds_iff

/-- A text stands between blanks, and has none at its own ends. -/
structure IsCore (r s : List Char) : Prop where
  bare : HasBareEnds r
  framed : ∃ pre post, AllBlank pre ∧ AllBlank post ∧ s = pre ++ r ++ post

/-! ## The front of a text -/

theorem exists_append_trimStart (s : List Char) : ∃ pre, AllBlank pre ∧ s = pre ++ trimStart s :=
  ⟨s.takeWhile isBlank, fun _ hc ↦ List.mem_takeWhile_imp hc, List.takeWhile_append_dropWhile.symm⟩

theorem not_isBlank_of_head?_trimStart {c : Char} (hc : c ∈ (trimStart s).head?) : isBlank c = false := by
  have h := List.head?_dropWhile_not isBlank s
  rwa [← trimStart, Option.mem_def.1 hc] at h

theorem trimStart_append (h : AllBlank pre) (s : List Char) : trimStart (pre ++ s) = trimStart s :=
  List.dropWhile_append_of_pos h

theorem trimStart_of_head? (h : ∀ c ∈ s.head?, isBlank c = false) : trimStart s = s := by
  cases s with
  | nil => rfl
  | cons c s => exact List.dropWhile_cons_of_neg (by rw [h c rfl]; exact Bool.false_ne_true)

theorem trimStart_eq_nil_iff : trimStart s = [] ↔ AllBlank s := List.dropWhile_eq_nil_iff

/-! ## The end of a text -/

/-- The end of a text is the front of the reversed one. -/
theorem trimEnd_eq_reverse (s : List Char) : trimEnd s = (trimStart s.reverse).reverse := rfl

theorem exists_trimEnd_append (s : List Char) : ∃ post, AllBlank post ∧ s = trimEnd s ++ post := by
  obtain ⟨pre, hp, hs⟩ := exists_append_trimStart s.reverse
  refine ⟨pre.reverse, hp.reverse, ?_⟩
  rw [trimEnd_eq_reverse, ← List.reverse_append, ← hs, List.reverse_reverse]

theorem not_isBlank_of_getLast?_trimEnd {c : Char} (hc : c ∈ (trimEnd s).getLast?) : isBlank c = false := by
  rw [trimEnd_eq_reverse, List.getLast?_reverse] at hc
  exact not_isBlank_of_head?_trimStart hc

theorem trimEnd_append (h : AllBlank post) (s : List Char) : trimEnd (s ++ post) = trimEnd s := by
  rw [trimEnd_eq_reverse, List.reverse_append, trimStart_append h.reverse, trimEnd_eq_reverse]

theorem trimEnd_of_getLast? (h : ∀ c ∈ s.getLast?, isBlank c = false) : trimEnd s = s := by
  rw [trimEnd_eq_reverse, trimStart_of_head?, List.reverse_reverse]
  intro c hc
  rw [List.head?_reverse] at hc
  exact h c hc

/-! ## Trimmed texts -/

/-- What is left at the end is a beginning, so its front stays bare. -/
theorem hasBareEnds_trim (s : List Char) : HasBareEnds (trim s) := by
  refine ⟨?_, fun c hc ↦ not_isBlank_of_getLast?_trimEnd hc⟩
  intro c hc
  obtain ⟨post, -, hs⟩ := exists_trimEnd_append (trimStart s)
  apply not_isBlank_of_head?_trimStart (s := s)
  rw [hs, ← trim, List.head?_append, Option.mem_def.1 hc]
  rfl

theorem isCore_trim (s : List Char) : IsCore (trim s) s := by
  refine ⟨hasBareEnds_trim s, ?_⟩
  obtain ⟨pre, hpre, hs⟩ := exists_append_trimStart s
  obtain ⟨post, hpost, ht⟩ := exists_trimEnd_append (trimStart s)
  refine ⟨pre, post, hpre, hpost, ?_⟩
  rw [List.append_assoc, trim, ← ht]
  exact hs

theorem HasBareEnds.trim_eq (h : HasBareEnds s) : trim s = s := by
  rw [trim, trimStart_of_head? h.head, trimEnd_of_getLast? h.last]

theorem trim_of_allBlank (h : AllBlank s) : trim s = [] := by
  rw [trim, trimStart_eq_nil_iff.2 h, trimEnd_nil]

/-- Blanks around a text with bare ends are dropped. Around the empty text they meet, and all of it is blank. -/
theorem trim_append_append (hpre : AllBlank pre) (hpost : AllBlank post) (h : HasBareEnds r) :
    trim (pre ++ r ++ post) = r := by
  cases r with
  | nil =>
    rw [List.append_nil]
    exact trim_of_allBlank (hpre.append hpost)
  | cons c r =>
    rw [trim, List.append_assoc, trimStart_append hpre, trimStart_of_head?, trimEnd_append hpost,
      trimEnd_of_getLast? h.last]
    intro d hd
    exact h.head d hd

/-- Trimming finds the one text that stands between blanks and has none at its own ends. -/
theorem trim_eq_iff : trim s = r ↔ IsCore r s := by
  constructor
  · rintro rfl
    exact isCore_trim s
  · rintro ⟨hr, pre, post, hpre, hpost, rfl⟩
    exact trim_append_append hpre hpost hr

theorem trim_eq_nil_iff : trim s = [] ↔ AllBlank s := by
  refine ⟨fun h ↦ ?_, trim_of_allBlank⟩
  obtain ⟨-, pre, post, hpre, hpost, hs⟩ := trim_eq_iff.1 h
  rw [hs, List.append_nil]
  exact hpre.append hpost

/-- A blank inside stays, and a single character is a beginning and an end. -/
example : trim "\u3000\n a\t b\u0085".toList = "a\t b".toList ∧ trim [' ', 'a'] = ['a'] ∧ trim [' '] = [] := by decide

end ClusterMatrix.Text
