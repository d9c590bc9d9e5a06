import Mathlib.Data.List.Forall2
import ClusterMatrix.Proofs.Text.Blank
import ClusterMatrix.Workflow.Input

/-!
# Reading an input

An input is what its variable holds between blanks, if there is anything. Names in ASCII lead to one variable exactly if
they differ only in the case of letters and in blanks against underscores. An input that is set to what was read from it
is read unchanged.
-/

namespace ClusterMatrix.Text

theorem toNat_toUpper (c : Char) :
    c.toUpper.toNat = if 97 ≤ c.toNat ∧ c.toNat ≤ 122 then c.toNat - 32 else c.toNat := by
  have hiff : 'a'.val ≤ c.val ∧ c.val ≤ 'z'.val ↔ 97 ≤ c.toNat ∧ c.toNat ≤ 122 := Iff.rfl
  by_cases h : 97 ≤ c.toNat ∧ c.toNat ≤ 122
  · have hupper : c.toUpper = _ := dif_pos (hiff.2 h)
    -- The shift downwards is an addition modulo `2 ^ 32`.
    have hadd : (c.val + ('A'.val - 'a'.val)).toNat = (c.toNat + 4294967264) % 4294967296 := UInt32.toNat_add _ _
    rw [if_pos h, hupper, Char.toNat, hadd]
    omega
  · have hupper : c.toUpper = c := dif_neg (mt hiff.1 h)
    rw [if_neg h, hupper]

theorem toNat_toLower (c : Char) :
    c.toLower.toNat = if 65 ≤ c.toNat ∧ c.toNat ≤ 90 then c.toNat + 32 else c.toNat := by
  have hiff : c.val ≥ 'A'.val ∧ c.val ≤ 'Z'.val ↔ 65 ≤ c.toNat ∧ c.toNat ≤ 90 := Iff.rfl
  by_cases h : 65 ≤ c.toNat ∧ c.toNat ≤ 90
  · have hlower : c.toLower = _ := dif_pos (hiff.2 h)
    have hadd : (c.val + ('a'.val - 'A'.val)).toNat = (c.toNat + 32) % 4294967296 := UInt32.toNat_add _ _
    rw [if_pos h, hlower, Char.toNat, hadd]
    omega
  · have hlower : c.toLower = c := dif_neg (mt hiff.1 h)
    rw [if_neg h, hlower]

theorem upper_ascii {s : List Char} (h : ∀ c ∈ s, c.toNat < 128) : upper s = s.map Char.toUpper := by
  induction s with
  | nil => rfl
  | cons c s ih =>
    rw [List.forall_mem_cons] at h
    rw [upper_cons, upperChar_ascii h.1, ih h.2, List.map_cons, List.singleton_append]

end ClusterMatrix.Text

namespace ClusterMatrix.Workflow

variable {name name' : String} {env : Environment} {r : String}

/-! ## The variable of an input -/

def IsAscii (name : String) : Prop := ∀ c ∈ name.toList, c.toNat < 128

instance : Decidable (IsAscii name) :=
  decidable_of_iff (name.toList.all (fun c ↦ decide (c.toNat < 128)) = true) (by simp [IsAscii])

def variableChar (c : Char) : Char := if c = ' ' then '_' else c.toUpper

/-- The variable in which the runner hands over an input with a name in ASCII. -/
def asciiVariable (name : String) : String := "INPUT_" ++ String.ofList (name.toList.map variableChar)

/-- The characters are one letter in two cases, or a blank and an underscore, or the same. -/
def Interchanges (c d : Char) : Prop := c.toLower = d.toLower ∨ c ∈ [' ', '_'] ∧ d ∈ [' ', '_']

/-- The names differ only in the case of letters and in blanks against underscores. -/
def SpelledAlike (name name' : String) : Prop := List.Forall₂ Interchanges name.toList name'.toList

theorem toNat_variableChar (c : Char) :
    (variableChar c).toNat =
      if c.toNat = 32 then 95 else if 97 ≤ c.toNat ∧ c.toNat ≤ 122 then c.toNat - 32 else c.toNat := by
  have hblank : c = ' ' ↔ c.toNat = 32 := Char.toNat_inj.symm
  rw [variableChar]
  by_cases h : c = ' '
  · rw [if_pos h, if_pos (hblank.1 h)]
    rfl
  · rw [if_neg h, if_neg (mt hblank.2 h), Text.toNat_toUpper]

theorem mem_blankOrUnderscore_iff {c : Char} : c ∈ [' ', '_'] ↔ c.toNat = 32 ∨ c.toNat = 95 := by
  rw [List.mem_pair]
  exact or_congr Char.toNat_inj.symm Char.toNat_inj.symm

/-- A variable does not tell apart what a name may interchange, and nothing else. -/
theorem variableChar_eq_iff {c d : Char} : variableChar c = variableChar d ↔ Interchanges c d := by
  rw [Interchanges, mem_blankOrUnderscore_iff, mem_blankOrUnderscore_iff, ← Char.toNat_inj, ← Char.toNat_inj,
    toNat_variableChar, toNat_variableChar, Text.toNat_toLower, Text.toNat_toLower]
  split_ifs <;> omega

/-- Names lead to one variable exactly if they are spelled alike. -/
theorem asciiVariable_eq_iff : asciiVariable name = asciiVariable name' ↔ SpelledAlike name name' := by
  rw [asciiVariable, asciiVariable, ← String.toList_inj, String.toList_append, String.toList_append,
    List.append_cancel_left_eq, String.toList_ofList, String.toList_ofList, ← List.forall₂_eq_eq_eq,
    List.forall₂_map_left_iff, List.forall₂_map_right_iff]
  simp only [variableChar_eq_iff]
  rfl

theorem inputVariable_ascii (h : IsAscii name) : inputVariable name = asciiVariable name := by
  rw [inputVariable, asciiVariable, Text.upper_ascii, List.map_map]
  · congr 2
    apply List.map_congr_left
    intro c _
    rw [Function.comp_apply, variableChar]
    split
    · rfl
    · rfl
  · intro c hc
    obtain ⟨d, hd, rfl⟩ := List.mem_map.1 hc
    split
    · decide
    · exact h d hd

/-! ## The value of an input -/

/-- What is read stands in the value of the variable between blanks. -/
theorem input?_eq_some_iff :
    input? name env = some r ↔
      r ≠ "" ∧ ∃ value, env.get? (inputVariable name) = some value ∧ Text.IsCore r.toList value.toList := by
  rw [input?]
  cases env.get? (inputVariable name) with
  | none => exact ⟨nofun, fun ⟨_, _, hv, _⟩ ↦ nomatch hv⟩
  | some value =>
    rw [given?_eq_some_iff, Option.some.injEq, ← String.toList_inj, String.toList_ofList, Text.trim_eq_iff, and_comm]
    simp only [Option.some.injEq, exists_eq_left']

/-- Nothing is read from a variable that is unset or blank. -/
theorem input?_eq_none_iff :
    input? name env = none ↔
      env.get? (inputVariable name) = none ∨
        ∃ value, env.get? (inputVariable name) = some value ∧ Text.AllBlank value.toList := by
  rw [input?]
  cases env.get? (inputVariable name) with
  | none => exact iff_of_true rfl (.inl rfl)
  | some value =>
    have hempty : String.ofList (Text.trim value.toList) = "" ↔ Text.AllBlank value.toList := by
      rw [← Text.trim_eq_nil_iff, ← String.toList_inj, String.toList_ofList]
      rfl
    simp only [given?_eq_none_iff, Option.some.injEq, exists_eq_left', reduceCtorEq, false_or, hempty]

/-- Inputs with one variable are read alike, and one environment is enough to tell two variables apart. -/
theorem inputVariable_eq_iff :
    inputVariable name = inputVariable name' ↔ ∀ env, input? name env = input? name' env := by
  constructor
  · intro h env
    rw [input?, input?, h]
  · intro h
    have hx : input? name ⟨[(inputVariable name, "x")]⟩ = some "x" := by
      rw [input?, Environment.get?, List.lookup_cons_self]
      rfl
    rw [h] at hx
    obtain ⟨-, value, hv, -⟩ := input?_eq_some_iff.1 hx
    rw [Environment.get?, List.lookup_cons] at hv
    split at hv
    · rename_i he
      exact (beq_iff_eq.1 he).symm
    · cases hv

/-- How the input with a name is read. Nothing is read exactly if its variable is unset or blank, and what is read is what
stands in the value between blanks. Two names are read alike in every environment exactly if they are spelled alike. What
was read once is read from every variable that holds it. -/
structure ReadsInput (name : String) : Prop where
  missing_iff : ∀ env, input? name env = none ↔
    env.get? (asciiVariable name) = none ∨
      ∃ value, env.get? (asciiVariable name) = some value ∧ Text.AllBlank value.toList
  found_iff : ∀ env r, input? name env = some r ↔
    r ≠ "" ∧ ∃ value, env.get? (asciiVariable name) = some value ∧ Text.IsCore r.toList value.toList
  spelled_iff : ∀ name', IsAscii name' →
    (SpelledAlike name name' ↔ ∀ env, input? name env = input? name' env)
  reread : ∀ env r, input? name env = some r →
    ∀ env' name', IsAscii name' → env'.get? (asciiVariable name') = some r → input? name' env' = some r

/-- Every input with a name in ASCII is read from its variable, without the blanks around the value. -/
theorem readsInput_of_isAscii (h : IsAscii name) : ReadsInput name := by
  have hvariable := inputVariable_ascii h
  refine ⟨?_, ?_, ?_, ?_⟩
  · intro env
    rw [input?_eq_none_iff, hvariable]
  · intro env r
    rw [input?_eq_some_iff, hvariable]
  · intro name' h'
    rw [← inputVariable_eq_iff, hvariable, inputVariable_ascii h', asciiVariable_eq_iff]
  · intro env r hr env' name' h' hv
    obtain ⟨hne, value, -, hcore⟩ := input?_eq_some_iff.1 hr
    rw [← inputVariable_ascii h'] at hv
    refine input?_eq_some_iff.2 ⟨hne, r, hv, ?_⟩
    rw [← Text.trim_eq_iff]
    exact hcore.bare.trim_eq

/-- The value of a token in two lines, with blanks of several kinds around it. -/
def paddedEnvironment : Environment := ⟨[("INPUT_API_TOKEN", "\u3000\t a \nb\u0085\n"), ("INPUT_OTHER", "\u2003 ")]⟩

theorem readsInput_apiToken :
    IsAscii "api token" ∧ IsAscii "other" ∧
      input? "api token" paddedEnvironment = some "a \nb" ∧ input? "API_Token" paddedEnvironment = some "a \nb" ∧
      input? "other" paddedEnvironment = none ∧ input? "other" ⟨[("INPUT_OTHER", "a \nb")]⟩ = some "a \nb" := by
  have htoken : IsAscii "api token" := by decide
  have hother : IsAscii "other" := by decide
  have hread := readsInput_of_isAscii htoken
  have hfound : input? "api token" paddedEnvironment = some "a \nb" := by
    refine (hread.found_iff _ _).2 ⟨by decide, _, by rfl, by decide, ?_⟩
    exact ⟨"\u3000\t ".toList, "\u0085\n".toList, by decide, by decide, by decide⟩
  refine ⟨htoken, hother, hfound, ?_, ?_, ?_⟩
  · rw [← (hread.spelled_iff "API_Token" (by decide)).1 (asciiVariable_eq_iff.1 (by decide)), hfound]
  · exact ((readsInput_of_isAscii hother).missing_iff _).2 (.inr ⟨_, by rfl, by decide⟩)
  · exact hread.reread _ _ hfound _ _ hother (by rfl)

end ClusterMatrix.Workflow
