import Mathlib.Data.List.TakeWhile
import ClusterMatrix.Options

/-!
# The option for the distributions

Two command lines that differ in the text for the distributions alone are read alike: both are misused, or they ask for
two jobs that differ in that text alone. The reader looks at the text only to tell that it is no option.
-/

namespace ClusterMatrix

namespace Options

variable {text text' flag name value : String} {g : Given} {o o' : Option Given}

/-- The options with a text for the distributions. -/
def Given.including (text : String) (g : Given) : Given := { g with distributions := some text }

/-- Two readings that both fail, or differ in the text for the distributions alone. -/
def Alike (text text' : String) (o o' : Option Given) : Prop :=
  ∃ p : Option Given, o = p.map (Given.including text) ∧ o' = p.map (Given.including text')

theorem Alike.none : Alike text text' none none := ⟨Option.none, rfl, rfl⟩

theorem Alike.some (g : Given) : Alike text text' (some (g.including text)) (some (g.including text')) :=
  ⟨Option.some g, rfl, rfl⟩

/-- Readings that are alike go on alike. -/
theorem Alike.next (k : Given → Option Given)
    (hk : ∀ g : Given, Alike text text' (k (g.including text)) (k (g.including text'))) :
    Alike text text' o o' →
      Alike text text' (match o with | Option.some g => k g | Option.none => Option.none)
        (match o' with | Option.some g => k g | Option.none => Option.none) := by
  rintro ⟨p, rfl, rfl⟩
  cases p with
  | none => exact .none
  | some g => exact hk g

/-! ## One option -/

/-- What is not the text is set alike. -/
theorem alike_once {A : Type} (put : Option A → Given → Given) (value : A) (old : Option A) (g : Given)
    (h : ∀ v t, put v (g.including t) = (put v g).including t) :
    Alike text text' (((once value old).bind fun a ↦ Option.some (Option.some a)).map (put · (g.including text)))
      (((once value old).bind fun a ↦ Option.some (Option.some a)).map (put · (g.including text'))) := by
  cases old with
  | none => refine ⟨Option.some (put (Option.some value) g), ?_, ?_⟩ <;> simp [once, h]
  | some v => exact .none

/-- The text is given already, so it cannot be given again. -/
theorem alike_put (text text' value : String) (g : Given) (k : Key) :
    Alike text text' ((g.including text).put value k) ((g.including text').put value k) := by
  cases k with
  | token => exact alike_once (fun v g ↦ { g with token := v }) value g.token g fun _ _ ↦ rfl
  | distributions => exact .none
  | endpoint => exact alike_once (fun v g ↦ { g with endpoint := v }) value g.endpoint g fun _ _ ↦ rfl
  | format =>
    rw [Given.put, Given.put]
    cases readFormat? value with
    | none => exact .none
    | some f => exact alike_once (fun v g ↦ { g with format := v }) f g.format g fun _ _ ↦ rfl

theorem alike_raise (text text' : String) (b : Bool) (g : Given) :
    Alike text text' ((g.including text).raise b) ((g.including text').raise b) :=
  alike_once (fun v g ↦ { g with flag := v }) b g.flag g fun _ _ ↦ rfl

theorem alike_readAssigned (text text' flag name value : String) (g : Given) :
    Alike text text' (readAssigned flag name value (g.including text))
      (readAssigned flag name value (g.including text')) := by
  rw [readAssigned, readAssigned]
  cases key? name with
  | some k => exact alike_put text text' value g k
  | none =>
    cases flag? flag name with
    | none => exact .none
    | some sense =>
      cases readBool? value with
      | none => exact .none
      | some b => exact alike_raise text text' _ g

/-! ## All options -/

/-- The option that gives the text. -/
def distributionsOption : String := "--include-distributions"

variable {before behind : List String}

/-- Behind the text, reading goes on alike. -/
theorem alike_read (text text' flag : String) : ∀ (l : List String) (g : Given),
    Alike text text' (read flag (g.including text) l) (read flag (g.including text') l)
  | [], g => .some g
  | argument :: rest, g => by
    rw [read.eq_def, read.eq_def]
    dsimp only
    rcases cutValue argument with ⟨name, value | value⟩
    · dsimp only
      cases key? name with
      | some k =>
        cases rest with
        | nil => exact .none
        | cons value rest =>
          dsimp only
          split
          · exact .none
          · exact .next (read flag · rest) (alike_read text text' flag rest) (alike_put text text' value g k)
      | none =>
        dsimp only
        cases flag? flag name with
        | none => exact .none
        | some sense => exact .next (read flag · rest) (alike_read text text' flag rest) (alike_raise text text' sense g)
    · exact .next (read flag · rest) (alike_read text text' flag rest) (alike_readAssigned text text' flag name value g)

/-- Wherever the option stands among the arguments, they are read alike: it gives the text, or it stands where it cannot
stand. -/
theorem alike_read_append (ht : isOption text.toList = false) (ht' : isOption text'.toList = false) (flag : String)
    (behind : List String) : ∀ (before : List String) (g : Given),
    Alike text text' (read flag g (before ++ distributionsOption :: text :: behind))
      (read flag g (before ++ distributionsOption :: text' :: behind))
  | [], g => by
    have hcut : cutValue distributionsOption = (distributionsOption, none) := by decide +kernel
    have hkey : key? distributionsOption = some .distributions := by decide +kernel
    simp only [List.nil_append, read, hcut, hkey, ht, ht', Bool.false_eq_true, if_false, Given.put]
    cases g.distributions with
    | none => exact alike_read text text' flag behind g
    | some t => exact .none
  | argument :: before, g => by
    rw [List.cons_append, List.cons_append, read.eq_def, read.eq_def flag g (argument :: _)]
    dsimp only
    rcases cutValue argument with ⟨name, value | value⟩
    · dsimp only
      cases key? name with
      | some k =>
        cases before with
        | nil =>
          have hopt : isOption distributionsOption.toList = true := by decide +kernel
          simp only [List.nil_append, hopt, if_true]
          exact .none
        | cons value before =>
          rw [List.cons_append, List.cons_append]
          dsimp only
          split
          · exact .none
          · cases g.put value k with
            | none => exact .none
            | some g => exact alike_read_append ht ht' flag behind before g
      | none =>
        dsimp only
        cases flag? flag name with
        | none => exact .none
        | some sense =>
          dsimp only
          cases g.raise sense with
          | none => exact .none
          | some g => exact alike_read_append ht ht' flag behind before g
    · dsimp only
      cases readAssigned flag name value g with
      | none => exact .none
      | some g => exact alike_read_append ht ht' flag behind before g

/-- An argument that ends the options may have nothing behind it. -/
theorem alike_readAll (ht : isOption text.toList = false) (ht' : isOption text'.toList = false) (flag : String)
    (before behind : List String) :
    Alike text text' (readAll flag (before ++ distributionsOption :: text :: behind))
      (readAll flag (before ++ distributionsOption :: text' :: behind)) := by
  have hend : ∀ t : String, isOption t.toList = false → t ≠ "--" := by
    rintro t h rfl
    exact absurd h (by decide +kernel)
  have hopt : distributionsOption ≠ "--" := by decide
  rw [readAll, readAll, List.dropWhile_append, List.dropWhile_append]
  cases hd : before.dropWhile (· ≠ "--") with
  | nil =>
    have hall := List.dropWhile_eq_nil_iff.1 hd
    have htake : ∀ t : String, t ≠ "--" → (before ++ distributionsOption :: t :: behind).takeWhile (· ≠ "--") =
        before ++ distributionsOption :: t :: behind.takeWhile (· ≠ "--") := by
      intro t h
      rw [List.takeWhile_append_of_pos hall, List.takeWhile_cons_of_pos (by simpa using hopt),
        List.takeWhile_cons_of_pos (by simpa using h)]
    have hdrop : ∀ t : String, t ≠ "--" →
        (distributionsOption :: t :: behind).dropWhile (· ≠ "--") = behind.dropWhile (· ≠ "--") := by
      intro t h
      rw [List.dropWhile_cons_of_pos (by simpa using hopt), List.dropWhile_cons_of_pos (by simpa using h)]
    rw [htake text (hend text ht), htake text' (hend text' ht'), hdrop text (hend text ht),
      hdrop text' (hend text' ht')]
    simp only [List.isEmpty_nil, if_true]
    split
    · exact .none
    · exact alike_read_append ht ht' flag _ before .nothing
  | cons e rest =>
    simp only [List.isEmpty_cons, Bool.false_eq_true, if_false, List.cons_append]
    cases rest with
    | nil => exact .none
    | cons a rest => exact .none

end Options

/-- The job with a text for the distributions. -/
def Job.including (text : String) : Job → Job
  | .matrix options verbose => .matrix { options with distributions := some text } verbose
  | .versions options latest => .versions { options with distributions := some text } latest

namespace Options

variable {text text' : String}

/-- Readings that are alike ask for jobs that differ in the text alone. -/
theorem Alike.exists_job (job : Given → Job) (hjob : ∀ t g, job (g.including t) = (job g).including t)
    {o o' : Option Given} (h : Alike text text' o o') :
    ∃ p : Option Job, o.map job = p.map (Job.including text) ∧ o'.map job = p.map (Job.including text') := by
  obtain ⟨p, rfl, rfl⟩ := h
  refine ⟨p.map job, ?_, ?_⟩
  · cases p <;> simp [hjob]
  · cases p <;> simp [hjob]

/-- Two command lines that differ in the text for the distributions alone are both misused, or ask for two jobs that
differ in that text alone. -/
theorem exists_ofArguments?_eq (ht : isOption text.toList = false) (ht' : isOption text'.toList = false)
    (before behind : List String) :
    ∃ p : Option Job,
      Job.ofArguments? (before ++ distributionsOption :: text :: behind) = p.map (Job.including text) ∧
        Job.ofArguments? (before ++ distributionsOption :: text' :: behind) = p.map (Job.including text') := by
  have hmatrix := fun before ↦ (alike_readAll ht ht' "verbose" before behind).exists_job
    (fun g ↦ .matrix (g.options .json) (g.flag.getD false)) fun _ _ ↦ rfl
  have hversions := fun before ↦ (alike_readAll ht ht' "latest" before behind).exists_job
    (fun g ↦ .versions (g.options .table) (g.flag.getD false)) fun _ _ ↦ rfl
  cases before with
  | nil =>
    have hname : distributionsOption ≠ "matrix" ∧ distributionsOption ≠ "versions" := by decide
    simp only [List.nil_append, Job.ofArguments?, if_neg hname.1, if_neg hname.2]
    exact hmatrix []
  | cons name before =>
    simp only [List.cons_append, Job.ofArguments?]
    split
    · exact hmatrix before
    · split
      · exact hversions before
      · exact hmatrix (name :: before)

end Options

end ClusterMatrix
