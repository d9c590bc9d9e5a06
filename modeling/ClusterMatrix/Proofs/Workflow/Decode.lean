import ClusterMatrix.Workflow.Session
import ClusterMatrix.Proofs.Workflow.Lines
import ClusterMatrix.Proofs.Workflow.Output

/-!
# Reading an output file back

Whatever a session does, its output file only grows at the end. Setting an output appends one record, and no other call
appends anything. A file that reads as some records still does with a record behind it, so that a session's file reads
as the records that it began with and those of its outputs, in the order of the calls.

What a name may hold depends on how its end is found in the first line of a record. Where the longest name counts, it
may end in `<`; where the first `<<` counts, it may not.
-/

namespace ClusterMatrix.Workflow

namespace Record

variable {header : HeaderReader} {name delimiter : List Char} {rs qs : List Record}

/-! ## First lines -/

/-- A name that a first line can hold: it is on one line and holds neither `=` nor `<<`. -/
structure IsName (name : List Char) : Prop where
  newline : '\n' ∉ name
  equals : '=' ∉ name
  mark : ¬ ['<', '<'] <:+: name

theorem IsName.of_cons {c : Char} (h : IsName (c :: name)) : c ≠ '=' ∧ IsName name := by
  refine ⟨fun hc ↦ h.equals (hc ▸ List.mem_cons_self), ?_, ?_, ?_⟩
  · exact fun hm ↦ h.newline (List.mem_cons_of_mem c hm)
  · exact fun hm ↦ h.equals (List.mem_cons_of_mem c hm)
  · exact fun hm ↦ h.mark (hm.trans (List.suffix_cons c name).isInfix)

/-- No second sign follows a sign inside of a name. -/
theorem IsName.head?_append_ne (h : IsName ('<' :: name)) (hne : name ≠ []) (s : List Char) :
    (name ++ s).head? ≠ some '<' := by
  cases name with
  | nil => exact absurd rfl hne
  | cons d name =>
    rw [List.cons_append, List.head?_cons, ne_eq, Option.some.injEq]
    rintro rfl
    exact h.mark (List.prefix_append ['<', '<'] name).isInfix

theorem header?_cons {c : Char} {s : List Char} (hc : c ≠ '=') (hs : c = '<' → s.head? ≠ some '<') :
    header? (c :: s) = (header? s).map fun p ↦ (c :: p.1, p.2) := by
  rw [header?, if_neg hc]
  · rintro r rfl rfl
    exact hs rfl rfl
  · rintro r rfl rfl
    exact hs rfl rfl

/-- The longest name is the one that was written, if the delimiter does not begin with `<`. -/
theorem header?_append (hn : IsName name) (hd : delimiter.head? ≠ some '<') :
    header? (name ++ '<' :: '<' :: delimiter) = some (name, delimiter) := by
  induction name with
  | nil =>
    rw [List.nil_append, header?]
    rintro r rfl
    exact hd rfl
  | cons c name ih =>
    obtain ⟨hc, hn'⟩ := hn.of_cons
    by_cases hlast : c = '<' ∧ name = []
    · obtain ⟨rfl, rfl⟩ := hlast
      rfl
    · rw [List.cons_append, header?_cons hc, ih hn', Option.map_some]
      rintro rfl
      exact hn.head?_append_ne (fun hnil ↦ hlast ⟨rfl, hnil⟩) _

theorem shortHeader?_cons {c : Char} {s : List Char} (hc : c ≠ '=') (hs : c = '<' → s.head? ≠ some '<') :
    shortHeader? (c :: s) = (shortHeader? s).map fun p ↦ (c :: p.1, p.2) := by
  rw [shortHeader?, if_neg hc]
  rintro r rfl rfl
  exact hs rfl rfl

/-- The first `<<` ends the name that was written, if the name does not end in `<`. -/
theorem shortHeader?_append (hn : IsName name) (hl : name.getLast? ≠ some '<') (delimiter : List Char) :
    shortHeader? (name ++ '<' :: '<' :: delimiter) = some (name, delimiter) := by
  induction name with
  | nil => rfl
  | cons c name ih =>
    obtain ⟨hc, hn'⟩ := hn.of_cons
    have hne : c = '<' → name ≠ [] := by
      rintro rfl rfl
      exact hl rfl
    have hl' : name.getLast? ≠ some '<' := by
      cases name with
      | nil => nofun
      | cons d name => rwa [List.getLast?_cons_cons] at hl
    rw [List.cons_append, shortHeader?_cons hc, ih hn' hl', Option.map_some]
    rintro rfl
    exact hn.head?_append_ne (hne rfl) _

/-! ## Records -/

mutual

/-- Lines that read as records can stand in front of others. -/
theorem ofLines?_append (header : HeaderReader) {rs : List Record} :
    ∀ {ls : List (List Char)}, ofLines? header ls = some rs → ∀ ms : List (List Char),
      ofLines? header (ls ++ ms) = (ofLines? header ms).map (rs ++ ·)
  | [], h, ms => by
    rw [ofLines?, Option.some.injEq] at h
    subst h
    simp only [List.nil_append, Option.map_id']
  | l :: ls, h, ms => by
    rw [ofLines?] at h
    rw [List.cons_append, ofLines?]
    cases hl : header l with
    | none =>
      rw [hl] at h
      cases h
    | some p =>
      rw [hl] at h
      exact within?_append header h ms

theorem within?_append (header : HeaderReader) {name delimiter : List Char} {value : List (List Char)}
    {rs : List Record} :
    ∀ {ls : List (List Char)}, within? header name delimiter value ls = some rs → ∀ ms : List (List Char),
      within? header name delimiter value (ls ++ ms) = (ofLines? header ms).map (rs ++ ·)
  | [], h, _ => by
    rw [within?] at h
    cases h
  | l :: ls, h, ms => by
    rw [within?] at h
    rw [List.cons_append, within?]
    by_cases hl : l = delimiter
    · rw [if_pos hl, Option.map_eq_some_iff] at h
      obtain ⟨qs, hqs, rfl⟩ := h
      rw [if_pos hl, ofLines?_append header hqs, Option.map_map]
      rfl
    · rw [if_neg hl] at h
      rw [if_neg hl]
      exact within?_append header h ms

end

/-- Reading on inside a record takes the lines up to the delimiter. -/
theorem within?_append_cons {value vs : List (List Char)} (hv : delimiter ∉ vs) (ls : List (List Char)) :
    within? header name delimiter value (vs ++ delimiter :: ls) =
      (ofLines? header ls).map
        (⟨String.ofList name, String.ofList (Text.joinWith '\n' (value ++ vs))⟩ :: ·) := by
  induction vs generalizing value with
  | nil => rw [List.nil_append, within?, if_pos rfl, List.append_nil]
  | cons v vs ih =>
    rw [List.mem_cons, not_or] at hv
    rw [List.cons_append, within?, if_neg (Ne.symm hv.1), ih hv.2, List.append_assoc, List.singleton_append]

/-! ## Files -/

theorem lines?_eq_some_iff {s : List Char} {ls : List (List Char)} :
    lines? s = some ls ↔ Text.splitOn '\n' s = ls ++ [[]] := by
  rw [lines?]
  constructor
  · intro h
    split at h
    · rename_i hl
      obtain ⟨ms, hms⟩ := List.getLast?_eq_some_iff.1 hl
      rw [hms, List.dropLast_concat, Option.some.injEq] at h
      rw [hms, h]
    · cases h
  · intro h
    rw [h, List.getLast?_concat, if_pos rfl, List.dropLast_concat]

theorem decode?_eq_some_iff {s : List Char} :
    decode? header s = some rs ↔ ∃ ls, Text.splitOn '\n' s = ls ++ [[]] ∧ ofLines? header ls = some rs := by
  simp only [decode?, Option.bind_eq_some_iff, lines?_eq_some_iff]

/-- A file behind a file reads as the records of both. -/
theorem decode?_append {s t : List Char} (hs : decode? header s = some rs) (ht : decode? header t = some qs) :
    decode? header (s ++ t) = some (rs ++ qs) := by
  obtain ⟨ls, hls, hrs⟩ := decode?_eq_some_iff.1 hs
  obtain ⟨ms, hms, hqs⟩ := decode?_eq_some_iff.1 ht
  refine decode?_eq_some_iff.2 ⟨ls ++ ms, ?_, ?_⟩
  · rw [Text.splitOn_append_of_eq_concat hls, hms, List.append_assoc]
  · rw [ofLines?_append header hrs, hqs, Option.map_some]

theorem decode?_nil : decode? header [] = some [] := rfl

/-- What a record asks of its identifier: the delimiter is on one line, and no line of the value. -/
structure Fits (r : Record) (id : String) : Prop where
  name : IsName r.name.toList
  line : '\n' ∉ id.toList
  value : (Workflow.delimiter id).toList ∉ Text.splitOn '\n' r.value.toList

theorem newline_not_mem_delimiter {id : String} (h : '\n' ∉ id.toList) :
    '\n' ∉ (Workflow.delimiter id).toList := by
  rw [Workflow.delimiter, String.toList_append, List.mem_append, not_or]
  exact ⟨by decide, h⟩

/-- The text of a record reads as the record, if its first line does. -/
theorem decode?_text {r : Record} {id : String} (h : r.Fits id)
    (hh : header (r.name.toList ++ '<' :: '<' :: (Workflow.delimiter id).toList) =
      some (r.name.toList, (Workflow.delimiter id).toList)) :
    decode? header (r.text (Workflow.delimiter id)) = some [r] := by
  have hd := newline_not_mem_delimiter h.line
  have hfirst : '\n' ∉ r.name.toList ++ '<' :: '<' :: (Workflow.delimiter id).toList := by
    simp only [List.mem_append, List.mem_cons, not_or]
    exact ⟨h.name.newline, by decide, by decide, hd⟩
  refine decode?_eq_some_iff.2
    ⟨(r.name.toList ++ '<' :: '<' :: (Workflow.delimiter id).toList) ::
      (Text.splitOn '\n' r.value.toList ++ [(Workflow.delimiter id).toList]), ?_, ?_⟩
  · rw [text, Text.splitOn_append_cons hfirst, Text.splitOn_append_sep, Text.splitOn_append_cons hd,
      Text.splitOn_nil, List.cons_append, List.append_assoc]
    rfl
  · rw [ofLines?, hh]
    change within? header r.name.toList _ [] _ = _
    rw [within?_append_cons h.value, ofLines?, Option.map_some, List.nil_append, Text.joinWith_splitOn,
      String.ofList_toList, String.ofList_toList]

end Record

/-! ## Calls -/

namespace Disk

theorem enter_withContent (d : Disk) (content : Option String) (absolute : Bool) (here names : List (List Char)) :
    ({ d with content } : Disk).enter absolute here names = d.enter absolute here names := by
  induction names generalizing here with
  | nil => rfl
  | cons name names ih => simp only [enter, ih]

/-- Where a path leads does not hang on what the watched file holds. -/
theorem place_withContent (d : Disk) (content : Option String) (path : String) :
    ({ d with content } : Disk).place path = d.place path := by
  simp only [place, enter_withContent]

/-- What the watched file holds. -/
def text (d : Disk) : List Char := (d.content.getD "").toList

theorem text_extended_path (d : Disk) (t : List Char) : (d.extended d.path t).text = d.text ++ t := by
  rw [extended_path, text, Option.getD_some, String.toList_append, String.toList_ofList, text]

/-- The watched file only grows at its end. -/
theorem text_prefix_extended (d : Disk) (place : String) (t : List Char) :
    d.text <+: (d.extended place t).text := by
  by_cases hp : place = d.path
  · rw [hp, text_extended_path]
    exact List.prefix_append d.text t
  · simp only [extended_of_ne hp, List.prefix_refl]

end Disk

/-- What a call appends to the file that takes the outputs. -/
def Call.appended (id : String) : Call → List Char
  | .setOutput r => r.text (delimiter id)
  | _ => []

/-- The record that a call sets as an output. -/
def Call.record? : Call → Option Record
  | .setOutput r => some r
  | _ => none

namespace Session

/-- The outputs of a session go to the watched file. -/
def IsWatched (s : Session) : Prop :=
  ∃ path, outputPath? s.environment = some path ∧ s.disk.place path = .ok s.disk.path

variable {s : Session}

theorem environment_call (s : Session) (id : String) (c : Call) : (s.call id c).1.environment = s.environment := by
  cases c with
  | setOutput r =>
    rw [call]
    cases setOutput r id s.environment s.disk <;> rfl
  | setRagged =>
    rw [call]
    cases openOutput s.environment s.disk <;> rfl
  | _ => rfl

/-- Whatever the call, the watched file only grows at its end. -/
theorem text_prefix_call (s : Session) (id : String) (c : Call) : s.disk.text <+: (s.call id c).1.disk.text := by
  cases c with
  | setOutput r =>
    rw [call]
    cases h : setOutput r id s.environment s.disk with
    | error f => exact List.prefix_refl _
    | ok p =>
      obtain ⟨d, written⟩ := p
      rcases setOutput_eq_ok_iff.1 h with ⟨_, place, -, -, rfl, -⟩ | ⟨-, rfl, -⟩
      · exact s.disk.text_prefix_extended place _
      · exact List.prefix_refl _
  | setRagged =>
    rw [call, openOutput]
    cases outputPath? s.environment with
    | none => exact List.prefix_refl _
    | some path =>
      dsimp only
      cases h : s.disk.append path [] with
      | error f => exact List.prefix_refl _
      | ok d =>
        obtain ⟨place, -, rfl⟩ := Disk.append_eq_ok_iff.1 h
        exact s.disk.text_prefix_extended place []
  | _ => exact List.prefix_refl _

/-- A text is written behind what the watched file holds. -/
def write (s : Session) (t : List Char) : Session := { s with disk := s.disk.extended s.disk.path t }

theorem text_write (s : Session) (t : List Char) : (s.write t).disk.text = s.disk.text ++ t :=
  s.disk.text_extended_path t

theorem IsWatched.write (h : s.IsWatched) (t : List Char) : (s.write t).IsWatched := by
  obtain ⟨path, hp, hl⟩ := h
  refine ⟨path, hp, ?_⟩
  rw [Session.write, Disk.extended_path, Disk.place_withContent]
  exact hl

/-- A call that writes to the watched file appends its record, and every other call leaves the session alone. -/
theorem call_eq_write (h : s.IsWatched) (id : String) (c : Call) :
    (s.call id c).1 = s.write (c.appended id) ∨ (s.call id c).1 = s ∧ c.appended id = [] := by
  obtain ⟨path, hp, hl⟩ := h
  cases c with
  | setOutput r =>
    have hset : setOutput r id s.environment s.disk =
        .ok (s.disk.extended s.disk.path (r.text (delimiter id)), []) :=
      setOutput_eq_ok_iff.2 (.inl ⟨path, s.disk.path, hp, hl, rfl, rfl⟩)
    left
    rw [call, hset]
    rfl
  | setRagged =>
    have hopen : openOutput s.environment s.disk = .ok (s.disk.extended s.disk.path []) := by
      rw [openOutput, hp]
      exact Disk.append_eq_ok_iff.2 ⟨s.disk.path, hl, rfl⟩
    left
    rw [call, hopen]
    rfl
  | _ => exact .inr ⟨rfl, rfl⟩

/-- Where the outputs go to the watched file, they still do after a call, and the call appends its record. -/
theorem IsWatched.call (h : s.IsWatched) (id : String) (c : Call) :
    (s.call id c).1.IsWatched ∧ (s.call id c).1.disk.text = s.disk.text ++ c.appended id := by
  rcases call_eq_write h id c with hw | ⟨hs, ha⟩
  · rw [hw]
    exact ⟨h.write _, s.text_write _⟩
  · rw [hs, ha, List.append_nil]
    exact ⟨h, rfl⟩

/-! ## Runs -/

theorem run_cons (s : Session) (id : String) (c : Call) (cs : List (String × Call)) :
    s.run ((id, c) :: cs) =
      (((s.call id c).1.run cs).1, (s.call id c).2.2 ++ ((s.call id c).1.run cs).2) := rfl

theorem run_append (s : Session) (earlier later : List (String × Call)) :
    s.run (earlier ++ later) =
      (((s.run earlier).1.run later).1, (s.run earlier).2 ++ ((s.run earlier).1.run later).2) := by
  induction earlier generalizing s with
  | nil => rfl
  | cons c cs ih =>
    obtain ⟨id, c⟩ := c
    rw [List.cons_append, run_cons, ih, run_cons, List.append_assoc]

theorem text_prefix_run (s : Session) (cs : List (String × Call)) : s.disk.text <+: (s.run cs).1.disk.text := by
  induction cs generalizing s with
  | nil => exact List.prefix_refl _
  | cons c cs ih =>
    obtain ⟨id, c⟩ := c
    rw [run_cons]
    exact (s.text_prefix_call id c).trans (ih _)

/-- All that some calls append. -/
theorem text_run (h : s.IsWatched) (cs : List (String × Call)) :
    (s.run cs).1.disk.text = s.disk.text ++ cs.flatMap fun c ↦ c.2.appended c.1 := by
  induction cs generalizing s with
  | nil =>
    rw [List.flatMap_nil, List.append_nil]
    rfl
  | cons c cs ih =>
    obtain ⟨id, c⟩ := c
    obtain ⟨hw, ht⟩ := h.call id c
    rw [run_cons, ih hw, ht, List.append_assoc, List.flatMap_cons]

/-- The records that some calls set as outputs. -/
def records (cs : List (String × Call)) : List Record := cs.filterMap fun c ↦ c.2.record?

/-- The header reader finds name and delimiter in the first lines of all records of some calls. -/
def Reads (header : Record.HeaderReader) (cs : List (String × Call)) : Prop :=
  ∀ id r, (id, Call.setOutput r) ∈ cs →
    header (r.name.toList ++ '<' :: '<' :: (delimiter id).toList) = some (r.name.toList, (delimiter id).toList)

/-- What some calls append reads as their records. -/
theorem decode?_appended {header : Record.HeaderReader} {cs : List (String × Call)}
    (hf : ∀ id r, (id, Call.setOutput r) ∈ cs → r.Fits id) (hh : Reads header cs) :
    Record.decode? header (cs.flatMap fun c ↦ c.2.appended c.1) = some (records cs) := by
  induction cs with
  | nil => exact Record.decode?_nil
  | cons c cs ih =>
    obtain ⟨id, c⟩ := c
    have hcs := ih (fun id r hm ↦ hf id r (List.mem_cons_of_mem _ hm))
      (fun id r hm ↦ hh id r (List.mem_cons_of_mem _ hm))
    rw [List.flatMap_cons, records, List.filterMap_cons]
    cases c with
    | setOutput r =>
      have hr := Record.decode?_text (hf id r List.mem_cons_self) (hh id r List.mem_cons_self)
      exact Record.decode?_append hr hcs
    | _ => exact hcs

/-- A file that reads as some records reads as these and the outputs of the calls afterwards. -/
theorem decode?_run_of_reads {header : Record.HeaderReader} {cs : List (String × Call)} {rs : List Record}
    (hw : s.IsWatched) (hf : ∀ id r, (id, Call.setOutput r) ∈ cs → r.Fits id) (hh : Reads header cs)
    (hs : Record.decode? header s.disk.text = some rs) :
    Record.decode? header (s.run cs).1.disk.text = some (rs ++ records cs) := by
  rw [text_run hw]
  exact Record.decode?_append hs (decode?_appended hf hh)

theorem head?_delimiter_ne (id : String) : (delimiter id).toList.head? ≠ some '<' := by
  rw [delimiter, String.toList_append]
  exact nofun

/-- The output file of a session only grows at its end. If it reads as some records at first, and the records that are
set fit their identifiers, then it reads as those records and the ones that were set, in the order of the calls.

Here the longest name in a first line counts, so a name may end in `<`. For a reader that ends a name at the first `<<`,
as the tests of the commands do, `decode?_run_of_shortHeader` is what holds. -/
theorem decode?_run (s : Session) (cs : List (String × Call)) (hw : s.IsWatched) :
    (∀ earlier later, cs = earlier ++ later → (s.run earlier).1.disk.text <+: (s.run cs).1.disk.text) ∧
      ∀ rs, Record.decode? Record.header? s.disk.text = some rs →
        (∀ id r, (id, Call.setOutput r) ∈ cs → r.Fits id) →
          Record.decode? Record.header? (s.run cs).1.disk.text = some (rs ++ records cs) := by
  constructor
  · rintro earlier later rfl
    rw [run_append]
    exact (s.run earlier).1.text_prefix_run later
  · intro rs hs hf
    apply decode?_run_of_reads hw hf _ hs
    intro id r hm
    exact Record.header?_append (hf id r hm).name (head?_delimiter_ne id)

/-- A session whose output file already holds a record. -/
def filedSession : Session := ⟨⟨[("GITHUB_OUTPUT", "/output")]⟩, ⟨"/output", some "a<<X\n1\n\nX\n", [], []⟩⟩

/-- The first value looks like the end of its record and the beginning of another one. -/
def filedCalls : List (String × Call) :=
  [("1", .setOutput ⟨"b<", "v\n<ghadelimiter_1\nc<<ghadelimiter_1"⟩), ("2", .setFailed "lost"),
    ("3", .setOutput ⟨"c", ""⟩), ("4", .getInput "b"), ("5", .setOutput ⟨"b<", "\n"⟩), ("6", .isActive)]

theorem fits_filedCalls : ∀ id r, (id, Call.setOutput r) ∈ filedCalls → r.Fits id := by
  intro id r hm
  simp only [filedCalls, List.mem_cons, Prod.mk.injEq, Call.setOutput.injEq, reduceCtorEq, and_false, false_or,
    List.not_mem_nil, or_false] at hm
  rcases hm with ⟨rfl, rfl⟩ | ⟨rfl, rfl⟩ | ⟨rfl, rfl⟩
  · exact ⟨⟨by decide, by decide, by decide⟩, by decide, by decide⟩
  · exact ⟨⟨by decide, by decide, by decide⟩, by decide, by decide⟩
  · exact ⟨⟨by decide, by decide, by decide⟩, by decide, by decide⟩

theorem decode?_run_filedCalls :
    filedSession.IsWatched ∧ Record.decode? Record.header? filedSession.disk.text = some [⟨"a", "1\n"⟩] ∧
      (∀ id r, (id, Call.setOutput r) ∈ filedCalls → r.Fits id) ∧
      Record.decode? Record.header? (filedSession.run filedCalls).1.disk.text =
        some [⟨"a", "1\n"⟩, ⟨"b<", "v\n<ghadelimiter_1\nc<<ghadelimiter_1"⟩, ⟨"c", ""⟩, ⟨"b<", "\n"⟩] := by
  have hw : filedSession.IsWatched := ⟨"/output", rfl, rfl⟩
  have hs : Record.decode? Record.header? filedSession.disk.text = some [⟨"a", "1\n"⟩] := by decide
  exact ⟨hw, hs, fits_filedCalls, (decode?_run filedSession filedCalls hw).2 _ hs fits_filedCalls⟩

/-- Where the first `<<` ends a name, the same holds of records whose names do not end in `<`. -/
theorem decode?_run_of_shortHeader {cs : List (String × Call)} {rs : List Record} (hw : s.IsWatched)
    (hf : ∀ id r, (id, Call.setOutput r) ∈ cs → r.Fits id ∧ r.name.toList.getLast? ≠ some '<')
    (hs : Record.decode? Record.shortHeader? s.disk.text = some rs) :
    Record.decode? Record.shortHeader? (s.run cs).1.disk.text = some (rs ++ records cs) := by
  apply decode?_run_of_reads hw (fun id r hm ↦ (hf id r hm).1) _ hs
  intro id r hm
  exact Record.shortHeader?_append (hf id r hm).1.name (hf id r hm).2 _

end Session

end ClusterMatrix.Workflow
