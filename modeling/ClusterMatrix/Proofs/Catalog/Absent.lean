import ClusterMatrix.Proofs.Catalog.Offence
import ClusterMatrix.Proofs.Catalog.Restrict

/-!
# Absent names

The names that a catalog lacks are a part of the allow list, in its order. They are told by the set of names in the
catalog: neither the order of the entries nor how often one of them comes has a part in it, and neither has any other
field.
-/

namespace ClusterMatrix.Catalog

variable {allow : AllowList} {es es' catalog listed : List Json}

/-- An object whose name can be looked up. -/
def IsNameable (e : Json) : Prop := ∃ n, e.get? "short_name" = some n ∧ isName n = true

theorem exists_name_iff {e : Json} : (∃ n, name e = .ok n) ↔ IsNameable e := by
  simp only [name_eq_ok_iff, IsNameable]

/-- The names that are listed are those of the entries. -/
theorem mem_names_iff (h : names es = .ok listed) (n : Json) : n ∈ listed ↔ ∃ e ∈ es, name e = .ok n := by
  have hnames := names_eq_ok_iff.1 h
  constructor
  · intro hn
    obtain ⟨e, he, hname⟩ := exists_mem_of_forall₂ hnames.flip n hn
    exact ⟨e, he, hname⟩
  · rintro ⟨e, he, hname⟩
    obtain ⟨m, hm, hname'⟩ := exists_mem_of_forall₂ hnames e he
    rw [hname] at hname'
    cases hname'
    exact hm

/-- A text is listed just if it stands in the field of an entry. -/
theorem ofText_mem_names_iff (h : names es = .ok listed) (n : Text) :
    .ofText n ∈ listed ↔ ∃ e ∈ es, e.get? "short_name" = some (.ofText n) := by
  simp [mem_names_iff h, name_eq_ok_iff]

/-- Of entries that can be named, the names alone tell which allowed ones are absent. -/
theorem exists_missing_of_isNameable (allow : AllowList) (h : ∀ e ∈ es, IsNameable e) :
    ∃ absent, missing allow es = .ok absent ∧ absent.Pairwise (· < ·) ∧
      ∀ n, n ∈ absent ↔ n ∈ allow ∧ ∀ e ∈ es, e.get? "short_name" ≠ some (.ofText n) := by
  obtain ⟨listed, hl⟩ := exists_names_of_forall fun e he ↦ exists_name_iff.2 (h e he)
  refine ⟨allow.names.filter fun n ↦ .ofText n ∉ listed, ?_, allow.ascending.filter _, fun n ↦ ?_⟩
  · rw [missing, hl]
  · simp [ofText_mem_names_iff hl, AllowList.mem_iff]

/-- Two catalogs with the same names lack the same ones. -/
theorem missing_congr (h : ∀ e ∈ es, IsNameable e) (h' : ∀ e ∈ es', IsNameable e)
    (hsame : ∀ n : Text, (∃ e ∈ es, e.get? "short_name" = some (.ofText n)) ↔
      ∃ e ∈ es', e.get? "short_name" = some (.ofText n)) :
    missing allow es = missing allow es' := by
  obtain ⟨absent, hm, ha, hmem⟩ := exists_missing_of_isNameable allow h
  obtain ⟨absent', hm', ha', hmem'⟩ := exists_missing_of_isNameable allow h'
  have heq : absent = absent' := by
    apply AllowList.eq_of_mem_iff ha ha'
    intro n
    have hn := not_congr (hsame n)
    push Not at hn
    rw [hmem, hmem', hn]
  rw [hm, hm', heq]

/-- The names that an allow list has and a catalog lacks: they are in ascending order, so none of them comes twice, and
they stay the same if the entries change places, are repeated, or change in all but their names. -/
structure Lacks (allow : AllowList) (catalog : List Json) (absent : List Text) : Prop where
  ascending : absent.Pairwise (· < ·)
  mem_iff : ∀ n, n ∈ absent ↔ n ∈ allow ∧ ∀ e ∈ catalog, e.get? "short_name" ≠ some (.ofText n)
  permuted : ∀ es, catalog.Perm es → missing allow es = .ok absent
  repeated : ∀ es, (∀ e, e ∈ es ↔ e ∈ catalog) → missing allow es = .ok absent
  refilled : ∀ es, List.Forall₂ (fun e e' ↦ e.get? "short_name" = e'.get? "short_name") catalog es →
    missing allow es = .ok absent

theorem missing_of_mem_iff (h : ∀ e ∈ es, IsNameable e) (hmem : ∀ e, e ∈ es' ↔ e ∈ es) :
    missing allow es' = missing allow es :=
  missing_congr (fun e he ↦ h e ((hmem e).1 he)) h fun n ↦ by simp only [hmem]

/-- Fields other than the name have no part in it. -/
theorem missing_of_forall₂ (h : ∀ e ∈ es, IsNameable e)
    (hf : List.Forall₂ (fun e e' ↦ e.get? "short_name" = e'.get? "short_name") es es') :
    missing allow es' = missing allow es := by
  refine missing_congr (fun e' he' ↦ ?_) h fun n ↦ ⟨?_, ?_⟩
  · obtain ⟨e, he, hname⟩ := exists_mem_of_forall₂ hf.flip e' he'
    rw [IsNameable, ← hname]
    exact h e he
  · rintro ⟨e', he', hn⟩
    obtain ⟨e, he, hname⟩ := exists_mem_of_forall₂ hf.flip e' he'
    exact ⟨e, he, hname.trans hn⟩
  · rintro ⟨e, he, hn⟩
    obtain ⟨e', he', hname⟩ := exists_mem_of_forall₂ hf e he
    exact ⟨e', he', hname.symm.trans hn⟩

/-- A catalog of entries that can be named lacks the allowed names that none of them has. -/
theorem exists_lacks_of_isNameable (allow : AllowList) (h : ∀ e ∈ catalog, IsNameable e) :
    ∃ absent, missing allow catalog = .ok absent ∧ Lacks allow catalog absent := by
  obtain ⟨absent, hm, ha, hmem⟩ := exists_missing_of_isNameable allow h
  refine ⟨absent, hm, ha, hmem, ?_, ?_, ?_⟩
  · intro es hp
    rw [missing_of_mem_iff h fun e ↦ hp.symm.mem_iff, hm]
  · intro es hes
    rw [missing_of_mem_iff h hes, hm]
  · intro es hf
    rw [missing_of_forall₂ h hf, hm]

/-- A name that comes twice, names that are no texts, and an entry without versions. -/
def motleyCatalog : List Json :=
  [.obj [("short_name", .str "k3s"), ("versions", .arr [.str "1.9"])],
    .obj [("short_name", .null)],
    .obj [("nodes_max", .int 3), ("short_name", .str "k3s")],
    .obj [("short_name", .int 7), ("versions", .null)]]

theorem isNameable_motleyCatalog : ∀ e ∈ motleyCatalog, IsNameable e := by
  simp only [motleyCatalog, List.forall_mem_cons]
  exact ⟨⟨_, rfl, rfl⟩, ⟨_, rfl, rfl⟩, ⟨_, rfl, rfl⟩, ⟨_, rfl, rfl⟩, fun _ he ↦ absurd he List.not_mem_nil⟩

/-- Two allowed names are absent, and come in ascending order. -/
theorem exists_lacks_motleyCatalog :
    (∀ e ∈ motleyCatalog, IsNameable e) ∧
      missing (.ofList ["oke", "k3s", "aks", "oke"]) motleyCatalog = .ok ["aks", "oke"] ∧
      ∃ absent, missing (.ofList ["oke", "k3s", "aks", "oke"]) motleyCatalog = .ok absent ∧
        Lacks (.ofList ["oke", "k3s", "aks", "oke"]) motleyCatalog absent :=
  ⟨isNameable_motleyCatalog, by decide +kernel, exists_lacks_of_isNameable _ isNameable_motleyCatalog⟩

end ClusterMatrix.Catalog
