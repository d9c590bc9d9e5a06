import Mathlib.Algebra.Group.Int.Defs
import Mathlib.Data.List.Basic
import ClusterMatrix.Proofs.Json.Compact
import ClusterMatrix.Proofs.Json.Unambiguous
import ClusterMatrix.Proofs.Run.Agreement

/-!
# The text of selections

The matrix job prints its selections as one line, and sets its output to the same text. The version of a selection may
be any value, since a lone version of a distribution is not looked at.

An integer that is too long to be read is too long to be written as well. None is among the selections of a catalog
that was read, so the text of these is always written.
-/

namespace ClusterMatrix

namespace Catalog.Selection

variable {s : Selection}

/-- The distribution of a selection is a string, and its version is a value without floats in which no object has a key
twice. -/
structure IsFloatFree (s : Selection) : Prop where
  distribution : ∃ n, s.distribution = .str n
  version : s.version.Each Json.IsFloatFree
  keys : s.version.Each Json.HasDistinctKeys

/-- Values tell the selections that they are written of. -/
theorem toJson_injective : Function.Injective toJson := by
  rintro ⟨d, v⟩ ⟨d', v'⟩ h
  simp only [toJson, Json.obj.injEq, List.cons.injEq, Prod.mk.injEq, true_and, and_true] at h
  rw [h.1, h.2]

/-- What holds of strings and of the object around a selection holds of all of it if it holds of its version. -/
theorem IsFloatFree.each_toJson_iff {p : Json → Prop} (h : s.IsFloatFree) (hstr : ∀ n, p (.str n)) (hobj : p s.toJson) :
    s.toJson.Each p ↔ s.version.Each p := by
  obtain ⟨n, hn⟩ := h.distribution
  rw [Selection.each_toJson_iff, hn, Json.Each.str_iff]
  exact ⟨fun hs ↦ hs.2.2, fun hv ↦ ⟨hobj, hstr n, hv⟩⟩

end Catalog.Selection

namespace Run

open Catalog (Selection)

variable {selections : List Selection} {text : List Char}

/-! ## What is written -/

/-- The text of selections as it is written: there is none if an integer is too long. -/
def written? (selections : List Selection) : Option (List Char) :=
  if (Json.arr (selections.map Selection.toJson)).Each Json.IsShortInteger then some (selectionsText selections)
  else none

theorem written?_eq_some_iff : written? selections = some text ↔
    (Json.arr (selections.map Selection.toJson)).Each Json.IsShortInteger ∧ selectionsText selections = text := by
  rw [written?]
  split
  · rename_i h
    rw [Option.some.injEq, and_iff_right h]
  · rename_i h
    exact iff_of_false nofun fun ht ↦ h ht.1

/-! ## What is conveyed -/

theorem each_selections_iff {p : Json → Prop} (h : ∀ s ∈ selections, s.IsFloatFree) (hstr : ∀ n, p (.str n))
    (harr : ∀ vs, p (.arr vs)) (hobj : ∀ s : Selection, p s.toJson) :
    (Json.arr (selections.map Selection.toJson)).Each p ↔ ∀ s ∈ selections, s.version.Each p := by
  rw [Json.Each.arr_iff, List.forall_mem_map, and_iff_right (harr _)]
  exact forall₂_congr fun s hs ↦ (h s hs).each_toJson_iff hstr (hobj s)

theorem each_isFloatFree (h : ∀ s ∈ selections, s.IsFloatFree) :
    (Json.arr (selections.map Selection.toJson)).Each Json.IsFloatFree :=
  (each_selections_iff h (fun _ ↦ trivial) (fun _ ↦ trivial) fun _ ↦ trivial).2 fun s hs ↦ (h s hs).version

/-- Selections are written just if no integer in a version is too long. -/
theorem exists_written?_iff (h : ∀ s ∈ selections, s.IsFloatFree) :
    (∃ text, written? selections = some text) ↔ ∀ s ∈ selections, s.version.Each Json.IsShortInteger := by
  simp only [written?_eq_some_iff, exists_and_left, exists_eq', and_true]
  exact each_selections_iff h (fun _ ↦ trivial) (fun _ ↦ trivial) fun _ ↦ trivial

/-- The text of selections conveys them: it is written, as a line of printable characters, it decodes to the selections,
also under a limit to the nesting if it keeps to it, and no others are written alike. -/
structure Conveys (selections : List Selection) : Prop where
  written : written? selections = some (selectionsText selections)
  printable : ∀ c ∈ selectionsText selections, ' ' ≤ c ∧ c ≤ '~'
  decoded : Json.parse (selectionsText selections) = .ok (.arr (selections.map Selection.toJson))
  decodedWithin : ∀ limit, ¬ Json.MeetsDeepNesting limit (selectionsText selections) →
    Json.parseWithin limit (selectionsText selections) = some (.ok (.arr (selections.map Selection.toJson)))
  unique : ∀ others, (∀ s ∈ others, s.IsFloatFree) → written? others = some (selectionsText selections) →
    others = selections

theorem conveys_of_each (hf : (Json.arr (selections.map Selection.toJson)).Each Json.IsFloatFree)
    (hr : (Json.arr (selections.map Selection.toJson)).Each Json.IsReadable) : Conveys selections := by
  have hparse : Json.parse (selectionsText selections) = .ok (.arr (selections.map Selection.toJson)) :=
    Json.parse_compact hf hr
  refine ⟨written?_eq_some_iff.2 ⟨(Json.each_isReadable_iff.1 hr).1, rfl⟩, fun c hc ↦ ?_, hparse,
    fun limit hd ↦ Json.parseWithin_eq_some_iff.2 ⟨hparse, hd⟩, fun others ho he ↦ ?_⟩
  · have hp := Json.isPlain_of_mem_compact _ c hc
    rwa [Json.isPlain, Bool.and_eq_true, decide_eq_true_iff, decide_eq_true_iff] at hp
  · have htexts := (written?_eq_some_iff.1 he).2
    have harr := Json.compact_inj (each_isFloatFree ho) hf htexts
    exact List.map_injective_iff.2 Selection.toJson_injective (Json.arr.inj harr)

/-- Selections without floats are conveyed if no integer in them is too long. -/
theorem conveys_selectionsText (h : ∀ s ∈ selections, s.IsFloatFree)
    (hi : ∀ s ∈ selections, s.version.Each Json.IsShortInteger) : Conveys selections := by
  have hshort : (Json.arr (selections.map Selection.toJson)).Each Json.IsShortInteger :=
    (each_selections_iff h (fun _ ↦ trivial) (fun _ ↦ trivial) fun _ ↦ trivial).2 hi
  have hkeys : (Json.arr (selections.map Selection.toJson)).Each Json.HasDistinctKeys :=
    (each_selections_iff h (fun _ ↦ trivial) (fun _ ↦ trivial) fun s ↦ (Json.isReadable_iff.1 s.isReadable_toJson).2).2
      fun s hs ↦ (h s hs).keys
  exact conveys_of_each (each_isFloatFree h) (Json.each_isReadable_iff.2 ⟨hshort, hkeys⟩)

/-- The selections of a run are always written, and those of a catalog without floats are conveyed. -/
theorem written?_of_selects {options : Options} {env : Environment} {network : Http.Network} {settings : Settings}
    {catalog : List Json} (h : Matrix.Selects options env network settings catalog selections) :
    written? selections = some (selectionsText selections) ∧
      ((∀ e ∈ catalog, e.Each Json.IsFloatFree) → Conveys selections) := by
  have hr := Catalog.isReadable_selections (isReadable_of_fetched h.fetched) h.selected
  refine ⟨written?_eq_some_iff.2 ⟨(Json.each_isReadable_iff.1 hr).1, rfl⟩, fun hf ↦ ?_⟩
  exact conveys_of_each (Catalog.isFloatFree_selections hf h.selected) hr

/-- Selections with characters that are escaped, with halves of characters in a text and in keys, and with nested
values. -/
def escapedSelections : List Selection :=
  [⟨.str "a\"\\\n\x7f😀", .ragged ⟨[0xD83D, 0x22], by decide⟩⟩,
    ⟨.str "k3s", .obj [(.ragged loneHalf, .int 1), (.ragged ⟨[0xDC00], by decide⟩, .arr [.obj []]),
      ("é", .arr [.int (-10 ^ 30), .str "\x00"])]⟩]

theorem isFloatFree_escapedSelections : ∀ s ∈ escapedSelections, s.IsFloatFree := by
  simp only [escapedSelections, List.forall_mem_cons]
  refine ⟨⟨⟨_, rfl⟩, ?_, ?_⟩, ⟨⟨_, rfl⟩, ?_, ?_⟩, fun s hs ↦ absurd hs List.not_mem_nil⟩ <;> decide +kernel

theorem conveys_escapedSelections :
    (∀ s ∈ escapedSelections, s.IsFloatFree) ∧ (∀ s ∈ escapedSelections, s.version.Each Json.IsShortInteger) ∧
      Conveys escapedSelections := by
  have hshort : ∀ s ∈ escapedSelections, s.version.Each Json.IsShortInteger := by decide +kernel
  exact ⟨isFloatFree_escapedSelections, hshort, conveys_selectionsText isFloatFree_escapedSelections hshort⟩

theorem not_isShortInteger_pow {n : Nat} (hpos : 0 < n) (hn : Json.maxIntegerDigits ≤ n) :
    ¬ (Json.int (10 ^ n)).IsShortInteger := by
  intro h
  have hlt := (Nat.length_toDigits_le_iff (by decide) hpos).1 (Nat.le_trans h hn)
  rw [Int.natAbs_pow] at hlt
  exact Nat.lt_irrefl _ hlt

/-- A version that is one digit longer than an integer can be. -/
def longSelection : Selection := ⟨.str "k3s", .int (10 ^ Json.maxIntegerDigits)⟩

/-- It is not written, and what would stand for it does not decode to it. -/
theorem written?_longSelection :
    longSelection.IsFloatFree ∧ written? [longSelection] = none ∧
      Json.parse (selectionsText [longSelection]) ≠ .ok (.arr [longSelection.toJson]) := by
  have hlong : ¬ longSelection.version.IsShortInteger := not_isShortInteger_pow (by decide) (Nat.le_refl _)
  have hf : longSelection.IsFloatFree :=
    ⟨⟨_, rfl⟩, Json.Each.int_iff.2 trivial, Json.Each.int_iff.2 trivial⟩
  have hpart : Json.Part longSelection.version (.arr [longSelection.toJson]) :=
    .item List.mem_cons_self (Json.Part.member (List.mem_cons_of_mem _ List.mem_cons_self) (.self _))
  refine ⟨hf, if_neg fun h ↦ hlong (h _ hpart), fun hp ↦ ?_⟩
  exact hlong (Json.isReadable_iff.1 (Json.isReadable_of_parse hp _ hpart)).1

end Run

end ClusterMatrix
