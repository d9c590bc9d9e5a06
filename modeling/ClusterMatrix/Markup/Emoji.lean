import ClusterMatrix.Markup.EmojiNames
import ClusterMatrix.Text.Blank
import ClusterMatrix.Text.Hex
import ClusterMatrix.Text.Lower
import ClusterMatrix.Text.Split

/-!
# Emoji in markup

A name between two colons, without a blank, stands for an emoji. The ending `-text` or `-emoji` of the name
asks for one of the two ways to show it. A name that is not known stays as it is, with both colons.
-/

namespace ClusterMatrix.Markup

def hexNumber (s : List Char) : Nat := s.foldl (fun n c ↦ 16 * n + (Text.hexValue? c).getD 0) 0

def emojiOfWord (word : List Char) : String × List Char :=
  let (name, codes) := Text.cut '=' word
  (String.ofList name,
    (Text.splitOn '-' (codes.getD [])).map fun s ↦ Char.ofNat (hexNumber s))

def emojis : List (String × List Char) :=
  emojiWords.flatMap fun line ↦ (Text.splitOn ' ' line.toList).map emojiOfWord

/-- What is left of a text in front of an ending. -/
def withoutEnding? (ending s : List Char) : Option (List Char) :=
  if ending.isSuffixOf s then some (s.take (s.length - ending.length)) else none

/-- A name and the character that asks for a way to show it. -/
def emojiVariant (word : List Char) : List Char × List Char :=
  match withoutEnding? "-emoji".toList word with
  | some name => (name, [Char.ofNat 0xFE0F])
  | none => match withoutEnding? "-text".toList word with
    | some name => (name, [Char.ofNat 0xFE0E])
    | none => (word, [])

def emoji? (word : List Char) : Option (List Char) :=
  let (name, variant) := emojiVariant word
  (emojis.lookup (String.ofList (Text.lower name))).map (· ++ variant)

/-- The word in front of the next colon, unless a blank comes first, and what stands behind the colon. -/
def wordBeforeColon? : List Char → Option (List Char × List Char)
  | [] => none
  | c :: s =>
    if c = ':' then some ([], s)
    else if Text.isBlank c then none
    else (wordBeforeColon? s).map fun p ↦ (c :: p.1, p.2)

theorem length_lt_of_wordBeforeColon? {s word rest : List Char}
    (h : wordBeforeColon? s = some (word, rest)) : rest.length < s.length := by
  induction s generalizing word with
  | nil => simp [wordBeforeColon?] at h
  | cons c s ih =>
    rw [wordBeforeColon?] at h
    split at h
    · obtain ⟨-, rfl⟩ := Prod.mk.inj (Option.some.inj h)
      simp
    · split at h
      · simp at h
      · obtain ⟨⟨w, r⟩, hp, hr⟩ := Option.map_eq_some_iff.1 h
        obtain ⟨-, rfl⟩ := Prod.mk.inj hr
        exact Nat.lt_succ_of_lt (ih hp)

/-- Puts the emoji in place of their names. -/
def withEmoji : List Char → List Char
  | [] => []
  | c :: s =>
    if c = ':' then
      match h : wordBeforeColon? s with
      | some (word, rest) =>
        have := length_lt_of_wordBeforeColon? h
        (emoji? word).getD (':' :: word ++ [':']) ++ withEmoji rest
      | none => c :: withEmoji s
    else c :: withEmoji s
termination_by s => s.length
decreasing_by
  · exact Nat.lt_succ_of_lt this
  · exact Nat.lt_succ_self _
  · exact Nat.lt_succ_self _

@[simp] theorem withEmoji_nil : withEmoji [] = [] := by rw [withEmoji]

theorem withEmoji_cons_of_ne {c : Char} (h : c ≠ ':') (s : List Char) :
    withEmoji (c :: s) = c :: withEmoji s := by
  rw [withEmoji, if_neg h]

/-- A text without a colon stays as it is. -/
theorem withEmoji_of_not_mem {s : List Char} (h : ':' ∉ s) : withEmoji s = s := by
  induction s with
  | nil => simp
  | cons c s ih =>
    rw [List.mem_cons, not_or] at h
    rw [withEmoji_cons_of_ne (Ne.symm h.1), ih h.2]

end ClusterMatrix.Markup
