import ClusterMatrix.Proofs.Json.Reading

/-!
# Nothing else is read

Whatever the reader takes from a text denotes what it was read as, and the reader stops at an obstacle only where the text
meets it.
-/

namespace ClusterMatrix.Json

/-! ## Entries -/

/-! An array and an object differ in their brackets and in what their entries are. `one` is what reading an entry comes
to, and `more` reads the entries behind it. -/

section Entries

variable {A : Type} {denotes : A → List Char → Prop} {denotesMore : List A → List Char → Prop}
  {meets meetsMore : Obstacle → List Char → Prop} {one : Reading A} {more : List Char → Reading (List A)}
  {limit depth : Nat} {r s : List Char}

theorem explains_first {c : Char} {make : A → List A → Json} (hone : Explains denotes meets (skipSpace r) one)
    (hmore : ∀ rest, Explains denotesMore meetsMore rest (more rest))
    (hvalue : ∀ {a as w t u}, IsBlank w → denotes a t → denotesMore as u →
      Denotes IsShort (make a as) (c :: (w ++ (t ++ u))))
    (hhere : ∀ {o w t}, IsBlank w → meets o t → Meets (o.Begins limit) depth (c :: (w ++ t)))
    (hlater : ∀ {o a w t u}, IsBlank w → denotes a t → meetsMore o u →
      Meets (o.Begins limit) depth (c :: (w ++ (t ++ u)))) :
    Explains (Denotes IsShort) (fun o ↦ Meets (o.Begins limit) depth) (c :: r)
      (one.bind fun p ↦ (more p.2).bind fun q ↦ .ok (make p.1 q.1, q.2)) := by
  obtain ⟨w, hw, hr⟩ := exists_isBlank_append r
  refine hone.bind (fun {_ t rest} ha ht ↦ ?_) fun o ho ↦ ?_
  · refine (hmore rest).bind (fun {_ u rest'} has hu ↦ ?_) fun o ho ↦ ?_
    · refine .ok (hvalue hw ha has) ?_
      rw [hr, ht, hu]
      simp only [List.append_assoc, List.cons_append]
    · rw [hr, ht]
      exact hlater hw ha ho
  · rw [hr]
    exact hhere hw ho

theorem explains_next (hs : skipSpace s = ',' :: r) (hone : Explains denotes meets (skipSpace r) one)
    (hmore : ∀ rest, Explains denotesMore meetsMore rest (more rest))
    (hcons : ∀ {a as w x t u}, IsBlank w → IsBlank x → denotes a t → denotesMore as u →
      denotesMore (a :: as) (w ++ ',' :: (x ++ (t ++ u))))
    (hhere : ∀ {o w x t}, IsBlank w → IsBlank x → meets o t → meetsMore o (w ++ ',' :: (x ++ t)))
    (hlater : ∀ {o a w x t u}, IsBlank w → IsBlank x → denotes a t → meetsMore o u →
      meetsMore o (w ++ ',' :: (x ++ (t ++ u)))) :
    Explains denotesMore meetsMore s (one.bind fun p ↦ (more p.2).bind fun q ↦ .ok (p.1 :: q.1, q.2)) := by
  obtain ⟨w, hw, hws⟩ := exists_isBlank_append s
  obtain ⟨x, hx, hr⟩ := exists_isBlank_append r
  rw [hs] at hws
  refine hone.bind (fun {_ t rest} ha ht ↦ ?_) fun o ho ↦ ?_
  · refine (hmore rest).bind (fun {_ u rest'} has hu ↦ ?_) fun o ho ↦ ?_
    · refine .ok (hcons hw hx ha has) ?_
      rw [hws, hr, ht, hu]
      simp only [List.append_assoc, List.cons_append]
    · rw [hws, hr, ht]
      exact hlater hw hx ha ho
  · rw [hws, hr]
    exact hhere hw hx ho

end Entries

/-! ## Values -/

/-- What the readers come to under a bound is explained by the text. The room is what the limit leaves of it. -/
structure ExplainsAll (limit n : Nat) : Prop where
  value : ∀ {depth room}, depth + room = limit → ∀ s,
    Explains (Denotes IsShort) (fun o ↦ Meets (o.Begins limit) depth) s (Json.value n room s)
  items : ∀ {depth room}, depth + room = limit → ∀ s,
    Explains (DenotesItems IsShort) (fun o ↦ MeetsInItems (o.Begins limit) depth) s (moreItems n room s)
  member : ∀ {depth room}, depth + room = limit → ∀ s,
    Explains (DenotesMember IsShort) (fun o ↦ MeetsInMember (o.Begins limit) depth) s (Json.member n room s)
  members : ∀ {depth room}, depth + room = limit → ∀ s,
    Explains (DenotesMembers IsShort) (fun o ↦ MeetsInMembers (o.Begins limit) depth) s (moreMembers n room s)

namespace ExplainsAll

variable {limit n depth room : Nat}

/-- Where no room is left, a bracket is the obstacle. -/
theorem value_bracket_zero {c : Char} (hc : c = '[' ∨ c = '{') (hroom : depth + 0 = limit) (r : List Char) :
    Explains (Denotes IsShort) (fun o ↦ Meets (o.Begins limit) depth) (c :: r) (Json.value (n + 1) 0 (c :: r)) := by
  obtain rfl : depth = limit := hroom
  rw [Json.value_bracket_zero hc]
  refine .obstacle .nesting (.here ?_)
  rcases hc with rfl | rfl
  · exact .arr r
  · exact .obj r

theorem value_arr (h : ExplainsAll limit n) (hroom : depth + room = limit) (r : List Char) :
    Explains (Denotes IsShort) (fun o ↦ Meets (o.Begins limit) depth) ('[' :: r)
      (Json.value (n + 1) room ('[' :: r)) := by
  cases room with
  | zero => exact value_bracket_zero (.inl rfl) hroom r
  | succ room =>
    by_cases hclose : ∃ t, skipSpace r = ']' :: t
    · obtain ⟨t, ht⟩ := hclose
      obtain ⟨w, hw, hr⟩ := exists_isBlank_append r
      have hv : Json.value (n + 1) (room + 1) ('[' :: r) = .ok (.arr [], t) := by simp only [Json.value, ht]
      rw [hv]
      refine .ok (.emptyArr hw) ?_
      rw [hr, ht, List.cons_append, List.append_assoc, List.singleton_append]
    · have hroom' : depth + 1 + room = limit := by omega
      rw [Json.value_arr rfl fun t ht ↦ hclose ⟨t, ht⟩]
      exact explains_first (h.value hroom' _) (h.items hroom') .arr .item .items

theorem value_obj (h : ExplainsAll limit n) (hroom : depth + room = limit) (r : List Char) :
    Explains (Denotes IsShort) (fun o ↦ Meets (o.Begins limit) depth) ('{' :: r)
      (Json.value (n + 1) room ('{' :: r)) := by
  cases room with
  | zero => exact value_bracket_zero (.inr rfl) hroom r
  | succ room =>
    by_cases hclose : ∃ t, skipSpace r = '}' :: t
    · obtain ⟨t, ht⟩ := hclose
      obtain ⟨w, hw, hr⟩ := exists_isBlank_append r
      have hv : Json.value (n + 1) (room + 1) ('{' :: r) = .ok (.obj [], t) := by simp only [Json.value, ht]
      rw [hv]
      refine .ok (.emptyObj hw) ?_
      rw [hr, ht, List.cons_append, List.append_assoc, List.singleton_append]
    · have hroom' : depth + 1 + room = limit := by omega
      rw [Json.value_obj rfl fun t ht ↦ hclose ⟨t, ht⟩]
      exact explains_first (h.member hroom' _) (h.members hroom') .obj .member .members

theorem value_succ (h : ExplainsAll limit n) (hroom : depth + room = limit) (s : List Char) :
    Explains (Denotes IsShort) (fun o ↦ Meets (o.Begins limit) depth) s (Json.value (n + 1) room s) := by
  rcases head_cases s with hs | ⟨r, rfl | rfl | rfl⟩
  · rw [value_of_head? hs]
    cases hw : word? s with
    | none => exact explains_number limit depth s
    | some p =>
      obtain ⟨t, ht, hst⟩ := of_word? hw
      exact .ok (.word ht) hst
  · rw [value_quote]
    refine (explains_string ('"' :: r) r).bind (fun {x t rest} ht hs ↦ ?_) fun _ ↦ False.elim
    obtain ⟨codes, ht, hp, rfl⟩ := ht
    exact .ok (.text ht hp) hs
  · exact h.value_arr hroom r
  · exact h.value_obj hroom r

theorem items_succ (h : ExplainsAll limit n) (hroom : depth + room = limit) (s : List Char) :
    Explains (DenotesItems IsShort) (fun o ↦ MeetsInItems (o.Begins limit) depth) s (moreItems (n + 1) room s) := by
  by_cases hcomma : ∃ r, skipSpace s = ',' :: r
  · obtain ⟨r, hr⟩ := hcomma
    rw [moreItems_comma hr]
    exact explains_next hr (h.value hroom _) (h.items hroom) .cons .here .later
  · obtain ⟨w, hw, hs⟩ := exists_isBlank_append s
    rw [moreItems]
    split
    · rename_i ht
      refine .ok (.nil hw) ?_
      rw [hs, ht, List.append_assoc, List.singleton_append]
    · exact absurd ⟨_, ‹_›⟩ hcomma
    · exact .fault _ _

theorem members_succ (h : ExplainsAll limit n) (hroom : depth + room = limit) (s : List Char) :
    Explains (DenotesMembers IsShort) (fun o ↦ MeetsInMembers (o.Begins limit) depth) s (moreMembers (n + 1) room s) := by
  by_cases hcomma : ∃ r, skipSpace s = ',' :: r
  · obtain ⟨r, hr⟩ := hcomma
    rw [moreMembers_comma hr]
    exact explains_next hr (h.member hroom _) (h.members hroom) .cons .here .later
  · obtain ⟨w, hw, hs⟩ := exists_isBlank_append s
    rw [moreMembers]
    split
    · rename_i ht
      refine .ok (.nil hw) ?_
      rw [hs, ht, List.append_assoc, List.singleton_append]
    · exact absurd ⟨_, ‹_›⟩ hcomma
    · exact .fault _ _

/-- Behind a key, a colon leads on to the value. -/
theorem member_colon (h : ExplainsAll limit n) (hroom : depth + room = limit) {k : Text} {r s u : List Char}
    (hk : string ('"' :: r) r = .ok (k, s)) (hu : skipSpace s = ':' :: u) :
    Explains (DenotesMember IsShort) (fun o ↦ MeetsInMember (o.Begins limit) depth) ('"' :: r)
      (Json.member (n + 1) room ('"' :: r)) := by
  have hkey := explains_string ('"' :: r) r
  rw [hk] at hkey
  obtain ⟨t, ⟨codes, ht, hp, rfl⟩, hr⟩ := hkey.exists_of_ok
  obtain ⟨w, hw, hs⟩ := exists_isBlank_append s
  obtain ⟨x, hx, hv⟩ := exists_isBlank_append u
  rw [hu, hv] at hs
  rw [Json.member_colon hk hu, hr, hs]
  refine (h.value hroom _).bind (fun {_ v rest} hd hrest ↦ .ok (.mk ht hp hw hx hd) ?_) fun o ho ↦ .mk ht hp hw hx ho
  rw [hrest]
  simp only [List.append_assoc, List.cons_append]

theorem member_succ (h : ExplainsAll limit n) (hroom : depth + room = limit) (s : List Char) :
    Explains (DenotesMember IsShort) (fun o ↦ MeetsInMember (o.Begins limit) depth) s (Json.member (n + 1) room s) := by
  by_cases hquote : ∃ r, s = '"' :: r
  · obtain ⟨r, rfl⟩ := hquote
    cases hk : string ('"' :: r) r with
    | error x =>
      have hkey := explains_string ('"' :: r) r
      rw [hk] at hkey
      simp only [Json.member, hk]
      exact hkey.of_error fun _ ↦ False.elim
    | ok p =>
      obtain ⟨k, s⟩ := p
      by_cases hcolon : ∃ u, skipSpace s = ':' :: u
      · obtain ⟨u, hu⟩ := hcolon
        exact h.member_colon hroom hk hu
      · simp only [Json.member, hk]
        split
        · exact absurd ⟨_, ‹_›⟩ hcolon
        · exact .fault _ _
  · rw [Json.member]
    · exact .fault _ _
    · exact fun r hr ↦ hquote ⟨r, hr⟩

end ExplainsAll

theorem explainsAll (limit n : Nat) : ExplainsAll limit n := by
  induction n with
  -- Nothing is read under the bound zero, so all is a fault.
  | zero =>
    constructor <;> intro depth room _ s
    · rw [Json.value]
      exact .fault _ _
    · rw [moreItems]
      exact .fault _ _
    · rw [Json.member]
      exact .fault _ _
    · rw [moreMembers]
      exact .fault _ _
  | succ n ih => exact ⟨ih.value_succ, ih.items_succ, ih.member_succ, ih.members_succ⟩

/-! ## Documents -/

theorem isBlank_of_skipSpace {s : List Char} (h : skipSpace s = []) : IsBlank s := by
  obtain ⟨w, hw, hs⟩ := exists_isBlank_append s
  rw [hs, h, List.append_nil]
  exact hw

theorem explains_document (limit : Nat) (text : List Char) :
    Explains (IsDocument IsShort) (fun o ↦ MeetsInDocument (o.Begins limit)) text
      ((document limit text).map (·, [])) := by
  obtain ⟨w, hw, htext⟩ := exists_isBlank_append text
  have h := (explainsAll limit (text.length + 1)).value (Nat.zero_add limit) (skipSpace text)
  unfold document
  split
  · exact .fault _ _
  · split
    · rename_i hx
      rw [hx] at h
      exact h.of_error fun o ho ↦ ⟨w, skipSpace text, hw, ho, htext⟩
    · rename_i v r hv
      rw [hv] at h
      obtain ⟨t, ht, hs⟩ := h.exists_of_ok
      split
      · rename_i hr
        refine .ok ⟨w, t, r, hw, ht, isBlank_of_skipSpace hr, rfl⟩ ?_
        rw [htext, hs, List.append_nil]
      · exact .fault _ _

end ClusterMatrix.Json
