import FlowDraft.Proofs.Json.Inside

/-!
# `FlowDraft.Proofs.Json.Finite`: numbers that are not finite

A document is finite when every number that lies in it is (`isFinite_iff`). A field that is put
counts like any other, so what was in its place does not matter (`isFinite_put`).

The numbers of a document that was read are written in the text, each as one word
(`Derives.exists_word`). Numbers that are not finite have names, and a numeral may be beyond the
range of numbers, so a text may well have a word for one.
-/

set_option autoImplicit false

namespace FlowDraft.Json

section
variable {τ : Type}

theorem isFinite_arr (items : List (Json τ)) : isFinite (.arr items) = items.all isFinite := by
  rw [isFinite]
  induction items with
  | nil => rfl
  | cons v vs ih => rw [areFinite, ih, List.all_cons]

theorem isFinite_obj (fields : Fields τ) :
    isFinite (.obj fields) = fields.all fun field => field.2.isFinite := by
  rw [isFinite]
  induction fields with
  | nil => rfl
  | cons f fs ih =>
    obtain ⟨k, v⟩ := f
    rw [holdFinite, ih, List.all_cons]

/-- A field that is put counts, and the others count as before. -/
theorem isFinite_put [DecidableEq τ] {fields : Fields τ} (h : (Fields.keys fields).Nodup) (name : τ)
    (value : Json τ) :
    isFinite (.obj (Fields.put name value fields))
      = (value.isFinite && isFinite (.obj (Fields.erase name fields))) := by
  simp only [isFinite_obj]
  induction fields with
  | nil => rfl
  | cons f rest ih =>
    obtain ⟨k, v⟩ := f
    rw [Fields.keys, List.map_cons, List.nodup_cons] at h
    by_cases hk : k = name
    · -- No other field has the name.
      have hrest : rest.filter (fun field => !(field.1 == name)) = rest := by
        refine List.filter_eq_self.2 fun field hfield => ?_
        have hmem : field.1 ∈ rest.map (·.1) := List.mem_map_of_mem hfield
        have hne : field.1 ≠ name := hk ▸ ne_of_mem_of_not_mem hmem h.1
        simpa using hne
      simp [Fields.put, Fields.erase, hk, hrest]
    · have hrest := ih h.2
      simp only [Fields.erase] at hrest
      simp [Fields.put, Fields.erase, hk, hrest, Bool.and_left_comm]

/-- A document is finite when every number that lies in it is. -/
theorem isFinite_iff {v : Json τ} :
    v.isFinite = true ↔ ∀ x, Inside (.float x) v → x.isFinite = true := by
  rw [← throughout_sendable_iff]
  constructor
  · intro h u hu
    induction hu with
    | self =>
      cases u with
      | float x => exact h
      | _ => trivial
    | item hu hmem ih =>
      rw [isFinite_arr, List.all_eq_true] at h
      exact ih (h _ hmem)
    | field hu hmem ih =>
      rw [isFinite_obj, List.all_eq_true] at h
      exact ih (h _ hmem)
  · intro h
    rw [← toFinite_of_throughout v h]
    exact isFinite_toFinite v

end

/-- A number that is written as a word in the text, or another value. -/
def WrittenIn (text : Letters) : Json Letters → Prop
  | .float x => ∃ word, Letters.ofChars word <:+: text ∧ Grammar.Literal word (.float x)
  | _ => True

theorem lenient_writtenIn (text : Letters) : Lenient (WrittenIn text) where
  null := trivial
  bool _ := trivial
  int _ _ := trivial
  str _ := trivial
  arr _ := trivial
  obj _ _ := trivial
  put _ _ _ _ := trivial
  erase _ _ _ := trivial

open Letter (char)

namespace Grammar

/-- The value lies in a value of the part. -/
def Part.Holds (u : Json Letters) : Part → Prop
  | .value v | .element v => Inside u v
  | .items vs => ∃ v ∈ vs, Inside u v
  | .members ms => ∃ m ∈ ms, Inside u m.2

/-- Every number in a part of a document is written there as a word. -/
theorem Derives.exists_word {n : Nat} {cs : Letters} {p : Part} (h : Derives n cs p) {x : Float}
    (hx : p.Holds (.float x)) : ∃ word, Letters.ofChars word <:+: cs ∧ Literal word (.float x) := by
  induction h with
  | @literal n cs v h =>
    have hbare : v = .float x := by
      cases hx with
      | self => rfl
      | item => cases h
      | field => cases h
    exact ⟨cs, List.infix_refl _, hbare ▸ h⟩
  | text h => cases hx
  | emptyList h =>
    cases hx with
    | item hx hmem => cases hmem
  | @list n cs vs h ih =>
    cases hx with
    | item hx hmem =>
      obtain ⟨word, hword, hliteral⟩ := ih ⟨_, hmem, hx⟩
      exact ⟨word, hword.trans ⟨[char '['], [char ']'], rfl⟩, hliteral⟩
  | emptyObject h =>
    cases hx with
    | field hx hmem => cases hmem
  | @object n cs ms fields h hfields ih =>
    obtain rfl := Fields.lastWins_iff.1 hfields
    cases hx with
    | field hx hmem =>
      -- The value of the field is that of one of the members.
      obtain ⟨m, hm, hvalue⟩ := Fields.exists_of_mem_collect hmem
      obtain ⟨word, hword, hliteral⟩ := ih ⟨m, hm, hvalue ▸ hx⟩
      exact ⟨word, hword.trans ⟨[char '\x7b'], [char '\x7d'], rfl⟩, hliteral⟩
  | @element n before cs after v hbefore h hafter ih =>
    obtain ⟨word, hword, hliteral⟩ := ih hx
    exact ⟨word, hword.trans ⟨before, after, rfl⟩, hliteral⟩
  | item h ih =>
    obtain ⟨v, hv, hx⟩ := hx
    obtain rfl := List.mem_singleton.1 hv
    exact ih hx
  | @items n cs ds vs v h hv ih ihv =>
    obtain ⟨w, hw, hx⟩ := hx
    rcases List.mem_append.1 hw with hw | hw
    · obtain ⟨word, hword, hliteral⟩ := ih ⟨w, hw, hx⟩
      exact ⟨word, hword.trans (List.prefix_append cs _).isInfix, hliteral⟩
    · obtain rfl := List.mem_singleton.1 hw
      obtain ⟨word, hword, hliteral⟩ := ihv hx
      exact ⟨word, hword.trans ⟨cs ++ [char ','], [], by simp⟩, hliteral⟩
  | @member n before name between cs k v hbefore hname hbetween h ih =>
    obtain ⟨m, hm, hx⟩ := hx
    obtain rfl := List.mem_singleton.1 hm
    obtain ⟨word, hword, hliteral⟩ := ih hx
    exact ⟨word, hword.trans ⟨before ++ name ++ between ++ [char ':'], [], by simp⟩, hliteral⟩
  | @members n cs ds ms m h hm ih ihm =>
    obtain ⟨m', hm', hx⟩ := hx
    rcases List.mem_append.1 hm' with hm' | hm'
    · obtain ⟨word, hword, hliteral⟩ := ih ⟨m', hm', hx⟩
      exact ⟨word, hword.trans (List.prefix_append cs _).isInfix, hliteral⟩
    · obtain ⟨word, hword, hliteral⟩ := ihm ⟨m', hm', hx⟩
      exact ⟨word, hword.trans ⟨cs ++ [char ','], [], by simp⟩, hliteral⟩

/-- The numbers of a document that was read are written in the text. -/
theorem Derives.writtenIn {n : Nat} {cs : Letters} {v : Json Letters} (h : Derives n cs (.element v)) :
    Throughout (WrittenIn cs) v := by
  intro u hu
  cases u with
  | float x => exact h.exists_word hu
  | _ => trivial

end Grammar

end FlowDraft.Json
