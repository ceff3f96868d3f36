import FlowDraft.Proofs.Text.Trimmed
import FlowDraft.Settings.Environment

/-!
# `FlowDraft.Proofs.Settings.Origins`: a list of origins has one form

A list of origins is cut at its commas. `ArePieces` says what the pieces are without cutting, and a
text has only one list of them (`arePieces_iff`). The origins are the pieces that are not blank,
trimmed (`splitOrigins_of_arePieces`). So all of them have the form of `IsOrigin`
(`isOrigin_of_mem_splitOrigins`), and origins in this form are read as they are
(`splitOrigins_intercalate`).

Settings from an environment have no other origins (`isOrigin_of_mem_allowedOrigins`), and every
origin is let in only if the list says so or says nothing (`everyOrigin_mem_splitOrigins_iff`).
-/

set_option autoImplicit false

namespace FlowDraft

namespace Text

/-- No piece has the separator in it. -/
theorem not_mem_of_mem_pieces {sep : Char} {cs piece : List Char} (h : piece ∈ pieces sep cs) :
    sep ∉ piece := by
  induction cs generalizing piece with
  | nil =>
    rw [pieces, List.mem_singleton] at h
    simp [h]
  | cons c cs ih =>
    obtain ⟨first, rest, hpieces⟩ := List.exists_cons_of_ne_nil (pieces_ne_nil sep cs)
    rw [hpieces] at ih
    rw [pieces, hpieces] at h
    by_cases hc : c = sep
    · rw [if_pos (beq_iff_eq.2 hc), List.mem_cons] at h
      rcases h with rfl | h
      · exact List.not_mem_nil
      · exact ih h
    · rw [if_neg (by simpa using hc), List.mem_cons] at h
      rcases h with rfl | h
      · rw [List.mem_cons, not_or]
        exact ⟨Ne.symm hc, ih List.mem_cons_self⟩
      · exact ih (List.mem_cons_of_mem first h)

theorem pieces_eq_splitOn (sep : Char) (cs : List Char) : pieces sep cs = cs.splitOn sep := by
  induction cs with
  | nil => rfl
  | cons c cs ih =>
    obtain ⟨first, rest, hpieces⟩ := List.exists_cons_of_ne_nil (pieces_ne_nil sep cs)
    rw [List.splitOn_cons_eq_if_modifyHead, ← ih, pieces, hpieces]
    rfl

end Text

namespace Settings

open Text (isBlankText trim trimChars IsTrimmed pieces)

/-! ### Pieces -/

/-- The pieces of a text between its commas. Put together again they are the text. -/
structure ArePieces (raw : String) (parts : List String) : Prop where
  ne_nil : parts ≠ []
  comma_free : ∀ part ∈ parts, ',' ∉ part.toList
  joined : ",".intercalate parts = raw

/-- A text has one list of pieces, the one that it is cut into. -/
theorem arePieces_iff {raw : String} {parts : List String} :
    ArePieces raw parts ↔ pieces ',' raw.toList = parts.map String.toList := by
  constructor
  · rintro ⟨hne, hfree, rfl⟩
    -- Pieces without a comma are what the text that they make up is cut into.
    rw [Text.pieces_eq_splitOn, String.toList_intercalate]
    show ([','].intercalate (parts.map String.toList)).splitOn ',' = _
    refine List.splitOn_intercalate ',' ?_ (by simpa using hne)
    simpa using hfree
  · intro h
    refine ⟨?_, fun part hpart => ?_, ?_⟩
    · rintro rfl
      exact Text.pieces_ne_nil ',' raw.toList h
    · exact Text.not_mem_of_mem_pieces (h ▸ List.mem_map_of_mem hpart)
    · rw [← String.toList_inj, String.toList_intercalate, ← h]
      exact Text.intercalate_pieces ',' raw.toList

theorem exists_arePieces (raw : String) : ∃ parts, ArePieces raw parts := by
  refine ⟨(pieces ',' raw.toList).map String.ofList, arePieces_iff.2 ?_⟩
  rw [List.map_map]
  show _ = (pieces ',' raw.toList).map fun piece => (String.ofList piece).toList
  simp

/-! ### Origins -/

/-- The form of an origin in a list: no white space around it, not blank, and no comma. -/
structure IsOrigin (s : String) : Prop where
  trimmed : IsTrimmed Text.isBlank s.toList
  not_blank : isBlankText s = false
  comma_free : ',' ∉ s.toList

theorem isOrigin_everyOrigin : IsOrigin everyOrigin :=
  ⟨by decide, by decide, by decide⟩

/-- A piece that is not blank is trimmed to an origin. -/
theorem isOrigin_trim {part : String} (hblank : isBlankText part = false)
    (hcomma : ',' ∉ part.toList) : IsOrigin (trim part) where
  trimmed := by
    rw [trim, String.toList_ofList]
    exact Text.isTrimmed_trimBy Text.isBlank part.toList
  not_blank := (Text.isBlankText_trim part).trans hblank
  comma_free := by
    obtain ⟨before, behind, hpart, -⟩ := Text.exists_eq_append_trimBy Text.isBlank part.toList
    rw [trim, String.toList_ofList]
    intro hmem
    refine hcomma ?_
    rw [hpart]
    exact List.mem_append_left behind (List.mem_append_right before hmem)

/-- An origin is trimmed already. -/
theorem IsOrigin.trim_eq {s : String} (h : IsOrigin s) : trim s = s := by
  have htrim : trimChars s.toList = s.toList :=
    Text.trimBy_eq_iff.2 ⟨h.trimmed, [], [], by simp, by simp, by simp⟩
  rw [trim, htrim, String.ofList_toList]

theorem splitOrigins_eq (raw : String) :
    splitOrigins raw = if (listedOrigins raw.toList).isEmpty then [everyOrigin]
      else (listedOrigins raw.toList).map String.ofList := by
  rw [splitOrigins]
  split
  · next hnone => rw [hnone, List.isEmpty_nil, if_pos rfl]
  · next hsome => rw [if_neg (by simpa using hsome)]

section
variable {raw : String} {parts : List String} (h : ArePieces raw parts)
include h

theorem listedOrigins_eq :
    listedOrigins raw.toList
      = (parts.filter fun part => !isBlankText part).map fun part => trimChars part.toList := by
  have hfilled : ∀ part : String, (!(trimChars part.toList).isEmpty) = !isBlankText part := by
    intro part
    rw [isBlankText, Bool.eq_iff_iff, Bool.not_eq_true', Bool.not_eq_true',
      ← Bool.not_eq_true, ← Bool.not_eq_true, List.isEmpty_iff, Text.trimChars_eq_nil_iff]
  rw [listedOrigins, arePieces_iff.1 h, List.map_map, List.filter_map]
  exact congrArg (List.map _) (List.filter_congr fun part _ => hfilled part)

/-- The origins are the pieces that are not blank, trimmed and in order. If there are none, every
origin is meant. -/
theorem splitOrigins_of_arePieces :
    splitOrigins raw = if parts.all isBlankText then [everyOrigin]
      else (parts.filter fun part => !isBlankText part).map trim := by
  have hnone : (parts.filter fun part => !isBlankText part).isEmpty = parts.all isBlankText := by
    rw [Bool.eq_iff_iff, List.isEmpty_iff, List.filter_eq_nil_iff, List.all_eq_true]
    simp
  rw [splitOrigins_eq, listedOrigins_eq h, List.isEmpty_map, hnone, List.map_map]
  rfl

/-- Every origin is let in only if the list has no origins or names that one. -/
theorem everyOrigin_mem_splitOrigins_iff :
    everyOrigin ∈ splitOrigins raw ↔
      (∀ part ∈ parts, isBlankText part = true) ∨ ∃ part ∈ parts, trim part = everyOrigin := by
  rw [splitOrigins_of_arePieces h]
  split
  · next hall => simpa using Or.inl hall
  · next hall =>
    rw [List.mem_map]
    constructor
    · rintro ⟨part, hpart, htrim⟩
      exact .inr ⟨part, (List.mem_filter.1 hpart).1, htrim⟩
    · rintro (hblank | ⟨part, hpart, htrim⟩)
      · exact absurd (List.all_eq_true.2 hblank) hall
      · -- A blank piece would be trimmed to a blank text.
        have hblank : isBlankText part = false := by
          rw [← Text.isBlankText_trim, htrim]
          exact isOrigin_everyOrigin.not_blank
        exact ⟨part, List.mem_filter.2 ⟨hpart, by simp [hblank]⟩, htrim⟩

end

theorem splitOrigins_ne_nil (raw : String) : splitOrigins raw ≠ [] := by
  rw [splitOrigins]
  split
  · simp
  · next hne => simpa using hne

/-- Whatever the list, what is read from it are origins. -/
theorem isOrigin_of_mem_splitOrigins {raw origin : String} (h : origin ∈ splitOrigins raw) :
    IsOrigin origin := by
  obtain ⟨parts, hparts⟩ := exists_arePieces raw
  rw [splitOrigins_of_arePieces hparts] at h
  split at h
  · rw [List.mem_singleton.1 h]
    exact isOrigin_everyOrigin
  · obtain ⟨part, hpart, rfl⟩ := List.mem_map.1 h
    obtain ⟨hmem, hblank⟩ : part ∈ parts ∧ isBlankText part = false := by simpa using hpart
    exact isOrigin_trim hblank (hparts.comma_free part hmem)

/-- A list of origins is read as it is. -/
theorem splitOrigins_intercalate {origins : List String} (hne : origins ≠ [])
    (h : ∀ origin ∈ origins, IsOrigin origin) :
    splitOrigins (",".intercalate origins) = origins := by
  have hpieces : ArePieces (",".intercalate origins) origins :=
    ⟨hne, fun origin hmem => (h origin hmem).comma_free, rfl⟩
  have hall : ¬ origins.all isBlankText = true := by
    obtain ⟨first, rest, rfl⟩ := List.exists_cons_of_ne_nil hne
    simp [(h first List.mem_cons_self).not_blank]
  have hfilled : (origins.filter fun origin => !isBlankText origin) = origins :=
    List.filter_eq_self.2 fun origin hmem => by simp [(h origin hmem).not_blank]
  rw [splitOrigins_of_arePieces hpieces, if_neg hall, hfilled]
  exact (List.map_congr_left fun origin hmem => (h origin hmem).trim_eq).trans (List.map_id origins)

/-! ### Settings -/

/-- Settings that are read from an environment let in the origins that it lists. -/
theorem allowedOrigins_ofEnvironment {env : Environment} {settings : Settings}
    (h : ofEnvironment env = .ok settings) :
    settings.allowedOrigins
      = splitOrigins (textVariable env "AI_WORKFLOW_ALLOWED_ORIGIN" everyOrigin) := by
  rw [ofEnvironment] at h
  cases hmodels : modelsOf env with
  | error e =>
    rw [hmodels] at h
    cases h
  | ok models =>
    cases hretrieval : retrievalOf env with
    | error e =>
      rw [hmodels, hretrieval] at h
      cases h
    | ok retrieval =>
      rw [hmodels, hretrieval] at h
      cases h
      rfl

/-- Whatever the environment, the settings list at least one origin, and each in the one form. -/
theorem isOrigin_of_mem_allowedOrigins {env : Environment} {settings : Settings}
    (h : ofEnvironment env = .ok settings) :
    settings.allowedOrigins ≠ [] ∧ ∀ origin ∈ settings.allowedOrigins, IsOrigin origin := by
  rw [allowedOrigins_ofEnvironment h]
  exact ⟨splitOrigins_ne_nil _, fun _ hmem => isOrigin_of_mem_splitOrigins hmem⟩

/-! ### The form of a list -/

/-- **A list of origins has one form.** Whatever the text, at least one origin is read from it, and
each one has no white space around it, is not blank and has no comma. The origins are the pieces of
the text between its commas, all that are not blank, trimmed and in order, or the one that stands
for every origin if all pieces are blank. Put together with commas, they are read as the same list
again. -/
theorem splitOrigins_canonical (raw : String) :
    splitOrigins raw ≠ [] ∧
      (∀ origin ∈ splitOrigins raw, IsOrigin origin) ∧
      (∃ parts, ArePieces raw parts ∧
        splitOrigins raw = if parts.all isBlankText then ["*"]
          else (parts.filter fun part => !isBlankText part).map trim) ∧
      splitOrigins (",".intercalate (splitOrigins raw)) = splitOrigins raw := by
  obtain ⟨parts, hparts⟩ := exists_arePieces raw
  have hne := splitOrigins_ne_nil raw
  have horigins : ∀ origin ∈ splitOrigins raw, IsOrigin origin :=
    fun _ hmem => isOrigin_of_mem_splitOrigins hmem
  exact ⟨hne, horigins, ⟨parts, hparts, splitOrigins_of_arePieces hparts⟩,
    splitOrigins_intercalate hne horigins⟩

/-- White space within an origin and a repeated origin stay, blank pieces go. -/
theorem splitOrigins_canonical_of_gaps :
    splitOrigins " a ,\u3000,b\tc,a,, " = ["a", "b\tc", "a"] ∧ IsOrigin "b\tc" ∧
      splitOrigins "a,b\tc,a" = ["a", "b\tc", "a"] := by
  have hread : splitOrigins " a ,\u3000,b\tc,a,, " = ["a", "b\tc", "a"] := by decide +kernel
  obtain ⟨-, horigins, -, hagain⟩ := splitOrigins_canonical " a ,\u3000,b\tc,a,, "
  rw [hread] at horigins hagain
  exact ⟨hread, horigins _ (by simp), hagain⟩

end Settings

end FlowDraft
