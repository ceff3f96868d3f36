import FlowDraft.Proofs.Decimal.Bare
import FlowDraft.Proofs.Json.Texts

/-!
# `FlowDraft.Proofs.Json.Characters`: the letters of a written document

A written document has letters of three kinds (`shown_of_mem_render`): characters that mark it up,
line feeds between its items if the style breaks lines, and the letters of its texts that are no
control characters. So a document on one line has no line feed, whatever its texts are
(`lineFeed_not_mem_render`), it has a backtick only if one of its texts has one
(`backtick_not_mem_render`), and it has halves of pairs only if they have. So a document whose texts
are strings is written without any loss (`ofString_write`). The first letter tells an object from
other documents (`head?_render_eq_brace_iff`).
-/

set_option autoImplicit false

namespace FlowDraft.Json

open Letter (char)
open Letters (ofChars)
open Token (isBare)

/-- The characters that documents are marked up with: those of bare words, marks, blanks, quotes and
backslashes. -/
def isMarkup (c : Char) : Bool :=
  isBare c || ['[', ']', '\x7b', '\x7d', ',', ':', ' ', '"', '\\'].contains c

/-- The letter may stand in a written document with these texts. -/
inductive Shown (style : Style) (texts : List Letters) (l : Letter) : Prop where
  | markup (h : l.isOf isMarkup = true)
  | lineFeed (h : l = char '\n') (hstyle : style.indent ≠ none)
  | text {s : Letters} (hs : s ∈ texts) (hl : l ∈ s) (hcontrol : 0x20 ≤ l.code)

theorem Shown.mono {style : Style} {texts texts' : List Letters} {l : Letter}
    (h : Shown style texts l) (hsub : texts ⊆ texts') : Shown style texts' l := by
  cases h with
  | markup h => exact .markup h
  | lineFeed h hstyle => exact .lineFeed h hstyle
  | text hs hl hcontrol => exact .text (hsub hs) hl hcontrol

theorem lineFeed_not_mem_of_bare {cs : List Char} (h : ∀ c ∈ cs, isBare c = true) : '\n' ∉ cs :=
  fun hmem => absurd (h _ hmem) (by decide)

theorem isMarkup_of_isBare {c : Char} (h : isBare c = true) : isMarkup c = true := by
  rw [isMarkup, h]
  rfl

/-! ### Texts -/

theorem isBare_hex (width n : Nat) : ∀ c ∈ Text.hex width n, isBare c = true := by
  have hdigit : ∀ d : Fin 16, isBare (Text.hexDigit d.val) = true := by decide
  induction width generalizing n with
  | zero => exact List.forall_mem_nil _
  | succ width ih =>
    rw [Text.hex, List.forall_mem_append, List.forall_mem_singleton]
    exact ⟨ih (n / 16), hdigit ⟨n % 16, Nat.mod_lt n (by decide)⟩⟩

theorem isMarkup_escapeUnit (n : Nat) : ∀ c ∈ escapeUnit n, isMarkup c = true := by
  rw [escapeUnit, List.forall_mem_cons, List.forall_mem_cons]
  exact ⟨rfl, rfl, fun c hc => isMarkup_of_isBare (isBare_hex 4 n c hc)⟩

theorem isMarkup_escapeCode (d : Char) : ∀ c ∈ escapeCode d, isMarkup c = true := by
  rw [escapeCode]
  split
  · exact isMarkup_escapeUnit _
  · exact List.forall_mem_append.2 ⟨isMarkup_escapeUnit _, isMarkup_escapeUnit _⟩

/-- A character stands for itself, unless it is escaped. Control characters always are. -/
theorem isMarkup_or_eq_of_mem_escapeChar {style : Style} {c d : Char}
    (h : c ∈ escapeChar style d) : isMarkup c = true ∨ c = d ∧ 0x20 ≤ c.toNat := by
  have hshort : ∀ e : Char, isMarkup e = true → c ∈ ['\\', e] → isMarkup c = true := by
    intro e he hc
    rcases List.mem_cons.1 hc with rfl | hc
    · rfl
    · rwa [List.mem_singleton.1 hc]
  rw [escapeChar] at h
  -- Seven characters have short escapes; what is left of the control characters is given by code.
  split at h
  · exact .inl (hshort _ rfl h)
  split at h
  · exact .inl (hshort _ rfl h)
  split at h
  · exact .inl (hshort _ rfl h)
  split at h
  · exact .inl (hshort _ rfl h)
  split at h
  · exact .inl (hshort _ rfl h)
  split at h
  · exact .inl (hshort _ rfl h)
  split at h
  · exact .inl (hshort _ rfl h)
  split at h
  · exact .inl (isMarkup_escapeCode d c h)
  · next hcontrol =>
    split at h
    · exact .inl (isMarkup_escapeCode d c h)
    · obtain rfl := List.mem_singleton.1 h
      exact .inr ⟨rfl, by omega⟩

/-- A letter stands for itself, unless it is escaped. -/
theorem isMarkup_or_eq_of_mem_escape {style : Style} {l m : Letter} (h : l ∈ escape style m) :
    l.isOf isMarkup = true ∨ l = m ∧ 0x20 ≤ l.code := by
  cases m with
  | char d =>
    obtain ⟨c, hc, rfl⟩ := List.mem_map.1 h
    exact (isMarkup_or_eq_of_mem_escapeChar hc).imp id fun ⟨heq, hcontrol⟩ =>
      ⟨congrArg char heq, hcontrol⟩
  | half n =>
    rw [escape] at h
    split at h
    · obtain ⟨c, hc, rfl⟩ := List.mem_map.1 h
      exact .inl (isMarkup_escapeUnit _ c hc)
    · obtain rfl := List.mem_singleton.1 h
      exact .inr ⟨rfl, Nat.le_add_right_of_le (by decide)⟩

theorem shown_of_mem_renderText {style : Style} {texts : List Letters} {s : Letters}
    (hs : s ∈ texts) : ∀ l ∈ renderText style s, Shown style texts l := by
  rw [renderText, List.forall_mem_cons, List.forall_mem_append, List.forall_mem_singleton]
  refine ⟨.markup rfl, ?_, .markup rfl⟩
  intro l hl
  obtain ⟨m, hm, hl⟩ := List.mem_flatMap.1 hl
  rcases isMarkup_or_eq_of_mem_escape hl with hmarkup | ⟨rfl, hcontrol⟩
  · exact .markup hmarkup
  · exact .text hs hm hcontrol

/-! ### Documents -/

section
variable (style : Style) (texts : List Letters)

theorem shown_of_mem_lineBreak (level : Nat) :
    ∀ l ∈ ofChars (style.lineBreak level), Shown style texts l := by
  rw [Style.lineBreak]
  split
  · exact List.forall_mem_nil _
  · next hindent =>
    refine List.forall_mem_cons.2 ⟨.lineFeed rfl (by simp [hindent]), ?_⟩
    refine List.forall_mem_map.2 fun c hc => ?_
    rw [(List.mem_replicate.1 hc).2]
    exact .markup rfl

theorem shown_of_mem_separator (level : Nat) :
    ∀ l ∈ ofChars (style.separator level), Shown style texts l := by
  rw [Style.separator]
  split
  · refine List.forall_mem_cons.2 ⟨.markup rfl, List.forall_mem_cons.2 ⟨.markup rfl, ?_⟩⟩
    exact List.forall_mem_nil _
  · exact List.forall_mem_cons.2 ⟨.markup rfl, shown_of_mem_lineBreak style texts level⟩

end

theorem shown_of_bare {style : Style} {texts : List Letters} {cs : List Char}
    (h : ∀ c ∈ cs, isBare c = true) : ∀ l ∈ ofChars cs, Shown style texts l :=
  List.forall_mem_map.2 fun c hc => .markup (isMarkup_of_isBare (h c hc))

mutual

/-- The letters of a written document mark it up, break its lines, or are those of its texts. -/
theorem shown_of_mem_render (style : Style) (level : Nat) (v : Json Letters) :
    ∀ l ∈ render style level v, Shown style (texts v) l := by
  cases v with
  | null => exact shown_of_bare (List.all_eq_true.1 (by decide))
  | bool b => cases b <;> exact shown_of_bare (List.all_eq_true.1 (by decide))
  | int n => exact shown_of_bare (Token.isBare_of_mem_decimalInt n)
  | float x =>
    exact shown_of_bare (Decimal.Layout.isBareWord_render Decimal.Layout.hasBareWords_json x).bare
  | str s => exact shown_of_mem_renderText List.mem_cons_self
  | arr items =>
    have hitems := shown_of_mem_renderItems style (level + 1) items
    cases items with
    | nil => exact List.forall_mem_cons.2 ⟨.markup rfl, List.forall_mem_singleton.2 (.markup rfl)⟩
    | cons v vs =>
      simp only [render, List.forall_mem_cons, List.forall_mem_append]
      exact ⟨.markup rfl, ⟨shown_of_mem_lineBreak style _ _, hitems⟩,
        shown_of_mem_lineBreak style _ _, .markup rfl, List.forall_mem_nil _⟩
  | obj fields =>
    have hfields := shown_of_mem_renderFields style (level + 1) fields
    cases fields with
    | nil => exact List.forall_mem_cons.2 ⟨.markup rfl, List.forall_mem_singleton.2 (.markup rfl)⟩
    | cons f fs =>
      simp only [render, List.forall_mem_cons, List.forall_mem_append]
      exact ⟨.markup rfl, ⟨shown_of_mem_lineBreak style _ _, hfields⟩,
        shown_of_mem_lineBreak style _ _, .markup rfl, List.forall_mem_nil _⟩

theorem shown_of_mem_renderItems (style : Style) (level : Nat) (items : List (Json Letters)) :
    ∀ l ∈ renderItems style level items, Shown style (itemTexts items) l := by
  cases items with
  | nil => exact List.forall_mem_nil _
  | cons v vs =>
    have hv : ∀ l ∈ render style level v, Shown style (texts v ++ itemTexts vs) l := fun l hl =>
      (shown_of_mem_render style level v l hl).mono (List.subset_append_left _ _)
    have hvs : ∀ l ∈ renderItems style level vs, Shown style (texts v ++ itemTexts vs) l :=
      fun l hl =>
        (shown_of_mem_renderItems style level vs l hl).mono (List.subset_append_right _ _)
    cases vs with
    | nil => exact hv
    | cons w ws =>
      exact List.forall_mem_append.2
        ⟨hv, List.forall_mem_append.2 ⟨shown_of_mem_separator style _ _, hvs⟩⟩

theorem shown_of_mem_renderFields (style : Style) (level : Nat)
    (fields : List (Letters × Json Letters)) :
    ∀ l ∈ renderFields style level fields, Shown style (fieldTexts fields) l := by
  cases fields with
  | nil => exact List.forall_mem_nil _
  | cons f fs =>
    obtain ⟨k, v⟩ := f
    have hk : ∀ l ∈ renderText style k, Shown style (fieldTexts ((k, v) :: fs)) l :=
      shown_of_mem_renderText List.mem_cons_self
    have hv : ∀ l ∈ render style level v, Shown style (fieldTexts ((k, v) :: fs)) l := fun l hl =>
      (shown_of_mem_render style level v l hl).mono
        (List.subset_cons_of_subset _ (List.subset_append_left _ _))
    have hfs : ∀ l ∈ renderFields style level fs, Shown style (fieldTexts ((k, v) :: fs)) l :=
      fun l hl => (shown_of_mem_renderFields style level fs l hl).mono
        (List.subset_cons_of_subset _ (List.subset_append_right _ _))
    have hfield : ∀ l ∈ renderText style k ++ char ':' :: char ' ' :: render style level v,
        Shown style (fieldTexts ((k, v) :: fs)) l :=
      List.forall_mem_append.2 ⟨hk, List.forall_mem_cons.2 ⟨.markup rfl,
        List.forall_mem_cons.2 ⟨.markup rfl, hv⟩⟩⟩
    cases fs with
    | nil => exact hfield
    | cons f fs =>
      exact List.forall_mem_append.2
        ⟨hfield, List.forall_mem_append.2 ⟨shown_of_mem_separator style _ _, hfs⟩⟩

end

/-! ### Letters that a document does not have -/

/-- A document on one line has no line feed: those in its texts are escaped. -/
theorem lineFeed_not_mem_render {style : Style} (hstyle : style.indent = none) (level : Nat)
    (v : Json Letters) : char '\n' ∉ render style level v := by
  intro hmem
  cases shown_of_mem_render style level v _ hmem with
  | markup h => exact absurd h (by decide)
  | lineFeed _ hindent => exact hindent hstyle
  | text _ _ hcontrol => exact absurd hcontrol (by decide)

/-- A document whose texts have no backticks is written without them. -/
theorem backtick_not_mem_render (style : Style) (level : Nat) {v : Json Letters}
    (h : ∀ s ∈ texts v, char '\x60' ∉ s) : char '\x60' ∉ render style level v := by
  intro hmem
  cases shown_of_mem_render style level v _ hmem with
  | markup h => exact absurd h (by decide)
  | lineFeed h => exact absurd h (by decide)
  | text hs hl => exact h _ hs hl

/-- A document whose texts have no halves of pairs is written without them. -/
theorem isWhole_render (style : Style) (level : Nat) {v : Json Letters}
    (h : ∀ s ∈ texts v, Letters.isWhole s = true) :
    Letters.isWhole (render style level v) = true := by
  refine List.all_eq_true.2 fun l hl => ?_
  cases l with
  | char c => rfl
  | half n =>
    cases shown_of_mem_render style level v _ hl with
    | markup h => cases h
    | lineFeed h => cases h
    | text hs hl => exact List.all_eq_true.1 (h _ hs) _ hl

/-- A document whose texts are strings is written letter by letter. -/
theorem ofString_write (style : Style) (v : Json) :
    Letters.ofString (write style v) = render style 0 (v.map Letters.ofString) := by
  refine Letters.ofString_shown (isWhole_render style 0 ?_)
  rw [texts_map]
  exact List.forall_mem_map.2 fun s _ => Letters.isWhole_ofString s

/-- A document whose texts are strings has no line feed either when it is written on one line. -/
theorem lineFeed_not_mem_dump {style : Style} (hstyle : style.indent = none) (v : Json) :
    '\n' ∉ dump style v := fun hmem =>
  lineFeed_not_mem_render hstyle 0 _ ((Letters.mem_map_shown_iff (by decide)).1 hmem)

/-- A document is read back as it was written. -/
theorem read_write {style : Style} (hstyle : style.ascii = false) {v : Json}
    (hv : isPlain v = true) (h : levels v < maxDepth) : read (write style v) = .ok v := by
  have hplain : isPlain (v.map Letters.ofString) = true :=
    (isPlain_map (fun _ _ => Letters.ofString_injective) v).trans hv
  have hlevels : levels (v.map Letters.ofString) < maxDepth := (levels_map _ v).trans_lt h
  refine read_of_readWithin ?_
  rw [ofString_write, readWithin_render hstyle hplain hlevels]

/-! ### The first letter -/

/-- A bare word does not start with a brace. -/
theorem head?_ne_brace {cs : List Char} (h : ∀ c ∈ cs, isBare c = true) :
    (ofChars cs).head? ≠ some (char '\x7b') := by
  intro hhead
  exact absurd (h _ (Letters.mem_ofChars_iff.1 (List.mem_of_head? hhead))) (by decide)

/-- Objects are the documents that start with a brace. -/
theorem head?_render_eq_brace_iff {style : Style} {level : Nat} {v : Json Letters} :
    (render style level v).head? = some (char '\x7b') ↔ ∃ fields, v = .obj fields := by
  constructor
  · intro hhead
    cases v with
    | null => cases hhead
    | bool b => cases b <;> cases hhead
    | int n => exact absurd hhead (head?_ne_brace (Token.isBare_of_mem_decimalInt n))
    | float x =>
      exact absurd hhead (head?_ne_brace
        (Decimal.Layout.isBareWord_render Decimal.Layout.hasBareWords_json x).bare)
    | str s => cases hhead
    | arr items => cases items <;> cases hhead
    | obj fields => exact ⟨fields, rfl⟩
  · rintro ⟨fields, rfl⟩
    cases fields <;> rfl

theorem head?_dump_eq_brace_iff {style : Style} {v : Json} :
    (dump style v).head? = some '\x7b' ↔ ∃ fields, v = .obj fields := by
  have hletter : ∀ s : Letters, (s.map Letter.shown).head? = some '\x7b' ↔
      s.head? = some (char '\x7b') := by
    intro s
    cases s with
    | nil => simp
    | cons l s => cases l <;> simp [Letter.shown]
  rw [dump, hletter, head?_render_eq_brace_iff]
  cases v <;> simp [map]

end FlowDraft.Json
