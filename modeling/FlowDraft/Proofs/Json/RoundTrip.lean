import FlowDraft.Json.Reader
import FlowDraft.Proofs.Json.Mapped
import FlowDraft.Proofs.Json.Scan
import Mathlib.Data.List.Nodup

/-!
# `FlowDraft.Proofs.Json.RoundTrip`: what is written is read back

A document is plain when it has no binary64 numbers, no whole numbers with more digits than are
read, and no object with a name twice. `readWithin_render` says that a plain document is read back
from its written form, on one line or on many, unless it is nested more deeply than the reader
allows.

The way goes over the tokens that a document is made of: `scan_render` finds them in the written
form, and `ofTokens_tokens` makes them up into the document again.
-/

set_option autoImplicit false

namespace FlowDraft

/-- A new name goes to the end. -/
theorem Fields.put_of_not_mem {τ : Type} [DecidableEq τ] {fields : Fields τ} {name : τ}
    (value : Json τ)
    (h : name ∉ keys fields) : put name value fields = fields ++ [(name, value)] := by
  induction fields with
  | nil => rfl
  | cons f rest ih =>
    obtain ⟨k, v⟩ := f
    simp only [keys, List.map_cons, List.mem_cons, not_or] at h
    rw [put, if_neg (Ne.symm h.1), ih h.2, List.cons_append]

namespace Json

/-! ### The tokens of a document -/

section
variable {τ : Type} [DecidableEq τ]

mutual

/-- A document without binary64 numbers, without whole numbers of more digits than are read, and
without objects that have a name twice. -/
def isPlain : Json τ → Bool
  | .float _ => false
  | .int n => decide ((Text.decimal n.natAbs).length ≤ Decimal.maxDigits)
  | .arr items => arePlain items
  | .obj fields => decide (Fields.keys fields).Nodup && holdPlain fields
  | _ => true

/-- Every item is plain. -/
def arePlain : List (Json τ) → Bool
  | [] => true
  | v :: vs => isPlain v && arePlain vs

/-- Every value in the fields is plain. -/
def holdPlain : List (τ × Json τ) → Bool
  | [] => true
  | (_, v) :: fs => isPlain v && holdPlain fs

end

section
variable {σ : Type} [DecidableEq σ] {f : σ → τ}

mutual

/-- Different texts that stay different leave a document plain, or not. -/
theorem isPlain_map (hf : Function.Injective f) (v : Json σ) : isPlain (map f v) = isPlain v := by
  cases v with
  | arr items => exact arePlain_mapItems hf items
  | obj fields =>
    have hkeys : (Fields.keys (mapFields f fields)).Nodup ↔ (Fields.keys fields).Nodup := by
      rw [keys_mapFields, List.nodup_map_iff hf]
    rw [map, isPlain, isPlain, holdPlain_mapFields hf fields, decide_eq_decide.2 hkeys]
  | _ => rfl

theorem arePlain_mapItems (hf : Function.Injective f) (items : List (Json σ)) :
    arePlain (mapItems f items) = arePlain items := by
  cases items with
  | nil => rfl
  | cons v vs => rw [mapItems, arePlain, arePlain, isPlain_map hf v, arePlain_mapItems hf vs]

theorem holdPlain_mapFields (hf : Function.Injective f) (fields : List (σ × Json σ)) :
    holdPlain (mapFields f fields) = holdPlain fields := by
  cases fields with
  | nil => rfl
  | cons field rest =>
    obtain ⟨k, v⟩ := field
    rw [mapFields, holdPlain, holdPlain, isPlain_map hf v, holdPlain_mapFields hf rest]

end

end

end

mutual

/-- The tokens that a document is written with. -/
def tokens : Json Letters → List Token
  | .str s => [.text s]
  | .arr items => .mark .openList :: (itemTokens items ++ [.mark .closeList])
  | .obj fields => .mark .openObject :: (fieldTokens fields ++ [.mark .closeObject])
  | v => [.value v]

/-- The tokens of items, with commas between them. -/
def itemTokens : List (Json Letters) → List Token
  | [] => []
  | [v] => tokens v
  | v :: vs => tokens v ++ .mark .comma :: itemTokens vs

/-- The tokens of fields, with commas between them. -/
def fieldTokens : List (Letters × Json Letters) → List Token
  | [] => []
  | [(k, v)] => .text k :: .mark .colon :: tokens v
  | (k, v) :: fs => .text k :: .mark .colon :: (tokens v ++ .mark .comma :: fieldTokens fs)

end

/-- A document starts with a token that closes no list. -/
theorem tokens_eq_cons (v : Json Letters) : ∃ t ts, tokens v = t :: ts ∧ t ≠ .mark .closeList := by
  cases v <;> exact ⟨_, _, rfl, by simp⟩

theorem itemTokens_eq_cons (v : Json Letters) (vs : List (Json Letters)) :
    ∃ t ts, itemTokens (v :: vs) = t :: ts ∧ t ≠ .mark .closeList := by
  obtain ⟨t, ts, htokens, ht⟩ := tokens_eq_cons v
  cases vs with
  | nil => exact ⟨t, ts, htokens, ht⟩
  | cons w ws =>
    refine ⟨t, ts ++ .mark .comma :: itemTokens (w :: ws), ?_, ht⟩
    rw [itemTokens, htokens, List.cons_append]
    exact List.cons_ne_nil _ _

/-! ### Finding the tokens -/

open Letter (char)
open Letters (ofChars)

/-- Lines break at blanks. -/
theorem Style.isGap_lineBreak (style : Style) (level : Nat) :
    ∀ b ∈ ofChars (style.lineBreak level), b.isOf Token.isGap = true := by
  rw [Style.lineBreak]
  split
  · exact List.forall_mem_nil _
  · refine List.forall_mem_cons.2 ⟨rfl, List.forall_mem_map.2 fun b hb => ?_⟩
    rw [(List.mem_replicate.1 hb).2]
    rfl

/-- What stands between two items is a comma, with blanks behind it. -/
theorem Style.exists_separator_eq (style : Style) (level : Nat) :
    ∃ bs, ofChars (style.separator level) = char ',' :: bs ∧
      ∀ b ∈ bs, b.isOf Token.isGap = true := by
  rw [Style.separator]
  split
  · exact ⟨[char ' '], rfl, List.forall_mem_singleton.2 rfl⟩
  · exact ⟨_, rfl, isGap_lineBreak style level⟩

open Token in
mutual

/-- A written document is read as its tokens. -/
theorem reads_render {style : Style} (hstyle : style.ascii = false) (v : Json Letters)
    (h : isPlain v = true) (level : Nat) : Reads (render style level v) (tokens v) := by
  cases v with
  | null => exact reads_word (List.cons_ne_nil _ _) (List.all_eq_true.1 (by decide))
  | bool b =>
    cases b <;> exact reads_word (List.cons_ne_nil _ _) (List.all_eq_true.1 (by decide))
  | int n =>
    have hword := reads_word (Text.decimalInt_ne_nil n) (isBare_of_mem_decimalInt n)
    rw [ofWord_decimalInt (by simpa [isPlain] using h)] at hword
    exact hword
  | float x => simp [isPlain] at h
  | str s => exact reads_text hstyle s
  | arr items =>
    have hitems := reads_renderItems hstyle items (by simpa [isPlain] using h) (level + 1)
    cases items with
    | nil => exact (Reads.nil.concat_mark rfl fun _ => rfl).cons_mark fun _ => rfl
    | cons v vs =>
      -- The line breaks around the items are gaps between tokens.
      have hlines := (hitems.gaps_append (style.isGap_lineBreak (level + 1))).append_gaps
        (style.isGap_lineBreak level)
      have hclosed := hlines.concat_mark (l := char ']') rfl fun _ => rfl
      rw [List.append_assoc] at hclosed
      exact hclosed.cons_mark fun _ => rfl
  | obj fields =>
    simp only [isPlain, Bool.and_eq_true] at h
    have hfields := reads_renderFields hstyle fields h.2 (level + 1)
    cases fields with
    | nil => exact (Reads.nil.concat_mark rfl fun _ => rfl).cons_mark fun _ => rfl
    | cons f fs =>
      have hlines := (hfields.gaps_append (style.isGap_lineBreak (level + 1))).append_gaps
        (style.isGap_lineBreak level)
      have hclosed := hlines.concat_mark (l := char '\x7d') rfl fun _ => rfl
      rw [List.append_assoc] at hclosed
      exact hclosed.cons_mark fun _ => rfl

/-- Written items are read as their tokens. -/
theorem reads_renderItems {style : Style} (hstyle : style.ascii = false) (items : List (Json Letters))
    (h : arePlain items = true) (level : Nat) :
    Reads (renderItems style level items) (itemTokens items) := by
  cases items with
  | nil => exact Reads.nil
  | cons v vs =>
    simp only [arePlain, Bool.and_eq_true] at h
    have hv := reads_render hstyle v h.1 level
    have hrest := reads_renderItems hstyle vs h.2 level
    cases vs with
    | nil => exact hv
    | cons w ws =>
      obtain ⟨bs, hseparator, hbs⟩ := style.exists_separator_eq level
      show Reads (render style level v ++ (ofChars (style.separator level) ++
        renderItems style level (w :: ws))) _
      rw [hseparator]
      exact hv.append rfl ((hrest.gaps_append hbs).cons_mark fun _ => rfl)

/-- Written fields are read as their tokens. -/
theorem reads_renderFields {style : Style} (hstyle : style.ascii = false)
    (fields : List (Letters × Json Letters)) (h : holdPlain fields = true) (level : Nat) :
    Reads (renderFields style level fields) (fieldTokens fields) := by
  cases fields with
  | nil => exact Reads.nil
  | cons f fs =>
    obtain ⟨k, v⟩ := f
    simp only [holdPlain, Bool.and_eq_true] at h
    have hv := reads_render hstyle v h.1 level
    have hrest := reads_renderFields hstyle fs h.2 level
    have hfield : Reads (renderText style k ++ char ':' :: char ' ' :: render style level v)
        (.text k :: .mark .colon :: tokens v) :=
      (reads_text hstyle k).append rfl ((hv.cons_gap rfl).cons_mark fun _ => rfl)
    cases fs with
    | nil => exact hfield
    | cons f fs =>
      obtain ⟨bs, hseparator, hbs⟩ := style.exists_separator_eq level
      show Reads (renderText style k ++ (char ':' :: char ' ' :: render style level v) ++
        (ofChars (style.separator level) ++ renderFields style level (f :: fs))) _
      rw [hseparator]
      exact hfield.append rfl ((hrest.gaps_append hbs).cons_mark fun _ => rfl)

end

/-- The tokens of a written document are those that it is made of. -/
theorem scan_render {style : Style} (hstyle : style.ascii = false) {v : Json Letters}
    (h : isPlain v = true) (level : Nat) : Token.scan (render style level v) = tokens v := by
  have hreads := reads_render hstyle v h level []
  rw [Token.scan, Token.Scan.start, Token.finish_eq (by rw [hreads]), hreads, List.append_nil,
    List.reverse_reverse]

/-! ### Reading tokens -/

namespace Reading

/-- Tokens that are read one after the other. -/
theorem foldlM_append_ok {limit : Nat} {r q : Reading} {ts : List Token}
    (h : ts.foldlM (step limit) r = .ok q) (us : List Token) :
    (ts ++ us).foldlM (step limit) r = us.foldlM (step limit) q := by
  rw [List.foldlM_append, h]
  rfl

theorem foldlM_cons_ok {limit : Nat} {r q : Reading} {t : Token} (h : step limit r t = .ok q)
    (us : List Token) : (t :: us).foldlM (step limit) r = us.foldlM (step limit) q := by
  rw [List.foldlM_cons, h]
  rfl

/-- A list opens where there is a level left. -/
theorem foldlM_openList {limit : Nat} {stack : List Frame} (h : stack.length < limit)
    (ts : List Token) : (Token.mark .openList :: ts).foldlM (step limit) (.atValue stack)
      = ts.foldlM (step limit) (.atFirstItem stack) := by
  have hopen : step limit (.atValue stack) (.mark .openList) = .ok (.atFirstItem stack) := if_pos h
  exact foldlM_cons_ok hopen ts

/-- An object opens where there is a level left. -/
theorem foldlM_openObject {limit : Nat} {stack : List Frame} (h : stack.length < limit)
    (ts : List Token) : (Token.mark .openObject :: ts).foldlM (step limit) (.atValue stack)
      = ts.foldlM (step limit) (.atFirstName stack) := by
  have hopen : step limit (.atValue stack) (.mark .openObject) = .ok (.atFirstName stack) :=
    if_pos h
  exact foldlM_cons_ok hopen ts

/-- A token that is no closing bracket is the first item of a list as any other item is. -/
theorem step_atFirstItem {limit : Nat} {stack : List Frame} {t : Token}
    (h : t ≠ .mark .closeList) :
    step limit (.atFirstItem stack) t = step limit (.atValue (.list [] :: stack)) t := by
  cases t with
  | mark m =>
    cases m with
    | closeList => exact absurd rfl h
    | _ => rfl
  | _ => rfl

mutual

/-- The tokens of a document are read as the document, in its place. -/
theorem foldlM_tokens (limit : Nat) (v : Json Letters) (hv : isPlain v = true) (stack : List Frame)
    (hdepth : stack.length + levels v < limit) :
    (tokens v).foldlM (step limit) (.atValue stack) = .ok (place v stack) := by
  cases v with
  | null => rfl
  | bool b => rfl
  | int n => rfl
  | float x => simp [isPlain] at hv
  | str s => rfl
  | arr items =>
    rw [tokens, foldlM_openList (by omega)]
    cases items with
    | nil => rfl
    | cons w ws =>
      obtain ⟨t, ts, htokens, ht⟩ := itemTokens_eq_cons w ws
      have hitems := foldlM_itemTokens limit (w :: ws) (by simpa [isPlain] using hv) [] stack
        (List.cons_ne_nil w ws) (by simpa [levels] using hdepth)
      rw [htokens, List.foldlM_cons, ← step_atFirstItem ht, ← List.foldlM_cons, ← htokens] at hitems
      rw [foldlM_append_ok hitems, List.foldlM_cons]
      show Except.ok (place (.arr ((w :: ws).reverse ++ []).reverse) stack) = _
      rw [List.append_nil, List.reverse_reverse]
  | obj fields =>
    simp only [isPlain, Bool.and_eq_true, decide_eq_true_eq] at hv
    rw [tokens, foldlM_openObject (by omega)]
    cases fields with
    | nil => rfl
    | cons f fs =>
      have hfields := foldlM_fieldTokens limit (f :: fs) hv.2 [] hv.1 stack
        (List.cons_ne_nil f fs) (by simpa [levels] using hdepth)
      -- The first name is read in an object without fields as behind a comma.
      have hfirst : (fieldTokens (f :: fs)).foldlM (step limit) (.atFirstName stack)
          = (fieldTokens (f :: fs)).foldlM (step limit) (.atName [] stack) := by
        cases fs <;> rfl
      rw [foldlM_append_ok (hfirst.trans hfields)]
      rfl

/-- The tokens of the items of a list are read behind those that are read already. -/
theorem foldlM_itemTokens (limit : Nat) (items : List (Json Letters)) (hitems : arePlain items = true)
    (done : List (Json Letters)) (stack : List Frame) (hne : items ≠ [])
    (hdepth : stack.length + itemLevels items < limit) :
    (itemTokens items).foldlM (step limit) (.atValue (.list done :: stack))
      = .ok (.behindItem (items.reverse ++ done) stack) := by
  cases items with
  | nil => exact absurd rfl hne
  | cons v vs =>
    simp only [arePlain, Bool.and_eq_true] at hitems
    rw [itemLevels] at hdepth
    have hv := foldlM_tokens limit v hitems.1 (.list done :: stack)
      (by rw [List.length_cons]; omega)
    cases vs with
    | nil => exact hv
    | cons w ws =>
      have hws := foldlM_itemTokens limit (w :: ws) hitems.2 (v :: done) stack
        (List.cons_ne_nil w ws) (by omega)
      show (tokens v ++ .mark .comma :: itemTokens (w :: ws)).foldlM (step limit) _ = _
      rw [foldlM_append_ok hv, foldlM_cons_ok (q := .atValue (.list (v :: done) :: stack)) rfl,
        hws]
      simp

/-- The tokens of the fields of an object are read behind those that are read already. Every name
is new, so every field goes to the end. -/
theorem foldlM_fieldTokens (limit : Nat) (fields : List (Letters × Json Letters))
    (hfields : holdPlain fields = true) (done : Fields Letters)
    (hkeys : (Fields.keys (done ++ fields)).Nodup) (stack : List Frame) (hne : fields ≠ [])
    (hdepth : stack.length + fieldLevels fields < limit) :
    (fieldTokens fields).foldlM (step limit) (.atName done stack)
      = .ok (.behindField (done ++ fields) stack) := by
  cases fields with
  | nil => exact absurd rfl hne
  | cons f fs =>
    obtain ⟨k, v⟩ := f
    simp only [holdPlain, Bool.and_eq_true] at hfields
    rw [fieldLevels] at hdepth
    have hnew : k ∉ Fields.keys done := fun hk => by
      simp only [Fields.keys, List.map_append, List.map_cons] at hk hkeys
      exact (List.nodup_append.1 hkeys).2.2 k hk k List.mem_cons_self rfl
    have hv := foldlM_tokens limit v hfields.1 (.object done k :: stack)
      (by rw [List.length_cons]; omega)
    rw [place, Fields.put_of_not_mem v hnew] at hv
    cases fs with
    | nil => exact hv
    | cons f fs =>
      have hfs := foldlM_fieldTokens limit (f :: fs) hfields.2 (done ++ [(k, v)])
        (by simpa using hkeys) stack (List.cons_ne_nil f fs) (by omega)
      show (tokens v ++ .mark .comma :: fieldTokens (f :: fs)).foldlM (step limit)
        (.atValue (.object done k :: stack)) = _
      rw [foldlM_append_ok hv, foldlM_cons_ok (q := .atName (done ++ [(k, v)]) stack) rfl, hfs]
      simp

end

end Reading

/-- The tokens of a plain document make it up again. -/
theorem ofTokens_tokens {limit : Nat} {v : Json Letters} (hv : isPlain v = true)
    (h : levels v < limit) : ofTokens limit (tokens v) = .ok v := by
  rw [ofTokens, Reading.foldlM_tokens limit v hv [] (by rw [List.length_nil]; omega)]
  rfl

/-- A plain document that is not nested too deeply is read back as it was written. -/
theorem readWithin_render {style : Style} (hstyle : style.ascii = false) {limit : Nat}
    {v : Json Letters} (hv : isPlain v = true) (h : levels v < limit) :
    readWithin limit (render style 0 v) = .ok v := by
  rw [readWithin, scan_render hstyle hv, ofTokens_tokens hv h]

end Json

end FlowDraft
