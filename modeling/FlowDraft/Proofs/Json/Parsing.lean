import FlowDraft.Proofs.Json.Lexeme
import FlowDraft.Proofs.Json.RoundTrip

/-!
# `FlowDraft.Proofs.Json.Parsing`: the reader accepts the grammar

`readWithin_eq_ok_iff` says that a text is read as a document exactly when the grammar has it as that
document, within as many levels as the reader allows.

From the grammar to the reader the proof follows the rules: each part of a document has tokens that
take the reader from where the part is due to where it is complete (`Derives.read`). The other way
round there is no derivation to follow. Instead `Consumed` says what the grammar has of the
characters that were read so far, for each state of the reader, and every token preserves it
(`consumed_step`).
-/

set_option autoImplicit false

namespace FlowDraft.Json

namespace Grammar

open Letter (char)
open Token (Reads)
open Reading (step place start nest foldlM_append_ok foldlM_openList foldlM_openObject
  step_atFirstItem)

/-! ### Blanks -/

theorem Blank.isGap {bs : Letters} (h : Blank bs) : ∀ b ∈ bs, b.isOf Token.isGap = true := by
  intro b hb
  rcases h b hb with rfl | rfl | rfl | rfl <;> rfl

/-- Blanks before tokens are passed over. -/
theorem Blank.reads_append {bs cs : Letters} {ts : List Token} (hb : Blank bs) (h : Reads cs ts) :
    Reads (bs ++ cs) ts :=
  h.gaps_append hb.isGap

/-- So are blanks behind tokens. They end a word that is open. -/
theorem Blank.append_reads {bs cs : Letters} {ts : List Token} (hb : Blank bs) (h : Reads cs ts) :
    Reads (cs ++ bs) ts :=
  h.append_gaps hb.isGap

theorem Blank.reads {bs : Letters} (h : Blank bs) : Reads bs [] := by
  have happend := h.reads_append Reads.nil
  rwa [List.append_nil] at happend

/-! ### From the grammar to the reader -/

/-- The tokens take the reader from where the part is due to where it is complete. They do not start
with the end of a list, and the tokens of members start with a name. -/
def Part.Read (n : Nat) (ts : List Token) : Part → Prop
  | .value v | .element v =>
    (∃ t us, ts = t :: us ∧ t ≠ .mark .closeList) ∧ ∀ limit stack, stack.length + n ≤ limit →
      ts.foldlM (step limit) (.atValue stack) = .ok (place v stack)
  | .items vs =>
    (∃ t us, ts = t :: us ∧ t ≠ .mark .closeList) ∧ ∀ limit stack, stack.length + 1 + n ≤ limit →
      ts.foldlM (step limit) (.atValue (.list [] :: stack)) = .ok (.behindItem vs.reverse stack)
  | .members ms =>
    (∃ s us, ts = .text s :: us) ∧ ∀ limit fields stack, stack.length + 1 + n ≤ limit →
      ts.foldlM (step limit) (.atName fields stack)
        = .ok (.behindField (ms.foldl (fun fields m => Fields.put m.1 m.2 fields) fields) stack)

/-- A part of a document has tokens, and the reader accepts them. -/
theorem Derives.read {n : Nat} {cs : Letters} {p : Part} (h : Derives n cs p) :
    ∃ ts, Reads cs ts ∧ p.Read n ts := by
  induction h with
  | literal h =>
    exact ⟨_, h.reads, ⟨_, _, rfl, Token.noConfusion⟩, fun limit stack _ => rfl⟩
  | text h => exact ⟨_, h.reads, ⟨_, _, rfl, Token.noConfusion⟩, fun limit stack _ => rfl⟩
  | emptyList h =>
    refine ⟨_, (h.reads.concat_mark rfl fun _ => rfl).cons_mark fun _ => rfl,
      ⟨_, _, rfl, by simp⟩, ?_⟩
    intro limit stack hlimit
    rw [foldlM_openList (by omega)]
    rfl
  | @list n cs vs h ih =>
    obtain ⟨ts, hreads, ⟨t, us, rfl, ht⟩, hrun⟩ := ih
    refine ⟨_, (hreads.concat_mark rfl fun _ => rfl).cons_mark fun _ => rfl,
      ⟨_, _, rfl, by simp⟩, ?_⟩
    intro limit stack hlimit
    have hitems := hrun limit stack (by omega)
    rw [List.foldlM_cons, ← step_atFirstItem ht, ← List.foldlM_cons] at hitems
    rw [foldlM_openList (by omega), foldlM_append_ok hitems, List.foldlM_cons]
    show Except.ok (place (.arr vs.reverse.reverse) stack) = _
    rw [List.reverse_reverse]
  | emptyObject h =>
    refine ⟨_, (h.reads.concat_mark rfl fun _ => rfl).cons_mark fun _ => rfl,
      ⟨_, _, rfl, by simp⟩, ?_⟩
    intro limit stack hlimit
    rw [foldlM_openObject (by omega)]
    rfl
  | object h hfields ih =>
    obtain ⟨ts, hreads, ⟨s, us, rfl⟩, hrun⟩ := ih
    refine ⟨_, (hreads.concat_mark rfl fun _ => rfl).cons_mark fun _ => rfl,
      ⟨_, _, rfl, by simp⟩, ?_⟩
    intro limit stack hlimit
    have hmembers := hrun limit [] stack (by omega)
    rw [foldlM_openObject (by omega), Fields.lastWins_iff.1 hfields]
    -- The first name is read in an object without fields as behind a comma.
    show (Token.text s :: us ++ [Token.mark .closeObject]).foldlM (step limit) (.atName [] stack) = _
    rw [foldlM_append_ok hmembers]
    rfl
  | element hbefore h hafter ih =>
    obtain ⟨ts, hreads, hread⟩ := ih
    exact ⟨ts, hafter.append_reads (hbefore.reads_append hreads), hread⟩
  | item h ih =>
    obtain ⟨ts, hreads, hhead, hrun⟩ := ih
    exact ⟨ts, hreads, hhead, fun limit stack hlimit => hrun limit _ hlimit⟩
  | items h hv ih ihv =>
    obtain ⟨ts, hreads, ⟨t, us, rfl, ht⟩, hrun⟩ := ih
    obtain ⟨us', hreads', -, hrun'⟩ := ihv
    refine ⟨_, hreads.append rfl (hreads'.cons_mark fun _ => rfl), ⟨_, _, rfl, ht⟩, ?_⟩
    intro limit stack hlimit
    rw [foldlM_append_ok (hrun limit stack hlimit), List.reverse_concat]
    exact hrun' limit (.list _ :: stack) hlimit
  | member hbefore hname hbetween h ih =>
    obtain ⟨ts, hreads, -, hrun⟩ := ih
    have hhead := hbetween.append_reads (hbefore.reads_append hname.reads)
    exact ⟨_, hhead.append rfl (hreads.cons_mark fun _ => rfl), ⟨_, _, rfl⟩,
      fun limit fields stack hlimit => hrun limit (.object fields _ :: stack) hlimit⟩
  | members h hm ih ihm =>
    obtain ⟨ts, hreads, ⟨s, us, rfl⟩, hrun⟩ := ih
    obtain ⟨us', hreads', -, hrun'⟩ := ihm
    refine ⟨_, hreads.append rfl (hreads'.cons_mark fun _ => rfl), ⟨_, _, rfl⟩, ?_⟩
    intro limit fields stack hlimit
    rw [foldlM_append_ok (hrun limit fields stack hlimit), List.foldl_concat]
    exact hrun' limit _ stack hlimit

theorem Derives.readWithin {n limit : Nat} {cs : Letters} {v : Json Letters}
    (h : Derives n cs (.element v)) (hn : n ≤ limit) : readWithin limit cs = .ok v := by
  obtain ⟨ts, hreads, -, hrun⟩ := h.read
  have hscan : Token.scan cs = ts := by
    have hsettled := hreads []
    rw [Token.scan, Token.Scan.start, Token.finish_eq (by rw [hsettled]), hsettled,
      List.append_nil, List.reverse_reverse]
  rw [Json.readWithin, hscan, ofTokens, hrun limit [] (by simpa using hn)]
  rfl

/-! ### From the reader to the grammar -/

/-- Blanks may be added at the end of every part but a value. -/
theorem Derives.append_blank {n : Nat} {cs bs : Letters} {p : Part} (h : Derives n cs p)
    (hp : ∀ v, p ≠ .value v) (hb : Blank bs) : Derives n (cs ++ bs) p := by
  induction h with
  | element hbefore h hafter ih =>
    rw [List.append_assoc]
    exact .element hbefore h (hafter.append hb)
  | item h ih => exact .item (ih (by simp))
  | items h hv ih ihv =>
    rw [List.append_assoc, List.cons_append]
    exact .items h (ihv (by simp))
  | member hbefore hname hbetween h ih =>
    rw [List.append_assoc, List.cons_append]
    exact .member hbefore hname hbetween (ih (by simp))
  | members h hm ih ihm =>
    rw [List.append_assoc, List.cons_append]
    exact .members h (ihm (by simp))
  | _ => exact absurd rfl (hp _)

theorem Derives.after_blank {n : Nat} {bs cs : Letters} {v : Json Letters} (h : Derives n cs (.value v))
    (hb : Blank bs) : Derives n (bs ++ cs) (.element v) := by
  have helement := Derives.element hb h blank_nil
  rwa [List.append_nil] at helement

/-- What stands between the start of a list and an item of it, with the items before that one, last
one first. -/
inductive ItemsBefore (n : Nat) : Letters → List (Json Letters) → Prop where
  | first {bs : Letters} (hb : Blank bs) : ItemsBefore n bs []
  | next {cs bs : Letters} {vs : List (Json Letters)} (h : Derives n cs (.items vs)) (hb : Blank bs) :
      ItemsBefore n (cs ++ char ',' :: bs) vs.reverse

/-- What stands between the start of an object and a name in it, with the members before that one,
put into an object. -/
inductive MembersBefore (n : Nat) : Letters → Fields Letters → Prop where
  | first {bs : Letters} (hb : Blank bs) : MembersBefore n bs []
  | next {cs bs : Letters} {ms : Fields Letters} (h : Derives n cs (.members ms)) (hb : Blank bs) :
      MembersBefore n (cs ++ char ',' :: bs) (Fields.collect ms)

/-- What stands between the start of an object and a value in it: members, a name and a colon. -/
inductive MemberBefore (n : Nat) : Letters → Fields Letters → Letters → Prop where
  | mk {cs name between bs : Letters} {fields : Fields Letters} {k : Letters}
      (h : MembersBefore n cs fields) (hname : Text name k) (hbetween : Blank between)
      (hb : Blank bs) : MemberBefore n (cs ++ (name ++ between ++ char ':' :: bs)) fields k

theorem ItemsBefore.append {n : Nat} {cs ds : Letters} {items : List (Json Letters)} {v : Json Letters}
    (h : ItemsBefore n cs items) (hv : Derives n ds (.value v)) :
    Derives n (cs ++ ds) (.items (v :: items).reverse) := by
  cases h with
  | first hb => exact .item (hv.after_blank hb)
  | next h hb =>
    rw [List.append_assoc, List.cons_append, List.reverse_cons, List.reverse_reverse]
    exact .items h (hv.after_blank hb)

theorem MemberBefore.append {n : Nat} {cs ds k : Letters} {fields : Fields Letters}
    {v : Json Letters} (h : MemberBefore n cs fields k) (hv : Derives n ds (.value v)) :
    ∃ ms, Derives n (cs ++ ds) (.members ms) ∧ Fields.collect ms = Fields.put k v fields := by
  obtain ⟨hmembers, hname, hbetween, hb⟩ := h
  have helement := hv.after_blank hb
  cases hmembers with
  | first hbefore =>
    refine ⟨[(k, v)], ?_, rfl⟩
    have hmember := Derives.member hbefore hname hbetween helement
    simpa only [List.append_assoc, List.cons_append] using hmember
  | @next cs bs ms h hbefore =>
    refine ⟨ms ++ [(k, v)], ?_, Fields.collect_concat ms k v⟩
    have hmember := Derives.members h (.member hbefore hname hbetween helement)
    simpa only [List.append_assoc, List.cons_append] using hmember

section
variable (limit : Nat)

/-- What stands before a value, with the lists and objects that are open there. Each of them takes
one level. -/
inductive Before : Letters → List Frame → Prop where
  | nil {bs : Letters} (hb : Blank bs) : Before bs []
  | list {cs ds : Letters} {stack : List Frame} {items : List (Json Letters)} (h : Before cs stack)
      (hlimit : stack.length < limit)
      (hitems : ItemsBefore (limit - (stack.length + 1)) ds items) :
      Before (cs ++ char '[' :: ds) (.list items :: stack)
  | object {cs ds : Letters} {stack : List Frame} {fields : Fields Letters} {k : Letters}
      (h : Before cs stack) (hlimit : stack.length < limit)
      (hmember : MemberBefore (limit - (stack.length + 1)) ds fields k) :
      Before (cs ++ char '\x7b' :: ds) (.object fields k :: stack)

/-- What the grammar has of the characters that were read, for each state of the reader. -/
inductive Consumed : Letters → Reading → Prop where
  | atValue {cs : Letters} {stack : List Frame} (h : Before limit cs stack) :
      Consumed cs (.atValue stack)
  | atFirstItem {cs bs : Letters} {stack : List Frame} (h : Before limit cs stack)
      (hlimit : stack.length < limit) (hb : Blank bs) :
      Consumed (cs ++ char '[' :: bs) (.atFirstItem stack)
  | behindItem {cs ds : Letters} {stack : List Frame} {items : List (Json Letters)}
      (h : Before limit cs stack) (hlimit : stack.length < limit)
      (hitems : Derives (limit - (stack.length + 1)) ds (.items items.reverse)) :
      Consumed (cs ++ char '[' :: ds) (.behindItem items stack)
  | atFirstName {cs bs : Letters} {stack : List Frame} (h : Before limit cs stack)
      (hlimit : stack.length < limit) (hb : Blank bs) :
      Consumed (cs ++ char '\x7b' :: bs) (.atFirstName stack)
  | atName {cs ds : Letters} {stack : List Frame} {fields : Fields Letters} (h : Before limit cs stack)
      (hlimit : stack.length < limit)
      (hmembers : MembersBefore (limit - (stack.length + 1)) ds fields) :
      Consumed (cs ++ char '\x7b' :: ds) (.atName fields stack)
  | atColon {cs ds name bs : Letters} {stack : List Frame} {fields : Fields Letters} {k : Letters}
      (h : Before limit cs stack) (hlimit : stack.length < limit)
      (hmembers : MembersBefore (limit - (stack.length + 1)) ds fields) (hname : Text name k)
      (hb : Blank bs) : Consumed (cs ++ char '\x7b' :: (ds ++ (name ++ bs))) (.atColon fields k stack)
  | behindField {cs ds : Letters} {stack : List Frame} {ms : Fields Letters} (h : Before limit cs stack)
      (hlimit : stack.length < limit)
      (hmembers : Derives (limit - (stack.length + 1)) ds (.members ms)) :
      Consumed (cs ++ char '\x7b' :: ds) (.behindField (Fields.collect ms) stack)
  | done {cs : Letters} {v : Json Letters} (h : Derives limit cs (.element v)) : Consumed cs (.done v)

end

section
variable {limit : Nat}

theorem Before.append_blank {cs bs : Letters} {stack : List Frame} (h : Before limit cs stack)
    (hb : Blank bs) : Before limit (cs ++ bs) stack := by
  cases h with
  | nil hb' => exact .nil (hb'.append hb)
  | list h hlimit hitems =>
    rw [List.append_assoc, List.cons_append]
    refine .list h hlimit ?_
    cases hitems with
    | first hb' => exact .first (hb'.append hb)
    | next hitems hb' =>
      rw [List.append_assoc, List.cons_append]
      exact .next hitems (hb'.append hb)
  | object h hlimit hmember =>
    obtain ⟨hmembers, hname, hbetween, hb'⟩ := hmember
    simp only [List.append_assoc, List.cons_append]
    have hmember := MemberBefore.mk hmembers hname hbetween (hb'.append hb)
    simp only [List.append_assoc] at hmember
    exact .object h hlimit hmember

theorem MembersBefore.append_blank {n : Nat} {cs bs : Letters} {fields : Fields Letters}
    (h : MembersBefore n cs fields) (hb : Blank bs) : MembersBefore n (cs ++ bs) fields := by
  cases h with
  | first hb' => exact .first (hb'.append hb)
  | next h hb' =>
    rw [List.append_assoc, List.cons_append]
    exact .next h (hb'.append hb)

/-- Blanks keep what is known. -/
theorem Consumed.append_blank {cs bs : Letters} {r : Reading} (h : Consumed limit cs r)
    (hb : Blank bs) : Consumed limit (cs ++ bs) r := by
  -- The blanks go to the innermost part, which is the last one that was read.
  cases h with
  | atValue h => exact .atValue (h.append_blank hb)
  | atFirstItem h hlimit hb' =>
    rw [List.append_assoc, List.cons_append]
    exact .atFirstItem h hlimit (hb'.append hb)
  | behindItem h hlimit hitems =>
    rw [List.append_assoc, List.cons_append]
    exact .behindItem h hlimit (hitems.append_blank (by simp) hb)
  | atFirstName h hlimit hb' =>
    rw [List.append_assoc, List.cons_append]
    exact .atFirstName h hlimit (hb'.append hb)
  | atName h hlimit hmembers =>
    rw [List.append_assoc, List.cons_append]
    exact .atName h hlimit (hmembers.append_blank hb)
  | atColon h hlimit hmembers hname hb' =>
    rw [List.append_assoc, List.cons_append, List.append_assoc, List.append_assoc]
    exact .atColon h hlimit hmembers hname (hb'.append hb)
  | behindField h hlimit hmembers =>
    rw [List.append_assoc, List.cons_append]
    exact .behindField h hlimit (hmembers.append_blank (by simp) hb)
  | done h => exact .done (h.append_blank (by simp) hb)

/-- A value takes its place. -/
theorem consumed_place {cs ds : Letters} {stack : List Frame} {v : Json Letters}
    (h : Before limit cs stack) (hv : Derives (limit - stack.length) ds (.value v)) :
    Consumed limit (cs ++ ds) (place v stack) := by
  cases h with
  | nil hb => exact .done (hv.after_blank hb)
  | list h hlimit hitems =>
    rw [List.append_assoc, List.cons_append]
    exact .behindItem h hlimit (hitems.append hv)
  | object h hlimit hmember =>
    rw [List.append_assoc, List.cons_append]
    obtain ⟨ms, hmembers, hput⟩ := hmember.append hv
    rw [place, ← hput]
    exact .behindField h hlimit hmembers

/-- A list or an object is complete. It is a level above what is in it. -/
theorem consumed_close {cs ds : Letters} {stack : List Frame} {v : Json Letters}
    (h : Before limit cs stack) (hlimit : stack.length < limit)
    (hv : Derives (limit - (stack.length + 1) + 1) ds (.value v)) :
    Consumed limit (cs ++ ds) (place v stack) := by
  have hlevel : limit - (stack.length + 1) + 1 = limit - stack.length := by omega
  rw [hlevel] at hv
  exact consumed_place h hv

/-- A token where a value is due. -/
theorem consumed_start {cs ds : Letters} {stack : List Frame} {t : Token} {q : Reading}
    (h : Before limit cs stack) (ht : Lexeme ds t) (hq : start limit stack t = .ok q) :
    Consumed limit (cs ++ ds) q := by
  -- A bracket that opens takes a level, so one has to be left.
  have hnest : ∀ opened, nest limit stack opened = .ok q → stack.length < limit ∧ opened = q := by
    intro opened hnest
    rw [nest] at hnest
    split at hnest
    · next hlimit => exact ⟨hlimit, Except.ok.inj hnest⟩
    · cases hnest
  cases ht with
  | text ht =>
    cases hq
    exact consumed_place h (.text ht)
  | value ht =>
    cases hq
    exact consumed_place h (.literal ht)
  | mark m =>
    cases m with
    | openList =>
      obtain ⟨hlimit, rfl⟩ := hnest _ hq
      exact .atFirstItem h hlimit blank_nil
    | openObject =>
      obtain ⟨hlimit, rfl⟩ := hnest _ hq
      exact .atFirstName h hlimit blank_nil
    | _ => cases hq
  | oversized word digits => cases hq
  | broken ds => cases hq

/-- One token keeps what is known. -/
theorem consumed_step {cs ds : Letters} {r q : Reading} {t : Token} (h : Consumed limit cs r)
    (ht : Lexeme ds t) (hq : step limit r t = .ok q) : Consumed limit (cs ++ ds) q := by
  cases h with
  | atValue h => exact consumed_start h ht hq
  | @atFirstItem cs bs stack h hlimit hb =>
    -- Either the list is empty, or its first item starts as any other item does.
    by_cases hclose : t = .mark .closeList
    · subst hclose
      cases hq
      cases ht
      rw [List.append_assoc, List.cons_append]
      exact consumed_close h hlimit (.emptyList hb)
    · have hstart : start limit (.list [] :: stack) t = .ok q :=
        (step_atFirstItem hclose).symm.trans hq
      exact consumed_start (.list h hlimit (.first hb)) ht hstart
  | @behindItem cs ds stack items h hlimit hitems =>
    rw [List.append_assoc, List.cons_append]
    cases ht with
    | mark m =>
      cases m with
      | comma =>
        cases hq
        -- The items are kept last one first, and the grammar has them in order.
        have hbefore := ItemsBefore.next hitems blank_nil
        rw [List.reverse_reverse] at hbefore
        exact .atValue (.list h hlimit hbefore)
      | closeList =>
        cases hq
        exact consumed_close h hlimit (.list hitems)
      | _ => cases hq
    | _ => cases hq
  | atFirstName h hlimit hb =>
    rw [List.append_assoc, List.cons_append]
    cases ht with
    | mark m =>
      cases m with
      | closeObject =>
        cases hq
        exact consumed_close h hlimit (.emptyObject hb)
      | _ => cases hq
    | @text name s ht =>
      cases hq
      have hcolon := Consumed.atColon h hlimit (.first hb) ht blank_nil
      rwa [List.append_nil] at hcolon
    | _ => cases hq
  | atName h hlimit hmembers =>
    rw [List.append_assoc, List.cons_append]
    cases ht with
    | text ht =>
      cases hq
      have hcolon := Consumed.atColon h hlimit hmembers ht blank_nil
      rwa [List.append_nil] at hcolon
    | mark m => cases m <;> cases hq
    | _ => cases hq
  | atColon h hlimit hmembers hname hb =>
    cases ht with
    | mark m =>
      cases m with
      | colon =>
        cases hq
        have hmember := MemberBefore.mk hmembers hname hb blank_nil
        have hvalue := Consumed.atValue (Before.object h hlimit hmember)
        simpa only [List.append_assoc, List.cons_append, markChar] using hvalue
      | _ => cases hq
    | _ => cases hq
  | behindField h hlimit hmembers =>
    rw [List.append_assoc, List.cons_append]
    cases ht with
    | mark m =>
      cases m with
      | comma =>
        cases hq
        exact .atName h hlimit (.next hmembers blank_nil)
      | closeObject =>
        cases hq
        exact consumed_close h hlimit (.object hmembers (Fields.lastWins_collect _))
      | _ => cases hq
    | _ => cases hq
  | done h => cases hq

/-- Every run of the reader keeps it. -/
theorem consumed_foldlM {cs : Letters} {tokens : List Token} {q : Reading}
    (h : Lexed cs tokens) (hq : tokens.reverse.foldlM (step limit) (.atValue []) = .ok q) :
    Consumed limit cs q := by
  induction h generalizing q with
  | nil =>
    cases hq
    exact .atValue (.nil blank_nil)
  | blank h hc ih => exact (ih hq).append_blank hc
  | @token cs ds tokens t h ht ih =>
    rw [List.reverse_cons, List.foldlM_append] at hq
    cases hrun : tokens.reverse.foldlM (step limit) (.atValue []) with
    | error e =>
      rw [hrun] at hq
      cases hq
    | ok r =>
      rw [hrun] at hq
      have hlast : step limit r t >>= pure = .ok q := hq
      rw [bind_pure] at hlast
      exact consumed_step (ih hrun) ht hlast

end

end Grammar

/-- **The reader accepts the grammar.** A text is read as a document exactly when the grammar has it
as that document, with as many lists and objects inside each other as the reader allows. -/
theorem readWithin_eq_ok_iff {limit : Nat} {cs : Letters} {v : Json Letters} :
    readWithin limit cs = .ok v ↔ Grammar.Derives limit cs (.element v) := by
  constructor
  · intro h
    rw [readWithin, ofTokens] at h
    have hlexed := Grammar.lexed_scan cs
    cases hrun : (Token.scan cs).foldlM (Reading.step limit) (.atValue []) with
    | error e =>
      rw [hrun] at h
      cases h
    | ok r =>
      rw [hrun] at h
      have hconsumed := Grammar.consumed_foldlM hlexed (by rwa [List.reverse_reverse])
      cases hconsumed with
      | done hv =>
        cases h
        exact hv
      | _ => cases h
  · intro h
    exact h.readWithin (Nat.le_refl limit)

end FlowDraft.Json
