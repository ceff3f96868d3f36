import FlowDraft.Text.Letter
import FlowDraft.Text.Search

/-!
# `FlowDraft.Reply.Extract`: the document inside a reply

Models are told to reply with a bare document and often do not. The document is looked for in
three places, in this order: the first fenced block, the stretch from the first opening brace to
the last closing one, and the whole reply.

`extract` is `extract_json_payload`.
-/

set_option autoImplicit false

namespace FlowDraft.Reply

/-- What a block is fenced with. -/
def fence : Letters :=
  ['\x60', '\x60', '\x60']

/-- The letters of the tag behind an opening fence. -/
def isTag : Letter → Bool :=
  Letter.isOf fun c => c.isAlphanum || c == '_' || c == '-'

/-- The text inside the first fenced block, without its tag and without the white space around
it. -/
def fenced? (cs : Letters) : Option Letters := do
  let (_, opened) ← Text.cutAt fence cs
  let (block, _) ← Text.cutAt fence opened
  pure (Letters.trim (block.dropWhile isTag))

/-- The text up to the last closing brace, if there is one. -/
def throughLastBrace? (cs : Letters) : Option Letters :=
  match cs.reverse.dropWhile (· != .char '\x7d') with
  | [] => none
  | kept => some kept.reverse

/-- The stretch from the first opening brace to the last closing one behind it. -/
def braced? (cs : Letters) : Option Letters :=
  match cs.dropWhile (· != .char '\x7b') with
  | [] => none
  | opened => throughLastBrace? opened

/-- The document inside a reply, as text. -/
def extract (cs : Letters) : Letters :=
  ((fenced? cs).or (braced? cs)).getD (Letters.trim cs)

end FlowDraft.Reply
