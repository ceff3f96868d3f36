import FlowDraft.Json.Display
import FlowDraft.Model.Invoke
import FlowDraft.Text.Blank

/-!
# `FlowDraft.Model.Chat`: models that take part in a conversation

A chat model is sent the instruction and the prompt as two messages. The content of its own message
is a text, or a list of parts whose texts are put together.

`reply` is what `ChatModelGenerator.generate` gives, `contentText` is `message_text`, and `client?` is
`openai_generator_factory`.
-/

set_option autoImplicit false

namespace FlowDraft.Model.Chat

/-- Who says something. -/
inductive Speaker where
  /-- Whoever lays down what the model is to do. -/
  | system
  | human
deriving Repr, DecidableEq

/-- Something that is said to a model. -/
structure Message where
  speaker : Speaker
  text : String
deriving Repr, DecidableEq

/-- What a model is sent for a question. -/
def messages (q : Question) : List Message :=
  [⟨.system, q.instruction⟩, ⟨.human, q.prompt⟩]

/-- The text of a part. An object has one only under `text`; any other part is its own text. -/
def partText? : Json → Option String
  | .obj fields => (Fields.get? fields "text").map Json.display
  | part => some part.display

/-- The text of the content of a message. -/
def contentText : Json → String
  | .arr parts => String.join (parts.filterMap partText?)
  | content => content.display

/-- The reply that the content of a message is. -/
def reply (content : Json) : String :=
  Text.trim (contentText content)

/-- A connection to a chat model. -/
structure Client where
  model : String
  temperature : Float
  /-- How often the connection itself tries again. -/
  retries : Nat

/-- The connection to a model. Without a key there is none. Trying again is not left to the
connection, because the chain does it. -/
def client? (options : ModelOptions) (model : String) : Option Client :=
  options.apiKey?.map fun _ => ⟨model, options.temperature, 0⟩

end FlowDraft.Model.Chat
