import FlowDraft.Decimal.Layout
import FlowDraft.Json.Basic
import FlowDraft.Text.Quoted

/-!
# `FlowDraft.Json.Display`: values inside running text

Where a value of any kind stands in running text, a text stands for itself. Any other value is
shown as a literal: the names `None`, `True` and `False`, numbers, and lists and objects in
brackets, with the texts inside them between quotes.
-/

set_option autoImplicit false

namespace FlowDraft.Json

mutual

/-- A value as a literal. -/
def literal : Json → List Char
  | .null => "None".toList
  | .bool true => "True".toList
  | .bool false => "False".toList
  | .int n => Text.decimalInt n
  | .float x => Decimal.Layout.plain.render x
  | .str s => Text.Quoted.encode s.toList
  | .arr items => '[' :: (literalItems items ++ [']'])
  | .obj fields => '\x7b' :: (literalFields fields ++ ['\x7d'])

/-- Items with commas between them. -/
def literalItems : List Json → List Char
  | [] => []
  | [v] => literal v
  | v :: vs => literal v ++ (',' :: ' ' :: literalItems vs)

/-- Fields with commas between them. -/
def literalFields : List (String × Json) → List Char
  | [] => []
  | [(k, v)] => Text.Quoted.encode k.toList ++ (':' :: ' ' :: literal v)
  | (k, v) :: fs =>
    Text.Quoted.encode k.toList ++ (':' :: ' ' :: literal v) ++
      (',' :: ' ' :: literalFields fs)

end

/-- A value inside running text. -/
def display : Json → String
  | .str s => s
  | v => String.ofList (literal v)

end FlowDraft.Json
