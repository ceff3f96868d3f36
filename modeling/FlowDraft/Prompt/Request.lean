import FlowDraft.Prompt.References

/-!
# `FlowDraft.Prompt.Request`: the text that a request is sent as

A request is sent with the workflow that is being edited, if there is one, and with the reference
workflows that were found, if there are any.

`compose` is `build_user_prompt`.
-/

set_option autoImplicit false

namespace FlowDraft.Prompt

/-- The request itself. -/
def requestPart (request : String) : String :=
  "Produce an n8n workflow for the following request:\n\"\"\"" ++ request ++ "\"\"\""

/-- The workflow that is being edited. -/
def editingPart (s : Workflow.Snapshot) : String :=
  "The user is editing this existing workflow. Update it instead of starting over:\n" ++
    preview s

/-- The reference workflows. -/
def referencesPart (text : String) : String :=
  "Reference workflows similar to the request (adapt, do not copy blindly):\n\n" ++ text

/-- The text that a request is sent as. -/
def compose (request : String) (existing : Option Workflow.Snapshot) (examples : List Example) :
    String :=
  let found := references examples
  "\n\n".intercalate
    ([requestPart request] ++ existing.toList.map editingPart ++
      (if found.isEmpty then [] else [referencesPart found]))

end FlowDraft.Prompt
