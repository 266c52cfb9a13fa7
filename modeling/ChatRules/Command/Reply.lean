import ChatRules.Wire.Decode
import ChatRules.Wire.Encode

namespace ChatRules

structure Reply where
  text : String
  preview : Option (List Step)
  deriving DecidableEq, Repr

namespace Reply

def say (text : String) : Reply :=
  ⟨text, none⟩

def toJson (r : Reply) : Json :=
  Json.obj [("text", Json.str r.text), ("preview", r.preview.map Step.listToJson)]

def ofJson? (v : Json) : Option Reply := do
  let [text, preview] ← Json.fieldValues ["text", "preview"] v | none
  some ⟨← Json.required Json.string? text, ← Json.optional Step.listOfJson? preview⟩

end Reply

end ChatRules
