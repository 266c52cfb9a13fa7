import ChatRules.Store.Table

namespace ChatRules

namespace Row

def toJson (r : Row) : Json :=
  .array [Json.str r.id, (r.name.map Json.str).getD .null, Json.str r.createdBy,
    .number (toString r.createdAt), .bool r.enabled, Json.str r.trigger, Json.str r.actions]

def int? : Json → Option Int
  | .number digits => digits.toInt?
  | _ => none

def ofJson? : Json → Option Row
  | .array [id, name, createdBy, createdAt, enabled, trigger, actions] => do
    some ⟨← id.string?, ← Json.optional Json.string? (some name), ← createdBy.string?,
      ← int? createdAt, ← enabled.bool?, ← trigger.string?, ← actions.string?⟩
  | _ => none

end Row

namespace Table

def mark : List Char := "rules of the chat, one in a line".toList

def toText (t : Table) : String :=
  String.ofList (mark ++ t.flatMap fun r => '\n' :: r.toJson.print)

def splitLines : List Char → List (List Char)
  | [] => [[]]
  | c :: rest =>
    if c = '\n' then [] :: splitLines rest
    else
      match splitLines rest with
      | [] => [[c]]
      | line :: more => (c :: line) :: more

def ofText? (s : String) : Option Table :=
  if s = "" then some []
  else
    match splitLines s.toList with
    | [] => none
    | first :: rows =>
      if first = mark then rows.mapM fun line => (Json.read? line).bind Row.ofJson? else none

end Table

end ChatRules
