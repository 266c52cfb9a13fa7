namespace ChatRules

inductive Toml
  | text (s : String)
  | number (digits : String)
  | bool (b : Bool)
  | time (digits : String)
  | array (items : List Toml)
  | table (fields : List (String × Toml))
  deriving Repr

end ChatRules
