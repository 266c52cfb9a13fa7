namespace ChatRules.Sentence

def plainQuote (c : Char) : Char :=
  if c = '\u201c' ∨ c = '\u201d' ∨ c = '\u201e' ∨ c = '\u201f' ∨ c = '\u2033' ∨ c = '\u00ab' ∨
      c = '\u00bb' then '"'
  else if c = '\u2018' ∨ c = '\u2019' ∨ c = '\u201a' ∨ c = '\u201b' ∨ c = '\u2032' then '\''
  else c

def startsQuoted : List Char → Bool
  | c :: _ => c = '"' || c = '\''
  | [] => false

def dropEscapes : List Char → List Char
  | [] => []
  | c :: rest =>
    let kept := dropEscapes rest
    if c = '\\' ∧ startsQuoted kept then kept else c :: kept

def normal (s : List Char) : List Char :=
  dropEscapes (s.map plainQuote)

end ChatRules.Sentence
