namespace ChatRules.Command

def examples : List String :=
  ["when @john says \"hello\" then send message \"Hi John!\" to #general",
   "when someone in #support says \"help\" then send dm \"New support request\" to @support-lead",
   "when @alice is mentioned then send message \"Alice will get back to you soon\"",
   "when someone says \"urgent\" in #support notify @team-lead",
   "when someone says \"deploy\" in #dev then send message \"Starting deployment...\" and then " ++
     "send dm \"New deployment requested\" to @devops"]

def helpText : String :=
  "Available commands:\n" ++
  "• /workflow english \"<natural language command>\" - create workflows from a sentence\n" ++
  "• /workflow create <conditions> action=<spec> - create a workflow from technical syntax\n" ++
  "• /workflow list | delete <id> | enable <id> | disable <id>\n\n" ++
  "Example commands:" ++
  String.join (examples.map fun e => "\n• /workflow english \"" ++ e ++ "\"")

def usageText : String :=
  String.intercalate "\n"
    ["Usage:",
     "/workflow create @user #room contains=text startsWith=text regex=pattern " ++
       "action=dm:@user=\"message\"",
     "/workflow create action=delete",
     "/workflow create action=post:#room=\"message\"",
     "/workflow english \"<natural language command>\"",
     "/workflow list",
     "/workflow delete <workflow_id>",
     "/workflow enable <workflow_id>",
     "/workflow disable <workflow_id>"]

def bulletExamples : String :=
  String.intercalate "\n" (examples.map ("• " ++ ·))

def emptySentenceText : String :=
  "Please provide a natural language command. Examples:\n" ++ bulletExamples

def notUnderstoodText : String :=
  "Could not understand that command. Try one of these:\n" ++ bulletExamples

end ChatRules.Command
