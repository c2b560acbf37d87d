import SecretAccess.Document.Inherited
import SecretAccess.Failure

namespace SecretAccess.Document

def describesError : Document → Bool
  | fields entries => match entries.lookup "message" with
      | some (text _) => true
      | _ => false
  | _ => false

def messageText (entries : List (String × Document)) : String :=
  match entries.lookup "message" with
  | some (text message) => message
  | _ => ""

def stackOf (entries : List (String × Document)) : Document :=
  match entries.lookup "stack" with
  | some stack => if stack.isTruthy then stack else text ""
  | none => text ""

mutual

def causes : Document → List (String × Document)
  | fields entries => match entries.lookup "message" with
      | some (text _) => (messageText entries, stackOf entries) :: causesAmong entries
      | _ => []
  | _ => []

def causesAmong : List (String × Document) → List (String × Document)
  | [] => []
  | (name, value) :: entries => if name = "cause" then causes value else causesAmong entries

end

def joinedStacks : List Document → Except Failure Document
  | [stack] => .ok stack
  | several => match several.mapM plainText? with
      | some texts => .ok (text (String.intercalate "\ncaused by: " texts))
      | none => .error .unspeakable

/-- Fields that a report sets itself, or leaves out. -/
def isReportField (name : String) : Bool :=
  name = "type" || name = "message" || name = "stack" || name = "raw" || isInherited name

/-- The type of an error. One that has a field `constructor` says itself what it is, by its name or
else by the type that it gives. -/
def typeField (entries given : List (String × Document)) : List (String × Document) :=
  if (entries.lookup "constructor").isNone then [("type", text "Object")]
  else match entries.lookup "name" with
    | some name => [("type", name)]
    | none => given

mutual

/-- The type, the message and the stack of an error, each followed by those of its causes, then the reports of
the errors that it gathers, and then its other fields. -/
def report : Document → Except Failure Document
  | fields entries => do
      if describesError (fields entries) then
        let chain := causes (fields entries)
        let stack ← joinedStacks (chain.map (·.2))
        let gathered ← gathered entries
        let own ← ownType entries
        let others ← otherFields entries
        return fields (typeField entries own ++
          [("message", text (String.intercalate ": " (chain.map (·.1)))), ("stack", stack)] ++
          gathered ++ others.filter fun field => gathered.isEmpty || field.1 ≠ "aggregateErrors")
      else return fields entries
  | value => return value

def reports : List Document → Except Failure (List Document)
  | [] => return []
  | item :: items => return (← report item) :: (← reports items)

def gathered : List (String × Document) → Except Failure (List (String × Document))
  | [] => return []
  | (name, list items) :: entries =>
      if name = "errors" then return [("aggregateErrors", list (← reports items))]
      else gathered entries
  | _ :: entries => gathered entries

def ownType : List (String × Document) → Except Failure (List (String × Document))
  | [] => return []
  | (name, value) :: entries =>
      if name = "type" then return [(name, ← report value)] else ownType entries

def otherFields : List (String × Document) → Except Failure (List (String × Document))
  | [] => return []
  | (name, value) :: entries =>
      if isReportField name || (name == "cause" && describesError value) then otherFields entries
      else return (name, ← report value) :: (← otherFields entries)

end

end SecretAccess.Document
