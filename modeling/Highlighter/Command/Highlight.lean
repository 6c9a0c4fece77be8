import Highlighter.Command.Tokens

/-!
# Highlighting inputs

Inputs are highlighted each on its own and shown in the order of the arguments. Those that fail do
not keep the others from being shown; they are counted and named together at the end.
-/

namespace Highlighter

namespace Session

/-- Writes tokens with their colours, or just as they stand in the source. -/
def render (session : Session) (tokens : List Token) : String :=
  if session.isColoured then session.theme.render tokens
  else String.join (tokens.map (·.lexeme))

/-- Highlights one input. -/
def highlightInput (session : Session) (inputs : Inputs) (language : Option String)
    (path : String) : Except Error String :=
  (session.scan inputs language path).map session.render

/-- Highlights inputs one after the other, with a result for each. -/
def highlightEach (session : Session) (inputs : Inputs) (language : Option String) :
    List String → List (Except Error String)
  | [] => []
  | path :: paths =>
    session.highlightInput inputs language path ::
      session.highlightEach (inputs.after path) language paths

/-- Highlights inputs, as many at a time as asked for or configured. -/
def highlight (session : Session) (inputs : Inputs) (language : Option String)
    (jobs : Option Nat) (paths : List String) : Except Error (List (Except Error String)) :=
  if jobs.getD session.config.jobs = 0 then .error .noJobs
  else .ok (session.highlightEach inputs language paths)

/-- The texts of the inputs that were highlighted, one after the other. -/
def shown (results : List (Except Error String)) : String :=
  String.join (results.filterMap Except.toOption)

/-- The paths of the inputs that failed. -/
def failedPaths (paths : List String) (results : List (Except Error String)) : List String :=
  (paths.zip results).filterMap fun (path, result) =>
    if result.toOption.isNone then some path else none

/-- The error about the inputs that failed, if there are any. -/
def completion (failed : List String) : Except Error Unit :=
  if failed = [] then .ok () else .error (.filesFailed failed)

end Session

end Highlighter
