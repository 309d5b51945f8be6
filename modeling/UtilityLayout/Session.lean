import UtilityLayout.Service
/-! Runs of a workspace: operations on themes, requests to the tools, and edits of the files from outside,
one after the other. -/
namespace UtilityLayout

inductive Action where
  | list
  | get (name : String)
  | copy (name : String)
  | clear
  | ask (request : Service.Request)
  | write (path : Path) (text : String)
  | makeDirectory (path : Path)
  | remove (path : Path)
  deriving DecidableEq, Repr

inductive Answer where
  | summaries (found : List Theme.Summary)
  | theme (found? : Option Theme)
  | copied (path? : Option Path)
  | reply (text : String)
  | done
  | failed (failure : Failure)
  deriving DecidableEq, Repr

namespace Session

def ofResult (answer : α → Answer) : Except Failure α → Answer
  | .ok value => answer value
  | .error failure => .failed failure

def step (w : Workspace) : Action → Answer × Workspace
  | .list => (ofResult .summaries w.list, w)
  | .get name => let (found, w) := w.get name; (ofResult .theme found, w)
  | .copy name => let (copied, w) := w.copy name; (ofResult .copied copied, w)
  | .clear => (.done, w.clear)
  | .ask request => let (text, w) := Service.reply w request; (.reply text, w)
  | .write path text => let (result, w) := w.write path text; (ofResult (fun _ => .done) result, w)
  | .makeDirectory path => let (result, w) := w.makeDirectory path; (ofResult (fun _ => .done) result, w)
  | .remove path => let (result, w) := w.remove path; (ofResult (fun _ => .done) result, w)

def run (w : Workspace) : List Action → List Answer × Workspace
  | [] => ([], w)
  | action :: rest =>
    let (answer, w) := step w action
    let (answers, w) := run w rest
    (answer :: answers, w)

def after (w : Workspace) (actions : List Action) : Workspace :=
  (run w actions).2

end Session
end UtilityLayout
