import RolloutWatch.Watcher.Publish
import RolloutWatch.Watcher.Reader

/-!
# Publishing amid readers

A publish that waits makes progress only if readers act. Here readers have a list of
turns: whenever the publish waits they take the next turn, and then the publish is
resumed. Turns that are not needed are not taken. If the publish waits and no turn
is left, it is given up.
-/

namespace RolloutWatch

/-- What came of a publish amid readers. -/
structure Attendance where
  watcher : Watcher
  /-- The publish returned, and was not given up. -/
  completed : Bool
  moves : List Move := []
  /-- What the readers got. -/
  answers : List ReaderAnswer := []
deriving Repr

namespace Watcher

/-- Lets readers act one after the other. -/
def serveAll (w : Watcher) : List ReaderAction → Watcher × List ReaderAnswer
  | [] => (w, [])
  | action :: rest =>
    let (middle, answer) := w.serve action
    let (after, answers) := middle.serveAll rest
    (after, answer :: answers)

/-- Resumes a publish after each turn of the readers until it returns. -/
def attend (w : Watcher) : List (List ReaderAction) → Attendance
  | [] => { watcher := w.abandon, completed := !w.publishing }
  | turn :: turns =>
    if w.publishing then
      let (served, answers) := w.serveAll turn
      let (resumed, moves) := served.resume
      let later := resumed.attend turns
      { later with moves := moves ++ later.moves, answers := answers ++ later.answers }
    else { watcher := w, completed := true }

/-- Publishes while readers take turns. -/
def publishAmid (w : Watcher) (turns : List (List ReaderAction)) : Attendance :=
  let (begun, moves) := w.publish
  let later := begun.attend turns
  { later with moves := moves ++ later.moves }

end Watcher

end RolloutWatch
