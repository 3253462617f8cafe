import Lexis.Scanner

/-!
# Sessions

A session is a sequence of actions on one scanner. The scanner can be saved on a stack and taken
back from there, and scanning ahead leaves it where it is. An action that the source cannot answer
is refused and changes nothing.
-/

namespace Lexis

/-- What can be done to a scanner. A copy of it can be put on a stack and taken back from there,
where an empty stack leaves the scanner as it is, and a scan to the end is made on a copy. -/
inductive Action where
  | advance (count : Nat)
  | push (token : Token)
  | save
  | restore
  | run
  deriving DecidableEq, Repr

/-- What an action reports: where the scanner stands after it, what a scan to the end found, or why
the action was refused. -/
inductive Answer where
  | standing (atEnd : Bool) (column : Nat)
  | scanned (result : Except ScanError (List Token))
  | refused (fault : Fault)

/-- A scanner and the copies of it that were saved, the last one first. -/
structure Session where
  current : Scanner
  saved : List Scanner
  deriving DecidableEq, Repr

namespace Session

def ofSource (source : Source) : Session where
  current := .ofSource source
  saved := []

def standing (session : Session) : Answer :=
  .standing session.current.atEnd session.current.column

def perform (session : Session) (action : Action) : Session × Answer :=
  match action with
  | .advance count =>
      match session.current.advance count with
      | .ok moved =>
          let next := { session with current := moved }
          (next, next.standing)
      | .error fault => (session, .refused fault)
  | .push token =>
      let next := { session with current := session.current.push token }
      (next, next.standing)
  | .save =>
      let next := { session with saved := session.current :: session.saved }
      (next, next.standing)
  | .restore =>
      let next :=
        match session.saved with
        | [] => session
        | scanner :: earlier => { current := scanner, saved := earlier }
      (next, next.standing)
  | .run =>
      match session.current.run with
      | .ok result => (session, .scanned result)
      | .error fault => (session, .refused fault)

def performAll (session : Session) : List Action → Session × List Answer
  | [] => (session, [])
  | action :: later =>
      let (next, answer) := session.perform action
      let (final, answers) := next.performAll later
      (final, answer :: answers)

end Session

end Lexis
