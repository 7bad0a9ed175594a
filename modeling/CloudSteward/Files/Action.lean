import CloudSteward.Program
import CloudSteward.Text

/-!
# Working with a directory

What the operator does with the directory of its manifests, and what the system
may answer.  Paths are texts with slashes; those that do not start with one are
meant from the directory on.
-/

namespace CloudSteward

/-- Why the system refuses. -/
inductive FileFault where
  | missing
  | busy
  | alreadyThere
  | notFolder
  | isFolder
  | invalid
  | nameTooLong
  | notEmpty
  | zeroInName
  /-- Anything else that a system may say. -/
  | other (text : String)
deriving DecidableEq, Repr

namespace FileFault

def text : FileFault → String
  | .missing => "No such file or directory (os error 2)"
  | .busy => "Device or resource busy (os error 16)"
  | .alreadyThere => "File exists (os error 17)"
  | .notFolder => "Not a directory (os error 20)"
  | .isFolder => "Is a directory (os error 21)"
  | .invalid => "Invalid argument (os error 22)"
  | .nameTooLong => "File name too long (os error 36)"
  | .notEmpty => "Directory not empty (os error 39)"
  | .zeroInName => "file name contained an unexpected NUL byte"
  | .other text => text

end FileFault

/-- What is done with a directory. -/
inductive FileAction where
  /-- Creates the directory unless it is there. -/
  | create
  /-- Lists the names in the directory, in any order. -/
  | list
  | read (path : String)
  /-- Writes a file, which need not be there before. -/
  | write (path : String) (content : Text)
  /-- Moves a file, in one step, over the file that is at the target. -/
  | rename (source target : String)
deriving DecidableEq

namespace FileAction

/-- What an action gives when it succeeds. -/
def Result : FileAction → Type
  | .create => Unit
  | .list => List String
  | .read _ => Text
  | .write _ _ => Unit
  | .rename _ _ => Unit

abbrev Answer (action : FileAction) : Type :=
  Except FileFault action.Result

end FileAction

/-- A program that works with a directory. -/
abbrev FileProgram :=
  Program FileAction FileAction.Answer

/-- Performs an action. -/
def FileAction.perform (action : FileAction) : FileProgram action.Answer :=
  Program.perform action

end CloudSteward
