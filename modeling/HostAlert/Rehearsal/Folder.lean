import HostAlert.Text.Split
import HostAlert.Text.Utf8

/-!
# Folders of files

A `Folder` holds files and no other folders. `Folder.read` finds a file by a path that starts in the
folder, or says with the words of the system why there is none.
-/

namespace HostAlert.Rehearsal

structure Folder where
  files : List (String × Bytes)

namespace Folder

def isMissing : String := "No such file or directory (os error 2)"

def isNoFolder : String := "Not a directory (os error 20)"

def isFolder : String := "Is a directory (os error 21)"

def isTooLong : String := "File name too long (os error 36)"

def maxName : Nat := 255

def parts (s : List Char) : List (List Char) :=
  Text.splitOn (· == '/') s

def maxPath : Nat := 4095

def staysHere (part : List Char) : Bool :=
  part == [] || part == ['.']

/-- Whether the part goes to the folder above, which of the topmost folder is that folder itself. -/
def goesUp (part : List Char) : Bool :=
  part == ['.', '.']

/-- What is said of a name that no file has. -/
def absent (name : String) : String :=
  if maxName < (utf8 name).length then isTooLong else isMissing

/-- What is said of a path that starts above the folder, where no names are known. -/
def above : List (List Char) → String
  | [] => isFolder
  | part :: rest =>
    if staysHere part || goesUp part then above rest else absent (String.ofList part)

def find (f : Folder) : List (List Char) → Except String Bytes
  | [] => .error isFolder
  | part :: rest =>
    if staysHere part then f.find rest
    else if goesUp part then .error (above rest)
    else
      let name := String.ofList part
      match f.files.lookup name with
      | some content => if rest.isEmpty then .ok content else .error isNoFolder
      | none => .error (absent name)

def read (f : Folder) (path : String) : Except String Bytes :=
  if maxPath < (utf8 path).length then .error isTooLong
  else
    match path.toList with
    | [] => .error isMissing
    | '/' :: rest => .error (above (parts rest))
    | s => f.find (parts s)

example : ((Folder.mk [("a", [1])]).read "./a").toOption = some [1] := by decide +kernel
example : ((Folder.mk [("a", [1])]).read "a/").toOption = none := by decide +kernel

end Folder

end HostAlert.Rehearsal
