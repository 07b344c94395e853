import StorageClient.Config.Document
/-!
# StorageClient.Config.Folder

What comes of opening a file by its path, in a folder that holds nothing but, perhaps, the file
that was put there by that path.

* A path is looked up part by part, where parts stand between slashes. An empty part and the part
  `.` stay in the folder they are looked up in; so does `..`, for the folders above are folders
  too, and nothing is known to be in them.
* The folder has no folders inside it. So only the last part can name the file, and no slash
  follows it.
* The first part that cannot be looked up decides; what is wrong with the path as a whole comes
  before all parts.
-/

namespace StorageClient

/-- Why the system does not open a file. -/
inductive FileRefusal
  | notFound
  | isFolder
  | tooLong
  | hasNul
  deriving Repr, DecidableEq

/-- What the system says when it refuses. -/
def FileRefusal.reason : FileRefusal → String
  | notFound => "No such file or directory (os error 2)"
  | isFolder => "Is a directory (os error 21)"
  | tooLong => "File name too long (os error 36)"
  | hasNul => "file name contained an unexpected NUL byte"

namespace Folder

/-- The octets that a part of a path has at most. -/
def maxPartSize : Nat := 255

/-- The octets that a path has at most. -/
def maxPathSize : Nat := 4095

/-- The parts of a path, which stand between its slashes. -/
def parts (path : List Char) : List (List Char) :=
  path.foldr
    (fun c parts =>
      match c, parts with
      | '/', parts => [] :: parts
      | c, [] => [[c]]
      | c, part :: rest => (c :: part) :: rest)
    [[]]

/-- Looks up the parts of a path one after the other. The file, if there is one, is what the last
of them names. -/
def lookUp (file : Option ByteArray) : List String → Except FileRefusal ByteArray
  | [] => .error .isFolder
  | part :: rest =>
    if part = "" ∨ part = "." ∨ part = ".." then lookUp file rest
    else if maxPartSize < part.utf8ByteSize then .error .tooLong
    else match rest, file with
      | [], some octets => .ok octets
      | _, _ => .error .notFound

/-- Opens a file by its path. -/
def openFile (path : String) (file : Option ByteArray) : Except FileRefusal ByteArray :=
  if '\x00' ∈ path.toList then .error .hasNul
  else if path = "" then .error .notFound
  else if maxPathSize < path.utf8ByteSize then .error .tooLong
  else lookUp file ((parts path.toList).map String.ofList)

/-- What reading a file gives. -/
def read (path : String) (file : Option ByteArray) : Config.FileContents :=
  match openFile path file with
  | .ok octets => .octets octets
  | .error refusal => .unreadable refusal.reason

/-- A file that is found is the one that was put there. -/
theorem openFile_eq_ok {path : String} {file : Option ByteArray} {octets : ByteArray}
    (h : openFile path file = .ok octets) : file = some octets := by
  have found : ∀ names, lookUp file names = .ok octets → file = some octets := by
    intro names
    induction names with
    | nil => simp [lookUp]
    | cons part rest ih =>
      unfold lookUp
      split
      · exact ih
      · split
        · simp
        · split <;> simp_all
  unfold openFile at h
  split at h
  · simp at h
  · split at h
    · simp at h
    · split at h
      · simp at h
      · exact found _ h

end Folder

end StorageClient
