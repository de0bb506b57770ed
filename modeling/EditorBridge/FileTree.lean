/-!
Files and directories. A path is looked up name by name from the root, or from the working directory
if it does not begin with a slash. What cannot be done changes no file.
-/

namespace EditorBridge

/-- Why a file or directory cannot be read or made. -/
inductive FileError where
  | notFound
  | alreadyThere
  | notDirectory
  | isDirectory
  | nameTooLong
  /-- The path holds the character that ends a path. -/
  | endInside
  /-- The file is not UTF-8. -/
  | notText
  deriving DecidableEq, Repr

def FileError.message : FileError → String
  | notFound => "No such file or directory (os error 2)"
  | alreadyThere => "File exists (os error 17)"
  | notDirectory => "Not a directory (os error 20)"
  | isDirectory => "Is a directory (os error 21)"
  | nameTooLong => "File name too long (os error 36)"
  | endInside => "file name contained an unexpected NUL byte"
  | notText => "stream did not contain valid UTF-8"

/-- The names on the way from the root to a place. -/
abbrev Place := List String

inductive FileEntry where
  | directory
  | file (content : String)
  deriving DecidableEq, Repr

structure FileTree where
  entries : List (Place × FileEntry)
  workingDirectory : Place
  deriving DecidableEq, Repr

def pathNames (path : List Char) : List (List Char) :=
  let (last, names) := path.foldr (fun c (found : List Char × List (List Char)) =>
    if c = '/' then ([], found.1 :: found.2) else (c :: found.1, found.2)) ([], [])
  (last :: names).filter fun name => !name.isEmpty

def pathSteps (path : String) : List String := (pathNames path.toList).map String.ofList

def joinPath (directory name : String) : String :=
  if directory = "" || directory.toList.getLast? = some '/' then directory ++ name
  else directory ++ "/" ++ name

def pathFault? (path : String) : Option FileError :=
  if path.toList.contains '\x00' then some .endInside
  else if 4096 ≤ path.utf8ByteSize then some .nameTooLong
  else none

namespace FileTree

def at? (tree : FileTree) (place : Place) : Option FileEntry :=
  if place = [] then some .directory else tree.entries.lookup place

def put (tree : FileTree) (place : Place) (entry : FileEntry) : FileTree :=
  { tree with entries := (place, entry) :: tree.entries.filter fun old => old.1 != place }

@[simp] theorem at?_root (tree : FileTree) : tree.at? [] = some .directory := by simp [at?]

@[simp] theorem workingDirectory_put (tree : FileTree) (place : Place) (entry : FileEntry) :
    (tree.put place entry).workingDirectory = tree.workingDirectory := rfl

theorem at?_put_same (tree : FileTree) {place : Place} (entry : FileEntry) (h : place ≠ []) :
    (tree.put place entry).at? place = some entry := by simp [at?, put, h]

/-- What is put somewhere changes nothing elsewhere. -/
theorem at?_put_other (tree : FileTree) {place other : Place} (entry : FileEntry)
    (h : other ≠ place) : (tree.put place entry).at? other = tree.at? other := by
  have hl : ∀ entries : List (Place × FileEntry),
      (entries.filter fun old => old.1 != place).lookup other = entries.lookup other := by
    intro entries
    induction entries with
    | nil => rfl
    | cons old rest ih =>
      obtain ⟨p, e⟩ := old
      by_cases hp : p = place
      · subst hp
        have ho : (other == p) = false := by simpa using h
        simp [List.lookup_cons, ho, ih]
      · by_cases ho : other = p
        · subst ho
          simp [hp]
        · have hq : (other == p) = false := by simpa using ho
          simp [List.lookup_cons, hp, hq, ih]
  have ho : (other == place) = false := by simpa using h
  by_cases hr : other = []
  · subst hr; simp
  · simp [at?, put, hr, List.lookup_cons, ho, hl]

def start (tree : FileTree) (path : String) : Place :=
  if path.toList.head? = some '/' then [] else tree.workingDirectory

/-- Whether a place is a directory; otherwise why steps cannot go on from it. -/
def entering (tree : FileTree) (place : Place) : Except FileError Unit :=
  match tree.at? place with
  | some .directory => .ok ()
  | some (.file _) => .error .notDirectory
  | none => .error .notFound

/-- The place that a step leads to from a directory, whether or not there is anything. -/
def step (place : Place) (name : String) : Except FileError Place :=
  if name = "." then .ok place
  else if name = ".." then .ok place.dropLast
  else if 255 < name.utf8ByteSize then .error .nameTooLong
  else .ok (place ++ [name])

/-- The place that steps lead to; something has to be at all of them but the last. -/
def follow (tree : FileTree) (place : Place) : List String → Except FileError Place
  | [] => .ok place
  | name :: rest =>
    match tree.entering place with
    | .error e => .error e
    | .ok () =>
      match step place name with
      | .error e => .error e
      | .ok next => tree.follow next rest

def hasDirectory (tree : FileTree) (place : Place) (steps : List String) : Bool :=
  match tree.follow place steps with
  | .ok found => tree.at? found = some .directory
  | .error _ => false

def has (tree : FileTree) (path : String) : Bool :=
  match tree.follow (tree.start path) (pathSteps path) with
  | .ok found => (tree.at? found).isSome
  | .error _ => false

def makeDirectory (tree : FileTree) (place : Place) (steps : List String) :
    Except FileError FileTree :=
  match tree.follow place steps with
  | .error e => .error e
  | .ok found =>
    if (tree.at? found).isSome then .error .alreadyThere else .ok (tree.put found .directory)

/-- The outcome of an attempt to make a directory that has to be there in the end. -/
def settle (tree : FileTree) (place : Place) (steps : List String) :
    Except FileError FileTree → FileTree × Option FileError
  | .ok made => (made, none)
  | .error e => (tree, if tree.hasDirectory place steps then none else some e)

/-- Makes the directory that steps lead to; if something above it is missing, first those that the
steps in `above` lead to, of which the last one stands first. -/
def ensureDirectory (place : Place) :
    List String → List String → FileTree → FileTree × Option FileError
  | above, steps, tree =>
    match tree.makeDirectory place steps with
    | .error .notFound =>
      match above with
      | [] => (tree, some .notFound)
      | _ :: higher =>
        match ensureDirectory place higher above.reverse tree with
        | (made, some e) => (made, some e)
        | (made, none) => made.settle place steps (made.makeDirectory place steps)
    | outcome => tree.settle place steps outcome

/-- Makes a directory and those above it; of these some may have been made even if it fails. -/
def makeDirectories (tree : FileTree) (path : String) : FileTree × Option FileError :=
  if path = "" then (tree, none)
  else match pathFault? path with
    | some e => (tree, some e)
    | none =>
      let steps := pathSteps path
      let above := (steps.filter fun name => name != ".").dropLast.reverse
      ensureDirectory (tree.start path) above steps tree

def read (tree : FileTree) (path : String) : Except FileError String :=
  match pathFault? path with
  | some e => .error e
  | none =>
    match tree.follow (tree.start path) (pathSteps path) with
    | .error e => .error e
    | .ok found =>
      match tree.at? found with
      | none => .error .notFound
      | some .directory => .error .isDirectory
      | some (.file content) =>
        if path.toList.getLast? = some '/' then .error .notDirectory else .ok content

def write (tree : FileTree) (path content : String) : Except FileError FileTree :=
  match pathFault? path with
  | some e => .error e
  | none =>
    match tree.follow (tree.start path) (pathSteps path) with
    | .error e => .error e
    | .ok found =>
      match tree.at? found with
      | some .directory => .error .isDirectory
      | _ => .ok (tree.put found (.file content))

end FileTree

end EditorBridge
