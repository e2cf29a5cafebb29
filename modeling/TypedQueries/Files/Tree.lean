import TypedQueries.Files.Path

/-!
A tree of files and directories, and how paths are followed in it. An entry stands under the names
that lead to it from the root; the root itself is always a directory.
-/

namespace TypedQueries

/-- Why the file system refuses an operation. -/
inductive DiskError where
  | notFound
  | busy
  | alreadyExists
  | notDirectory
  | isDirectory
  | invalidText
  /-- Any other reason, in the words of the system. -/
  | refused (reason : String)
  deriving DecidableEq, Repr

def DiskError.message : DiskError → String
  | .notFound => "No such file or directory (os error 2)"
  | .busy => "Device or resource busy (os error 16)"
  | .alreadyExists => "File exists (os error 17)"
  | .notDirectory => "Not a directory (os error 20)"
  | .isDirectory => "Is a directory (os error 21)"
  | .invalidText => "stream did not contain valid UTF-8"
  | .refused reason => reason

/-- What a file holds: a text, or bytes that need not be one. -/
inductive Content where
  | text (t : String)
  | bytes (b : List UInt8)
  deriving DecidableEq, Repr

def Content.text? : Content → Option String
  | .text t => some t
  | .bytes b => String.fromUTF8? ⟨b.toArray⟩

inductive Entry where
  | directory
  | file (content : Content)
  deriving DecidableEq, Repr

/-- The names from the root to an entry. -/
abbrev Place := List String

/-- The absolute path of a place. -/
def Place.path (place : Place) : Path := ⟨"/" ++ String.intercalate "/" place⟩

/-- The places that components pass through from a place on, the last at the end. -/
def Place.passed (place : Place) : List Component → List Place
  | [] => [place]
  | .name n :: components => place :: passed (place ++ [n]) components
  | .parent :: components => place :: passed place.dropLast components
  | _ :: components => passed place components

/-- Whether a text can name an entry: it is not empty, no dots that stand for a directory, and
without a slash. -/
def isEntryName (n : String) : Bool := n != "" && n != "." && n != ".." && !n.toList.contains '/'

/-- Whether an entry can stand at a place other than the root. -/
def Place.isProper (place : Place) : Bool := !place.isEmpty && place.all isEntryName

/-- Gives a key its value, in the key's old position or at the end. -/
def assign {α β : Type} [BEq α] (key : α) (value : β) : List (α × β) → List (α × β)
  | [] => [(key, value)]
  | entry :: entries =>
    if key == entry.1 then (key, value) :: entries else entry :: assign key value entries

section
variable {α β : Type} [BEq α] [LawfulBEq α] {key other : α} {value : β} {entries : List (α × β)}

theorem mem_keys_assign :
    other ∈ (assign key value entries).map Prod.fst ↔ other = key ∨ other ∈ entries.map Prod.fst := by
  induction entries with
  | nil => simp [assign]
  | cons entry entries ih =>
    rw [assign]
    split
    · rename_i h
      simp [eq_of_beq h]
    · simp only [List.map_cons, List.mem_cons, ih]
      constructor <;> (rintro (h | h | h) <;> simp [h])

theorem nodup_keys_assign (h : (entries.map Prod.fst).Nodup) :
    ((assign key value entries).map Prod.fst).Nodup := by
  induction entries with
  | nil => simp [assign]
  | cons entry entries ih =>
    rw [List.map_cons, List.nodup_cons] at h
    rw [assign]
    split
    · rename_i he
      rw [List.map_cons, List.nodup_cons]
      exact ⟨eq_of_beq he ▸ h.1, h.2⟩
    · rename_i he
      rw [List.map_cons, List.nodup_cons, mem_keys_assign]
      exact ⟨fun hm => hm.elim (fun e => he (by simp [e])) h.1, ih h.2⟩

theorem lookup_assign_self : (assign key value entries).lookup key = some value := by
  induction entries with
  | nil => simp [assign]
  | cons entry entries ih =>
    rw [assign]
    split
    · simp
    · rename_i h
      rw [List.lookup_cons, ih]
      simp [h]

theorem lookup_assign_of_ne (h : other ≠ key) :
    (assign key value entries).lookup other = entries.lookup other := by
  have hb : (other == key) = false := by simp [h]
  induction entries with
  | nil => simp [assign, List.lookup_cons, hb]
  | cons entry entries ih =>
    rw [assign]
    split
    · rename_i he
      rw [List.lookup_cons, List.lookup_cons, ← eq_of_beq he, hb]
    · rw [List.lookup_cons, List.lookup_cons, ih]

theorem lookup_filter_of_ne (h : other ≠ key) :
    (entries.filter fun entry => entry.1 != key).lookup other = entries.lookup other := by
  induction entries with
  | nil => rfl
  | cons entry entries ih =>
    rw [List.filter_cons, List.lookup_cons]
    split
    · rw [List.lookup_cons, ih]
    · rename_i heq
      have hkey : entry.1 = key := by simpa [bne] using heq
      have hne : (other == entry.1) = false := by simp [hkey, h]
      rw [hne, ih]

end

structure FileTree where
  entries : List (Place × Entry)
  nodup : (entries.map Prod.fst).Nodup
  proper : ∀ place ∈ entries.map Prod.fst, Place.isProper place

namespace FileTree

def empty : FileTree := ⟨[], List.nodup_nil, nofun⟩

def get? (t : FileTree) (place : Place) : Option Entry :=
  if place = [] then some .directory else t.entries.lookup place

/-- Puts an entry at a place; nothing changes if no entry can stand there. -/
def set (t : FileTree) (place : Place) (entry : Entry) : FileTree :=
  if h : place.isProper then
    { entries := assign place entry t.entries
      nodup := nodup_keys_assign t.nodup
      proper := fun other hm => (mem_keys_assign.1 hm).elim (fun e => e ▸ h) (t.proper other) }
  else t

theorem get?_set_self {t : FileTree} {place : Place} {entry : Entry} (h : place.isProper) :
    (t.set place entry).get? place = some entry := by
  have hne : place ≠ [] := by
    rintro rfl
    cases h
  rw [set, dif_pos h, get?, if_neg hne]
  exact lookup_assign_self

theorem get?_set_of_ne {t : FileTree} {place other : Place} {entry : Entry} (h : other ≠ place) :
    (t.set place entry).get? other = t.get? other := by
  rw [set]
  split
  · rw [get?, get?]
    split
    · rfl
    · exact lookup_assign_of_ne h
  · rfl

def remove (t : FileTree) (place : Place) : FileTree where
  entries := t.entries.filter fun entry => entry.1 != place
  nodup := t.nodup.sublist (List.filter_sublist.map Prod.fst)
  proper other hm := t.proper other ((List.filter_sublist.map Prod.fst).subset hm)

theorem get?_remove_self {t : FileTree} {place : Place} (h : place ≠ []) :
    (t.remove place).get? place = none := by
  rw [get?, if_neg h, remove, List.lookup_eq_none_iff]
  intro entry hentry
  have hne := (List.mem_filter.1 hentry).2
  simpa [bne, Bool.beq_comm] using hne

theorem get?_remove_of_ne {t : FileTree} {place other : Place} (h : other ≠ place) :
    (t.remove place).get? other = t.get? other := by
  rw [get?, get?]
  split
  · rfl
  · exact lookup_filter_of_ne h

/-- Adds an entry and the directories that lead to it. -/
def place (t : FileTree) (names : Place) (entry : Entry) : FileTree :=
  let above := (List.range names.length).map names.take
  let t := above.foldl (fun t p => if (t.get? p).isNone then t.set p .directory else t) t
  t.set names entry

/-- The entries below a directory, under the names that lead to them from it. -/
def below (t : FileTree) (directory : Place) : List (Place × Entry) :=
  t.entries.filterMap fun (names, entry) =>
    if directory.isPrefixOf names ∧ names ≠ directory then some (names.drop directory.length, entry)
    else none

/-- Follows the pieces of a path from a place. -/
def walk (t : FileTree) (place : Place) : List (List Char) → Except DiskError Place
  | [] => .ok place
  | piece :: pieces =>
    match t.get? place with
    | none => .error .notFound
    | some (.file _) => .error .notDirectory
    | some .directory =>
      match component? piece with
      | some (.name n) =>
        if (t.get? (place ++ [n])).isSome then t.walk (place ++ [n]) pieces else .error .notFound
      | some .parent => t.walk place.dropLast pieces
      | _ => t.walk place pieces

end FileTree

/-- A tree as it is seen from a working directory. -/
structure Disk where
  tree : FileTree
  workingDirectory : Place

namespace Disk

/-- Where a path starts. -/
def start (d : Disk) (p : Path) : Place := if p.isAbsolute then [] else d.workingDirectory

/-- The places that a path passes through if all of it is there, its end last. -/
def route (d : Disk) (p : Path) : List Place := Place.passed (d.start p) p.components

/-- The place that a path leads to. -/
def locate (d : Disk) (p : Path) : Except DiskError Place :=
  if p.text = "" then .error .notFound else d.tree.walk (d.start p) p.pieces

/-- The entry that a path leads to, with its place. -/
def find (d : Disk) (p : Path) : Except DiskError (Place × Entry) := do
  let place ← d.locate p
  match d.tree.get? place with
  | some entry => return (place, entry)
  | none => throw .notFound

def isFile (d : Disk) (p : Path) : Bool :=
  match d.find p with
  | .ok (_, .file _) => true
  | _ => false

def isDirectory (d : Disk) (p : Path) : Bool :=
  match d.find p with
  | .ok (_, .directory) => true
  | _ => false

/-- The text of the file that a path leads to. -/
def read (d : Disk) (p : Path) : Except DiskError String :=
  match d.find p with
  | .error e => .error e
  | .ok (_, .directory) => .error .isDirectory
  | .ok (_, .file content) =>
    match content.text? with
    | some text => .ok text
    | none => .error .invalidText

/-- The directory that the last piece of a path is looked up in, and that piece; slashes at the end
are left out, and a path of slashes alone has no last piece. -/
def lastPiece (d : Disk) (p : Path) : Except DiskError (Place × Option (List Char)) :=
  if p.text = "" then .error .notFound
  else
    match p.pieces.reverse.dropWhile List.isEmpty with
    | [] => .ok ([], none)
    | piece :: before => do
      let place ← d.tree.walk (d.start p) before.reverse
      match d.tree.get? place with
      | some .directory => return (place, some piece)
      | some (.file _) => throw .notDirectory
      | none => throw .notFound

/-- Makes the directory of a path, whose parent must be there. -/
def makeDirectory (d : Disk) (p : Path) : Except DiskError Disk := do
  match ← d.lastPiece p with
  | (place, some piece) =>
    match component? piece with
    | some (.name n) =>
      if (d.tree.get? (place ++ [n])).isSome then throw .alreadyExists
      else return { d with tree := d.tree.set (place ++ [n]) .directory }
    | _ => throw .alreadyExists
  | (_, none) => throw .alreadyExists

/-- Makes the first of the paths, each of which lies in the next, with all that it lies in.
Directories made before a failure stay. -/
def makeChain (d : Disk) : List Path → Disk × Option DiskError
  | [] => (d, none)
  | p :: above =>
    if p.text = "" then (d, none)
    else
      match d.makeDirectory p with
      | .ok d => (d, none)
      | .error .notFound =>
        match d.makeChain above with
        | (d, some e) => (d, some e)
        | (d, none) =>
          match d.makeDirectory p with
          | .ok d => (d, none)
          | .error e => if d.isDirectory p then (d, none) else (d, some e)
      | .error e => if d.isDirectory p then (d, none) else (d, some e)

/-- Makes the directory of a path and every missing directory above it. -/
def makeDirectories (d : Disk) (p : Path) : Disk × Option DiskError := d.makeChain p.ancestors

/-- Moves the file at a place to a path, where it replaces a file that is there already. -/
def rename (d : Disk) (source : Place) (p : Path) : Except DiskError Disk := do
  match ← d.lastPiece p with
  | (place, some piece) =>
    match component? piece with
    | some (.name n) =>
      if p.pieces.getLast? = some [] then throw .notDirectory
      else if d.tree.get? (place ++ [n]) = some .directory then throw .isDirectory
      else
        match d.tree.get? source with
        | some entry => return { d with tree := (d.tree.remove source).set (place ++ [n]) entry }
        | none => throw .notFound
    | _ => throw .busy
  | (_, none) => throw .busy

end Disk

end TypedQueries
