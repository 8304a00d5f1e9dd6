import KeyChords.Files.FileSystem

/-! # Disks

A disk holds files and folders under paths from its root, and one stands somewhere on it. A path
that does not start at the root starts there. A file is read and written by walking to it step by
step, and a step up from the root stays at the root.
-/

namespace KeyChords.Files

/-- **A disk**: its files, each with the steps that lead to it and the bytes it holds, further
folders, and the folder in which one stands. -/
structure Disk where
  files : List (List String × List UInt8) := []
  folders : List (List String) := []
  here : List String := []
  deriving DecidableEq, Repr

namespace Disk

/-- The bytes of the file at a place. -/
def file? (disk : Disk) (place : List String) : Option (List UInt8) :=
  disk.files.lookup place

/-- Whether a place is a folder: one of the folders, or a place on the way to one or to a file. -/
def isFolder (disk : Disk) (place : List String) : Bool :=
  place.isEmpty || (disk.here :: disk.folders).any (fun folder => place <+: folder) ||
    disk.files.any fun entry => place <+: entry.1 && place ≠ entry.1

/-- The greatest number of bytes in the name of a file or folder. -/
def nameLimit : Nat := 255

/-- The greatest number of bytes in a path. -/
def pathLimit : Nat := 4095

/-- Goes some steps from a place. -/
def walk (disk : Disk) (place : List String) : List String → Except Obstacle (List String)
  | [] => .ok place
  | step :: rest =>
    if disk.isFolder place then
      if step = ".." then disk.walk place.dropLast rest
      else if nameLimit < step.utf8ByteSize then .error .tooLong
      else disk.walk (place ++ [step]) rest
    else if (disk.file? place).isSome then .error .notDirectory
    else .error .missing

/-- The place where a path starts. -/
def start (disk : Disk) (path : Path) : List String :=
  if path.root.isEmpty then disk.here else []

/-- The place of a path, provided that it may be a file. -/
def locate (disk : Disk) (path : Path) : Except Obstacle (List String) :=
  if pathLimit < path.shown.utf8ByteSize then .error .tooLong
  else
    match disk.walk (disk.start path) path.steps with
    | .error obstacle => .error obstacle
    | .ok place => if disk.isFolder place then .error .directory else .ok place

/-- Reads a file. -/
def read (disk : Disk) (path : Path) : Except Obstacle (List UInt8) :=
  match disk.locate path with
  | .error obstacle => .error obstacle
  | .ok place =>
    match disk.file? place with
    | some bytes => .ok bytes
    | none => .error .missing

/-- The disk with a file at a place, in the place of the file that was there. -/
def put (disk : Disk) (place : List String) (bytes : List UInt8) : Disk :=
  { disk with files := (place, bytes) :: disk.files.filter fun entry => entry.1 ≠ place }

/-- Writes a file. -/
def write (disk : Disk) (path : Path) (bytes : List UInt8) : Option Obstacle × Disk :=
  match disk.locate path with
  | .error obstacle => (some obstacle, disk)
  | .ok place => (none, disk.put place bytes)

instance : FileSystem Disk := ⟨read, write⟩

@[simp]
theorem file?_put_self (disk : Disk) (place : List String) (bytes : List UInt8) :
    (disk.put place bytes).file? place = some bytes := by
  simp [put, file?]

private theorem isFolder_put_of_isFolder {disk : Disk} {place other : List String}
    (bytes : List UInt8) (inside : disk.isFolder other = true) :
    (disk.put place bytes).isFolder other = true := by
  unfold isFolder at inside ⊢
  rcases (Bool.or_eq_true _ _).mp inside with given | onTheWay
  · exact (Bool.or_eq_true _ _).mpr (Or.inl given)
  · refine (Bool.or_eq_true _ _).mpr (Or.inr ?_)
    simp only [put, List.any_cons, Bool.or_eq_true, List.any_eq_true, Bool.and_eq_true,
      decide_eq_true_eq] at onTheWay ⊢
    obtain ⟨entry, member, before, proper⟩ := onTheWay
    by_cases same : entry.1 = place
    · exact Or.inl ⟨same ▸ before, same ▸ proper⟩
    · exact Or.inr ⟨entry, List.mem_filter.mpr ⟨member, by simpa using same⟩, before, proper⟩

/-- A place that is no folder is none after a file is written there. -/
private theorem isFolder_put_self {disk : Disk} {place : List String} (bytes : List UInt8)
    (outside : disk.isFolder place = false) : (disk.put place bytes).isFolder place = false := by
  unfold isFolder at outside ⊢
  obtain ⟨given, onTheWay⟩ := Bool.or_eq_false_iff.mp outside
  refine Bool.or_eq_false_iff.mpr ⟨given, ?_⟩
  simp only [put, List.any_cons, Bool.or_eq_false_iff, List.any_eq_false, Bool.and_eq_true,
    decide_eq_true_eq, not_and] at onTheWay ⊢
  exact ⟨by simp, fun entry member => onTheWay entry (List.mem_filter.mp member).1⟩

/-- A walk that succeeds leads to the same place after a file is written. -/
private theorem walk_put {disk : Disk} {place : List String} (bytes : List UInt8)
    {start reached : List String} {steps : List String}
    (found : disk.walk start steps = .ok reached) :
    (disk.put place bytes).walk start steps = .ok reached := by
  fun_induction walk disk start steps generalizing reached with
  | case1 start => simpa [walk] using found
  | case2 start rest inside hyp =>
    rw [walk]
    simp only [isFolder_put_of_isFolder bytes inside, ↓reduceIte]
    exact hyp found
  | case3 => simp at found
  | case4 start step rest inside down short hyp =>
    rw [walk]
    simp only [isFolder_put_of_isFolder bytes inside, ↓reduceIte, down, short]
    exact hyp found
  | case5 => simp at found
  | case6 => simp at found

/-- A place that may be a file is the place of the same path after a file is written there. -/
private theorem locate_put {disk : Disk} {path : Path} {place : List String} (bytes : List UInt8)
    (located : disk.locate path = .ok place) : (disk.put place bytes).locate path = .ok place := by
  unfold locate at located ⊢
  split at located
  · simp at located
  · rename_i short
    rw [if_neg short]
    split at located
    · simp at located
    · rename_i reached walked
      split at located
      · simp at located
      · rename_i outside
        obtain rfl := Except.ok.inj located
        have again : (disk.put reached bytes).walk ((disk.put reached bytes).start path)
            path.steps = .ok reached := walk_put bytes walked
        rw [again]
        exact if_neg (Bool.eq_false_iff.mp
          (isFolder_put_self bytes (Bool.eq_false_iff.mpr outside)))

/-- **A file that was written is read back.** -/
theorem read_write {disk : Disk} {path : Path} {bytes : List UInt8}
    (written : (disk.write path bytes).1 = none) :
    (disk.write path bytes).2.read path = .ok bytes := by
  cases located : disk.locate path with
  | error obstacle => simp [write, located] at written
  | ok place => simp [write, read, located, locate_put bytes located]

instance : LawfulFileSystem Disk := ⟨read_write⟩

end Disk

end KeyChords.Files
