import Livox.Library.MultiMap

namespace livox_lidar

/-- What a path leads to. A listing has the names in a directory but for the links to the directory
itself and to the one above it; `opens` says whether the directory can be opened. What a link leads
to may be missing. -/
inductive Node where
  | regular (st_size : UInt64)
  | directory (opens : Bool) (entries : List (List UInt8 × Node))
  | link (target : Node)
  | missing
  | other

/-- The file names by the times that they begin with, a multimap. -/
abbrev FileNames := List (List UInt8 × List UInt8)

namespace file_manager

mutual

def get_dir_total_size : Node → UInt64
  | .regular st_size => st_size
  | .directory true entries => total_size entries
  | .directory false _ => 0
  | .link target => get_dir_total_size target
  | .missing => 0
  | .other => 0

/-- The loop over the entries. -/
def total_size : List (List UInt8 × Node) → UInt64
  | [] => 0
  | (_, node) :: rest => get_dir_total_size node + total_size rest

end

def kLengthOfTimeInFilename : Nat := 19

def record_time (filename : List UInt8) : List UInt8 := filename.take kLengthOfTimeInFilename

/-- Strings are compared by their bytes, which are taken without a sign. -/
def chars (str : List UInt8) : List Nat := str.map UInt8.toNat

def store_file_name (filename : List UInt8) (filenames : FileNames) : Bool × FileNames :=
  if filename = [] then (false, filenames)
  else
    (true, multimap.insert (fun entry => chars entry.1) (record_time filename, filename) filenames)

mutual

/-- `GetFileNames`, which returns false when there is no directory to open. Of the files of the
directories below the names are kept without their directory. -/
def get_file_names : Node → FileNames → Bool × FileNames
  | .directory true entries, filenames => (true, file_names entries filenames)
  | .link target, filenames => get_file_names target filenames
  | .directory false _, filenames => (false, filenames)
  | .regular _, filenames => (false, filenames)
  | .missing, filenames => (false, filenames)
  | .other, filenames => (false, filenames)

/-- The loop over the entries; a link is passed over, and so is a hidden file. -/
def file_names : List (List UInt8 × Node) → FileNames → FileNames
  | [], filenames => filenames
  | (name, .regular _) :: rest, filenames =>
    if name.head? = some 46 then file_names rest filenames
    else file_names rest (store_file_name name filenames).2
  | (_, .directory opens entries) :: rest, filenames =>
    file_names rest (get_file_names (.directory opens entries) filenames).2
  | (_, .link _) :: rest, filenames => file_names rest filenames
  | (_, .missing) :: rest, filenames => file_names rest filenames
  | (_, .other) :: rest, filenames => file_names rest filenames

end

/-- What `remove` can take away: everything but a directory that is not empty. -/
def removable : Node → Bool
  | .directory _ (_ :: _) => false
  | _ => true

/-- `remove` of a name in a directory. -/
def remove (name : List UInt8) : Node → Node
  | .directory opens entries =>
    .directory opens (entries.filter fun entry => !(entry.1 == name && removable entry.2))
  | .link target => .link (remove name target)
  | .regular st_size => .regular st_size
  | .missing => .missing
  | .other => .other

end file_manager

end livox_lidar
