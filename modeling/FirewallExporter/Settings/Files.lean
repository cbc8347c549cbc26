import FirewallExporter.Text.Split
import FirewallExporter.Text.Utf8

/-!
# Files

The files that settings may be read from, by path, and what reading one of them gives. A path is
walked name by name, so every name before the last must be that of a directory, also one that a
double dot leaves again. A relative path starts at the working directory. Of the directories above
that one nothing is known but that they are there, and of the rest of the file system only what
every system has.
-/

namespace FirewallExporter.Settings

/-- Why a file cannot be read as text. -/
inductive FileFault
  | missing
  | directory
  | notDirectory
  | nameTooLong
  /-- There is a null character in the path. -/
  | nullInPath
  | notUtf8
deriving DecidableEq, Repr

def FileFault.message : FileFault → String
  | missing => "No such file or directory (os error 2)"
  | directory => "Is a directory (os error 21)"
  | notDirectory => "Not a directory (os error 20)"
  | nameTooLong => "File name too long (os error 36)"
  | nullInPath => "file name contained an unexpected NUL byte"
  | notUtf8 => "stream did not contain valid UTF-8"

/-- The files of a directory with their contents, and those elsewhere under their absolute path. -/
abbrev Files := List (String × List UInt8)

namespace Files

/-! ## Paths -/

/-- The parts of a path between slashes. -/
def parts (path : String) : List String := Text.splitText '/' path

/-- Whether a path starts at the root of the file system. -/
def isAbsolute (path : String) : Bool := path.toList.head? == some '/'

/-- A part that leads nowhere. -/
def isIdle (part : String) : Bool := part == "" || part == "."

/-- The names on the way to a file of the list. -/
def names (path : String) : List String := (parts path).filter (!isIdle ·)

/-- The longest name, in octets. -/
def maxName : Nat := 255

/-- The longest path, in octets. -/
def maxPath : Nat := 4095

/-! ## Walking -/

/-- A directory that a path has led to. -/
inductive Place
  /-- Below the start of the path, by the names that lead back to it. -/
  | inside (back : List String)
  /-- Above the working directory. -/
  | above
deriving DecidableEq, Repr

/-- The directory that holds a directory. The root holds itself. -/
def Place.parent (absolute : Bool) : Place → Place
  | inside (_ :: back) => inside back
  | inside [] => if absolute then inside [] else above
  | above => above

/-- Directories at the root of every system. -/
def rootDirectories : List String := ["bin", "dev", "etc", "proc", "sys", "tmp", "usr", "var"]

/-- The null device, which reads as an empty file. -/
def nullDevice : List String := ["dev", "null"]

/-- The content of a file by the names that lead to it. -/
def content? (files : Files) (absolute : Bool) (way : List String) : Option (List UInt8) :=
  match files.find? fun f ↦ isAbsolute f.1 == absolute && names f.1 == way with
  | some f => some f.2
  | none => if absolute && way == nullDevice then some [] else none

/-- Whether the names lead to a directory. -/
def isDirectory (files : Files) (absolute : Bool) (way : List String) : Bool :=
  absolute && rootDirectories.any ([·] == way) ||
    files.any fun f ↦ isAbsolute f.1 == absolute && way.isPrefixOf (names f.1)

/-- Walk the parts of a path from a place to the file at its end. -/
def walk (files : Files) (absolute : Bool) (place : Place) :
    List String → Except FileFault (List UInt8)
  | [] => .error .directory
  | part :: parts =>
    if maxName < part.utf8ByteSize then .error .nameTooLong
    else if isIdle part then walk files absolute place parts
    else if part = ".." then walk files absolute (place.parent absolute) parts
    else match place with
      | .above => .error .missing
      | .inside back =>
        let way := (part :: back).reverse
        match content? files absolute way with
        | some content => if parts = [] then .ok content else .error .notDirectory
        | none =>
          if isDirectory files absolute way then walk files absolute (.inside (part :: back)) parts
          else .error .missing

/-! ## Reading -/

/-- The content of the file under a path. A path of the list leads to its file as it stands. -/
def bytes (files : Files) (path : String) : Except FileFault (List UInt8) :=
  match files.lookup path with
  | some content => .ok content
  | none =>
    if path.toList.contains '\x00' then .error .nullInPath
    else if path = "" then .error .missing
    else if maxPath < path.utf8ByteSize then .error .nameTooLong
    else walk files (isAbsolute path) (.inside []) (parts path)

/-- The text of the file under a path. -/
def text (files : Files) (path : String) : Except FileFault String :=
  (files.bytes path).bind fun content ↦
    match Utf8.decode? content with
    | some s => .ok s
    | none => .error .notUtf8

end Files

end FirewallExporter.Settings
