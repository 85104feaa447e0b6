import FeatureAudit.Corpus.FileTree
import FeatureAudit.Text.Quoted
import FeatureAudit.Text.Utf8

/-!
# Texts of files

A file is read as UTF-8. What goes wrong has a kind and a wording, which reports show.
-/

set_option autoImplicit false

namespace FeatureAudit.Source

/-- Why a file has no text. -/
inductive Fault where
  /-- It cannot be opened. -/
  | access (fault : FileTree.Fault)
  /-- Its octets are no text. -/
  | encoding (fault : Text.Utf8.Fault)
  deriving DecidableEq, Repr

/-- The kind of a fault. -/
def Fault.kind : Fault → String
  | .access .missing => "FileNotFoundError"
  | .access .directory => "IsADirectoryError"
  | .access .notDirectory => "NotADirectoryError"
  | .access .nameTooLong => "OSError"
  | .access .denied => "PermissionError"
  | .access .unusable => "ValueError"
  | .encoding _ => "UnicodeDecodeError"

/-- The octets to blame and their position. -/
def octetsText (f : Text.Utf8.Fault) : String :=
  match f.octets with
  | [b] =>
    "byte 0x" ++ String.ofList (Text.hex 2 b.toNat) ++ " in position " ++ toString f.start
  | octets =>
    "bytes in position " ++ toString f.start ++ "-" ++ toString (f.start + octets.length - 1)

/-- The wording of a fault. -/
def Fault.text (path : String) : Fault → String
  | .access .missing => "[Errno 2] No such file or directory: " ++ Text.quoted path
  | .access .directory => "[Errno 21] Is a directory: " ++ Text.quoted path
  | .access .notDirectory => "[Errno 20] Not a directory: " ++ Text.quoted path
  | .access .nameTooLong => "[Errno 36] File name too long: " ++ Text.quoted path
  | .access .denied => "[Errno 13] Permission denied: " ++ Text.quoted path
  | .access .unusable => "embedded null byte"
  | .encoding f => "'utf-8' codec can't decode " ++ octetsText f ++ ": " ++ f.reason.text

/-- What is said about a feature document that cannot be read. -/
def Fault.message (path : String) (f : Fault) : String :=
  "Cannot read feature file " ++ path ++ ": " ++ f.text path

/-- The text of a file, as a reader of octets gives it. -/
def readWith (decode : List UInt8 → Except Text.Utf8.Fault String) (t : FileTree)
    (p : SourcePath) : Except Fault String :=
  match t.read p with
  | .error fault => .error (.access fault)
  | .ok octets =>
    match decode octets with
    | .error fault => .error (.encoding fault)
    | .ok text => .ok text

/-- The text of a feature document; a byte order mark in front is left out. -/
def read (t : FileTree) (p : SourcePath) : Except Fault String :=
  readWith Text.Utf8.readMarkedText t p

/-- The text of a configuration file. -/
def readPlain (t : FileTree) (p : SourcePath) : Except Fault String :=
  readWith Text.Utf8.readText t p

end FeatureAudit.Source
