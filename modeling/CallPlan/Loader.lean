import CallPlan.Condition
import CallPlan.Data.Entries
import CallPlan.Digest
import CallPlan.Path
import CallPlan.Text.Blank

/-!
Sources of signature texts and modules: given content, content read from elsewhere, and files. A file
is read each time, so later edits are seen.
-/

namespace CallPlan

/-- What a path leads to. -/
inductive FileStatus where
  | file (content : List UInt8)
  | directory
  | missing
  | notADirectory
deriving DecidableEq, Repr

/-- The files that a program can see, from a working directory. -/
structure Files where
  directory : Text := "/"
  status : Text → FileStatus := fun _ => .missing

/-- A directory that holds nothing but the given files, by absolute path. -/
def Files.ofList (directory : Text) (files : Entries (List UInt8)) : Files where
  directory
  status path :=
    let isAbove (upper lower : Text) : Bool := (upper ++ "/").isPrefixOf lower
    match files.get? path with
    | some content => .file content
    | none =>
        if path = directory || files.any fun (name, _) => isAbove path name then .directory
        else if files.any fun (name, _) => isAbove name path then .notADirectory
        else .missing

inductive Loader where
  | text (content : Text)
  | bytes (content : List UInt8)
  | reader (name : Text) (content : List UInt8)
  | disk (path : Text)
  /-- A source with an address of its own; opening it may fail, and so may reading it. -/
  | external (address : Text) (content : Except Text (Except Text (List UInt8)))
deriving Repr

namespace Loader

def unavailable (detail : Text) : Cause := .because .sourceUnavailable (.message detail)

/-- Content given as text, without the blanks around it. -/
def ofText (content : Text) : Except Cause Loader :=
  if content.trim.isEmpty then .error (unavailable "content is empty") else .ok (.text content.trim)

def ofBytes (content : List UInt8) : Except Cause Loader :=
  if content.isEmpty then .error (unavailable "content is empty") else .ok (.bytes content)

/-- Content read from elsewhere: `none` when there is nothing to read from. -/
def ofReader (name : Text) (content : Option (Except Text (List UInt8))) : Except Cause Loader :=
  match content with
  | none => .error (unavailable "reader is nil")
  | some (.error detail) => .error (.within "failed to read from reader" (.message detail))
  | some (.ok content) =>
      if (Text.ofBytes content).isBlank then
        .error (unavailable "content is empty or contains only whitespace")
      else .ok (.reader (if name.isEmpty then "unnamed" else name) content)

/-- Whether a text occurs in another. -/
def occursIn (part : Text) : Text → Bool
  | [] => part.isEmpty
  | g :: rest => part.isPrefixOf (g :: rest) || occursIn part rest

def dropScheme (path : Text) : Text :=
  let scheme := Text.ofString "file://"
  if scheme.isPrefixOf path then path.drop scheme.length else path

/-- A file, by a path that may carry the scheme of files and no other. -/
def ofDisk (directory path : Text) : Except Cause Loader :=
  let unsupported (path : Text) : Except Cause Loader :=
    .error (.because .schemeUnsupported (.message path))
  if (Text.ofString "http://").isPrefixOf path || (Text.ofString "https://").isPrefixOf path then
    unsupported path
  else
    let path := dropScheme path
    if occursIn "://" path then unsupported path
    else if path.trim.isEmpty then .error (unavailable "path is empty")
    else
      let path := Path.absolute directory path
      if path = Text.ofString "/" then .error (unavailable "path is a root directory")
      else .ok (.disk path)

/-- The address of a source. -/
def address : Loader → Text
  | .text content => "string://inline/" ++ Digest.short content.toBytes
  | .bytes content => "bytes://inline/" ++ Digest.short content
  | .reader name content => "reader://" ++ Path.escapeHost name ++ "/" ++ Digest.short content
  | .disk path => "file://" ++ Path.escapePath path
  | .external address _ => address

/-- Reads the whole content of a source. -/
def read (files : Files) (loader : Loader) : Except Cause (List UInt8) :=
  let failed (detail : Text) : Except Cause (List UInt8) :=
    .error (.within ("failed to read " ++ loader.address) (.message detail))
  match loader with
  | .text content => .ok content.toBytes
  | .bytes content | .reader _ content => .ok content
  | .disk path =>
      match files.status path with
      | .file content => .ok content
      | .directory => failed ("read " ++ path ++ ": is a directory")
      | .missing => .error (unavailable ("open " ++ path ++ ": no such file or directory"))
      | .notADirectory => .error (unavailable ("open " ++ path ++ ": not a directory"))
  | .external _ (.error detail) => .error (unavailable detail)
  | .external _ (.ok (.error detail)) => failed detail
  | .external _ (.ok (.ok content)) => .ok content

/-- A source in words. A file shows the digest of its content when it can be read. -/
def describe (files : Files) : Loader → Text
  | .text content => "loader.FromString\x7bChars: " ++ Text.ofNat content.size ++ "\x7d"
  | .bytes content => "loader.FromBytes\x7bBytes: " ++ Text.ofNat content.length ++ "\x7d"
  | .reader name content =>
      "loader.FromIoReader\x7bBytes: " ++ Text.ofNat content.length ++ ", Source: " ++
        (Loader.reader name content).address ++ "\x7d"
  | .disk path =>
      match files.status path with
      | .file content =>
          "loader.FromDisk\x7bPath: " ++ path ++ ", BLAKE2b: " ++ Digest.short content ++ "\x7d"
      | _ => "loader.FromDisk\x7bPath: " ++ path ++ "\x7d"
  | .external address _ => address

end Loader
end CallPlan
