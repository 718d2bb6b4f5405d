import CallPlan.Text.Quoted

/-!
File paths and the addresses of sources. A path is made absolute against a directory and freed of
empty, current and parent segments.
-/

namespace CallPlan.Path

/-- The segments of a path between its slashes; `segment` holds the one being read, reversed. -/
def segmentsFrom (segment : Text) : Text → List Text
  | [] => [segment.reverse]
  | g :: rest =>
      if g = .char '/' then segment.reverse :: segmentsFrom [] rest
      else segmentsFrom (g :: segment) rest

def segments (path : Text) : List Text := segmentsFrom [] path

/-- Follows segments from the root; the segments kept so far are reversed. -/
def follow (kept : List Text) : List Text → List Text
  | [] => kept.reverse
  | segment :: rest =>
      if segment.isEmpty || segment = Text.ofString "." then follow kept rest
      else if segment = Text.ofString ".." then follow kept.tail rest
      else follow (segment :: kept) rest

/-- The absolute path that a path means in a directory. -/
def absolute (directory path : Text) : Text :=
  let path := if path.head? = some (.char '/') then path else directory ++ "/" ++ path
  .char '/' :: Text.join "/" (follow [] (segments path))

def isUnreserved (c : Char) : Bool :=
  c.isAlphanum || c = '-' || c = '_' || c = '.' || c = '~'

/-- Writes every byte outside the allowed characters as a percent sign and two digits. -/
def escape (allowed : Char → Bool) (t : Text) : Text :=
  t.toBytes.flatMap fun byte =>
    let c := Char.ofNat byte.toNat
    if byte < 0x80 && (isUnreserved c || allowed c) then [.char c]
    else .char '%' :: (Text.hexPadded 2 byte.toNat).map fun g => .char g.scalar.toUpper

def isHostChar (c : Char) : Bool := "!$&'()*+,;=:[]<>\"".toList.contains c

def isPathChar (c : Char) : Bool := "$&+,/:;=@".toList.contains c

def escapeHost (t : Text) : Text := escape isHostChar t

def escapePath (t : Text) : Text := escape isPathChar t

end CallPlan.Path
