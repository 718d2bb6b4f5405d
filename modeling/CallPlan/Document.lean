import CallPlan.Cbor
import CallPlan.Digest
import CallPlan.Signature.Error

/-!
The binary form of a signature: a map with small integers for keys, in ascending order, in which
fields of no content are left out. Reading it back checks every parameter again. The digest of the
form without its text identifies a signature apart from its layout.
-/

namespace CallPlan

/-- One parameter of a document. The index and whether it is slurpy follow from the rest. -/
structure DocumentParam where
  name : Text := []
  sigil : Nat := 0
  named : Bool := false
  refAlias : Bool := false
  traits : List Text := []
  defaultSource : Text := []
  optional : Bool := false
  required : Bool := false
deriving DecidableEq, Repr

/-- A signature as written. Parameters that were never given differ from an empty list of them. -/
structure Document where
  version : Nat := 0
  text : Text := []
  invocant : Text := []
  passthrough : Bool := false
  params : Option (List DocumentParam) := none
deriving DecidableEq, Repr

namespace DocumentParam

def ofParam (p : Param) : DocumentParam where
  name := p.name
  sigil := p.sigil.code
  named := p.role = .named
  refAlias := p.refAlias
  traits := p.traits
  defaultSource := p.defaultSource.getD []
  optional := p.optional
  required := p.required

def toParam (p : DocumentParam) (sigil : Sigil) : Param where
  name := p.name
  sigil := sigil
  role := if p.named then .named else .positional
  refAlias := p.refAlias
  traits := Text.sorted p.traits
  defaultSource := if p.defaultSource.isEmpty then none else some p.defaultSource
  optional := p.optional
  required := p.required
  slurpy := sigil ≠ .scalar && !p.refAlias

end DocumentParam

namespace Document

open Cbor (Item)

/-- The version that is written, and the only one that is read. -/
def currentVersion : Nat := 1

def ofSignature (s : Signature) : Document where
  version := currentVersion
  text := s.text
  invocant := s.invocant.getD []
  passthrough := s.passthrough
  params := some (s.params.map .ofParam)

/-- A field that is left out when it has no content. -/
def textField (key : Nat) (t : Text) : List (Item × Item) :=
  if t.isEmpty then [] else [(.unsigned key, .text t)]

def flagField (key : Nat) (flag : Bool) : List (Item × Item) :=
  if flag then [(.unsigned key, .simple 21)] else []

def listField (key : Nat) (texts : List Text) : List (Item × Item) :=
  if texts.isEmpty then [] else [(.unsigned key, .array (texts.map .text))]

def paramItem (p : DocumentParam) : Item := .map (
  [(.unsigned 1, .text p.name), (.unsigned 2, .unsigned p.sigil)] ++
    flagField 3 p.named ++ flagField 4 p.refAlias ++ listField 5 p.traits ++
    textField 6 p.defaultSource ++ flagField 7 p.optional ++ flagField 8 p.required)

def paramsItem : Option (List DocumentParam) → Item
  | none => .simple 22
  | some params => .array (params.map paramItem)

def item (d : Document) : Item := .map (
  [(.unsigned 1, .unsigned d.version)] ++ textField 2 d.text ++ textField 3 d.invocant ++
    flagField 4 d.passthrough ++ [(.unsigned 5, paramsItem d.params)])

def bytes (d : Document) : List UInt8 := d.item.encode

/-- Whether a tag may stand in front of its content. -/
def tagAllows (number : Nat) (content : Item) : Bool :=
  match number, content with
  | 0, .text _ => true
  | 0, _ => false
  | 1, .unsigned _ | 1, .negative _ | 1, .float .. => true
  | 1, _ => false
  | 2, .bytes _ | 3, .bytes _ => true
  | 2, _ | 3, _ => false
  | _, _ => true

/-- An item without the tags in front of it. A large number stays tagged. -/
def untag? : Item → Option Item
  | .tag number content =>
      if !tagAllows number content then none
      else if number = 2 || number = 3 then some (.tag number content)
      else untag? content
  | item => some item

/-- A small unsigned number; nothing stands for zero. -/
def byte? (item : Item) : Option Nat := do
  let n ← match ← untag? item with
    | .unsigned n => some n
    | .tag 2 (.bytes content) => some (Cbor.ofBigEndian content)
    | .simple 22 | .simple 23 => some 0
    | .simple 20 | .simple 21 => none
    | .simple n => some n
    | _ => none
  if n < 256 then some n else none

def text? (item : Item) : Option Text := do
  match ← untag? item with
  | .text t => if t.isUnicode then some t else none
  | .simple 22 | .simple 23 => some []
  | _ => none

def flag? (item : Item) : Option Bool := do
  match ← untag? item with
  | .simple 21 => some true
  | .simple 20 | .simple 22 | .simple 23 => some false
  | _ => none

/-- A list whose elements are read one by one; nothing stands for no list. -/
def list? {α : Type} (read : Item → Option α) (item : Item) : Option (Option (List α)) := do
  match ← untag? item with
  | .array items => return some (← items.mapM read)
  | .simple 22 | .simple 23 => some none
  | _ => none

/-- The number of a field, from a key of either spelling; other keys name no field. A negative key has
to fit in 64 bits with its sign. -/
def fieldKey? : Item → Option (Option Nat)
  | .unsigned n => some (some n)
  | .negative n => if n < 0x8000000000000000 then some none else none
  | .text t =>
      if t.isUnicode then some ((List.range 9).find? fun n => Text.ofNat n = t) else none
  | _ => none

/-- The first value of a field, as read by `read`, or `zero` when the field is not there. -/
def field? {α : Type} (fields : List (Option Nat × Item)) (key : Nat) (zero : α)
    (read : Item → Option α) : Option α :=
  match fields.lookup (some key) with
  | some item => read item
  | none => some zero

/-- The fields of a map; nothing stands for no fields. -/
def fields? (item : Item) : Option (List (Option Nat × Item)) := do
  match ← untag? item with
  | .map entries => entries.mapM fun (key, value) => return (← fieldKey? key, value)
  | .simple 22 | .simple 23 => some []
  | _ => none

def param? (item : Item) : Option DocumentParam := do
  let fields ← fields? item
  return {
    name := ← field? fields 1 [] text?
    sigil := ← field? fields 2 0 byte?
    named := ← field? fields 3 false flag?
    refAlias := ← field? fields 4 false flag?
    traits := (← field? fields 5 none (list? text?)).getD []
    defaultSource := ← field? fields 6 [] text?
    optional := ← field? fields 7 false flag?
    required := ← field? fields 8 false flag? }

def ofItem? (item : Item) : Option Document := do
  let fields ← fields? item
  return {
    version := ← field? fields 1 0 byte?
    text := ← field? fields 2 [] text?
    invocant := ← field? fields 3 [] text?
    passthrough := ← field? fields 4 false flag?
    params := ← field? fields 5 none (list? param?) }

/-- Why a document is no signature. -/
inductive Error where
  | unreadable
  | unsupportedVersion (version : Nat)
  | unknownSigil (name : Text) (sigil : Nat)
  | invalid (error : SignatureError)
deriving DecidableEq, Repr

def Error.cause : Error → Except SignatureError Cause
  | .unreadable => .ok (.because .decodeFailed (.message "not a document"))
  | .unsupportedVersion version => .ok (.because .unsupportedVersion (.message (Text.ofNat version)))
  | .unknownSigil name sigil => .ok (.because .decodeFailed (.message
      ("parameter " ++ name.quoted ++ " has unknown sigil " ++ Text.ofNat sigil)))
  | .invalid error => .error error

def addParam (a : Assembler) (p : DocumentParam) : Except Error Assembler :=
  match Sigil.ofCode? p.sigil with
  | none => .error (.unknownSigil p.name p.sigil)
  | some sigil =>
      let param := p.toParam sigil
      (a.add param).mapError fun conflict => .invalid (.ofConflict param conflict)

def addParams (a : Assembler) : List DocumentParam → Except Error Assembler
  | [] => .ok a
  | p :: rest => do addParams (← addParam a p) rest

/-- The signature of a document, every parameter checked again. -/
def signature (d : Document) : Except Error Signature :=
  if d.version ≠ currentVersion then .error (.unsupportedVersion d.version)
  else do
    let a := Assembler.new { invocant := if d.invocant.isEmpty then none else some d.invocant }
    let a := { a with signature := { a.signature with passthrough := d.passthrough } }
    let a ← addParams a (d.params.getD [])
    return (a.setText d.text).signature

end Document

namespace Signature

/-- The canonical bytes of a signature. -/
def encode (s : Signature) : List UInt8 := (Document.ofSignature s).bytes

/-- Reads a signature from bytes. -/
def decode (bytes : List UInt8) : Except Document.Error Signature :=
  match (Cbor.Item.decode? bytes).bind Document.ofItem? with
  | some d => d.signature
  | none => .error .unreadable

/-- The bytes that identify a signature: its canonical form without the text. -/
def identity (s : Signature) : List UInt8 := encode { s with text := [] }

/-- The digest of a signature in hexadecimal. -/
def digest (s : Signature) : Text := Digest.ofBytes s.identity

end Signature
end CallPlan
