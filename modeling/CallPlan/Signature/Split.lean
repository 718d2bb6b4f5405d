import CallPlan.Text.Blank
import CallPlan.Text.Quoted

/-!
A parameter list is cut into clauses at its top-level commas. Commas inside quoted literals and
inside parentheses, brackets and braces belong to a clause. The scan reads one glyph at a time and
keeps the closers it still expects, so that whether a text is balanced, and where it is cut, is
decided by the same state.
-/

namespace CallPlan.Split

/-- Why a text is not a list of clauses. -/
inductive Fault where
  | unterminated (quote : Char) (offset : Nat)
  | unexpected (closer : Char) (offset : Nat)
  | missing (closer : Char)
deriving DecidableEq, Repr

/-- Whether more input could still complete the text. -/
def Fault.isUnbalanced : Fault → Bool
  | .unterminated .. => true
  | .unexpected .. => false
  | .missing _ => true

/-- The fault in words, apart from its being unbalanced. -/
def Fault.detail : Fault → Text
  | .unterminated quote offset =>
      "unterminated " ++ Text.ofChar quote ++ " quote at offset " ++ Text.ofNat offset
  | .unexpected closer offset =>
      "unexpected " ++ Text.quotedChar closer ++ " at offset " ++ Text.ofNat offset
  | .missing closer => "missing " ++ Text.quotedChar closer

/-- A quoted literal that is still open. -/
structure Literal where
  quote : Char
  offset : Nat
  escaped : Bool := false
deriving DecidableEq, Repr

/-- The state of the scan. The segment being read and the segments before it are reversed. -/
structure Scan where
  closers : List Char := []
  literal : Option Literal := none
  offset : Nat := 0
  segment : Text := []
  segments : List Text := []
deriving DecidableEq, Repr

namespace Scan

def closer? : Char → Option Char
  | '(' => some ')'
  | '[' => some ']'
  | '\x7b' => some '\x7d'
  | _ => none

def isCloser (c : Char) : Bool := c = ')' || c = ']' || c = '\x7d'

/-- Takes a glyph into the current segment. -/
def advance (s : Scan) (g : Glyph) : Scan :=
  { s with offset := s.offset + g.width, segment := g :: s.segment }

/-- Reads a glyph of an open literal: a backslash hides the glyph after it. -/
def inLiteral (s : Scan) (literal : Literal) (g : Glyph) : Scan :=
  if literal.escaped then { s.advance g with literal := some { literal with escaped := false } }
  else if g = .char '\\' then
    { s.advance g with literal := some { literal with escaped := true } }
  else if g = .char literal.quote then { s.advance g with literal := none }
  else s.advance g

/-- Reads a character outside literals. -/
def plain (s : Scan) (c : Char) : Except Fault Scan :=
  if c = '\'' || c = '"' then
    .ok { s.advance (.char c) with literal := some { quote := c, offset := s.offset } }
  else match closer? c with
    | some closer => .ok { s.advance (.char c) with closers := closer :: s.closers }
    | none =>
        if isCloser c then
          match s.closers with
          | [] => .error (.unexpected c s.offset)
          | expected :: closers =>
              if c = expected then .ok { s.advance (.char c) with closers }
              else .error (.unexpected c s.offset)
        else if c = ',' && s.closers.isEmpty then
          .ok { s with
            offset := s.offset + 1, segment := [], segments := s.segment.reverse :: s.segments }
        else .ok (s.advance (.char c))

def step (s : Scan) (g : Glyph) : Except Fault Scan :=
  match s.literal, g with
  | some literal, g => .ok (s.inLiteral literal g)
  | none, .char c => s.plain c
  | none, .stray _ => .ok (s.advance g)

/-- At the end of the text no literal and no group may be open. -/
def finish (s : Scan) : Except Fault (List Text) :=
  match s.literal, s.closers with
  | some literal, _ => .error (.unterminated literal.quote literal.offset)
  | none, closer :: _ => .error (.missing closer)
  | none, [] => .ok (s.segment.reverse :: s.segments).reverse

/-- Reads a whole text. -/
def run (s : Scan) : Text → Except Fault Scan
  | [] => .ok s
  | g :: rest => do run (← s.step g) rest

end Scan

/-- The stretches of text between top-level commas, as written. There is always at least one. -/
def segments (text : Text) : Except Fault (List Text) := do
  (← Scan.run {} text).finish

/-- Drops a blank last clause, so that a trailing comma adds none. -/
def dropBlankLast : List Text → List Text
  | [] => []
  | [last] => if last.isEmpty then [] else [last]
  | clause :: rest => clause :: dropBlankLast rest

/-- The trimmed clauses of a parameter list. -/
def split (text : Text) : Except Fault (List Text) := do
  return dropBlankLast ((← segments text).map Text.trim)

end CallPlan.Split
