import StateFlow.Task.Invocation
import StateFlow.Task.Piece
import StateFlow.Text.Blank

/-!
Reading what a worker writes. On the standard output a line whose first piece holds the tag is read
as a whole and may be the message; every other line is the handler's own output, of which the first
piece is logged and kept. On the error output all lines are the handler's.
-/
namespace StateFlow.Invocation

def pieceLimit : Nat := 8192

inductive Channel where
  | stdout
  | stderr

def Channel.name : Channel → String
  | .stdout => "stdout"
  | .stderr => "stderr"

def outputRecord (handler : Json) (channel : Channel) (line : List Char) : Log.Record :=
  .info (handler.display ++ " " ++ channel.name ++ ": " ++ String.ofList line)

def keep (invocation : Invocation) (channel : Channel) (piece : Piece) : Invocation :=
  let line := piece.line
  let chunk := String.ofList (line ++ ['\n'])
  let invocation := match channel with
    | .stdout => { invocation with stdout := invocation.stdout.push chunk }
    | .stderr => { invocation with stderr := invocation.stderr.push chunk }
  if line.all Text.isBlank then invocation
  else invocation.log (outputRecord invocation.handler channel line)

/-- Where the reader stands: at the start of a line, in the rest of a line that has been kept, or in
a line that may be the message, with its first piece and the other ones, the newest first. -/
inductive Place where
  | lineStart
  | kept
  | held (first : Piece) (others : List Piece)

structure Reader where
  invocation : Invocation
  place : Place

def settle (invocation : Invocation) (first : Piece) (others : List Piece) : Invocation :=
  match invocation.receive (first :: others.reverse).flatten with
  | some received => received
  | none => invocation.keep .stdout first

namespace Reader

def take (reader : Reader) (piece : Piece) : Reader :=
  let invocation := reader.invocation
  match reader.place with
  | .kept => { reader with place := if piece.isComplete then .lineStart else .kept }
  | .held first others =>
    if piece.isComplete then ⟨invocation.settle first (piece :: others), .lineStart⟩
    else ⟨invocation, .held first (piece :: others)⟩
  | .lineStart =>
    if invocation.message.isNone && Text.occursIn invocation.tag.toList piece then
      if piece.isComplete then ⟨invocation.settle piece [], .lineStart⟩
      else ⟨invocation, .held piece []⟩
    else
      ⟨invocation.keep .stdout piece, if piece.isComplete then .lineStart else .kept⟩

def takeError (reader : Reader) (piece : Piece) : Reader :=
  { invocation := match reader.place with
      | .lineStart => reader.invocation.keep .stderr piece
      | _ => reader.invocation
    place := if piece.isComplete then .lineStart else .kept }

def finish (reader : Reader) : Invocation :=
  match reader.place with
  | .held first others => reader.invocation.settle first others
  | _ => reader.invocation

end Reader

def readOutput (invocation : Invocation) (text : List Char) : Invocation :=
  ((Piece.ofText pieceLimit text).foldl Reader.take ⟨invocation, .lineStart⟩).finish

def readErrors (invocation : Invocation) (text : List Char) : Invocation :=
  ((Piece.ofText pieceLimit text).foldl Reader.takeError ⟨invocation, .lineStart⟩).finish

end StateFlow.Invocation
