import LateBound.Conversion
import LateBound.World
/-! Preview text of values. Only the first items of a collection are shown, and collections nested
too deep are not opened, so that a collection that holds itself has a finite preview. A preview is
written as pieces, so that its brackets can be told from the text between them. -/
namespace LateBound

structure PreviewLimits where
  list : Nat := 10
  dict : Nat := 5
  depth : Nat := 3
  deriving DecidableEq

namespace PreviewLimits

def greatest : Nat := twoPow 64 - 1

def unlimited : PreviewLimits := ⟨greatest, greatest, greatest⟩

end PreviewLimits

inductive Bracket
  | square
  | curly
  deriving DecidableEq

namespace Bracket

def opening : Bracket → String
  | .square => "["
  | .curly => "\x7b"

def closing : Bracket → String
  | .square => "]"
  | .curly => "\x7d"

def collapsed (b : Bracket) : String := b.opening ++ "..." ++ b.closing

end Bracket

inductive Piece
  | opening (b : Bracket)
  | closing (b : Bracket)
  | word (s : String)
  deriving DecidableEq

namespace Piece

def text : Piece → String
  | .opening b => b.opening
  | .closing b => b.closing
  | .word s => s

def render (ps : List Piece) : String := String.join (ps.map text)

end Piece

abbrev Display := ObjectRef → Option String

namespace Preview

def leaf (w : World) (display : Display) : Value → String
  | .null => "null"
  | .void => "void"
  | .bool b => boolText b
  | .number (.int n) => Decimal.intText n.toInt
  | .number (.float x) => floatText x
  | .text t => Text.quoted t.content
  | .list _ => Bracket.square.collapsed
  | .dict _ => Bracket.curly.collapsed
  | .object o => (display o).getD ("<" ++ o.type.name ++ ">")
  | .type t => "<type " ++ t.name ++ ">"
  | .method g =>
    match w.overloads g with
    | [s] => "<method " ++ g.owner.name ++ "." ++ s.text ++ ">"
    | all => "<method " ++ g.qualifiedName ++ " (" ++ Decimal.natText all.length ++ " overloads)>"
  | .function f => "<native " ++ (w.signature f).text ++ ">"
  | .error e => e.text

/-- The items after the first, each behind a comma. -/
def following : List (List Piece) → List Piece
  | [] => []
  | ps :: rest => .word ", " :: ps ++ following rest

def separated : List (List Piece) → List Piece
  | [] => []
  | ps :: rest => ps ++ following rest

def enclosed (b : Bracket) (total : Nat) (shown : List (List Piece)) : List Piece :=
  .opening b :: separated shown ++
    (if shown.length < total then
      (if shown = [] then [.word "..."] else [.word ", ", .word "..."])
    else []) ++
    .closing b ::
    if shown.length < total then [.word (" (" ++ Decimal.natText total ++ " total)")] else []

/-- The value of an item for display; a character shows as text. -/
def itemValue (w : World) (p : Payload) : Value := (Value.ofPayload w.next p).1

/-- `depth` is how many collections may still be opened. -/
def pieces (limits : PreviewLimits) (display : Display) (w : World) : (depth : Nat) → Value →
    List Piece
  | depth + 1, .list l =>
    enclosed .square (w.items l).length
      (((w.items l).take limits.list).map fun p => pieces limits display w depth (itemValue w p))
  | depth + 1, .dict d =>
    enclosed .curly (w.entries d).size
      (((w.entries d).entries.take limits.dict).map fun e =>
        .word e.1.display :: .word ": " :: pieces limits display w depth (itemValue w e.2))
  | _, v => [.word (leaf w display v)]

def text (limits : PreviewLimits) (display : Display) (w : World) (v : Value) : String :=
  Piece.render (pieces limits display w limits.depth v)

end Preview

namespace World

/-- A part of what an object shows; `inner` shows the objects within it. -/
def displayPart (w : World) (inner : Display) (o : ObjectRef) : DisplayPart → Option String
  | .literal s => some s
  | .slot slot absent =>
    some (Preview.text {} inner w (Preview.itemValue w (w.slot o slot absent)))
  | .refuse => none

/-- What a host object shows for itself: nothing when host code holds it, when its type shows
nothing, or when showing it is refused. Objects shown within it take one from `depth`. -/
def display (w : World) : (depth : Nat) → Display
  | 0, _ => none
  | depth + 1, o =>
    if (w.object o).inUse then none
    else
      (w.catalog o.type).display.bind fun parts =>
        (parts.mapM (w.displayPart (w.display depth) o)).map String.join

/-- The preview of a value. No chain of different objects is longer than the world has objects. -/
def preview (w : World) (limits : PreviewLimits) (v : Value) : String :=
  Preview.text limits (w.display (w.objects.size + 1)) w v

end World

end LateBound
