import LateBound.Preview
/-! Structural text of values and payloads, for diagnosis. Collections show all their items, and
payloads name what they hold; only boxed values are opened further. -/
namespace LateBound

namespace Accessor

def debug (a : Accessor) : String :=
  "Accessor \x7b name: " ++ Text.quoted a.name ++ ", ty: " ++ a.type.term ++ ", is_static: " ++
    boolText a.isStatic ++ ", readable: " ++ boolText a.isReadable ++ ", writable: " ++
    boolText a.isWritable ++ " \x7d"

end Accessor

namespace Debug

def listed (items : List String) : String := "[" ++ ", ".intercalate items ++ "]"

def catalog (c : Catalog) : String :=
  "TypeInfo \x7b name: " ++ Text.quoted c.type.name ++ ", properties: " ++
    Decimal.natText c.properties.length ++ ", fields: " ++ Decimal.natText c.fields.length ++
    ", methods: " ++ listed (c.methodNames.map Text.quoted) ++ ", constructors: " ++
    Decimal.natText c.constructors.length ++ ", .. \x7d"

def signature (s : Signature) : String := "Signature(" ++ s.text ++ ")"

def number (n : Number) : String :=
  "Numeric \x7b int: " ++ Decimal.intText n.toInt.toInt ++ ", float: " ++ floatText n.toFloat ++
    ", is_integer: " ++ boolText n.isInteger ++ " \x7d"

def failure (e : Failure) : String :=
  "ErrorValue \x7b code: " ++ e.code.variant ++ ", message: " ++ Text.quoted e.message ++ " \x7d"

def object (o : ObjectRef) : String := "HostObject(" ++ o.type.name ++ ")"

def type (t : TypeRef) : String := "TypeHandle(" ++ t.name ++ ")"

def group (w : World) (g : MethodGroup) : String :=
  "MethodGroup \x7b name: " ++ Text.quoted g.qualifiedName ++ ", bound: " ++
    boolText g.target.isSome ++ ", overloads: " ++ Decimal.natText (w.overloads g).length ++ " \x7d"

def callable (w : World) (f : Callable) : String := "NativeFn(" ++ (w.signature f).text ++ ")"

def key : Key → String
  | .bool b => "Bool(" ++ boolText b ++ ")"
  | .int n => "Int(" ++ Decimal.intText n.toInt ++ ")"
  | .char c => "Char(" ++ Text.quotedChar c ++ ")"
  | .text t => "Str(" ++ Text.quoted t.content ++ ")"

/-- Text of a payload whose boxed values are written by `boxed`. -/
def payloadWith (w : World) (boxed : Value → String) : Payload → String
  | .null => "Null"
  | .bool b => "Bool(" ++ boolText b ++ ")"
  | .int n => "Int(" ++ Decimal.intText n.toInt ++ ")"
  | .float x => "Float(" ++ Decimal.Layout.plain.text x ++ ")"
  | .text t => "Str(" ++ Text.quoted t.content ++ ")"
  | .char c => "Char(" ++ Text.quotedChar c ++ ")"
  | .list l => "List(" ++ Decimal.natText (w.items l).length ++ " items)"
  | .dict d => "Map(" ++ Decimal.natText (w.entries d).size ++ " entries)"
  | .object o => "Object(" ++ o.type.name ++ ")"
  | .type t => "Type(" ++ t.name ++ ")"
  | .callable f => "Callable(" ++ (w.signature f).name ++ ")"
  | .boxed v => "Boxed(" ++ boxed v ++ ")"

def list (l : ListRef) (items : List String) : String :=
  "HostList<" ++ l.element.text ++ ">(" ++ listed items ++ ")"

def dict (d : DictRef) (entries : List (String × String)) : String :=
  "HostMap<" ++ d.key.text ++ ", " ++ d.value.text ++ ">(" ++
    listed (entries.map fun e => "(" ++ e.1 ++ ", " ++ e.2 ++ ")") ++ ")"

/-- Text of what a value wraps. Boxed values in collections take one from `depth`. -/
def content (w : World) : (depth : Nat) → Value → String
  | _, .null => "Null"
  | _, .void => "Void"
  | _, .bool b => boolText b
  | _, .number n => number n
  | _, .text t => Text.quoted t.content
  | 0, .list l => list l []
  | depth + 1, .list l =>
    list l ((w.items l).map (payloadWith w fun v => variant v (content w depth v)))
  | 0, .dict d => dict d []
  | depth + 1, .dict d =>
    dict d ((w.entries d).entries.map fun e =>
      (key e.1, payloadWith w (fun v => variant v (content w depth v)) e.2))
  | _, .object o => object o
  | _, .type t => type t
  | _, .method g => group w g
  | _, .function f => callable w f
  | _, .error e => failure e
where
  /-- The text of a value from that of what it wraps. -/
  variant (v : Value) (content : String) : String :=
    match v with
    | .null | .void => content
    | .bool _ => "Bool(" ++ content ++ ")"
    | .number _ => "Number(" ++ content ++ ")"
    | .text _ => "Str(" ++ content ++ ")"
    | .list _ => "List(" ++ content ++ ")"
    | .dict _ => "Dict(" ++ content ++ ")"
    | .object _ => "Object(" ++ content ++ ")"
    | .type _ => "Type(" ++ content ++ ")"
    | .method _ => "Method(" ++ content ++ ")"
    | .function _ => "Native(" ++ content ++ ")"
    | .error _ => "Error(" ++ content ++ ")"

end Debug

namespace World

/-- No chain of different collections is longer than the world has collections. -/
def debugDepth (w : World) : Nat := w.lists.size + w.dicts.size + 1

def debugContent (w : World) (v : Value) : String := Debug.content w w.debugDepth v

def debugValue (w : World) (v : Value) : String := Debug.content.variant v (w.debugContent v)

def debugPayload (w : World) (p : Payload) : String := Debug.payloadWith w w.debugValue p

end World

end LateBound
