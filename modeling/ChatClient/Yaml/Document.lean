import ChatClient.Yaml.Event
import ChatClient.Text.Quoted

/-!
A YAML document as a list of events that can be read by position. Reading a document may fail while
its text is right, and before a fault further on in the text is met; so the first fault of the text is
kept with the events before it.
-/
namespace ChatClient.Yaml

/-- An event inside a document. An alias stands for the node with a number. -/
inductive Item
  | alias (number : Nat)
  | scalar (tag : Option String) (text : String) (style : Style)
  | sequenceStart
  | sequenceEnd
  | mappingStart
  | mappingEnd
  /-- A text without any document. -/
  | nothing

/-- Where a value stands in its document: the keys that lead to it, the last one first, with nothing
for a key that is written as an alias. -/
abbrev Path := List (Option String)

/-- Why a document cannot be read. -/
inductive DocumentFault
  | control (position : Nat)
  | text (fault : Fault)
  | unknownAnchor (mark : Mark)
  | ended
  | several
  /-- A value is not what is expected; the place is that of the value, once it is known. -/
  | value (message : String) (place : Option (Path × Mark))

/-- The keys of a path with points between them. -/
def pathText (path : Path) : String :=
  String.intercalate "." (path.reverse.map (·.getD "?"))

def DocumentFault.message : DocumentFault → String
  | .control 0 => "control characters are not allowed"
  | .control position => "control characters are not allowed at position " ++ toString position
  | .text fault => fault.message
  | .unknownAnchor mark => mark.after "unknown anchor"
  | .ended => "EOF while parsing a value"
  | .several => "deserializing from YAML containing more than one document is not supported"
  | .value message none => message
  | .value message (some ([], mark)) => mark.after message
  | .value message (some (path, mark)) => mark.after (pathText path ++ ": " ++ message)

/-- Gives a fault its place, unless it has one. -/
def DocumentFault.located (path : Path) (mark : Mark) : DocumentFault → DocumentFault
  | .value message none => .value message (some (path, mark))
  | fault => fault

/-- The items of the first document with their places, and the positions of the numbered nodes. The
fault is the first one in the text, or that there are more documents. -/
structure Document where
  items : Array (Item × Mark)
  nodes : List (Nat × Nat)
  fault : Option DocumentFault

namespace Document

/-- Characters that YAML text may hold. -/
def isAllowed (c : Char) : Bool :=
  c = '\t' || c = '\n' || c = '\r' || (0x20 ≤ c.toNat && c.toNat ≤ 0x7E) || c = '\u0085' ||
    (0xA0 ≤ c.toNat && c.toNat ≤ 0xFFFD) || 0x10000 ≤ c.toNat

/-- The document being loaded: its items and nodes so far, and the numbers of the anchors. -/
structure Loading where
  items : Array (Item × Mark)
  nodes : List (Nat × Nat)
  anchors : List (String × Nat)

/-- Numbers the node that is about to come. A name given twice goes over to the new node and does not
count again, so that the next name may take its number. -/
def Loading.name (anchor : Option String) (d : Loading) : Loading :=
  match anchor with
  | none => d
  | some name =>
    let number := d.anchors.length
    { d with
      anchors := (name, number) :: d.anchors.filter (·.1 ≠ name)
      nodes := (number, d.items.size) :: d.nodes }

def Loading.add (item : Item) (mark : Mark) (d : Loading) : Loading :=
  { d with items := d.items.push (item, mark) }

def Loading.done (fault : Option DocumentFault) (d : Loading) : Document := ⟨d.items, d.nodes, fault⟩

/-- What comes after the first document, if anything does. -/
def following (g : Grammar) : Option DocumentFault :=
  match g.step with
  | .ok (⟨.streamEnd, _⟩, _) => none
  | _ => some .several

/-- Loads the first document. The fuel bounds the number of events. -/
def loadWith : (fuel : Nat) → Loading → Grammar → Document
  | 0, d, _ => d.done (some .ended)
  | fuel + 1, d, g =>
    match g.step with
    | .error fault => d.done (some (.text fault))
    | .ok (event, g) =>
      let mark := event.mark
      match event.kind with
      | .streamStart | .documentStart => loadWith fuel d g
      | .streamEnd => (d.add .nothing mark).done none
      | .documentEnd => d.done (following g)
      | .alias name =>
        match d.anchors.find? (·.1 = name) with
        | some (_, number) => loadWith fuel (d.add (.alias number) mark) g
        | none => d.done (some (.unknownAnchor mark))
      | .scalar p text style => loadWith fuel ((d.name p.anchor).add (.scalar p.tag text style) mark) g
      | .sequenceStart p => loadWith fuel ((d.name p.anchor).add .sequenceStart mark) g
      | .sequenceEnd => loadWith fuel (d.add .sequenceEnd mark) g
      | .mappingStart p => loadWith fuel ((d.name p.anchor).add .mappingStart mark) g
      | .mappingEnd => loadWith fuel (d.add .mappingEnd mark) g

/-- The first document of a text. A text with a character that is not allowed has none. -/
def ofString (s : String) : Document :=
  let (before, rest) := s.toList.span isAllowed
  if rest.isEmpty then loadWith (8 * s.length + 16) ⟨#[], [], []⟩ (.ofString s)
  else ⟨#[], [], some (.control (String.ofList before).utf8ByteSize)⟩

/-- The item at a position. Behind the last one stands what is wrong with the text. -/
def item (d : Document) (position : Nat) : Except DocumentFault (Item × Mark) :=
  match d.items[position]? with
  | some item => .ok item
  | none => .error (d.fault.getD .ended)

/-- The position of a node, by its number. -/
def node (d : Document) (number : Nat) : Nat :=
  ((d.nodes.find? (·.1 = number)).map (·.2)).getD d.items.size

/-- The position after the value at a position. The fuel bounds the number of items. -/
def skipWith (d : Document) : (fuel depth : Nat) → (position : Nat) → Except DocumentFault Nat
  | 0, _, _ => .error .ended
  | fuel + 1, depth, position => do
    let (item, _) ← d.item position
    let depth := match item with
      | .sequenceStart | .mappingStart => depth + 1
      | .sequenceEnd | .mappingEnd => depth - 1
      | _ => depth
    if depth = 0 then .ok (position + 1) else d.skipWith fuel depth (position + 1)

def skip (d : Document) (position : Nat) : Except DocumentFault Nat :=
  d.skipWith (d.items.size + 1) 0 position

end Document

end ChatClient.Yaml
